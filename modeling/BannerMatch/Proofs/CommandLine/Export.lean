import BannerMatch.CommandLine.Run
import BannerMatch.Proofs.CommandLine.Directory
import BannerMatch.Proofs.Engine.Reload
import BannerMatch.Proofs.Json.Records
import BannerMatch.Proofs.Text.Utf8

/-!
# Exported files

An exported file is final: a run that reads its rules and exports them again writes the same bytes
(`exported_again`), wherever the rules came from at first. The rules of an engine are settled, so an
engine that loads them takes them over as they are, and JSON gives them back as they were written.

* `Exported` is what a run has done that exported rules.
* `readArguments_convert` gives the arguments for the second run.
-/

namespace BannerMatch.CommandLine

/-! ### Arguments -/

/-- The arguments that turn the rules of a file into another file. -/
def Arguments.convert (source target : String) : Arguments :=
  { rulesFile := some source, exportFile := some target }

theorem path?_eq_some {path : String} (hne : path ≠ "") : path? path = some path := by
  rw [path?, if_neg (by simpa using hne)]

/-- An option that is given with its value behind an equals sign. -/
theorem readFlags_attached (a : Arguments) {name : List Char} (hname : '=' ∉ name)
    {o : ValueOption} (ho : longNames.lookup (String.ofList name) = some (.valued o))
    (value : String) :
    readFlags a (String.ofList ('-' :: '-' :: (name ++ '=' :: value.toList))) =
      attach a o value := by
  have hother : ∀ c ∈ name, (c != '=') = true := by
    intro c hc
    rw [bne_iff_ne]
    rintro rfl
    exact hname hc
  have hbefore : (name ++ '=' :: value.toList).takeWhile (· != '=') = name := by
    rw [List.takeWhile_append_of_pos hother]
    simp
  have hbehind : (name ++ '=' :: value.toList).dropWhile (· != '=') = '=' :: value.toList := by
    rw [List.dropWhile_append_of_pos hother]
    simp
  simp only [readFlags, String.toList_ofList, readLong, List.drop_succ_cons, List.drop_zero,
    hbefore, hbehind, ho, String.ofList_toList]

theorem readFrom_attached (a : Arguments) {name : List Char} (hname : '=' ∉ name)
    {o : ValueOption} (ho : longNames.lookup (String.ofList name) = some (.valued o))
    {value : String} {b : Arguments} (hgive : a.give o value = .ok b) (rest : List String) :
    readFrom a none (String.ofList ('-' :: '-' :: (name ++ '=' :: value.toList)) :: rest) =
      readFrom b none rest := by
  have hnames : namesOptions (String.ofList ('-' :: '-' :: (name ++ '=' :: value.toList))) =
      true := by
    simp [namesOptions]
  have hmore : String.ofList ('-' :: '-' :: (name ++ '=' :: value.toList)) ≠ "--" := by
    intro h
    have hchars := congrArg String.toList h
    simp at hchars
  simp only [readFrom, if_pos hnames, if_neg hmore, readFlags_attached a hname ho, attach, hgive,
    Except.map]

/-- The arguments for a conversion can be given for any two paths. -/
theorem readArguments_convert {source target : String} (hsource : source ≠ "")
    (htarget : target ≠ "") :
    readArguments ["--rules=" ++ source, "--export=" ++ target] =
      .ok (.run (.convert source target)) := by
  have hrules : "--rules=" ++ source =
      String.ofList ('-' :: '-' :: ("rules".toList ++ '=' :: source.toList)) := by
    rw [← String.toList_inj]
    simp
  have hexport : "--export=" ++ target =
      String.ofList ('-' :: '-' :: ("export".toList ++ '=' :: target.toList)) := by
    rw [← String.toList_inj]
    simp
  have hfirst : ({} : Arguments).give .rulesFile source = .ok { rulesFile := some source } := by
    simp [Arguments.give, Arguments.has, Arguments.withValue?, path?_eq_some hsource]
  have hsecond : ({ rulesFile := some source } : Arguments).give .exportFile target =
      .ok (.convert source target) := by
    simp [Arguments.give, Arguments.has, Arguments.withValue?, path?_eq_some htarget,
      Arguments.convert]
  rw [readArguments, hrules, hexport, readFrom_attached _ (by decide) (by decide) hfirst,
    readFrom_attached _ (by decide) (by decide) hsecond]
  rfl

/-! ### What a run exports -/

/-- A run has written rules to a path and reports their number. -/
structure Exported (before : Directory) (path : String) (count : ℕ) (contents : List UInt8)
    (o : Outcome) : Prop where
  code : o.code = 0
  output : o.output = exportLine count path
  written : before.write? path contents = some o.directory
  /-- The null device keeps nothing; anything else is a file from then on. -/
  file : isNullDevice path = false → o.directory.file? path = some contents

theorem exported_of_runExport {s : Setup} {loaded : LoadReport × Engine} {path : String}
    {o : Outcome} (h : runExport s loaded path = .ok o) :
    Exported s.directory path loaded.1.loaded (exportContents loaded.2) o := by
  rw [runExport] at h
  split at h
  · cases h
  · rename_i d hwritten
    cases h
    exact ⟨rfl, rfl, hwritten, fun hfile => Directory.file?_of_write? hfile hwritten⟩

/-- A run that exports rules has gathered them. -/
theorem exists_exported_of_runArguments {a : Arguments} {s : Setup} {path : String}
    (hpath : a.exportFile = some path) {o : Outcome} (h : runArguments a s = .ok o) :
    ∃ rules, Exported s.directory path (loadedEngine s.start rules).1.loaded
      (exportContents (loadedEngine s.start rules).2) o := by
  rw [runArguments] at h
  split at h
  · cases h
  · rename_i rules hrules
    rw [hpath] at h
    exact ⟨rules, exported_of_runExport h⟩

/-- A run of the program succeeds only if what the arguments ask for does. -/
theorem runArguments_of_code {arguments : List String} {s : Setup} {a : Arguments}
    (hread : readArguments arguments = .ok (.run a)) (hcode : (run arguments s).code = 0) :
    runArguments a s = .ok (run arguments s) := by
  rw [run, hread] at hcode ⊢
  cases hrun : runArguments a s with
  | error f =>
    simp only [hrun] at hcode
    cases hcode
  | ok o => simp only [hrun]

/-! ### The same rules again -/

theorem exportContents_congr {e after : Engine} (h : after.rules = e.rules) :
    exportContents after = exportContents e := by
  simp only [exportContents, Engine.exportJson, Engine.exportRules, h]

/-- **An exported file holds the rules of the engine.** -/
theorem ruleSetRules_exportContents (path : String) (e : Engine) :
    ruleSetRules path (exportContents e) = .ok e.rules := by
  rw [ruleSetRules, exportContents, Text.decode?_encode]
  simp only [Engine.exportJson, RuleSet.ofJsonText_jsonText]
  rfl

/-- **Rules that were loaded once are loaded as they are**, at any later time. -/
theorem loadedEngine_rules {now : Moment} (hnow : now.stamp ≠ "") (later : Moment)
    (rules : List Rule) :
    (loadedEngine later (loadedEngine now rules).2.rules).1.loaded =
        (loadedEngine now rules).1.loaded ∧
      (loadedEngine later (loadedEngine now rules).2.rules).2.rules =
        (loadedEngine now rules).2.rules := by
  have hsettled : Engine.SettledBy {} (loadedEngine now rules).2 :=
    (Engine.invariant_settled (by decide)).load _ now rules hnow (Engine.settledBy_start {} _)
  have hnew : (Engine.new {}).registry.defaultConfidence = Config.defaultConfidence {} := rfl
  have hload := Engine.load_settled hsettled hnew later
  rw [loadedEngine, hload.1, hload.2]
  exact ⟨List.length_map _, rfl⟩

/-- **A conversion of an exported file** writes the same contents and reports the same number. -/
theorem exported_runArguments_convert {now : Moment} (hnow : now.stamp ≠ "") (rules : List Rule)
    {later : Setup} {source target : String}
    (hsource : later.directory.file? source =
      some (exportContents (loadedEngine now rules).2))
    (htarget : later.directory.HasPlace target) :
    ∃ o, runArguments (.convert source target) later = .ok o ∧
      Exported later.directory target (loadedEngine now rules).1.loaded
        (exportContents (loadedEngine now rules).2) o := by
  have hgather : gatherRules (.convert source target) later.directory.read? =
      .ok (loadedEngine now rules).2.rules := by
    simp only [gatherRules, Arguments.convert, fileRules, Directory.read?_of_file? hsource,
      ruleSetRules_exportContents]
    rfl
  obtain ⟨hcount, hrules⟩ := loadedEngine_rules hnow later.start rules
  obtain ⟨after, hafter⟩ := Directory.exists_write?_of_hasPlace htarget
    (exportContents (loadedEngine later.start (loadedEngine now rules).2.rules).2)
  have hrun : runArguments (.convert source target) later =
      runExport later (loadedEngine later.start (loadedEngine now rules).2.rules) target := by
    rw [runArguments, hgather]
    rfl
  have hexport : ∃ o, runExport later
      (loadedEngine later.start (loadedEngine now rules).2.rules) target = .ok o := by
    rw [runExport, hafter]
    exact ⟨_, rfl⟩
  obtain ⟨o, ho⟩ := hexport
  have hexported := exported_of_runExport ho
  rw [hcount, exportContents_congr hrules] at hexported
  exact ⟨o, hrun.trans ho, hexported⟩

/-- **An exported file is a fixed point.** When a run has exported rules, from whatever sources, and
its file is there later, then a run that reads the file and exports it again reports the same number
of rules and writes the same bytes, if there is a place for them. The dates that the clock gives are
never empty. -/
theorem exported_again {arguments : List String} {s : Setup} {a : Arguments} {path : String}
    (hread : readArguments arguments = .ok (.run a)) (hpath : a.exportFile = some path)
    (hdone : (run arguments s).code = 0) (hclock : s.start.stamp ≠ "") :
    ∃ count contents, Exported s.directory path count contents (run arguments s) ∧
      ∀ (later : Setup) (target : String), later.directory.file? path = some contents →
        later.directory.HasPlace target →
        readArguments ["--rules=" ++ path, "--export=" ++ target] =
            .ok (.run (.convert path target)) ∧
          ∀ again, readArguments again = .ok (.run (.convert path target)) →
            Exported later.directory target count contents (run again later) := by
  obtain ⟨rules, hexported⟩ :=
    exists_exported_of_runArguments hpath (runArguments_of_code hread hdone)
  refine ⟨_, _, hexported, fun later target hsource htarget => ⟨?_, fun again hagain => ?_⟩⟩
  · exact readArguments_convert (Directory.ne_empty_of_file? hsource)
      (Directory.ne_empty_of_hasPlace htarget)
  · obtain ⟨o, ho, hsame⟩ := exported_runArguments_convert hclock rules hsource htarget
    have hrun : run again later = o := by
      simp only [run, hagain, ho]
    rw [hrun]
    exact hsame

/-- A probe file, and a rule set with an identifier of the built-in rules, a rule that leaves
everything open, one with a pattern that is no pattern and one that is not valid. -/
def mergedSetup : Setup where
  directory := ⟨[
    ("probes", Text.encode "match ssh m|^SSH-([12])| v/$1/\nsoftmatch ssh m|S|\nmatch\n".toList),
    ("sets/rules.json", Text.encode
      ("[\"1\",\"\",\"\",[" ++
        "\x7b\"id\":\"redis\",\"service\":\"\\u00e9\\n\",\"pattern\":\"(\"\x7d," ++
        "\x7b\"service\":\"ftp\",\"pattern\":\"220\"\x7d," ++
        "\x7b\"service\":\" \",\"pattern\":\"x\"\x7d]]").toList)]⟩
  start := ⟨0, "2024-01-01 00:00:00"⟩
  timing := ⟨"0.125", "0.125", "0", "125000", "null"⟩

/-- The rules of all three sources are exported into the folder of the rule set. -/
def mergedArguments : List String :=
  ["--builtin", "-p", "probes", "--rules=sets/rules.json", "--export", "sets/../sets/all.json"]

/-- Twelve rules of the three sources are exported, and exported again later. -/
theorem exported_again_mergedSetup :
    let a : Arguments :=
      { builtin := true, probeFile := some "probes", rulesFile := some "sets/rules.json",
        exportFile := some "sets/../sets/all.json" }
    let first := run mergedArguments mergedSetup
    let later : Setup :=
      { mergedSetup with start := ⟨90, "2024-01-01 00:01:30"⟩, directory := first.directory }
    let again := ["--export", "again.json", "--rules", "sets/../sets/all.json"]
    readArguments mergedArguments = .ok (.run a) ∧ first.code = 0 ∧
      first.output = "Exported 12 rules to sets/../sets/all.json\n" ∧
      mergedSetup.start.stamp ≠ "" ∧ later.directory.HasPlace "again.json" ∧
      readArguments again = .ok (.run (.convert "sets/../sets/all.json" "again.json")) ∧
      ∃ count contents,
        Exported mergedSetup.directory "sets/../sets/all.json" count contents first ∧
          later.directory.file? "sets/../sets/all.json" = some contents ∧
          Exported later.directory "again.json" count contents (run again later) := by
  intro a first later again
  have hread : readArguments mergedArguments = .ok (.run a) := by decide +kernel
  obtain ⟨hdone, houtput, hplace⟩ : first.code = 0 ∧
      first.output = "Exported 12 rules to sets/../sets/all.json\n" ∧
      later.directory.HasPlace "again.json" := by decide +kernel
  have hagain : readArguments again =
      .ok (.run (.convert "sets/../sets/all.json" "again.json")) := by decide +kernel
  obtain ⟨count, contents, hfirst, hsecond⟩ := exported_again hread rfl hdone (by decide)
  have hfile : later.directory.file? "sets/../sets/all.json" = some contents := by
    simp only [later, first]
    exact hfirst.file (by decide)
  exact ⟨hread, hdone, houtput, by decide, hplace, hagain, count, contents, hfirst, hfile,
    (hsecond later "again.json" hfile hplace).2 again hagain⟩

end BannerMatch.CommandLine
