import BannerMatch.CommandLine.Run
import BannerMatch.Proofs.Analysis
import BannerMatch.Proofs.Engine.Transparency

/-!
# Sessions and single runs

A session answers every banner as a run for this banner alone does (`runArguments_forSession`),
whatever was typed before, whenever the lines arrive and however often the cache is swept in the
meantime, as long as results can be kept at the time. What a session carries from line to line, the
cache and the counters, shows in its numbers only: `Serves` is what all turns keep. Nothing that
comes after the line that ends the session matters (`Session.run_eq_of_endsSession`).

The engine of a single run is loaded at another time, so its rules may have other creation times.
Nothing that is found depends on these (`uncached_loadedEngine`).
-/

namespace BannerMatch.CommandLine

/-! ### Engines that are loaded at different times -/

theorem uncached_loadedEngine (now later : Moment) (rules : List Rule) (synthesizeCpe : Bool)
    (banner : String) (response : Option (List UInt8)) :
    uncached (loadedEngine now rules).2.registry.rules synthesizeCpe banner response =
      uncached (loadedEngine later rules).2.registry.rules synthesizeCpe banner response := by
  have hsame : ((Engine.new {}).registry.defaults now.stamp).confidence =
      ((Engine.new {}).registry.defaults later.stamp).confidence := rfl
  have hrules : (loadedEngine now rules).2.registry.rules.map CompiledRule.undated =
      (loadedEngine later rules).2.registry.rules.map CompiledRule.undated :=
    undated_compileFrom hsame _ _ rules
  rw [← uncached_undated, hrules, uncached_undated]

/-! ### Lines -/

/-- The words that a session does not take for banners. -/
def commandWords : List (List Char) := ["stats", "rules", "help", "quit", "exit"].map String.toList

/-- A line that ends a session. -/
def EndsSession (line : List Char) : Prop :=
  Text.trim line = "quit".toList ∨ Text.trim line = "exit".toList

instance (line : List Char) : Decidable (EndsSession line) :=
  inferInstanceAs (Decidable (_ ∨ _))

/-- A line with a banner to identify. -/
def HoldsBanner (line : List Char) : Prop :=
  Text.trim line ≠ [] ∧ Text.trim line ∉ commandWords

instance (line : List Char) : Decidable (HoldsBanner line) :=
  inferInstanceAs (Decidable (_ ∧ _))

/-- The banner on a line. -/
def bannerOf (line : List Char) : String :=
  String.ofList (dropStart "match ".toList (Text.trim line))

/-- The lines before the one that ends the session. -/
def answered (lines : List (List Char)) : List (List Char) :=
  lines.takeWhile fun line => !EndsSession line

/-- The banners on lines. -/
def banners (lines : List (List Char)) : List String :=
  (lines.filter fun line => HoldsBanner line).map bannerOf

theorem Command.ofLine_of_blank {line : List Char} (h : Text.trim line = []) :
    Command.ofLine line = .nothing := by
  simp only [ofLine, h]
  rfl

theorem Command.ofLine_of_banner {line : List Char} (h : HoldsBanner line) :
    Command.ofLine line = .identify (dropStart "match ".toList (Text.trim line)) := by
  obtain ⟨hne, hwords⟩ := h
  simp only [commandWords, List.map_cons, List.map_nil, List.mem_cons, List.not_mem_nil, or_false,
    not_or] at hwords
  obtain ⟨hstats, hrules, hhelp, hquit, hexit⟩ := hwords
  simp only [ofLine, List.isEmpty_iff, hne, hstats, hrules, hhelp, hquit, hexit, or_self, if_false]

/-- The other words ask for numbers, for the rules or for help. -/
theorem Command.ofLine_of_word {line : List Char} (hword : Text.trim line ∈ commandWords)
    (hline : ¬ EndsSession line) : Command.ofLine line ∈ [.stats, .rules, .help] := by
  simp only [commandWords, List.map_cons, List.map_nil, List.mem_cons, List.not_mem_nil,
    or_false] at hword
  rcases hword with h | h | h | h | h
  · simp [ofLine, h]
  · simp [ofLine, h]
  · simp [ofLine, h]
  · exact absurd (.inl h) hline
  · exact absurd (.inr h) hline

theorem Command.ofLine_eq_quit_iff (line : List Char) :
    Command.ofLine line = .quit ↔ EndsSession line := by
  rw [EndsSession]
  constructor
  · intro h
    by_contra hnot
    simp only [ofLine, hnot, if_false] at h
    split_ifs at h
  · rintro (h | h)
    · simp only [ofLine, h]
      rfl
    · simp only [ofLine, h]
      rfl

/-! ### Single runs -/

/-- The answer to a banner straight from an analysis. -/
def answerText (a : Arguments) (rules : List CompiledRule) (banner : String) (t : Timing) :
    String :=
  report a.format (atLeast a.threshold (uncached rules ({} : Config).synthesizeCpe banner none)) t

/-- The arguments for a session with the same rules. -/
def Arguments.forSession (a : Arguments) : Arguments :=
  { a with interactive := true, exportFile := none }

/-- The arguments for one banner, without a response, with the same rules. -/
def Arguments.forBanner (a : Arguments) (banner : String) : Arguments :=
  { a with interactive := false, exportFile := none, banner := some banner, response := none }

/-- **What a single run shows**, if its results can be kept. -/
theorem runArguments_forBanner (a : Arguments) (s : Setup) {rules : List Rule}
    (hrules : gatherRules a s.directory.read? = .ok rules)
    (hkeep : (Engine.new {}).CanKeep s.start.instant) (banner : String) :
    runArguments (a.forBanner banner) s =
      .ok ⟨0, answerText a (loadedEngine s.start rules).2.registry.rules banner s.timing,
        s.directory⟩ := by
  have hgather : gatherRules (a.forBanner banner) s.directory.read? = .ok rules := hrules
  have hfaithful : Engine.Faithful [banner] (loadedEngine s.start rules).2 := .of_nil rfl
  have htext : Engine.searchedText banner none ∈ [banner] := by
    rw [Engine.searchedText_none]
    exact List.mem_singleton_self banner
  have hfound := hfaithful.matchResponse (fingerprintsDiffer_singleton banner) htext hkeep
  have hresults : singleResults (a.forBanner banner) s.start.instant
      (loadedEngine s.start rules).2 banner =
        .ok (atLeast a.threshold (uncached (loadedEngine s.start rules).2.registry.rules
          ({} : Config).synthesizeCpe banner none)) :=
    congrArg (Except.map (atLeast a.threshold)) hfound
  rw [runArguments, hgather]
  show Except.ok (runSingle (a.forBanner banner) s (loadedEngine s.start rules).2 banner) = _
  rw [runSingle, hresults]
  rfl

/-! ### Sessions -/

/-- What all turns of a session keep; `texts` are the banners that are typed. -/
structure Session.Serves (a : Arguments) (rules : List CompiledRule) (texts : List String)
    (s : Session) : Prop where
  format : s.format = a.format
  threshold : s.threshold = a.threshold
  config : s.engine.config = {}
  rules : s.engine.registry.rules = rules
  keeps : ∀ now, s.engine.CanKeep now ↔ (Engine.new {}).CanKeep now
  faithful : s.engine.Faithful texts

/-- What is shown for a line. -/
structure Shows (a : Arguments) (rules : List CompiledRule) (line : List Char) (t : Timing)
    (shown : String) : Prop where
  blank : Text.trim line = [] → shown = ""
  banner : HoldsBanner line → shown = answerText a rules (bannerOf line) t

variable {a : Arguments} {rules : List CompiledRule} {texts : List String} {s : Session}

/-- Sweeps only take entries away. -/
theorem Session.Serves.wait (h : s.Serves a rules texts) (wakeups : List ℕ) :
    (s.wait wakeups).Serves a rules texts :=
  Cache.sweepWhile_keeps
    (P := fun c => Session.Serves a rules texts { s with engine := s.engine.withCache c })
    (fun c now hc => ⟨hc.format, hc.threshold, hc.config, hc.rules, hc.keeps,
      hc.faithful.withCache (Cache.sweep_entries_sublist c now)⟩) h _ _

/-- **One turn**: a line that does not end the session is answered, and the session goes on. -/
theorem Session.Serves.turn (h : s.Serves a rules texts) (hdiff : FingerprintsDiffer texts)
    {line : List Char} (hline : ¬ EndsSession line)
    (hbanner : HoldsBanner line → bannerOf line ∈ texts) {now : ℕ}
    (hkeep : (Engine.new {}).CanKeep now) :
    ∃ shown after, s.turn now line = .ok (shown, after) ∧ after.Serves a rules texts ∧
      ∀ t, Shows a rules line t (shown t) := by
  rw [Session.turn]
  by_cases hblank : Text.trim line = []
  · rw [Command.ofLine_of_blank hblank]
    exact ⟨_, s, rfl, h, fun t => ⟨fun _ => rfl, fun hb => absurd hblank hb.1⟩⟩
  by_cases hb : HoldsBanner line
  · rw [Command.ofLine_of_banner hb]
    have hfound := h.faithful.matchBanner hdiff (hbanner hb) ((h.keeps now).mpr hkeep)
    have hidentify : s.identify now (bannerOf line) =
        (.ok (atLeast s.threshold (uncached s.engine.registry.rules
          s.engine.config.synthesizeCpe (bannerOf line) none)),
          (s.engine.matchBanner now (bannerOf line)).2) := by
      rw [Session.identify, hfound]
      rfl
    have hstems := Engine.stems_matchText s.engine now (bannerOf line)
    refine ⟨report s.format (atLeast s.threshold (uncached s.engine.registry.rules
        s.engine.config.synthesizeCpe (bannerOf line) none)),
      { s with engine := (s.engine.matchBanner now (bannerOf line)).2 }, ?_, ?_,
      fun t => ⟨fun hnil => absurd hnil hblank, fun _ => ?_⟩⟩
    · rw [Session.answer, ← bannerOf, hidentify]
    · exact ⟨h.format, h.threshold, hstems.config.trans h.config, hstems.rules.trans h.rules,
        fun t => (hstems.canKeep_iff t).trans (h.keeps t),
        (Engine.kept_faithful texts).matchText (hbanner hb) h.faithful now⟩
    · rw [h.format, h.threshold, h.rules, h.config, answerText]
  · -- the other words leave the engine as it is
    have hword : Text.trim line ∈ commandWords := by
      by_contra hnot
      exact hb ⟨hblank, hnot⟩
    have hshows : ∀ shown t, Shows a rules line t shown := fun shown t =>
      ⟨fun hnil => absurd hnil hblank, fun hholds => absurd hholds hb⟩
    have hcommand := Command.ofLine_of_word hword hline
    simp only [List.mem_cons, List.not_mem_nil, or_false] at hcommand
    rcases hcommand with hcommand | hcommand | hcommand
    · exact ⟨_, s, by rw [hcommand]; rfl, h, fun t => hshows _ t⟩
    · exact ⟨_, s, by rw [hcommand]; rfl, h, fun t => hshows _ t⟩
    · exact ⟨_, s, by rw [hcommand]; rfl, h, fun t => hshows _ t⟩

/-- A line that ends the session is not answered. -/
theorem Session.turn_of_endsSession {line : List Char} (hends : EndsSession line) (s : Session)
    (now : ℕ) : s.turn now line = .error 0 := by
  rw [Session.turn, (Command.ofLine_eq_quit_iff line).mpr hends, Session.answer]

/-- **A dialogue** shows a prompt and an answer for every line before the one that ends it, and one
more prompt. After that line anything may follow. -/
theorem Session.Serves.run (h : s.Serves a rules texts) (hdiff : FingerprintsDiffer texts)
    {arrival : ℕ → Arrival} {n : ℕ} {input : List (List UInt8)} {lines : List (List Char)}
    {rest : List (Option (List Char))} (hinput : input.map Text.decode? = lines.map some ++ rest)
    (hrest : rest = [] ∨ ∃ line ∈ lines, EndsSession line)
    (htexts : banners (answered lines) ⊆ texts)
    (hkeep : ∀ p ∈ (answered lines).zipIdx n, (Engine.new {}).CanKeep (arrival p.2).instant) :
    ∃ blocks : List String,
      s.run arrival n input = (String.join (blocks.map fun b => prompt ++ b) ++ prompt, 0) ∧
        List.Forall₂ (fun p shown => Shows a rules p.1 (arrival p.2).timing shown)
          ((answered lines).zipIdx n) blocks := by
  induction lines generalizing s n input with
  | nil =>
    have hnil : rest = [] := hrest.resolve_right (by simp)
    obtain rfl : input = [] := by simpa [hnil] using hinput
    exact ⟨[], by simp [Session.run], .nil⟩
  | cons line lines ih =>
    obtain ⟨bytes, input, rfl, hbytes, hinput⟩ := List.map_eq_cons_iff.mp hinput
    by_cases hends : EndsSession line
    · refine ⟨[], ?_, ?_⟩
      · rw [Session.run, hbytes]
        simp only [Session.turn_of_endsSession hends]
        rfl
      · rw [answered, List.takeWhile_cons_of_neg (by simp [hends])]
        exact .nil
    · have hcons : answered (line :: lines) = line :: answered lines :=
        List.takeWhile_cons_of_pos (by simp [hends])
      have hmore : rest = [] ∨ ∃ line ∈ lines, EndsSession line := by
        simpa [hends] using hrest
      rw [hcons] at htexts hkeep ⊢
      obtain ⟨hfirst, hkeep⟩ := List.forall_mem_cons.mp hkeep
      obtain ⟨shown, after, hturn, hafter, hshown⟩ :=
        (h.wait (arrival n).wakeups).turn hdiff hends
          (fun hb => htexts (by simp [banners, hb])) hfirst
      have hlater : banners (answered lines) ⊆ banners (line :: answered lines) :=
        (((List.sublist_cons_self line (answered lines)).filter _).map _).subset
      obtain ⟨blocks, hrun, hblocks⟩ :=
        ih hafter hinput hmore (List.Subset.trans hlater htexts) hkeep
      refine ⟨shown (arrival n).timing :: blocks, ?_, .cons (hshown _) hblocks⟩
      rw [Session.run, hbytes]
      simp only [hturn, hrun, List.map_cons, String.join_cons, String.append_assoc]

/-- **Nothing after the line that ends a session matters**: two dialogues that have the lines up to
that one in common are the same. -/
theorem Session.run_eq_of_endsSession (s : Session) (arrival : ℕ → Arrival) (n : ℕ)
    {input other : List (List UInt8)} {lines : List (List Char)}
    {rest otherRest : List (Option (List Char))}
    (hinput : input.map Text.decode? = lines.map some ++ rest)
    (hother : other.map Text.decode? = lines.map some ++ otherRest)
    (hends : ∃ line ∈ lines, EndsSession line) :
    s.run arrival n input = s.run arrival n other := by
  induction lines generalizing s n input other with
  | nil => simp at hends
  | cons line lines ih =>
    obtain ⟨bytes, input, rfl, hbytes, hinput⟩ := List.map_eq_cons_iff.mp hinput
    obtain ⟨bytes', other, rfl, hbytes', hother⟩ := List.map_eq_cons_iff.mp hother
    rw [Session.run, Session.run, hbytes, hbytes']
    by_cases hline : EndsSession line
    · simp only [Session.turn_of_endsSession hline]
    · have hmore : ∃ line ∈ lines, EndsSession line := by simpa [hline] using hends
      cases hturn : (s.wait (arrival n).wakeups).turn (arrival n).instant line with
      | error code => simp only [hturn]
      | ok answer => simp only [hturn, ih answer.2 (n + 1) hinput hother hmore]

/-- What is shown for the line with a number in a session: nothing for white space, and for a banner
what a run for this banner alone shows. -/
structure AnswersLine (a : Arguments) (s : Setup) (line : List Char) (n : ℕ) (shown : String) :
    Prop where
  blank : Text.trim line = [] → shown = ""
  banner : HoldsBanner line → ∀ later : Moment, (Engine.new {}).CanKeep later.instant →
    runArguments (a.forBanner (bannerOf line))
        { s with start := later, timing := (s.arrival n).timing } =
      .ok ⟨0, shown, s.directory⟩

/-- **A session answers as single runs do**, as long as results can be kept. For each line before
the one that ends it there is a prompt with an answer, at the end there is one more prompt, and
nothing else is shown. What is typed after the line that ends it does not matter to anything. -/
theorem runArguments_forSession (a : Arguments) (s : Setup) {rules : List Rule}
    (hrules : gatherRules a s.directory.read? = .ok rules) {lines : List (List Char)}
    {rest : List (Option (List Char))}
    (hinput : (Text.byteLines s.input).map Text.decode? = lines.map some ++ rest)
    (hrest : rest = [] ∨ ∃ line ∈ lines, EndsSession line)
    (distinct : FingerprintsDiffer (banners (answered lines)))
    (hkeep : ∀ p ∈ (answered lines).zipIdx, (Engine.new {}).CanKeep (s.arrival p.2).instant) :
    (∃ blocks : List String,
      runArguments a.forSession s =
          .ok ⟨0, greeting ++ (String.join (blocks.map fun b => prompt ++ b) ++ prompt),
            s.directory⟩ ∧
        List.Forall₂ (fun p shown => AnswersLine a s p.1 p.2 shown)
          (answered lines).zipIdx blocks) ∧
    ((∃ line ∈ lines, EndsSession line) →
      ∀ (input : List UInt8) (others : List (Option (List Char))),
      (Text.byteLines input).map Text.decode? = lines.map some ++ others →
        runArguments a.forSession { s with input := input } = runArguments a.forSession s) := by
  have hgather : gatherRules a.forSession s.directory.read? = .ok rules := hrules
  have hsession : ∀ input, runArguments a.forSession { s with input := input } =
      .ok (runSession a.forSession { s with input := input } (loadedEngine s.start rules).2) := by
    intro input
    rw [runArguments, hgather]
    rfl
  constructor
  · have hstart : Session.Serves a (loadedEngine s.start rules).2.registry.rules
        (banners (answered lines)) (a.forSession.session (loadedEngine s.start rules).2) :=
      ⟨rfl, rfl, rfl, rfl, fun _ => Iff.rfl, .of_nil rfl⟩
    obtain ⟨blocks, hrun, hblocks⟩ :=
      hstart.run distinct hinput hrest (List.Subset.refl _) hkeep
    refine ⟨blocks, ?_, hblocks.imp fun p shown hshows =>
      ⟨hshows.blank, fun hb later hlater => ?_⟩⟩
    · refine (hsession s.input).trans ?_
      rw [runSession, hrun]
    · have hsingle := runArguments_forBanner a
        { s with start := later, timing := (s.arrival p.2).timing } hrules hlater (bannerOf p.1)
      rw [hsingle, hshows.banner hb, answerText, uncached_loadedEngine later s.start, ← answerText]
  · intro hends input others hothers
    refine (hsession input).trans (Eq.trans ?_ (hsession s.input).symm)
    rw [runSession, runSession, Session.run_eq_of_endsSession _ s.arrival 0 hothers hinput hends]

/-- A banner twice, with a blank line, another banner and a command in between, and the end of the
session. -/
def typedLines : List (List Char) :=
  ["SSH-2.0-OpenSSH_9.6", " \t", "220 (vsFTPd 3.0.3)", "stats", "  match SSH-2.0-OpenSSH_9.6 ",
    " exit"].map String.toList

/-- What is typed, with a line at the end that is not text. Before every line the cache is swept. -/
def typedSetup : Setup where
  input := typedLines.flatMap (fun line => Text.encode line ++ [0x0D, 0x0A]) ++ [0xFF, 0x0A]
  start := ⟨0, "2024-01-01 00:00:00"⟩
  timing := ⟨"0.125", "0.125", "0", "125000", "null"⟩
  arrival n :=
    { wakeups := [10 * n], instant := 10 * n + 5,
      timing := ⟨"0.250", "0.25", "0", "250000", "null"⟩ }

/-- The built-in rules answer the first five lines, three of them with a banner. What is typed after
the last one does not matter. -/
theorem runArguments_forSession_typedLines :
    let a : Arguments := { output := some .json, minConfidence := some 80 }
    gatherRules a typedSetup.directory.read? = .ok builtinRules ∧
      (Text.byteLines typedSetup.input).map Text.decode? = typedLines.map some ++ [none] ∧
      answered typedLines = typedLines.take 5 ∧
      banners (answered typedLines) =
        ["SSH-2.0-OpenSSH_9.6", "220 (vsFTPd 3.0.3)", "SSH-2.0-OpenSSH_9.6"] ∧
      FingerprintsDiffer (banners (answered typedLines)) ∧
      (∀ p ∈ (answered typedLines).zipIdx,
        (Engine.new {}).CanKeep (typedSetup.arrival p.2).instant) ∧
      (∃ blocks : List String,
        runArguments a.forSession typedSetup =
            .ok ⟨0, greeting ++ (String.join (blocks.map fun b => prompt ++ b) ++ prompt),
              typedSetup.directory⟩ ∧
          List.Forall₂ (fun p shown => AnswersLine a typedSetup p.1 p.2 shown)
            (answered typedLines).zipIdx blocks) ∧
      runArguments a.forSession
          { typedSetup with input := typedSetup.input ++ Text.encode "SSH-2.0-x".toList } =
        runArguments a.forSession typedSetup := by
  intro a
  have hrules : gatherRules a typedSetup.directory.read? = .ok builtinRules := rfl
  have hinput : (Text.byteLines typedSetup.input).map Text.decode? =
      typedLines.map some ++ [none] := by decide +kernel
  have hmore : (Text.byteLines (typedSetup.input ++ Text.encode "SSH-2.0-x".toList)).map
      Text.decode? = typedLines.map some ++ [none, some "SSH-2.0-x".toList] := by decide +kernel
  have hends : ∃ line ∈ typedLines, EndsSession line := by decide +kernel
  have distinct : FingerprintsDiffer (banners (answered typedLines)) := by decide +kernel
  have hkeep : ∀ p ∈ (answered typedLines).zipIdx,
      (Engine.new {}).CanKeep (typedSetup.arrival p.2).instant := by decide +kernel
  obtain ⟨hblocks, hsame⟩ :=
    runArguments_forSession a typedSetup hrules hinput (.inr hends) distinct hkeep
  exact ⟨hrules, hinput, by decide +kernel, by decide +kernel, distinct, hkeep, hblocks,
    hsame hends _ _ hmore⟩

end BannerMatch.CommandLine
