import BannerMatch.Proofs.Probe.MatchLine
import BannerMatch.Proofs.Unescape.Basic
import BannerMatch.Proofs.Rule.Identifiers
import BannerMatch.Proofs.Rule.Settled
import Mathlib.Data.List.TakeWhile

/-!
# The rules of a probe file

The match lines of a file that can be read, in order, are its `entriesOf`; a file has one rule for
each of them (`forall₂_rules_importFrom`), with the number of the rule in its identifier. So the
rules of a file never share an identifier (`distinctIds_importFrom`), and none of them is left out
when they are loaded (`Entry.IsComplete.checkFields_rule`).
-/

namespace BannerMatch.Probe

open BannerMatch.Text (IsSolid)

/-- The entry of a line that is one. -/
def Outcome.matchLine? : Outcome → Option Entry
  | .entry e => some e
  | _ => none

/-- The match lines among lines, in order. -/
def entriesOf (lines : List (List Char)) : List Entry :=
  lines.filterMap fun raw => (Outcome.ofLine (Text.trim raw)).matchLine?

/-- **A file has one rule for each match line**, numbered in the order of the lines. -/
theorem forall₂_rules_importFrom (options : Options) (p : Place) (lines : List (List Char)) :
    List.Forall₂ (fun e r => ∃ probe, r = e.1.rule options e.2 probe)
      ((entriesOf lines).zipIdx (p.rules + 1)) (importFrom options p lines).rules := by
  induction lines generalizing p with
  | nil => exact .nil
  | cons raw rest ih =>
    rw [importFrom, entriesOf, List.filterMap_cons]
    cases Outcome.ofLine (Text.trim raw) with
    | entry e => exact .cons ⟨p.probe, rfl⟩ (ih (p.after (.entry e)))
    | blank => exact ih (p.after .blank)
    | ignored => exact ih (p.after .ignored)
    | probe name => exact ih (p.after (.probe name))
    | faulty f => exact ih (p.after (.faulty f))

/-! ### Fields -/

/-- The fields of the version information leave the rest of a rule alone. -/
theorem setFields_keeps (r : Rule) (fields : List Field) :
    (setFields r fields).id = r.id ∧ (setFields r fields).service = r.service ∧
      (setFields r fields).pattern = r.pattern ∧
      (setFields r fields).confidence = r.confidence := by
  rw [setFields_eq]
  exact ⟨rfl, rfl, rfl, rfl⟩

variable (e : Entry) (options : Options) (n : ℕ) (probe : Option (List Char))

theorem Entry.id_rule : (e.rule options n probe).id = e.ruleId n := (setFields_keeps _ _).1

theorem Entry.service_rule : (e.rule options n probe).service = String.ofList e.service :=
  (setFields_keeps _ _).2.1

theorem Entry.pattern_rule : (e.rule options n probe).pattern = String.ofList (unescape e.body) :=
  (setFields_keeps _ _).2.2.1

theorem Entry.confidence_rule : (e.rule options n probe).confidence =
    if e.soft then options.softConfidence else options.hardConfidence :=
  (setFields_keeps _ _).2.2.2

theorem Entry.description_rule :
    (e.rule options n probe).description = e.description probe := by
  rw [Entry.rule, setFields_eq]

/-! ### Identifiers -/

/-- An identifier tells the number of the rule. -/
theorem Entry.ruleId_ne {e f : Entry} {m n : ℕ} (h : m ≠ n) : e.ruleId m ≠ f.ruleId n := by
  have hdigit : ∀ k : ℕ, ∀ c ∈ (toString k).toList, c ≠ 's' := by
    intro k c hc hs
    rw [Nat.toString_eq_repr, Nat.toList_repr] at hc
    have hdigit := Nat.isDigit_of_mem_toDigits (b := 10) (by decide) (by decide) hc
    rw [hs] at hdigit
    exact absurd hdigit (by decide)
  have hsoft : ∀ j k : ℕ, "nmap_soft_" ++ toString j ≠ "nmap_" ++ toString k := by
    intro j k heq
    have hchars := congrArg String.toList heq
    simp only [String.toList_append] at hchars
    have hfront : "nmap_".toList ++ ("soft_".toList ++ (toString j).toList) =
        "nmap_".toList ++ (toString k).toList := by
      simpa using hchars
    have hrest := List.append_cancel_left hfront
    exact hdigit k 's' (hrest ▸ by simp) rfl
  intro heq
  unfold Entry.ruleId at heq
  cases he : e.soft <;> cases hf : f.soft <;> simp only [he, hf, if_true, Bool.false_eq_true,
    if_false] at heq
  · exact h (toString_nat_injective ((String.append_right_inj _).mp heq))
  · exact hsoft n m heq.symm
  · exact hsoft m n heq
  · exact h (toString_nat_injective ((String.append_right_inj _).mp heq))

/-- The identifiers of a file, in the order of its match lines. -/
theorem ids_importFrom (options : Options) (p : Place) (lines : List (List Char)) :
    (importFrom options p lines).rules.map Rule.id =
      ((entriesOf lines).zipIdx (p.rules + 1)).map fun e => e.1.ruleId e.2 := by
  have hids : List.Forall₂ (· = ·)
      (((entriesOf lines).zipIdx (p.rules + 1)).map fun e => e.1.ruleId e.2)
      ((importFrom options p lines).rules.map Rule.id) := by
    rw [List.forall₂_map_left_iff, List.forall₂_map_right_iff]
    refine (forall₂_rules_importFrom options p lines).imp ?_
    rintro e r ⟨probe, rfl⟩
    exact (Entry.id_rule _ _ _ _).symm
  rw [List.forall₂_eq_eq_eq] at hids
  exact hids.symm

theorem nodup_ids_importFrom (options : Options) (p : Place) (lines : List (List Char)) :
    ((importFrom options p lines).rules.map Rule.id).Nodup := by
  have hnumbers : (((entriesOf lines).zipIdx (p.rules + 1)).map Prod.snd).Nodup := by
    rw [List.zipIdx_map_snd]
    exact List.nodup_range'
  rw [ids_importFrom]
  exact (List.pairwise_map.mp hnumbers).map _ fun _ _ h => Entry.ruleId_ne h

/-- **The rules of a probe file have distinct identifiers.** -/
theorem distinctIds_importFrom (options : Options) (p : Place) (lines : List (List Char)) :
    DistinctIds (importFrom options p lines).rules := by
  have hsublist : (validIds (importFrom options p lines).rules).Sublist
      ((importFrom options p lines).rules.map Rule.id) :=
    (List.filter_sublist.trans List.filter_sublist).map _
  exact (nodup_ids_importFrom options p lines).sublist hsublist

/-! ### Valid fields -/

/-- What every entry has that is read from a line. -/
structure Entry.IsComplete (e : Entry) : Prop where
  service_ne_nil : e.service ≠ []
  service_solid : IsSolid e.service
  body_ne_nil : e.body ≠ []

theorem splitPattern_body_ne_nil {cs body info : List Char}
    (h : splitPattern cs = .ok (body, info)) : body ≠ [] := by
  rw [splitPattern.eq_def] at h
  split at h
  · cases h
  · split at h
    · cases h
    · split at h
      · cases h
      · split at h
        · cases h
        · rename_i hne
          cases h
          simpa using hne
  · cases h

theorem isComplete_of_readEntry {soft : Bool} {cs : List Char} {e : Entry}
    (h : readEntry soft cs = .ok e) : e.IsComplete := by
  rw [readEntry] at h
  split at h
  · cases h
  · rename_i hservice
    split at h
    · cases h
    · split at h
      · cases h
      · rename_i body info hsplit
        cases h
        exact
          { service_ne_nil := by simpa using hservice
            service_solid := fun c hc => by
              have hall := List.mem_takeWhile_imp hc
              simpa using hall
            body_ne_nil := splitPattern_body_ne_nil hsplit }

theorem isComplete_of_ofLine {line : List Char} {e : Entry} (h : Outcome.ofLine line = .entry e) :
    e.IsComplete := by
  have hread : ∀ soft cs, Outcome.ofEntry (readEntry soft cs) = .entry e → e.IsComplete := by
    intro soft cs hentry
    cases hok : readEntry soft cs with
    | ok e' => rw [hok] at hentry; cases hentry; exact isComplete_of_readEntry hok
    | error f => rw [hok] at hentry; cases hentry
  rw [Outcome.ofLine] at h
  simp only at h
  split at h
  · cases h
  split at h
  · rw [Outcome.ofProbe.eq_def] at h
    split at h <;> cases h
  split at h
  · exact hread _ _ h
  split at h
  · exact hread _ _ h
  · cases h

/-! ### Confidences -/

theorem Options.toNat_hardConfidence (o : Options) :
    o.hardConfidence.toNat = min o.hard.toNat 100 := by
  rw [hardConfidence, UInt8.toNat_min]
  rfl

/-- The subtraction stops at zero. -/
theorem Options.toNat_softConfidence (o : Options) :
    o.softConfidence.toNat = min (max (o.hard.toNat - o.penalty.toNat) o.floor.toNat) 100 := by
  have hreduced : (if o.penalty ≤ o.hard then o.hard - o.penalty else 0).toNat =
      o.hard.toNat - o.penalty.toNat := by
    split
    · rename_i hle
      exact UInt8.toNat_sub_of_le _ _ hle
    · rename_i hlt
      rw [UInt8.le_iff_toNat_le] at hlt
      simp
      omega
  rw [softConfidence, UInt8.toNat_min, UInt8.toNat_max, hreduced]
  rfl

theorem Options.hardConfidence_le (o : Options) : o.hardConfidence ≤ 100 := by
  rw [UInt8.le_iff_toNat_le, o.toNat_hardConfidence]
  exact min_le_right _ _

theorem Options.softConfidence_le (o : Options) : o.softConfidence ≤ 100 := by
  rw [UInt8.le_iff_toNat_le, o.toNat_softConfidence]
  exact min_le_right _ _

/-- **The rule of a match line has valid fields.** -/
theorem Entry.IsComplete.checkFields_rule {e : Entry} (h : e.IsComplete) (options : Options)
    (n : ℕ) (probe : Option (List Char)) :
    (e.rule options n probe).checkFields = .ok () := by
  rw [Rule.checkFields_eq_ok_iff, Entry.service_rule, Entry.pattern_rule, Entry.confidence_rule]
  refine ⟨?_, ?_, ?_⟩
  · obtain ⟨c, rest, hservice⟩ := List.exists_cons_of_ne_nil h.service_ne_nil
    have hc : c ∈ e.service := hservice ▸ List.mem_cons_self
    exact Text.isAllBlank_of_mem (h.service_solid c hc) (by simpa using hc)
  · rw [← Bool.not_eq_true, String.isEmpty_iff, String.ofList_eq_empty_iff]
    exact unescape_ne_nil h.body_ne_nil
  · split
    · exact options.softConfidence_le
    · exact options.hardConfidence_le

end BannerMatch.Probe
