import BannerMatch.Proofs.MessagePack.Records

/-!
# Bytes that follow and bytes that are missing

No reader looks beyond the value that it reads: if more bytes follow, it reads the same value
(`IsStable`). That holds for bytes of any origin, down to the values that are passed over
(`isStable_readRuleSet`).

So what a writer gives is a prefix code. The bytes of a rule set are read back whatever follows
them, and they start no other rule set (`RuleSet.ofMessagePack?_append`); without their end they
are nothing (`RuleSet.ofMessagePack?_eq_none_of_isPrefix`).
-/

namespace BannerMatch.MessagePack

variable {α β : Type}

/-! ### Stable readers -/

/-- What is read does not change when more bytes follow. -/
def IsStable (reader : Reader α) : Prop :=
  ∀ ⦃bs : List UInt8⦄ ⦃a : α⦄ ⦃rest : List UInt8⦄, reader bs = some (a, rest) →
    ∀ more, reader (bs ++ more) = some (a, rest ++ more)

/-- What is passed over does not change when more bytes follow. -/
def IsStableStep (step : List UInt8 → Option (List UInt8)) : Prop :=
  ∀ ⦃bs rest : List UInt8⦄, step bs = some rest → ∀ more, step (bs ++ more) = some (rest ++ more)

theorem isStable_pure (a : α) : IsStable fun bs => some (a, bs) := by
  intro bs b rest h more
  cases h
  rfl

theorem isStable_none : IsStable (fun _ => none : Reader α) := by
  intro bs b rest h
  cases h

theorem IsStable.ite {p : Prop} [Decidable p] {first second : Reader α} (hfirst : IsStable first)
    (hsecond : IsStable second) : IsStable fun bs => if p then first bs else second bs := by
  by_cases hp : p
  · simpa only [if_pos hp] using hfirst
  · simpa only [if_neg hp] using hsecond

/-- One reader after the other. -/
theorem IsStable.bind {reader : Reader α} (h : IsStable reader) {next : α → Reader β}
    (hnext : ∀ a, IsStable (next a)) :
    IsStable fun bs => (reader bs).bind fun p => next p.1 p.2 := by
  intro bs b rest hread more
  obtain ⟨⟨a, mid⟩, ha, hb⟩ := Option.bind_eq_some_iff.mp hread
  show (reader (bs ++ more)).bind _ = _
  rw [h ha more, Option.bind_some]
  exact hnext a hb more

/-- Something is made of what is read. -/
theorem IsStable.map {reader : Reader α} (h : IsStable reader) (f : α → β) :
    IsStable fun bs => (reader bs).map fun p => (f p.1, p.2) := by
  intro bs b rest hread more
  obtain ⟨⟨a, mid⟩, ha, hb⟩ := Option.map_eq_some_iff.mp hread
  cases hb
  show (reader (bs ++ more)).map _ = _
  rw [h ha more, Option.map_some]

/-- A reader after something that is passed over. -/
theorem IsStableStep.bind {step : List UInt8 → Option (List UInt8)} (h : IsStableStep step)
    {reader : Reader α} (hreader : IsStable reader) : IsStable fun bs => (step bs).bind reader := by
  intro bs a rest hread more
  obtain ⟨mid, hmid, ha⟩ := Option.bind_eq_some_iff.mp hread
  show (step (bs ++ more)).bind reader = _
  rw [h hmid more, Option.bind_some]
  exact hreader ha more

/-- **Where a value ends the bytes, they are not read without their end.** -/
theorem IsStable.eq_none_of_isPrefix {reader : Reader α} (h : IsStable reader)
    {bs front : List UInt8} {a : α} (hread : reader bs = some (a, [])) (hfront : front <+: bs)
    (hne : front ≠ bs) : reader front = none := by
  obtain ⟨more, rfl⟩ := hfront
  rw [Option.eq_none_iff_forall_ne_some]
  rintro ⟨b, rest⟩ hb
  rw [h hb more, Option.some_inj, Prod.mk.injEq] at hread
  -- nothing is left of the whole bytes, so nothing was missing
  obtain ⟨-, rfl⟩ := List.append_eq_nil_iff.mp hread.2
  exact hne (List.append_nil front).symm

/-! ### Heads -/

theorem isStable_takeBytes (count : ℕ) : IsStable (takeBytes count) := by
  intro bs front rest h more
  rw [takeBytes] at h
  split_ifs at h with hlength
  cases h
  have hle : count ≤ bs.length := by
    rw [List.length_take] at hlength
    omega
  rw [takeBytes, List.take_append_of_le_length hle, List.drop_append_of_le_length hle]
  exact if_pos hlength

theorem isStable_readCounted (head : ℕ → Head) (count : ℕ) :
    IsStable (readCounted head count) :=
  ((isStable_takeBytes count).map ofBytes).map head

theorem isStable_readHead : IsStable readHead := by
  intro bs head rest h more
  cases bs with
  | nil => cases h
  | cons b bs =>
    have hpure := fun head => isStable_pure (head : Head)
    have hcounted := isStable_readCounted
    -- one case for each range of the first byte
    have hrest : IsStable fun rest => readHead (b :: rest) :=
      .ite (hpure _) <| .ite (hpure _) <| .ite (hpure _) <| .ite (hpure _) <| .ite (hpure _) <|
      .ite isStable_none <| .ite (hpure _) <| .ite (hcounted _ _) <| .ite (hcounted _ _) <|
      .ite (hcounted _ _) <| .ite (hcounted _ _) <| .ite (hcounted _ _) <| .ite (hpure _) <|
      .ite (hcounted _ _) <| .ite (hcounted _ _) <| .ite (hcounted _ _) (hpure _)
    exact hrest h more

/-! ### Values that are passed over -/

theorem isStableStep_takeBytes (count : ℕ) :
    IsStableStep fun bs => (takeBytes count bs).map Prod.snd := by
  intro bs rest h more
  obtain ⟨⟨front, after⟩, htake, rfl⟩ := Option.map_eq_some_iff.mp h
  show (takeBytes count (bs ++ more)).map Prod.snd = _
  rw [isStable_takeBytes count htake more, Option.map_some]

theorem IsStableStep.repeatStep {step : List UInt8 → Option (List UInt8)} (h : IsStableStep step)
    (n : ℕ) : IsStableStep (MessagePack.repeatStep step n) := by
  induction n with
  | zero =>
    intro bs rest hstep more
    cases hstep
    rfl
  | succ n ih =>
    intro bs rest hstep more
    obtain ⟨mid, hmid, hrest⟩ := Option.bind_eq_some_iff.mp hstep
    rw [MessagePack.repeatStep, h hmid more, Option.bind_some]
    exact ih hrest more

theorem exists_readHead_of_skipValue {levels : ℕ} {bs rest : List UInt8}
    (h : skipValue levels bs = some rest) : ∃ head after, readHead bs = some (head, after) := by
  cases hhead : readHead bs with
  | none =>
    rw [skipValue.eq_def, hhead] at h
    cases h
  | some p => exact ⟨p.1, p.2, rfl⟩

theorem isStableStep_skipValue (levels : ℕ) : IsStableStep (skipValue levels) := by
  induction levels with
  | zero =>
    intro bs rest h more
    obtain ⟨head, after, hhead⟩ := exists_readHead_of_skipValue h
    rw [skipValue, hhead] at h
    rw [skipValue, isStable_readHead hhead more]
    -- without a level to go down to, only texts and bytes are longer than their heads
    cases head with
    | text n => exact isStableStep_takeBytes n h more
    | bytes n => exact isStableStep_takeBytes n h more
    | list n | map n | extension n => cases h
    | atom | natural n | integer i => cases h; rfl
  | succ levels ih =>
    intro bs rest h more
    obtain ⟨head, after, hhead⟩ := exists_readHead_of_skipValue h
    rw [skipValue, hhead] at h
    rw [skipValue, isStable_readHead hhead more]
    cases head with
    | text n => exact isStableStep_takeBytes n h more
    | bytes n => exact isStableStep_takeBytes n h more
    | list n => exact ih.repeatStep n h more
    | map n => exact ih.repeatStep (2 * n) h more
    | extension n => exact isStableStep_takeBytes n h more
    | atom | natural n | integer i => cases h; rfl

/-! ### Values that are read -/

/-- A reader is stable if without a head it reads nothing, and after each head it goes on as a
stable reader. -/
theorem isStable_of_head {reader : Reader α} (hnone : ∀ bs, readHead bs = none → reader bs = none)
    (hsome : ∀ head, ∃ next : Reader α, IsStable next ∧
      ∀ bs rest, readHead bs = some (head, rest) → reader bs = next rest) : IsStable reader := by
  intro bs a rest h more
  cases hhead : readHead bs with
  | none =>
    rw [hnone bs hhead] at h
    cases h
  | some p =>
    obtain ⟨next, hnext, heq⟩ := hsome p.1
    rw [heq bs p.2 hhead] at h
    rw [heq _ _ (isStable_readHead hhead more)]
    exact hnext h more

theorem isStable_readTextValue : IsStable readTextValue := by
  have hdecoded : ∀ bytes, IsStable fun rest =>
      (Text.decode? bytes).bind fun cs => some (String.ofList cs, rest) := by
    intro bytes
    cases Text.decode? bytes with
    | none => exact isStable_none
    | some cs => exact isStable_pure (String.ofList cs)
  have htext : ∀ n, IsStable fun rest => (takeBytes n rest).bind fun p =>
      (Text.decode? p.1).bind fun cs => some (String.ofList cs, p.2) :=
    fun n => (isStable_takeBytes n).bind hdecoded
  refine isStable_of_head (fun bs hb => by rw [readTextValue, hb]) fun head => ?_
  cases head with
  | text n | bytes n => exact ⟨_, htext n, fun bs rest hb => by rw [readTextValue, hb]; rfl⟩
  | _ => exact ⟨_, isStable_none, fun bs rest hb => by rw [readTextValue, hb]⟩

theorem isStable_readByteValue : IsStable readByteValue := by
  refine isStable_of_head (fun bs hb => by rw [readByteValue, hb]) fun head => ?_
  cases head with
  | natural n =>
    exact ⟨_, .ite (isStable_pure n.toUInt8) isStable_none,
      fun bs rest hb => by rw [readByteValue, hb]⟩
  | integer i =>
    exact ⟨_, .ite (isStable_pure i.toNat.toUInt8) isStable_none,
      fun bs rest hb => by rw [readByteValue, hb]⟩
  | _ => exact ⟨_, isStable_none, fun bs rest hb => by rw [readByteValue, hb]⟩

theorem IsStable.readItems {item : Reader α} (h : IsStable item) (n : ℕ) :
    IsStable (MessagePack.readItems item n) := by
  induction n with
  | zero => exact isStable_pure []
  | succ n ih => exact h.bind fun a => ih.bind fun others => isStable_pure (a :: others)

theorem IsStable.readList {item : Reader α} (h : IsStable item) :
    IsStable (MessagePack.readList item) := by
  refine isStable_of_head (fun bs hb => by rw [MessagePack.readList, hb]) fun head => ?_
  cases head with
  | list n => exact ⟨_, h.readItems n, fun bs rest hb => by rw [MessagePack.readList, hb]⟩
  | bytes n =>
    cases n with
    | zero => exact ⟨_, isStable_pure [], fun bs rest hb => by rw [MessagePack.readList, hb]; rfl⟩
    | succ n => exact ⟨_, isStable_none, fun bs rest hb => by rw [MessagePack.readList, hb]; rfl⟩
  | _ => exact ⟨_, isStable_none, fun bs rest hb => by rw [MessagePack.readList, hb]⟩

/-! ### Records -/

variable {rules : Reader (List Rule)} {layout : Layout α}

theorem isStable_readSlot (hrules : IsStable rules) (slot : Slot α) (a : α) :
    IsStable (readSlot rules slot a) := by
  cases slot with
  | text get set => exact isStable_readTextValue.map fun v => set v a
  | byte get set => exact isStable_readByteValue.map fun v => set v a
  | rules get set => exact hrules.map fun v => set v a

theorem isStable_readKey : IsStable (readKey layout) := by
  refine isStable_of_head (fun bs hb => by rw [readKey, hb]) fun head => ?_
  cases head with
  | natural n => exact ⟨_, isStable_pure _, fun bs rest hb => by rw [readKey, hb]⟩
  | text n | bytes n =>
    exact ⟨_, (isStable_takeBytes n).map (fieldNamed? layout),
      fun bs rest hb => by rw [readKey, hb]⟩
  | _ => exact ⟨_, isStable_none, fun bs rest hb => by rw [readKey, hb]⟩

theorem isStable_readMembers (hrules : IsStable rules) (levels n : ℕ) (seen : List String) (a : α) :
    IsStable (readMembers levels rules layout n seen a) := by
  induction n generalizing seen a with
  | zero => exact isStable_pure a
  | succ n ih =>
    intro bs b rest h more
    rw [readMembers] at h ⊢
    cases hkey : readKey layout bs with
    | none =>
      rw [hkey] at h
      cases h
    | some p =>
      obtain ⟨f?, after⟩ := p
      rw [hkey] at h
      rw [isStable_readKey hkey more]
      cases f? with
      | none => exact (isStableStep_skipValue levels).bind (ih seen a) h more
      | some f =>
        dsimp only at h ⊢
        split_ifs at h ⊢
        cases hslot : readSlot rules f.slot a after with
        | none =>
          rw [hslot] at h
          cases h
        | some p =>
          rw [hslot] at h
          rw [isStable_readSlot hrules f.slot a hslot more]
          exact ih (f.name :: seen) p.1 h more

theorem isStable_readFields (hrules : IsStable rules) (fields : Layout α) (n : ℕ) (a : α) :
    IsStable (readFields rules a fields n) := by
  induction fields generalizing n a with
  | nil =>
    cases n with
    | zero => exact isStable_pure a
    | succ n => exact isStable_none
  | cons f fields ih =>
    cases n with
    | zero => exact isStable_pure a
    | succ n =>
      intro bs b rest h more
      rw [readFields] at h ⊢
      cases hslot : readSlot rules f.slot a bs with
      | none =>
        rw [hslot] at h
        cases h
      | some p =>
        rw [hslot] at h
        rw [isStable_readSlot hrules f.slot a hslot more]
        exact ih n p.1 h more

theorem isStable_readRecord (hrules : IsStable rules) (levels : ℕ) (start : α) :
    IsStable (readRecord levels rules layout start) := by
  refine isStable_of_head (fun bs hb => by rw [readRecord, hb]) fun head => ?_
  cases head with
  | map n =>
    exact ⟨_, isStable_readMembers hrules levels n [] start,
      fun bs rest hb => by rw [readRecord, hb]⟩
  | list n =>
    exact ⟨_, isStable_readFields hrules layout n start, fun bs rest hb => by rw [readRecord, hb]⟩
  | bytes n =>
    cases n with
    | zero => exact ⟨_, isStable_pure start, fun bs rest hb => by rw [readRecord, hb]; rfl⟩
    | succ n => exact ⟨_, isStable_none, fun bs rest hb => by rw [readRecord, hb]; rfl⟩
  | _ => exact ⟨_, isStable_none, fun bs rest hb => by rw [readRecord, hb]⟩

/-- **Rule sets are read without a look at what follows**, whatever the bytes are. -/
theorem isStable_readRuleSet : IsStable readRuleSet :=
  isStable_readRecord (isStable_readRecord isStable_none _ _).readList _ _

end BannerMatch.MessagePack

namespace BannerMatch

open MessagePack

/-- **Without their end the bytes of a rule set are nothing.** -/
theorem RuleSet.ofMessagePack?_eq_none_of_isPrefix {s : RuleSet} (hs : s.Fits) {front : List UInt8}
    (hfront : front <+: s.messagePack) (hne : front ≠ s.messagePack) :
    RuleSet.ofMessagePack? front = none := by
  have hread := RuleSet.readsBack_messagePack hs []
  rw [List.append_nil] at hread
  rw [RuleSet.ofMessagePack?, isStable_readRuleSet.eq_none_of_isPrefix hread hfront hne,
    Option.map_none]

/-- **MessagePack is a prefix code for rule sets** whose texts and lists fit: what is written is
read back whatever follows it, no two rule sets have the same bytes, and the bytes of none are the
start of the bytes of another one. -/
theorem RuleSet.ofMessagePack?_append {s : RuleSet} (hs : s.Fits) :
    (∀ rest, RuleSet.ofMessagePack? (s.messagePack ++ rest) = some s) ∧
      ∀ t : RuleSet, t.Fits →
        (s.messagePack = t.messagePack → s = t) ∧ (s.messagePack <+: t.messagePack → s = t) := by
  have hread : ∀ rest, RuleSet.ofMessagePack? (s.messagePack ++ rest) = some s := by
    intro rest
    rw [RuleSet.ofMessagePack?, RuleSet.readsBack_messagePack hs, Option.map_some]
  have hstart : ∀ t : RuleSet, t.Fits → s.messagePack <+: t.messagePack → s = t := by
    rintro t ht ⟨rest, hrest⟩
    have hsame := RuleSet.ofMessagePack?_messagePack ht
    rw [← hrest, hread rest] at hsame
    exact Option.some.inj hsame
  exact ⟨hread, fun t ht => ⟨fun h => hstart t ht (h ▸ List.prefix_rfl), hstart t ht⟩⟩

/-- Texts and a list at both sides of the bounds between short and long heads, and confidences at
both sides of the bound between one byte and two. -/
def boundaryRuleSet : RuleSet where
  version := String.ofList (List.replicate 31 'v')
  description := String.ofList (List.replicate 32 'd')
  rules := { confidence := 127 } :: { confidence := 128 } :: List.replicate 14 {}

/-- It is read back in front of a byte that starts no value, and it does not start the bytes of an
empty rule set. -/
theorem RuleSet.ofMessagePack?_boundaryRuleSet :
    boundaryRuleSet.Fits ∧ RuleSet.Fits {} ∧ boundaryRuleSet.rules.length = 16 ∧
      RuleSet.ofMessagePack? (boundaryRuleSet.messagePack ++ [0xC1]) = some boundaryRuleSet ∧
      ¬ boundaryRuleSet.messagePack <+: RuleSet.messagePack {} := by
  have hfits : boundaryRuleSet.Fits := ⟨by decide +kernel, by decide +kernel⟩
  have hempty : RuleSet.Fits {} := ⟨by decide +kernel, by decide⟩
  have h := ofMessagePack?_append hfits
  refine ⟨hfits, hempty, by decide, h.1 [0xC1], fun hstart => ?_⟩
  have heq : boundaryRuleSet = {} := (h.2 {} hempty).2 hstart
  exact absurd (congrArg (fun s : RuleSet => s.rules.length) heq) (by decide)

end BannerMatch
