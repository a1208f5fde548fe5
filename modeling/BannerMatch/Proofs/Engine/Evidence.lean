import BannerMatch.Proofs.Engine.Transparency
import BannerMatch.Proofs.Pattern.Spans
import BannerMatch.Proofs.Rule.Settled
import BannerMatch.Proofs.Template.Reading

/-!
# What a service is evidence of

A service that an engine returns for a text was found there by an active rule of the engine, however
it came about, by an analysis of now or from the cache: `evidence_run`. `Evidence` says what belongs
to that. The matched text is a part of the text that was searched, and a field whose template is a
single reference to a group is a part of the matched text, because groups lie within the match
(`PatternMatch.fill_isInfix`); two fields have something to fall back on if their templates come to
nothing, the product and the CPE name. No product is empty, as a rule without the name of a service
is never compiled (`service_run`).
-/

namespace BannerMatch

/-- A template that is a single reference to a group, `$N` with `N` at least one; there may be zeros
in front of the number. -/
def Template.IsReference (template : String) : Prop :=
  ∃ (zeros : ℕ) (number : ℕ+), template.toList = '$' :: paddedDigits zeros number

/-- The templates of a rule whose results are fields of the service as they are. -/
def plainFields : List ((Rule → String) × (Service → String)) :=
  [(Rule.version, Service.version), (Rule.info, Service.info), (Rule.hostname, Service.hostname),
    (Rule.os, Service.os), (Rule.deviceType, Service.deviceType)]

/-- What a service says that the rule `r` has found in a text by the match `m`. -/
structure Evidence (r : Rule) (m : PatternMatch) (text : String) (synthesizeCpe : Bool)
    (s : Service) : Prop where
  name : s.name = r.service
  confidence : s.confidence = r.confidence
  ruleId : s.ruleId = r.id
  /-- The matched text is a part of the text. -/
  matchedText : s.matchedText.toList <:+: text.toList
  /-- What a single reference comes to is empty or a part of the matched text. -/
  reference : ∀ template, Template.IsReference template →
    m.fill template = "" ∨ (m.fill template).toList <:+: s.matchedText.toList
  plain : ∀ f ∈ plainFields, f.2 s = m.fill (f.1 r)
  /-- The name of the service stands for a product that comes to nothing. -/
  product : s.product = if m.fill r.product = "" then r.service else m.fill r.product
  product_ne : s.product ≠ ""
  /-- A CPE name that comes to nothing is made of the product and the version, if asked for. -/
  cpe : s.cpe =
    if m.fill r.cpe = "" ∧ synthesizeCpe = true then
      String.ofList (Cpe.synthesize (m.fill r.product).toList (m.fill r.version).toList)
    else m.fill r.cpe

/-- The rule is active, and finds the service in the text. -/
structure CompiledRule.Finds (c : CompiledRule) (text : String) (synthesizeCpe : Bool)
    (s : Service) : Prop where
  active : c.isActive = true
  evidence : ∃ p m, c.pattern = .ok p ∧ p.find? text = some m ∧
    Evidence c.rule m text synthesizeCpe s

/-! ### One match -/

variable {p : Pattern} {m : PatternMatch} {text : String}

/-- **A single reference comes to a part of the match**, or to nothing. -/
theorem PatternMatch.fill_isInfix (hm : p.find? text = some m) {template : String}
    (htemplate : Template.IsReference template) : (m.fill template).toList <:+: m.matched := by
  obtain ⟨zeros, number, htemplate⟩ := htemplate
  have hread : Template.Reads template.toList
      [.dollar (Template.paddedDigits zeros number)] := by
    have h := Template.reads_reference .nil rfl zeros number
    rw [List.append_nil] at h
    rw [htemplate]
    exact h
  rw [PatternMatch.fill, hread.resolve, String.toList_ofList, List.flatMap_singleton,
    Template.meaning_paddedDigits, Template.groupText]
  split
  · cases hgroup : m.group? number with
    | none => exact List.nil_infix
    | some cs => exact PatternMatch.group?_isInfix hm hgroup
  · exact List.nil_infix

/-- What a rule with a service makes of a match. -/
theorem Rule.evidence_serviceOf {r : Rule} (hservice : r.service ≠ "")
    (hm : p.find? text = some m) (synthesizeCpe : Bool) :
    Evidence r m text synthesizeCpe (r.serviceOf m synthesizeCpe) where
  name := rfl
  confidence := rfl
  ruleId := rfl
  matchedText := by
    show (String.ofList m.matched).toList <:+: text.toList
    rw [String.toList_ofList]
    exact PatternMatch.matched_isInfix hm
  reference template htemplate := by
    right
    show (m.fill template).toList <:+: (String.ofList m.matched).toList
    rw [String.toList_ofList]
    exact PatternMatch.fill_isInfix hm htemplate
  plain := by simp [plainFields, Rule.serviceOf]
  product := by simp [Rule.serviceOf]
  product_ne := by
    simp only [Rule.serviceOf, String.isEmpty_iff]
    split
    · exact hservice
    · assumption
  cpe := by simp [Rule.serviceOf]

/-- Every service of an analysis is found by one of the rules. -/
theorem exists_finds_of_mem_analyze {rules : List CompiledRule}
    (hrules : ∀ c ∈ rules, c.rule.service ≠ "") {synthesizeCpe : Bool} {s : Service}
    (hs : s ∈ (analyze rules text synthesizeCpe).services) :
    ∃ c ∈ rules, c.Finds text synthesizeCpe s := by
  unfold analyze at hs
  split at hs
  · cases hs
  · obtain ⟨c, hc, hfound⟩ := List.mem_filterMap.mp (List.mem_mergeSort.mp hs)
    refine ⟨c, hc, ?_⟩
    unfold CompiledRule.identify? at hfound
    split at hfound
    · cases hfound
    · rename_i p hp
      obtain ⟨m, hm, rfl⟩ := Option.map_eq_some_iff.mp hfound
      constructor
      · simp [CompiledRule.isActive, hp]
      · exact ⟨p, m, hp, hm, Rule.evidence_serviceOf (hrules c hc) hm synthesizeCpe⟩

/-! ### Any answer at any time -/

/-- The answer to the operation returns the service for the text. -/
inductive Returns : Operation → Answer → String → Service → Prop
  | banner {text : String} {found : List Service} {s : Service} (hs : s ∈ found) :
      Returns (.matchBanner text) (.services found) text s
  | response {banner : String} {response : Option (List UInt8)} {found : List Service}
      {s : Service} (hs : s ∈ found) :
      Returns (.matchResponse banner response) (.services found)
        (Engine.searchedText banner response) s
  | best {text : String} {s : Service} : Returns (.bestMatch text) (.best (some s)) text s
  /-- The services for a banner of a batch stand at its place. -/
  | batch {banners : List String} {schedule : List Turn} {found : List (List Service)} {i : ℕ}
      {text : String} {services : List Service} {s : Service}
      (hbanner : banners[i]? = some text) (hfound : found[i]? = some services)
      (hs : s ∈ services) : Returns (.matchBatch banners schedule) (.batch found) text s

namespace Answer

/-- An answer with services comes of a match that found them. -/
theorem eq_ok_of_services {outcome : Except Breakdown (List Service)} {found : List Service}
    (h : ofOutcome services outcome = services found) : outcome = .ok found := by
  cases outcome <;> simp_all [ofOutcome]

theorem exists_of_best {outcome : Except Breakdown (List Service)} {s : Service}
    (h : ofOutcome best (outcome.map List.head?) = best (some s)) :
    ∃ found, outcome = .ok found ∧ found.head? = some s := by
  cases outcome with
  | error cause => cases h
  | ok found => exact ⟨found, rfl, best.inj h⟩

theorem eq_ok_of_batch {outcome : Except Breakdown (Except Failure (List (List Service)))}
    {found : List (List Service)} (h : ofOutcome (ofResult batch) outcome = batch found) :
    outcome = .ok (.ok found) := by
  cases outcome with
  | error cause => cases h
  | ok result =>
    cases result with
    | error f => cases h
    | ok found => rw [batch.inj h]

end Answer

namespace Engine

variable {texts : List String} {e : Engine}

/-- **What is returned for a text is found there by the rules of now.** -/
theorem Faithful.mem_analysis_of_returns (h : Faithful texts e) (hdiff : FingerprintsDiffer texts)
    {now : Moment} {op : Operation} (htexts : ∀ t ∈ op.texts, t ∈ texts) {s : Service}
    (hs : Returns op (e.perform now op).1 text s) : s ∈ (e.analysis text).services := by
  generalize hanswer : (e.perform now op).1 = answer at hs
  cases hs with
  | banner hs =>
    have hfound := Answer.eq_ok_of_services hanswer
    rwa [h.eq_of_matchText hdiff (htexts text (by simp [Operation.texts])) hfound] at hs
  | response hs =>
    have hfound := Answer.eq_ok_of_services hanswer
    rwa [h.eq_of_matchText hdiff (htexts _ (by simp [Operation.texts])) hfound] at hs
  | best =>
    obtain ⟨found, hfound, hhead⟩ := Answer.exists_of_best hanswer
    rw [h.eq_of_matchText hdiff (htexts text (by simp [Operation.texts])) hfound] at hhead
    exact List.mem_of_mem_head? hhead
  | @batch banners schedule found _ _ _ _ hbanner hservices hs =>
    have hfound := Answer.eq_ok_of_batch hanswer
    have hall : found = banners.map _ := h.eq_of_matchBatch hdiff htexts hfound
    rw [hall, List.getElem?_map, hbanner] at hservices
    cases hservices
    simp only [uncached_eq_analysis, searchedText_none] at hs
    exact hs

/-- The rules of an engine name a service, after any history. -/
theorem service_run (config : Config) (ttl : ℕ) (history : List (Moment × Operation)) :
    ∀ c ∈ ((start config ttl).run history).2.registry.rules, c.rule.service ≠ "" := by
  have hinvariant : Invariant (fun _ => True) (fun _ => True) fun e =>
      e.registry.defaultConfidence = config.defaultConfidence ∧
        ∀ c ∈ e.registry.rules, c.rule.service ≠ "" := by
    apply invariant_rules
    intro r now taken ids hr _ hempty
    have hservice : Text.isAllBlank r.service = false := ((Rule.checkFields_eq_ok_iff r).mp hr).1
    have hname : r.service = "" := hempty
    rw [hname] at hservice
    exact absurd hservice (by decide)
  have hstart : ∀ c ∈ (start config ttl).registry.rules, c.rule.service ≠ "" :=
    fun c hc => absurd hc List.not_mem_nil
  exact (hinvariant.run ⟨rfl, hstart⟩ history (fun _ _ => trivial) fun _ _ => trivial).2

/-- **Results only contain text that was there.** After any history, with the cache on or off, every
service that is returned for a text is one that an active rule of the engine finds in this text,
provided that no two texts of the history have the same fingerprint. -/
theorem evidence_run (config : Config) (ttl : ℕ) (history : List (Moment × Operation))
    (now : Moment) (op : Operation)
    (distinct : FingerprintsDiffer (searchedTexts (history ++ [(now, op)]))) :
    let e := ((start config ttl).run history).2
    ∀ text s, Returns op (e.perform now op).1 text s →
      ∃ c ∈ e.registry.rules, c.Finds text config.synthesizeCpe s := by
  intro e text s hs
  have hmem : ∀ t, t ∈ searchedTexts history ∨ t ∈ op.texts →
      t ∈ searchedTexts (history ++ [(now, op)]) := by
    simp [searchedTexts]
  have hfaithful : Faithful (searchedTexts (history ++ [(now, op)])) e :=
    (invariant_faithful _).run (Faithful.of_nil rfl) history (fun _ _ => trivial)
      fun t ht => hmem t (Or.inl ht)
  have hfound := hfaithful.mem_analysis_of_returns distinct (fun t ht => hmem t (Or.inr ht)) hs
  rw [analysis, (run_settings _ history).1] at hfound
  exact exists_finds_of_mem_analyze (service_run config ttl history) hfound

/-- A rule with groups in groups, of which one is optional and one repeated; then its text is
matched twice. -/
def nestedHistory : List (Moment × Operation) :=
  [(⟨0, "2024-01-01 00:00:00"⟩, .load
      [{ id := "a", service := "ssh", pattern := "SSH-(([0-9])[.]?)+(-(Open)?SSH)?",
         product := "$4", version := "$1", info := "$3", os := "$12", cpe := "$4" }]),
    (⟨1, "2024-01-01 00:00:00"⟩, .matchBanner "< SSH-2.0-SSH >")]

/-- The second match is answered from the cache. Group 1 has matched twice, group 4 took no part,
and group 12 does not exist. -/
theorem evidence_nestedHistory :
    let e := ((start {} 100).run nestedHistory).2
    let op := Operation.matchBanner "< SSH-2.0-SSH >"
    let s : Service :=
      { name := "ssh", product := "ssh", version := "0", info := "-SSH", confidence := 80,
        ruleId := "a", matchedText := "SSH-2.0-SSH" }
    FingerprintsDiffer (searchedTexts (nestedHistory ++ [(⟨2, "2024-01-01 00:00:01"⟩, op)])) ∧
      Returns op (e.perform ⟨2, "2024-01-01 00:00:01"⟩ op).1 "< SSH-2.0-SSH >" s ∧
      ∃ c ∈ e.registry.rules, c.Finds "< SSH-2.0-SSH >" true s := by
  intro e op s
  have distinct : FingerprintsDiffer
      (searchedTexts (nestedHistory ++ [(⟨2, "2024-01-01 00:00:01"⟩, op)])) := by
    decide +kernel
  have hanswer : (e.perform ⟨2, "2024-01-01 00:00:01"⟩ op).1 = .services [s] := by decide +kernel
  have hs : Returns op (e.perform ⟨2, "2024-01-01 00:00:01"⟩ op).1 "< SSH-2.0-SSH >" s := by
    rw [hanswer]
    exact .banner List.mem_cons_self
  exact ⟨distinct, hs, evidence_run {} 100 nestedHistory _ op distinct _ s hs⟩

end Engine
end BannerMatch
