import BannerMatch.Analysis
import BannerMatch.Breakdown
import BannerMatch.Engine.Config
import BannerMatch.Json.Records
import BannerMatch.MessagePack.Reader
import BannerMatch.MessagePack.Writer
import BannerMatch.Number.Decimal
import BannerMatch.Payload
import BannerMatch.Probe.Import
import BannerMatch.Registry.Basic
import BannerMatch.Rule.Builtin

/-!
# The engine

An engine has a registry of rules and identifies the services behind banners with them.

* `matchText` looks the text up in the cache, analyzes it if it is not there, and keeps what it has
  found. Only results that are not empty are cached. A match breaks down if its results would expire
  beyond the range of the clock.
* `matchBanner` matches a banner, `matchResponse` a banner with the response of the service.
* Rules come from lists, probe files and rule sets, or one by one.
-/

namespace BannerMatch

/-- The name under which the program is run and signs rule sets. -/
def programName : String := "rsbanner"

/-- The version of the program. -/
def programVersion : String := "0.1.0"

/-- A point in time. -/
structure Moment where
  /-- Nanoseconds since some instant. -/
  instant : Nat
  /-- The time of day. -/
  stamp : String
deriving DecidableEq, Repr

/-- What an engine has done. -/
structure Counters where
  /-- The number of texts that were matched. -/
  totalMatches : Nat := 0
  /-- How often a text was found in the cache. -/
  hits : Nat := 0
  /-- How often a text was looked for in the cache in vain. -/
  misses : Nat := 0
  /-- The number of rules that were tried. -/
  evaluations : Nat := 0
deriving DecidableEq, Repr

/-- An engine. -/
structure Engine where
  config : Config
  registry : Registry
  counters : Counters := {}

/-- Numbers about an engine. -/
structure EngineStats where
  totalRules : Nat
  inertRules : Nat
  counters : Counters
  cachedEntries : Nat
  reloadedAt : Option String
deriving DecidableEq, Repr

/-- How many of the texts that were looked for in the cache were found there. -/
def EngineStats.hitRate (s : EngineStats) : Binary :=
  let lookups := s.counters.hits + s.counters.misses
  if lookups = 0 then .ofRatio 0 1 else .ofRatio s.counters.hits lookups

namespace Engine

/-- An engine without rules. -/
def new (config : Config) : Engine where
  config := config
  registry :=
    { cache := { ttl := config.cacheTtl * nanoseconds, capacity := config.cacheSize }
      defaultConfidence := config.defaultConfidence }

/-! ### Rules -/

/-- Replaces the rules. -/
def load (e : Engine) (now : Moment) (rules : List Rule) : LoadReport × Engine :=
  let loaded := e.registry.load now.stamp rules
  (loaded.1, { e with registry := loaded.2 })

/-- Replaces the rules by those of a probe file. -/
def loadProbes (e : Engine) (now : Moment) (source : Probe.Source) :
    Except Failure ((Probe.Report × LoadReport) × Engine) :=
  (Probe.importSource e.config.probes source).map fun report =>
    let loaded := e.load now report.rules
    ((report, loaded.1), loaded.2)

/-- Adds a rule if nothing stands in the way: the identifier that it got, or why it was not added,
with the engine afterwards. -/
def add (e : Engine) (now : Moment) (rule : Rule) : Except Failure String × Engine :=
  let added := e.registry.add now.stamp rule
  (added.1, { e with registry := added.2 })

/-- Removes the rules with an identifier; tells whether there was one. -/
def remove (e : Engine) (id : String) : Bool × Engine :=
  let removed := e.registry.remove id
  (removed.1, { e with registry := removed.2 })

/-- The rules, inert ones included, in order. -/
def rules (e : Engine) : List Rule := e.registry.ruleList

/-! ### Rule sets -/

/-- The rules as a rule set. -/
def exportRules (e : Engine) (description : String) : RuleSet where
  version := programVersion
  description := description
  author := programName
  rules := e.rules

/-- What exported texts and bytes are called. -/
def exportDescription : String := "exported rules"

/-- The rules as a rule set in JSON. -/
def exportJson (e : Engine) (pretty : Bool) : List Char :=
  (e.exportRules exportDescription).jsonText pretty

/-- The rules as a rule set in MessagePack. -/
def exportMessagePack (e : Engine) : List UInt8 := (e.exportRules exportDescription).messagePack

/-- Replaces the rules by those of a rule set in JSON. -/
def importJson (e : Engine) (now : Moment) (text : List Char) :
    Except Failure (LoadReport × Engine) :=
  match RuleSet.ofJsonText text with
  | .error f => .error (.json f)
  | .ok set => .ok (e.load now set.rules)

/-- Replaces the rules by those of a rule set in MessagePack. -/
def importMessagePack (e : Engine) (now : Moment) (bytes : List UInt8) :
    Except Failure (LoadReport × Engine) :=
  match RuleSet.ofMessagePack? bytes with
  | none => .error .messagePack
  | some set => .ok (e.load now set.rules)

/-! ### Matching -/

/-- The engine with other counters. -/
def count (e : Engine) (f : Counters → Counters) : Engine := { e with counters := f e.counters }

/-- The engine with another cache. -/
def withCache (e : Engine) (c : Cache) : Engine :=
  { e with registry := { e.registry with cache := c } }

/-- What the rules find in a text. -/
def analysis (e : Engine) (text : String) : Analysis :=
  analyze e.registry.rules text e.config.synthesizeCpe

/-- Analyzes a text and counts the rules that were tried. -/
def evaluate (e : Engine) (text : String) : List Service × Engine :=
  let found := e.analysis text
  (found.services,
    e.count fun c => { c with evaluations := c.evaluations + found.evaluations })

/-- The services that are known to be in a text before it is analyzed: in an empty text there are
none, and other ones may be cached. -/
def lookUp (e : Engine) (now : Nat) (text : String) : Option (List Service) × Engine :=
  if text.isEmpty then (some [], e)
  else if e.config.cacheEnabled then
    match e.registry.cache.get now (Fingerprint.ofText text) with
    | (some services, cache) =>
        (some services, (e.withCache cache).count fun c => { c with hits := c.hits + 1 })
    | (none, cache) => (none, (e.withCache cache).count fun c => { c with misses := c.misses + 1 })
  else (none, e)

/-- Keeps the services that an analysis of a text in a generation has found, if the cache is
enabled. -/
def keep (e : Engine) (now : Nat) (text : String) (services : List Service) (generation : Nat) :
    Except Breakdown Unit × Engine :=
  if e.config.cacheEnabled then
    let kept := e.registry.cache.put now (Fingerprint.ofText text) services generation
    (kept.1, e.withCache kept.2)
  else (.ok (), e)

/-- The services in a text. -/
def search (e : Engine) (now : Nat) (text : String) : Except Breakdown (List Service) × Engine :=
  match e.lookUp now text with
  | (some services, after) => (.ok services, after)
  | (none, after) =>
      let found := after.evaluate text
      let kept := found.2.keep now text found.1 found.2.registry.cache.generation
      (kept.1.map fun _ => found.1, kept.2)

/-- Counts a match that has come to an end, unless it broke down. -/
def conclude (e : Engine) (outcome : Except Breakdown (List Service)) : Engine :=
  if outcome.isOk then e.count fun c => { c with totalMatches := c.totalMatches + 1 } else e

/-- Matches a text at an instant. -/
def matchText (e : Engine) (now : Nat) (text : String) :
    Except Breakdown (List Service) × Engine :=
  let found := e.search now text
  (found.1, found.2.conclude found.1)

/-- Matches a banner. -/
def matchBanner (e : Engine) (now : Nat) (banner : String) :
    Except Breakdown (List Service) × Engine :=
  e.matchText now banner

/-- The text that is searched for a banner and a response; without a banner it is empty. -/
def searchedText (banner : String) (response : Option (List UInt8)) : String :=
  if banner.isEmpty then banner else String.ofList (Payload.searchable banner.toList response)

/-- Matches a banner with the response of the service. -/
def matchResponse (e : Engine) (now : Nat) (banner : String) (response : Option (List UInt8)) :
    Except Breakdown (List Service) × Engine :=
  e.matchText now (searchedText banner response)

/-- The service of the highest rank. -/
def bestMatch (e : Engine) (now : Nat) (banner : String) :
    Except Breakdown (Option Service) × Engine :=
  let found := e.matchBanner now banner
  (found.1.map List.head?, found.2)

/-! ### Cache and numbers -/

/-- Empties the cache. -/
def clearCache (e : Engine) : Engine := { e with registry := e.registry.clearCache }

/-- Numbers about the engine. -/
def stats (e : Engine) : EngineStats where
  totalRules := e.registry.stats.total
  inertRules := e.registry.stats.inert
  counters := e.counters
  cachedEntries := e.registry.cache.size
  reloadedAt := e.registry.reloadedAt

end Engine

end BannerMatch
