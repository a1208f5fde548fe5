import BannerMatch.Cache.Sweeper
import BannerMatch.Engine.Batch

/-!
# Operations on an engine

`Engine.perform` carries out one operation and `Engine.run` a history of them. An operation that
fails leaves the engine as it was, a batch apart; a history goes on after an operation that broke
down.
-/

namespace BannerMatch

/-- What can be asked of an engine. -/
inductive Operation
  | load (rules : List Rule)
  | loadBuiltin
  | loadProbes (source : Probe.Source)
  | add (rule : Rule)
  | addSimple (rule : SimpleRule)
  | remove (id : String)
  | importJson (text : List Char)
  | importMessagePack (bytes : List UInt8)
  | matchBanner (banner : String)
  | matchResponse (banner : String) (response : Option (List UInt8))
  | bestMatch (banner : String)
  /-- Matches banners side by side. -/
  | matchBatch (banners : List String) (schedule : List Turn)
  | clearCache
  /-- Sweeps the cache when a scheduler, if there is one, wakes the sweeper. -/
  | sweep (wakeups : Option (List Nat))
deriving DecidableEq, Repr

/-- What an engine answers. -/
inductive Answer
  | loaded (report : LoadReport)
  | imported (read : Probe.Report) (report : LoadReport)
  | added (id : String)
  | removed (found : Bool)
  | services (found : List Service)
  | best (found : Option Service)
  | batch (found : List (List Service))
  | done
  | failed (failure : Failure)
  /-- There is no answer. -/
  | brokenDown (cause : Breakdown)
deriving DecidableEq, Repr

/-- The answer to an operation that may have failed. -/
def Answer.ofResult {α : Type} (answer : α → Answer) : Except Failure α → Answer
  | .ok a => answer a
  | .error f => .failed f

/-- The answer to an operation that may have broken down. -/
def Answer.ofOutcome {α : Type} (answer : α → Answer) : Except Breakdown α → Answer
  | .ok a => answer a
  | .error cause => .brokenDown cause

namespace Engine

/-- The answer to an operation that may fail, and the engine after it. -/
def settle {α : Type} (e : Engine) (result : Except Failure (α × Engine)) (answer : α → Answer) :
    Answer × Engine :=
  match result with
  | .ok (a, after) => (answer a, after)
  | .error f => (.failed f, e)

/-- Sweeps the cache when a scheduler wakes the sweeper. The engine uses its cache all the time. -/
def runSweeper (e : Engine) (wakeups : Option (List Nat)) : Except Failure (Unit × Engine) :=
  (e.registry.cache.runSweeper e.config.sweepPeriod (fun _ => true) wakeups).map fun swept =>
    ((), e.withCache swept.2)

/-- Carries out an operation. -/
def perform (e : Engine) (now : Moment) : Operation → Answer × Engine
  | .load rules => let r := e.load now rules; (.loaded r.1, r.2)
  | .loadBuiltin => let r := e.load now builtinRules; (.loaded r.1, r.2)
  | .loadProbes source => e.settle (e.loadProbes now source) fun r => .imported r.1 r.2
  | .add rule => let r := e.add now rule; (.ofResult .added r.1, r.2)
  | .addSimple rule => let r := e.add now rule.toRule; (.ofResult .added r.1, r.2)
  | .remove id => let r := e.remove id; (.removed r.1, r.2)
  | .importJson text => e.settle (e.importJson now text) .loaded
  | .importMessagePack bytes => e.settle (e.importMessagePack now bytes) .loaded
  | .matchBanner banner =>
      let r := e.matchBanner now.instant banner; (.ofOutcome .services r.1, r.2)
  | .matchResponse banner response =>
      let r := e.matchResponse now.instant banner response; (.ofOutcome .services r.1, r.2)
  | .bestMatch banner => let r := e.bestMatch now.instant banner; (.ofOutcome .best r.1, r.2)
  | .matchBatch banners schedule =>
      let r := e.matchBatch now.instant banners schedule
      (.ofOutcome (.ofResult .batch) r.1, r.2)
  | .clearCache => (.done, e.clearCache)
  | .sweep wakeups => e.settle (e.runSweeper wakeups) fun _ => .done

/-- Carries out operations one after the other, each at its moment. -/
def run (e : Engine) : List (Moment × Operation) → List Answer × Engine
  | [] => ([], e)
  | (now, op) :: rest =>
      let first := e.perform now op
      let others := first.2.run rest
      (first.1 :: others.1, others.2)

end Engine

end BannerMatch
