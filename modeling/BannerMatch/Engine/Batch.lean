import BannerMatch.Engine.Basic

/-!
# Batches

The banners of a batch are matched by tasks that run side by side. A task goes through the stages of
a match: it looks its banner up, analyzes it, and keeps what it has found. Each stage is carried out
in one go, and which task is next is up to the scheduler, whose turns are given.

A task needs a permit to begin, and has it until it ends; permits are given out in the order of the
banners. When all tasks have ended, the batch has its results, unless one of the tasks broke down.
-/

namespace BannerMatch

/-- How far a task has come. -/
inductive Stage
  /-- Nothing has been done yet. -/
  | waiting
  /-- It is not known what is in the text. -/
  | unknown
  /-- An analysis has found services; they belong to a generation of the cache. -/
  | analyzed (services : List Service) (generation : Nat)
  /-- The match has come to an end. -/
  | ended (outcome : Except Breakdown (List Service))

/-- The match of a text, as far as it has come. -/
structure MatchTask where
  text : String
  stage : Stage := .waiting

/-- Whether a task has ended. -/
def MatchTask.hasEnded (t : MatchTask) : Bool :=
  match t.stage with
  | .ended _ => true
  | _ => false

/-- The services that a task has found, if it has ended; a task that broke down fails. -/
def MatchTask.services (t : MatchTask) : Except Failure (List Service) :=
  match t.stage with
  | .ended (.ok services) => .ok services
  | _ => .error .taskFailed

/-- A turn of a task, by its place in the batch. -/
structure Turn where
  instant : Nat
  place : Nat
deriving DecidableEq, Repr

/-- The tasks of a batch, with the engine that they share. -/
structure TaskGroup where
  tasks : List MatchTask
  engine : Engine

namespace Engine

/-- Takes a task one stage further. -/
def advance (e : Engine) (now : Nat) (t : MatchTask) : MatchTask × Engine :=
  match t.stage with
  | .waiting =>
      match e.lookUp now t.text with
      | (some services, after) =>
          ({ t with stage := .ended (.ok services) }, after.conclude (.ok services))
      | (none, after) => ({ t with stage := .unknown }, after)
  | .unknown =>
      let found := e.evaluate t.text
      ({ t with stage := .analyzed found.1 found.2.registry.cache.generation }, found.2)
  | .analyzed services generation =>
      let kept := e.keep now t.text services generation
      let outcome := kept.1.map fun _ => services
      ({ t with stage := .ended outcome }, kept.2.conclude outcome)
  | .ended _ => (t, e)

/-- Carries out what is left of a task: three stages at most. -/
def complete (e : Engine) (now : Nat) (t : MatchTask) : MatchTask × Engine :=
  let first := e.advance now t
  let second := first.2.advance now first.1
  second.2.advance now second.1

/-- Carries out what is left of tasks, one after the other. -/
def completeAll (e : Engine) (now : Nat) : List MatchTask → List MatchTask × Engine
  | [] => ([], e)
  | t :: rest =>
      let first := e.complete now t
      let others := first.2.completeAll now rest
      (first.1 :: others.1, others.2)

end Engine

namespace TaskGroup

/-- The tasks that are under way before a place: each of them has a permit. -/
def underWay (g : TaskGroup) (place : Nat) : Nat := (g.tasks.take place).countP fun t => !t.hasEnded

/-- A turn. The task goes on if there is a permit left for it. -/
def turn (permits : Nat) (g : TaskGroup) (t : Turn) : TaskGroup :=
  match g.tasks[t.place]? with
  | none => g
  | some task =>
      if g.underWay t.place < permits then
        let next := g.engine.advance t.instant task
        { tasks := g.tasks.set t.place next.1, engine := next.2 }
      else g

/-- All turns, one after the other. -/
def turns (permits : Nat) (g : TaskGroup) (schedule : List Turn) : TaskGroup :=
  schedule.foldl (turn permits) g

/-- Carries out what the turns have left to do. -/
def finish (now : Nat) (g : TaskGroup) : TaskGroup :=
  let left := g.engine.completeAll now g.tasks
  { tasks := left.1, engine := left.2 }

end TaskGroup

namespace Engine

/-- The tasks for banners, before any of them has begun. -/
def batch (e : Engine) (banners : List String) : TaskGroup where
  tasks := banners.map fun banner => { text := banner }
  engine := e

/-- The instant at which the last turn is over. -/
def lastInstant (now : Nat) (schedule : List Turn) : Nat :=
  (schedule.map Turn.instant).getLastD now

/-- The tasks for banners when all of them have ended. -/
def runBatch (e : Engine) (now : Nat) (banners : List String) (schedule : List Turn) : TaskGroup :=
  ((e.batch banners).turns e.config.permits schedule).finish (lastInstant now schedule)

/-- Matches banners side by side, with turns as they are scheduled: the services for each banner, in
the order of the banners. The first task that broke down makes the batch fail. -/
def matchBatch (e : Engine) (now : Nat) (banners : List String) (schedule : List Turn) :
    Except Breakdown (Except Failure (List (List Service))) × Engine :=
  if maxPermits < e.config.permits then (.error .tooManyPermits, e)
  else
    let done := e.runBatch now banners schedule
    (.ok (done.tasks.mapM MatchTask.services), done.engine)

end Engine

end BannerMatch
