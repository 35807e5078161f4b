import ViewerHost.Subsystem.Projects
import ViewerHost.Subsystem.Sla
import ViewerHost.Time.Duration

namespace ViewerHost

structure Schedule where
  id : Nat
  flow : Flow
  nextRun : Instant
  /-- Without a period the schedule runs once. -/
  period : Option Duration
deriving DecidableEq, Repr

structure ScheduleStats where
  schedules : Nat
  triggered : Nat
  nextRun : Option Instant
deriving DecidableEq, Repr

structure Scheduler where
  schedules : List Schedule
  nextId : Nat
  triggered : Nat
  isShutDown : Bool
deriving DecidableEq, Repr

inductive TriggerFailure where
  | refused (cause : SubsystemError)
  | outOfRange
deriving DecidableEq, Repr

namespace Schedule

def isDue (s : Schedule) (now : Instant) : Bool := s.nextRun.le now

/-- Puts a run forward by a period at a time until it lies after `now`. Where the next of these
steps cannot be named, it stops at the run before. Periods are positive: see `Scheduler.add`. -/
def catchUp (now : Instant) (period : Duration) (run : Instant) : Except Instant Instant :=
  if behind : run.le now = true ∧ period.isPositive = true then
    match later : run.advance? period.nanos with
    | some next =>
      have := Instant.seconds_le_of_le behind.1
      have := Instant.later_of_advance? later (Duration.isPositive_iff.1 behind.2)
      catchUp now period next
    | none => .error run
  else .ok run
termination_by ((now.seconds + 1 - run.seconds).toNat, 2 * Instant.nanosPerSecond - run.nanos)
decreasing_by
  rw [Prod.lex_def]
  omega

def follow (s : Schedule) (now : Instant) : Except Schedule Schedule :=
  match s.period with
  | none => .ok s
  | some period =>
    match catchUp now period s.nextRun with
    | .ok next => .ok { s with nextRun := next }
    | .error last => .error { s with nextRun := last }

end Schedule

structure TriggerPass where
  executor : ExecutorManager
  started : List (Schedule × Nat)
  /-- The schedules after the pass, those that have run for the last time still among them. -/
  schedules : List Schedule
  outOfRange : Bool

namespace TriggerPass

def after (s : Schedule) (pass : TriggerPass) : TriggerPass :=
  { pass with schedules := s :: pass.schedules }

def starting (s : Schedule) (id : Nat) (pass : TriggerPass) : TriggerPass :=
  { pass with started := (s, id) :: pass.started }

def completed (pass : TriggerPass) : List Nat :=
  (pass.started.filter fun (s, _) => s.period.isNone).map fun (s, _) => s.id

def remaining (pass : TriggerPass) : List Schedule :=
  pass.schedules.filter fun s => !pass.completed.contains s.id

end TriggerPass

namespace Scheduler

def empty : Scheduler := ⟨[], 1, 0, false⟩

def stopped : SubsystemError := .shutDown "scheduler"

/-- The schedule is listed before its rule is asked for, and stays when the rule is refused. -/
def add (s : Scheduler) (projects : ProjectManager) (sla : SlaManager) (flow : Flow)
    (firstRun : Instant) (period : Option Duration) :
    Scheduler × SlaManager × Except SubsystemError Nat :=
  if s.isShutDown then (s, sla, .error stopped)
  else if !projects.contains flow.project then
    (s, sla, .error (.invalid ("Unknown project '" ++ flow.project ++ "'")))
  else if period.any fun p => !p.isPositive then
    (s, sla, .error (.invalid "Schedule period must be positive"))
  else
    let after := { s with
      nextId := s.nextId + 1
      schedules := s.schedules ++ [⟨s.nextId, flow, firstRun, period⟩] }
    match sla.addRule flow with
    | .error e => (after, sla, .error e)
    | .ok sla => (after, sla, .ok s.nextId)

def remove (s : Scheduler) (id : Nat) : Scheduler × Bool :=
  ({ s with schedules := s.schedules.filter (·.id != id) }, s.schedules.any (·.id == id))

/-- Submits the due schedules in order. Nothing is done after a next run that cannot be named: its
schedule stays at the last run that can be, which is due. -/
def pass (now clock : Instant) (executor : ExecutorManager) : List Schedule → TriggerPass
  | [] => ⟨executor, [], [], false⟩
  | s :: rest =>
    if s.isDue now then
      match executor.submit clock s.flow with
      | .error _ => (pass now clock executor rest).after s
      | .ok (id, executor) =>
        match s.follow now with
        | .ok next => ((pass now clock executor rest).after next).starting s id
        | .error last => ⟨executor, [(s, id)], last :: rest, true⟩
    else (pass now clock executor rest).after s

/-- Runs what is due. Time is read from `clock`; what is due is decided by `now`. -/
def trigger (s : Scheduler) (executor : ExecutorManager) (now clock : Instant) :
    Scheduler × ExecutorManager × Except TriggerFailure (List Nat) :=
  if s.isShutDown then (s, executor, .error (.refused stopped))
  else
    let done := pass now clock executor s.schedules
    if done.outOfRange then
      ({ s with schedules := done.schedules }, done.executor, .error .outOfRange)
    else
      ({ s with schedules := done.remaining, triggered := s.triggered + done.started.length },
        done.executor, .ok (done.started.map (·.2)))

def earlier (a b : Instant) : Instant := if b.lt a then b else a

def earliest? : List Instant → Option Instant
  | [] => none
  | t :: rest => some (rest.foldl earlier t)

def stats (s : Scheduler) : ScheduleStats :=
  ⟨s.schedules.length, s.triggered, earliest? (s.schedules.map (·.nextRun))⟩

def shutDown (s : Scheduler) : Scheduler := { s with isShutDown := true }

end Scheduler

inductive ScheduleManager where
  | basic (s : Scheduler)
  | standIn (s : StandIn)

namespace ScheduleManager

def add (m : ScheduleManager) (projects : ProjectManager) (sla : SlaManager) (flow : Flow)
    (firstRun : Instant) (period : Option Duration) :
    ScheduleManager × SlaManager × Except SubsystemError Nat :=
  match m with
  | basic s =>
    let (after, sla, outcome) := s.add projects sla flow firstRun period
    (basic after, sla, outcome)
  | standIn s => (standIn s, sla, .error s.refusal)

def remove (m : ScheduleManager) (id : Nat) : ScheduleManager × Bool :=
  match m with
  | basic s =>
    let (after, found) := s.remove id
    (basic after, found)
  | standIn s => (standIn s, false)

def schedules : ScheduleManager → List Schedule
  | basic s => s.schedules
  | standIn _ => []

def trigger (m : ScheduleManager) (executor : ExecutorManager) (now clock : Instant) :
    ScheduleManager × ExecutorManager × Except TriggerFailure (List Nat) :=
  match m with
  | basic s =>
    let (after, executor, outcome) := s.trigger executor now clock
    (basic after, executor, outcome)
  | standIn s => (standIn s, executor, .error (.refused s.refusal))

def stats : ScheduleManager → ScheduleStats
  | basic s => s.stats
  | standIn _ => ⟨0, 0, none⟩

def shutDown : ScheduleManager → ScheduleManager × Shutdown
  | basic s => (basic s.shutDown, .done)
  | standIn s => (standIn s, s.shutdown)

end ScheduleManager

end ViewerHost
