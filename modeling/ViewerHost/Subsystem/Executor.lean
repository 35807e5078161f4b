import ViewerHost.Settings.Read
import ViewerHost.Subsystem.Error
import ViewerHost.Time.Instant

namespace ViewerHost

structure Flow where
  project : String
  name : String
deriving DecidableEq, Repr

structure ExecutorStats where
  submitted : Nat
  running : Nat
  finished : Nat
  maxConcurrent : Nat
  lastSubmitted : Option Instant
deriving DecidableEq, Repr

structure Executor where
  maxConcurrent : Nat
  nextId : Nat
  finished : Nat
  /-- Executions by ascending identifier. -/
  running : List (Nat × Flow)
  lastSubmitted : Option Instant
  isShutDown : Bool
deriving DecidableEq, Repr

namespace Executor

def limitKey : String := "executor.max.concurrent"

def ofLimit (maxConcurrent : Nat) : Executor := ⟨maxConcurrent, 1, 0, [], none, false⟩

def ofSettings (s : Settings) : Except SubsystemError Executor := do
  let limit ← (s.getIntOr limitKey 10).mapError .settings
  if limit < 1 then .error (.notPositive limitKey limit) else .ok (ofLimit limit.toNat)

def submit (e : Executor) (now : Instant) (flow : Flow) : Except SubsystemError (Nat × Executor) :=
  if e.isShutDown then .error (.shutDown "executor")
  else if e.maxConcurrent ≤ e.running.length then
    .error (.invalid ("Executor is full (" ++ toString e.running.length ++ " running)"))
  else
    .ok (e.nextId, { e with
      nextId := e.nextId + 1
      running := e.running ++ [(e.nextId, flow)]
      lastSubmitted := some now })

def isRunning (e : Executor) (id : Nat) : Bool := e.running.any (·.1 == id)

def finish (e : Executor) (id : Nat) : Except SubsystemError Executor :=
  if e.isRunning id then
    .ok { e with
      finished := e.finished + 1
      running := e.running.filter (·.1 != id) }
  else .error (.invalid ("Execution " ++ toString id ++ " is not running"))

def stats (e : Executor) : ExecutorStats :=
  ⟨e.nextId - 1, e.running.length, e.finished, e.maxConcurrent, e.lastSubmitted⟩

def shutDown (e : Executor) : Executor :=
  if e.isShutDown then e else { e with isShutDown := true, running := [] }

end Executor

inductive ExecutorManager where
  | own (e : Executor)
  | standIn (s : StandIn) (running : List (Nat × Flow)) (stats : ExecutorStats)

namespace ExecutorManager

def submit (m : ExecutorManager) (now : Instant) (flow : Flow) :
    Except SubsystemError (Nat × ExecutorManager) :=
  match m with
  | own e => (e.submit now flow).map fun (id, after) => (id, own after)
  | standIn s _ _ => .error s.refusal

def finish (m : ExecutorManager) (id : Nat) : Except SubsystemError ExecutorManager :=
  match m with
  | own e => (e.finish id).map own
  | standIn s _ _ => .error s.refusal

def running : ExecutorManager → List (Nat × Flow)
  | own e => e.running
  | standIn _ running _ => running

def stats : ExecutorManager → ExecutorStats
  | own e => e.stats
  | standIn _ _ stats => stats

def shutDown : ExecutorManager → ExecutorManager × Shutdown
  | own e => (own e.shutDown, .done)
  | standIn s running stats => (standIn s running stats, s.shutdown)

end ExecutorManager

end ViewerHost
