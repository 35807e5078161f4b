import ViewerHost.Management.Bridge
import ViewerHost.Subsystem.Assembly

namespace ViewerHost

structure Closedown where
  subsystems : Subsystems
  closings : List Closing

namespace Closedown

def events (c : Closedown) : List SubsystemEvent := c.closings.map Closing.event

def failures (c : Closedown) : List (Role × String) := c.closings.filterMap Closing.failure?

end Closedown

namespace Subsystems

def submit (s : Subsystems) (clock : Instant) (flow : Flow) :
    Except SubsystemError (Nat × Subsystems) := do
  let (id, manager) ← s.executor.manager.submit clock flow
  .ok (id, { s with executor := { s.executor with manager } })

def finish (s : Subsystems) (id : Nat) : Except SubsystemError Subsystems := do
  let manager ← s.executor.manager.finish id
  .ok { s with executor := { s.executor with manager } }

def addRule (s : Subsystems) (flow : Flow) : Except SubsystemError Subsystems := do
  let manager ← s.sla.manager.addRule flow
  .ok { s with sla := { s.sla with manager } }

def check (s : Subsystems) : Except SubsystemError (Nat × Subsystems) := do
  let (watched, manager) ← s.sla.manager.check s.executor.manager.running
  .ok (watched, { s with sla := { s.sla with manager } })

/-- A refusal may leave a mark: see `Scheduler.add`. -/
def addSchedule (s : Subsystems) (flow : Flow) (firstRun : Instant) (period : Option Duration) :
    Subsystems × Except SubsystemError Nat :=
  let (schedules, sla, outcome) :=
    s.schedules.manager.add s.projects.manager s.sla.manager flow firstRun period
  ({ s with
    schedules := { s.schedules with manager := schedules }
    sla := { s.sla with manager := sla } }, outcome)

def removeSchedule (s : Subsystems) (id : Nat) : Subsystems × Bool :=
  let (manager, found) := s.schedules.manager.remove id
  ({ s with schedules := { s.schedules with manager } }, found)

def triggerDue (s : Subsystems) (now clock : Instant) :
    Subsystems × Except TriggerFailure (List Nat) :=
  let (schedules, executor, outcome) := s.schedules.manager.trigger s.executor.manager now clock
  ({ s with
    schedules := { s.schedules with manager := schedules }
    executor := { s.executor with manager := executor } }, outcome)

def close (s : Subsystems) : Role → Subsystems × Closing
  | .users =>
    ({ s with users := { s.users with manager := s.users.manager.shutDown.1 } },
      Assembly.closeUsers s.users)
  | .projects =>
    ({ s with projects := { s.projects with manager := s.projects.manager.shutDown.1 } },
      Assembly.closeProjects s.projects)
  | .executor =>
    ({ s with executor := { s.executor with manager := s.executor.manager.shutDown.1 } },
      Assembly.closeExecutor s.executor)
  | .sla =>
    ({ s with sla := { s.sla with manager := s.sla.manager.shutDown.1 } },
      Assembly.closeSla s.sla)
  | .schedules =>
    ({ s with schedules := { s.schedules with manager := s.schedules.manager.shutDown.1 } },
      Assembly.closeSchedules s.schedules)

def closeNext (done : Closedown) (role : Role) : Closedown :=
  let (subsystems, closing) := done.subsystems.close role
  ⟨subsystems, done.closings ++ [closing]⟩

/-- Shuts down every manager, those that need others first, whatever a shutdown comes to. -/
def closeAll (s : Subsystems) : Closedown := Role.buildOrder.reverse.foldl closeNext ⟨s, []⟩

end Subsystems

namespace Management

def runningText (execution : Nat × Flow) : String :=
  toString execution.1 ++ ":" ++ execution.2.project ++ "." ++ execution.2.name

def executorAttribute (m : ExecutorManager) : String → Option Attribute
  | "NumRunningFlows" => some (.ofCount m.stats.running)
  | "NumSubmittedFlows" => some (.ofCount m.stats.submitted)
  | "NumFinishedFlows" => some (.ofCount m.stats.finished)
  | "MaxConcurrentFlows" => some (.ofCount m.stats.maxConcurrent)
  | "LastSubmittedTime" => some (.ofOption .time m.stats.lastSubmitted)
  | "RunningFlows" => some (.list (m.running.map runningText))
  | _ => none

def slaAttribute (m : SlaManager) : String → Option Attribute
  | "NumRules" => some (.ofCount m.stats.rules)
  | "CheckIntervalMs" => some (.ofCount m.stats.checkIntervalMs)
  | "NumWatchedFlows" => some (.ofCount m.stats.watched)
  | _ => none

def scheduleAttribute (m : ScheduleManager) : String → Option Attribute
  | "NumSchedules" => some (.ofCount m.stats.schedules)
  | "NumTriggered" => some (.ofCount m.stats.triggered)
  | "NextScheduledTime" => some (.ofOption .time m.stats.nextRun)
  | _ => none

def executorComponent : Component Subsystems where
  kind := "flowgate.executor"
  names := ["NumRunningFlows", "NumSubmittedFlows", "NumFinishedFlows", "MaxConcurrentFlows",
    "LastSubmittedTime", "RunningFlows"]
  read := fun s => executorAttribute s.executor.manager
  release := .ok ()

def slaComponent : Component Subsystems where
  kind := "flowgate.sla"
  names := ["NumRules", "CheckIntervalMs", "NumWatchedFlows"]
  read := fun s => slaAttribute s.sla.manager
  release := .ok ()

def scheduleComponent : Component Subsystems where
  kind := "flowgate.scheduler"
  names := ["NumSchedules", "NumTriggered", "NextScheduledTime"]
  read := fun s => scheduleAttribute s.schedules.manager
  release := .ok ()

end Management

end ViewerHost
