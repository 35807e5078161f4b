import ViewerHost.Subsystem.Role
import ViewerHost.Subsystem.Schedule
import ViewerHost.Subsystem.Users

/-!
Putting the managers of a server together, and shutting them down. Every role has named
implementations; the settings choose one for each role. A failure shuts down what was built before
it. All calls of a constructor that succeeded and of a shutdown are recorded as events.
-/

namespace ViewerHost

structure ScheduleNeeds where
  executor : ExecutorManager
  projects : ProjectManager
  sla : SlaManager

structure Implementations where
  users : Dictionary (Settings → Except SubsystemError UserManager)
  projects : Dictionary (Settings → Except SubsystemError ProjectManager)
  executor : Dictionary (Settings → Except SubsystemError ExecutorManager)
  sla : Dictionary (Settings → ExecutorManager → Except SubsystemError SlaManager)
  schedules : Dictionary (Settings → ScheduleNeeds → Except SubsystemError ScheduleManager)

structure Installed (α : Type) where
  tag : String
  manager : α

structure Subsystems where
  users : Installed UserManager
  projects : Installed ProjectManager
  executor : Installed ExecutorManager
  sla : Installed SlaManager
  schedules : Installed ScheduleManager

inductive SubsystemEvent where
  | built (role : Role) (tag : String)
  | shutDown (role : Role) (tag : String)
deriving DecidableEq, Repr

structure Closing where
  role : Role
  tag : String
  outcome : Shutdown
deriving DecidableEq, Repr

namespace Closing

def event (c : Closing) : SubsystemEvent := .shutDown c.role c.tag

def failure? (c : Closing) : Option (Role × String) := c.outcome.reason?.map (c.role, ·)

end Closing

namespace Implementations

def empty : Implementations := ⟨.empty, .empty, .empty, .empty, .empty⟩

def standard : Implementations where
  users := Dictionary.empty.insert Role.users.defaultTag fun s =>
    (UserStore.ofSettings s).map .memory
  projects := Dictionary.empty.insert Role.projects.defaultTag fun s =>
    (ProjectStore.ofSettings s).map .memory
  executor := Dictionary.empty.insert Role.executor.defaultTag fun s =>
    (Executor.ofSettings s).map .own
  sla := Dictionary.empty.insert Role.sla.defaultTag fun s _ =>
    (Sla.ofSettings s).map .basic
  schedules := Dictionary.empty.insert Role.schedules.defaultTag fun _ _ =>
    .ok (.basic .empty)

def tags (i : Implementations) : Role → List String
  | .users => i.users.keys
  | .projects => i.projects.keys
  | .executor => i.executor.keys
  | .sla => i.sla.keys
  | .schedules => i.schedules.keys

end Implementations

structure AssemblyRun where
  events : List SubsystemEvent
  product : Except AssemblyError Subsystems

namespace Assembly

def select (s : Settings) (role : Role) (known : Dictionary β) : Except AssemblyError (String × β) := do
  let tag ← (s.getTextOr role.key role.defaultTag).mapError .settings
  match known.get? tag with
  | some make => .ok (tag, make)
  | none => .error (.unknownImplementation role tag known.keys)

def install (s : Settings) (role : Role) (known : Dictionary β)
    (make : β → Except SubsystemError α) : Except AssemblyError (Installed α) := do
  let (tag, chosen) ← select s role known
  match make chosen with
  | .ok manager => .ok ⟨tag, manager⟩
  | .error cause => .error (.construction role tag cause)

def closeUsers (i : Installed UserManager) : Closing := ⟨.users, i.tag, i.manager.shutDown.2⟩

def closeProjects (i : Installed ProjectManager) : Closing := ⟨.projects, i.tag, i.manager.shutDown.2⟩

def closeExecutor (i : Installed ExecutorManager) : Closing := ⟨.executor, i.tag, i.manager.shutDown.2⟩

def closeSla (i : Installed SlaManager) : Closing := ⟨.sla, i.tag, i.manager.shutDown.2⟩

def closeSchedules (i : Installed ScheduleManager) : Closing :=
  ⟨.schedules, i.tag, i.manager.shutDown.2⟩

def builtEvent (c : Closing) : SubsystemEvent := .built c.role c.tag

def abandon (built : List Closing) (cause : AssemblyError) : AssemblyRun :=
  ⟨built.map builtEvent ++ built.reverse.map Closing.event, .error cause⟩

def run (i : Implementations) (s : Settings) : AssemblyRun :=
  match install s .users i.users fun make => make s with
  | .error e => abandon [] e
  | .ok users =>
  match install s .projects i.projects fun make => make s with
  | .error e => abandon [closeUsers users] e
  | .ok projects =>
  match install s .executor i.executor fun make => make s with
  | .error e => abandon [closeUsers users, closeProjects projects] e
  | .ok executor =>
  match install s .sla i.sla fun make => make s executor.manager with
  | .error e => abandon [closeUsers users, closeProjects projects, closeExecutor executor] e
  | .ok sla =>
  match install s .schedules i.schedules fun make =>
    make s ⟨executor.manager, projects.manager, sla.manager⟩ with
  | .error e =>
    abandon [closeUsers users, closeProjects projects, closeExecutor executor, closeSla sla] e
  | .ok schedules =>
    ⟨[closeUsers users, closeProjects projects, closeExecutor executor, closeSla sla,
        closeSchedules schedules].map builtEvent,
      .ok ⟨users, projects, executor, sla, schedules⟩⟩

end Assembly

end ViewerHost
