import ViewerHost.Proofs.Subsystem.Assembly
import ViewerHost.Proofs.Subsystem.Calls

/-!
What an assembly builds, and who shuts it down. The roles take their turns in build order, and each
is given the managers of those before it. The first turn that comes to nothing ends the assembly,
and what was built by then is shut down, the last one first. What is built whole is left alone until
it is closed, in the same order. No shutdown keeps another from being called.
-/

namespace ViewerHost

open Assembly Outcome

inductive Part where
  | users (i : Installed UserManager)
  | projects (i : Installed ProjectManager)
  | executor (i : Installed ExecutorManager)
  | sla (i : Installed SlaManager)
  | schedules (i : Installed ScheduleManager)

namespace Part

def closing : Part → Closing
  | users i => closeUsers i
  | projects i => closeProjects i
  | executor i => closeExecutor i
  | sla i => closeSla i
  | schedules i => closeSchedules i

def role (p : Part) : Role := p.closing.role

def built (p : Part) : SubsystemEvent := .built p.role p.closing.tag

def shutDown (p : Part) : SubsystemEvent := .shutDown p.role p.closing.tag

end Part

def Subsystems.parts (s : Subsystems) : List Part :=
  [.users s.users, .projects s.projects, .executor s.executor, .sla s.sla, .schedules s.schedules]

namespace Assembly

section Turns

variable {α β : Type} (s : Settings)

/-- How the turn of one role ends: with the manager that the chosen implementation makes, or with
the error that ends the assembly. -/
inductive Chooses (role : Role) (known : Dictionary β) (make : β → Except SubsystemError α) :
    Except AssemblyError (Installed α) → Prop where
  | unreadable {cause : SettingsError} :
      s.getTextOr role.key role.defaultTag = .error cause →
      Chooses role known make (.error (.settings cause))
  | unknown {tag : String} :
      s.getTextOr role.key role.defaultTag = .ok tag → known.get? tag = none →
      Chooses role known make (.error (.unknownImplementation role tag known.keys))
  | failed {tag : String} {chosen : β} {cause : SubsystemError} :
      s.getTextOr role.key role.defaultTag = .ok tag → known.get? tag = some chosen →
      make chosen = .error cause →
      Chooses role known make (.error (.construction role tag cause))
  | built {tag : String} {chosen : β} {manager : α} :
      s.getTextOr role.key role.defaultTag = .ok tag → known.get? tag = some chosen →
      make chosen = .ok manager →
      Chooses role known make (.ok ⟨tag, manager⟩)

variable (i : Implementations)

/-- The next role's turn after those that have built a part each. It is given the managers among
these parts that it depends on. -/
inductive Turn : List Part → Except AssemblyError Part → Prop where
  | users {outcome : Except AssemblyError (Installed UserManager)} :
      Chooses s .users i.users (fun make => make s) outcome → Turn [] (outcome.map .users)
  | projects {users : Installed UserManager}
      {outcome : Except AssemblyError (Installed ProjectManager)} :
      Chooses s .projects i.projects (fun make => make s) outcome →
      Turn [.users users] (outcome.map .projects)
  | executor {users : Installed UserManager} {projects : Installed ProjectManager}
      {outcome : Except AssemblyError (Installed ExecutorManager)} :
      Chooses s .executor i.executor (fun make => make s) outcome →
      Turn [.users users, .projects projects] (outcome.map .executor)
  | sla {users : Installed UserManager} {projects : Installed ProjectManager}
      {executor : Installed ExecutorManager}
      {outcome : Except AssemblyError (Installed SlaManager)} :
      Chooses s .sla i.sla (fun make => make s executor.manager) outcome →
      Turn [.users users, .projects projects, .executor executor] (outcome.map .sla)
  | schedules {users : Installed UserManager} {projects : Installed ProjectManager}
      {executor : Installed ExecutorManager} {sla : Installed SlaManager}
      {outcome : Except AssemblyError (Installed ScheduleManager)} :
      Chooses s .schedules i.schedules
        (fun make => make s ⟨executor.manager, projects.manager, sla.manager⟩) outcome →
      Turn [.users users, .projects projects, .executor executor, .sla sla]
        (outcome.map .schedules)

inductive Builds : List Part → Prop where
  | nil : Builds []
  | next {parts : List Part} {part : Part} :
      Builds parts → Turn s i parts (.ok part) → Builds (parts ++ [part])

end Turns

variable {i : Implementations} {s : Settings} {parts : List Part} {part : Part}
  {outcome : Except AssemblyError Part}

theorem Chooses.made {α β : Type} {role : Role} {known : Dictionary β}
    {make : β → Except SubsystemError α} {installed : Installed α}
    (chooses : Chooses s role known make (.ok installed)) :
    ∃ chosen, known.get? installed.tag = some chosen ∧ make chosen = .ok installed.manager := by
  cases chooses with
  | built _ found made => exact ⟨_, found, made⟩

theorem Turn.roles (turn : Turn s i parts outcome) (built : outcome = .ok part) :
    (parts ++ [part]).map Part.role <+: Role.buildOrder := by
  cases turn with
  | users =>
      obtain ⟨installed, -, rfl⟩ := map_eq_ok_iff.mp built
      exact ⟨[.projects, .executor, .sla, .schedules], rfl⟩
  | projects =>
      obtain ⟨installed, -, rfl⟩ := map_eq_ok_iff.mp built
      exact ⟨[.executor, .sla, .schedules], rfl⟩
  | executor =>
      obtain ⟨installed, -, rfl⟩ := map_eq_ok_iff.mp built
      exact ⟨[.sla, .schedules], rfl⟩
  | sla =>
      obtain ⟨installed, -, rfl⟩ := map_eq_ok_iff.mp built
      exact ⟨[.schedules], rfl⟩
  | schedules =>
      obtain ⟨installed, -, rfl⟩ := map_eq_ok_iff.mp built
      exact ⟨[], rfl⟩

theorem Builds.roles (builds : Builds s i parts) : parts.map Part.role <+: Role.buildOrder := by
  cases builds with
  | nil => exact List.nil_prefix
  | next _ turn => exact turn.roles rfl

end Assembly

namespace Subsystems

/-! ## Closing -/

end Subsystems

namespace Closing

variable {closings : List Closing} {role : Role} {reason : String}

end Closing

namespace Assembly

end Assembly

end ViewerHost
