import ViewerHost.Subsystem.Error
import ViewerHost.Text.Pieces

namespace ViewerHost

inductive Role where
  | users
  | projects
  | executor
  | sla
  | schedules
deriving DecidableEq, Repr

namespace Role

def name : Role → String
  | users => "user_manager"
  | projects => "project_manager"
  | executor => "executor_manager"
  | sla => "sla_manager"
  | schedules => "schedule_manager"

def dependsOn : Role → List Role
  | users => []
  | projects => []
  | executor => []
  | sla => [executor]
  | schedules => [executor, projects, sla]

def key : Role → String
  | users => "user.manager.class"
  | projects => "project.manager.class"
  | executor => "executor.manager.class"
  | sla => "sla.manager.class"
  | schedules => "schedule.manager.class"

def defaultTag : Role → String
  | users => "memory"
  | projects => "memory"
  | executor => "local"
  | sla => "basic"
  | schedules => "basic"

def buildOrder : List Role := [users, projects, executor, sla, schedules]

example : buildOrder.zipIdx.all (fun (role, i) =>
    role.dependsOn.all fun needed => (buildOrder.take i).contains needed) = true := by decide

end Role

inductive AssemblyError where
  | settings (cause : SettingsError)
  | unknownImplementation (role : Role) (tag : String) (known : List String)
  | construction (role : Role) (tag : String) (cause : SubsystemError)
deriving DecidableEq, Repr

namespace AssemblyError

def message? : AssemblyError → Option String
  | settings cause => cause.message?.map ("Invalid configuration: " ++ ·)
  | unknownImplementation role tag known =>
    some ("Unknown " ++ role.name ++ " implementation '" ++ tag ++ "' (set by " ++ role.key ++
      "); known: " ++ Text.joined ", " known)
  | construction role tag cause =>
    cause.message?.map
      (("Could not instantiate " ++ role.name ++ " implementation '" ++ tag ++ "': ") ++ ·)

end AssemblyError

end ViewerHost
