import ViewerHost.Json.Writer
import ViewerHost.Management.AttributeJson
import ViewerHost.Server.Context

namespace ViewerHost

inductive Page where
  | index
  | manager
  | executor
  | history
  | schedule
  | management
deriving DecidableEq, Repr

namespace Page

def name : Page → String
  | index => "index"
  | manager => "manager"
  | executor => "executor"
  | history => "history"
  | schedule => "schedule"
  | management => "jmx"

def escapeChar (c : Char) : List Char :=
  if c = '<' then "&lt;".toList
  else if c = '>' then "&gt;".toList
  else if c = '&' then "&amp;".toList
  else if c = '"' then "&quot;".toList
  else [c]

def escape (s : String) : String := String.ofList (s.toList.flatMap escapeChar)

def listItem (project : String) : String := "<li>" ++ escape project ++ "</li>"

def link (target : String × String) : String :=
  "<a href=\"/" ++ escape target.1 ++ "\">" ++ escape target.2 ++ "</a>"

def indexText (projects : List String) (links : List (String × String)) : String :=
  "<html><body><h1>flowgate</h1><ul>" ++ Text.concat (projects.map listItem) ++ "</ul><nav>" ++
    Text.concat (links.map link) ++ "</nav></body></html>"

def navigation (plugins : Registry) : List (String × String) :=
  plugins.visible.map fun p => (p.mountPath, p.name)

def runningJson (execution : Nat × Flow) : Json := .object [
  ("flow", .string execution.2.name),
  ("id", .int execution.1),
  ("project", .string execution.2.project)]

def timeJson (t : Option Instant) : Json := .ofOption (fun t => .string t.toText) t

def historyJson (stats : ExecutorStats) : Json := .object [
  ("finished", .int stats.finished),
  ("last_submitted", timeJson stats.lastSubmitted),
  ("submitted", .int stats.submitted)]

def scheduleJson (s : Schedule) : Json := .object [
  ("flow", .string s.flow.name),
  ("id", .int s.id),
  ("next_run", timeJson (some s.nextRun)),
  ("period_secs", .ofOption (fun p => .int p.seconds) s.period),
  ("project", .string s.flow.project)]

def managementJson (c : Context) (component name : Option String) : Except ManagementError Json :=
  match component, name with
  | none, _ => .ok (.object [("components", .ofStrings (c.management.list.map (·.text)))])
  | some component, some name =>
    (c.management.query c.subsystems ⟨component⟩ name).map fun value => .object [
      ("attribute", .string name), ("component", .string component), ("value", value.toJson)]
  | some component, none =>
    (c.management.info ⟨component⟩).map fun names => .object [
      ("attributes", .ofStrings names), ("component", .string component)]

def managementPage (c : Context) (request : Request) : Response :=
  match managementJson c (request.param? "component") (request.param? "attribute") with
  | .ok body => .json body.render
  | .error e => .failure 404 e.message

def respond (c : Context) (request : Request) : Page → Response
  | index => .html (indexText c.subsystems.projects.manager.names (navigation c.plugins))
  | manager =>
    .json (Json.object [("projects", .ofStrings c.subsystems.projects.manager.names)]).render
  | executor =>
    .json (Json.object [
      ("running", .array (c.subsystems.executor.manager.running.map runningJson))]).render
  | history => .json (historyJson c.subsystems.executor.manager.stats).render
  | schedule =>
    .json (Json.object [
      ("schedules", .array (c.subsystems.schedules.manager.schedules.map scheduleJson))]).render
  | management => managementPage c request

def handler (c : Context) (page : Page) : Handler := ⟨page.name, fun _ request => respond c request page⟩

end Page

end ViewerHost
