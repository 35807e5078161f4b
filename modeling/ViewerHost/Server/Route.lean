import ViewerHost.Extension.FileViewer
import ViewerHost.Server.Page

namespace ViewerHost

inductive Destination where
  | page (p : Page)
  | resource (path : String)
  | plugin (p : Plugin) (rest : String)
  | nowhere

namespace Route

open MountPath Text

def pages : List (String × Page) := [
  ("/", .index), ("/index", .index), ("/manager", .manager), ("/executor", .executor),
  ("/history", .history), ("/schedule", .schedule), ("/jmx", .management)]

def resources : List String := ["/css/*", "/js/*", "/images/*", "/favicon.ico"]

def reserved : List String := pages.map (·.1) ++ resources

def trimmed (path : String) : String := "/" ++ trimSlashes path

def accepts (route path : String) : Bool :=
  match treeOf? route with
  | some tree => covers tree path
  | none => path == route

/-- A plugin is asked only for what is no page and no resource. Files of the server keep their full
path. -/
def select (plugins : Registry) (path : String) : Destination :=
  match pages.lookup (trimmed path) with
  | some page => .page page
  | none =>
    if resources.any fun route => accepts route (trimmed path) then
      .resource (dropSlashes (trimmed path))
    else
      match plugins.route path with
      | some (plugin, rest) => .plugin plugin rest
      | none => .nowhere

def resourceViewer (c : Context) : FileViewer := .ofRoot "web-resources" c.config.webDir

def mounts (c : Context) : List Mount :=
  pages.map (fun (route, page) => ⟨route, Page.handler c page⟩) ++
    resources.map (fun route => ⟨route, (resourceViewer c).handler⟩) ++ c.plugins.mounts

def dispatch (c : Context) (tree : FileTree) (path : String) (request : Request) : Response :=
  match select c.plugins path with
  | .page page => Page.respond c { request with path := "" } page
  | .resource path => (resourceViewer c).respond tree { request with path }
  | .plugin plugin rest => plugin.handler.handle tree { request with path := rest }
  | .nowhere => .notFound path

end Route

end ViewerHost
