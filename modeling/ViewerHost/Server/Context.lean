import ViewerHost.Plugin.Discovery
import ViewerHost.Server.Config
import ViewerHost.Server.Session
import ViewerHost.Subsystem.Operations

namespace ViewerHost

structure Context where
  settings : Settings
  config : ServerConfig
  subsystems : Subsystems
  management : Bridge Subsystems
  plugins : Registry
  sessions : SessionCache

namespace Context

def components (config : ServerConfig) : List (String × Component Subsystems) := [
  ("listener", config.listener.component),
  ("executorManager", Management.executorComponent),
  ("slaManager", Management.slaComponent),
  ("scheduler", Management.scheduleComponent)]

def registerAll (components : List (String × Component Subsystems)) : Bridge Subsystems :=
  components.foldl (fun bridge (name, component) => (bridge.register name component).2) .empty

def describe (c : Context) : String :=
  Text.record "AppContext" [
    ("settings", c.config.describe),
    ("management", toString c.management.size),
    ("plugins", toString c.plugins.size),
    ("sessions", c.sessions.describe),
    ("rendering", Text.record "RenderingConfig" [
      ("dev_mode", Text.truth c.config.devMode),
      ("template_paths", "[" ++ Text.joined ", "
        (c.plugins.templatePaths.map fun path => Text.quoted path.text) ++ "]")])]

end Context

end ViewerHost
