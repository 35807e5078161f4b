import ViewerHost.Server.Route

namespace ViewerHost

inductive Phase where
  | unstarted
  | configuring
  | buildingSubsystems
  | registeringManagement
  | loadingPlugins
  | running
  | shuttingDown
  | stopped
deriving DecidableEq, Repr

namespace Phase

def name : Phase → String
  | unstarted => "Unstarted"
  | configuring => "Configuring"
  | buildingSubsystems => "BuildingSubsystems"
  | registeringManagement => "RegisteringManagement"
  | loadingPlugins => "LoadingPlugins"
  | running => "Running"
  | shuttingDown => "ShuttingDown"
  | stopped => "Stopped"

def key : Phase → String
  | unstarted => "unstarted"
  | configuring => "configuring"
  | buildingSubsystems => "building_subsystems"
  | registeringManagement => "registering_management"
  | loadingPlugins => "loading_plugins"
  | running => "running"
  | shuttingDown => "shutting_down"
  | stopped => "stopped"

end Phase

inductive StartError where
  | notUnstarted (phase : Phase)
  | config (cause : ConfigError)
deriving DecidableEq, Repr

namespace StartError

def message? : StartError → Option String
  | notUnstarted phase => some ("Cannot start while " ++ phase.name)
  | config cause => cause.message?

end StartError

structure Server where
  settings : Settings
  implementations : Implementations
  catalog : Catalog
  /-- The current phase, and the ones before it with the latest first. -/
  phase : Phase
  before : List Phase
  context : Option Context
  report : Option DiscoveryReport

structure StartRun where
  server : Server
  tree : FileTree
  events : List SubsystemEvent
  outcome : Except StartError Unit

structure ShutdownReport where
  performed : Bool
  managementFailures : List ManagementError
  subsystemFailures : List (Role × String)
deriving DecidableEq, Repr

namespace ShutdownReport

def isClean (r : ShutdownReport) : Bool := r.managementFailures.isEmpty && r.subsystemFailures.isEmpty

def nothing : ShutdownReport := ⟨false, [], []⟩

end ShutdownReport

structure ShutdownRun where
  server : Server
  released : List ComponentId
  events : List SubsystemEvent
  report : ShutdownReport

namespace Server

def new (settings : Settings) (implementations : Implementations) (catalog : Catalog) : Server :=
  ⟨settings, implementations, catalog, .unstarted, [], none, none⟩

def ofSettings (settings : Settings) : Server := new settings .standard .standard

def transitions (s : Server) : List Phase := (s.phase :: s.before).reverse

def enter (s : Server) (phase : Phase) : Server := { s with phase, before := s.phase :: s.before }

/-- The files with the temporary directory made, if the settings name one, and then the
configuration with an empty session cache. A cache that is refused leaves the directory. -/
def prepare (s : Settings) (tree : FileTree) :
    FileTree × Except ConfigError (ServerConfig × SessionCache) :=
  match ServerConfig.ofSettings s with
  | .error cause => (tree, .error cause)
  | .ok config =>
    match tree.makeDirectories config.tempDir with
    | .error cause => (tree, .error (.unprepared config.tempDir cause))
    | .ok tree => (tree, (SessionCache.ofSettings s).map fun sessions => (config, sessions))

def fail (s : Server) (tree : FileTree) (events : List SubsystemEvent) (cause : ConfigError) :
    StartRun :=
  ⟨s.enter .stopped, tree, events, .error (.config cause)⟩

def finishStart (s : Server) (config : ServerConfig) (tree : FileTree) (sessions : SessionCache)
    (subsystems : Subsystems) : Server :=
  let s := (s.enter .registeringManagement).enter .loadingPlugins
  let management := Context.registerAll (Context.components config)
  let (plugins, report) :=
    Discovery.run tree s.catalog config.pluginDir (.reserving Route.reserved)
  let context : Context := {
    settings := s.settings
    config, subsystems, management, plugins, sessions }
  { s.enter .running with context := some context, report := some report }

def start (s : Server) (tree : FileTree) : StartRun :=
  if s.phase ≠ .unstarted then ⟨s, tree, [], .error (.notUnstarted s.phase)⟩
  else
    let s := s.enter .configuring
    match prepare s.settings tree with
    | (tree, .error cause) => s.fail tree [] cause
    | (tree, .ok (config, sessions)) =>
      let s := s.enter .buildingSubsystems
      let assembly := Assembly.run s.implementations s.settings
      match assembly.product with
      | .error cause => s.fail tree assembly.events (.assembly cause)
      | .ok subsystems =>
        ⟨s.finishStart config tree sessions subsystems, tree, assembly.events, .ok ()⟩

def takeDown (c : Context) : Context × Bridge.Clearing Subsystems × Closedown :=
  let clearing := c.management.unregisterAll
  let closedown := c.subsystems.closeAll
  ({ c with management := clearing.bridge, subsystems := closedown.subsystems }, clearing, closedown)

def shutDown (s : Server) : ShutdownRun :=
  match s.phase, s.context with
  | .running, some context =>
    let (context, clearing, closedown) := takeDown context
    { server := { (s.enter .shuttingDown).enter .stopped with context := some context }
      released := clearing.released
      events := closedown.events
      report := ⟨true, clearing.failures, closedown.failures⟩ }
  | .running, none =>
    ⟨(s.enter .shuttingDown).enter .stopped, [], [], ⟨true, [], []⟩⟩
  | _, _ => ⟨s, [], [], .nothing⟩

end Server

end ViewerHost
