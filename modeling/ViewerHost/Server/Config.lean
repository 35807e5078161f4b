import ViewerHost.Management.Bridge
import ViewerHost.Server.ConfigError
import ViewerHost.Settings.Load
import ViewerHost.Settings.Read
import ViewerHost.Text.Quoted

namespace ViewerHost

/-- The places that the environment names, and the home directory that the account of the user
has, which counts when the environment names none. -/
structure Environment where
  serverHome : Option String
  dataHome : Option String
  userHome : Option String
  accountHome : Option String

def Environment.home? (e : Environment) : Option String :=
  (e.userHome.filter (!·.isEmpty)).or e.accountHome

structure ListenerConfig where
  useSsl : Bool
  hostname : String
  port : Nat
  maxThreads : Nat
deriving DecidableEq, Repr

structure ServerConfig where
  listener : ListenerConfig
  tempDir : Path
  pluginDir : Path
  webDir : Path
  timezone : Option String
  devMode : Bool
deriving DecidableEq, Repr

namespace ServerConfig

open Text

def homeKey : String := "flowgate.home"

def confDir (home : Path) : Path := home.child "conf"

/-- The data directory of the user: the one that is named if it is absolute, else the usual one.
A user without a home directory has none. -/
def dataDir? (e : Environment) : Option Path :=
  e.home?.map fun home =>
    match e.dataHome.filter fun dir => (Path.mk dir).isAbsolute with
    | some dir => (Path.mk dir).child "flowgate"
    | none => (Path.mk home).join ⟨".local/share/flowgate"⟩

/-- The configuration directory: as given, or that of the home that is given, that of the
environment, or that of the user. -/
def resolveConfDir (home conf : Option Path) (e : Environment) : Except ConfigError Path :=
  match conf, home, e.serverHome.filter (!·.isEmpty), dataDir? e with
  | some conf, _, _, _ => .ok conf
  | none, some home, _, _ => .ok (confDir home)
  | none, none, some home, _ => .ok (confDir ⟨home⟩)
  | none, none, none, some dir => .ok (confDir dir)
  | none, none, none, none =>
    .error (.notLoaded "no home directory: pass --home or set FLOWGATE_HOME")

def serverFile (confDir : Path) : Path := confDir.child "flowgate.toml"

def privateFile (confDir : Path) : Path := confDir.child "flowgate.private.toml"

def files (tree : FileTree) (confDir : Path) : List Path :=
  (if tree.isFile (privateFile confDir) then [privateFile confDir] else []) ++ [serverFile confDir]

def withHome (confDir : Path) (s : Settings) : Settings :=
  if s.contains homeKey then s
  else s.put homeKey (.string ((confDir.parent?.getD confDir).text))

def loadSettings (tree : FileTree) (confDir : Path) : Except ConfigError Settings :=
  if !tree.isDirectory confDir then
    .error (.notLoaded ("configuration directory " ++ confDir.text ++ " does not exist"))
  else if !tree.isFile (serverFile confDir) then
    .error (.notLoaded ((serverFile confDir).text ++ " not found"))
  else
    ((Settings.load tree none (files tree confDir)).map (withHome confDir)).mapError .settings

def resolvePath (s : Settings) (path : Path) : Path :=
  if path.isAbsolute then path
  else
    match s.getText homeKey with
    | .ok home => (Path.mk home).join path
    | .error _ => path

def sslKeys : List String := [
  "server.ssl.keystore.path", "server.ssl.keystore.password", "server.ssl.key.password",
  "server.ssl.truststore.path", "server.ssl.truststore.password"]

def readInt (s : Settings) (key : String) (default : Int) : Except ConfigError Int :=
  (s.getIntOr key default).mapError .settings

def readPort (s : Settings) (key : String) (default : Int) : Except ConfigError Nat := do
  let port ← readInt s key default
  if 0 < port ∧ port < 0x10000 then .ok port.toNat
  else .error (.invalidSetting key (toString port ++ " is not a valid port"))

/-- The port of the kind of connection in force. SSL needs all its keys. -/
def activePort (s : Settings) (useSsl : Bool) : Except ConfigError Nat :=
  if useSsl then do
    let _ ← (sslKeys.mapM s.getText).mapError .settings
    readPort s "server.ssl.port" 8443
  else readPort s "server.port" 8081

def readHostname (s : Settings) : Except ConfigError String := do
  let hostname ← (s.getTextOr "server.hostname" "localhost").mapError .settings
  if isBlankText hostname then .error (.invalidSetting "server.hostname" "must not be empty")
  else .ok hostname

def readMaxThreads (s : Settings) : Except ConfigError Nat := do
  let threads ← readInt s "server.max.threads" 20
  if 0 < threads ∧ threads < 0x100000000 then .ok threads.toNat
  else .error (.invalidSetting "server.max.threads"
    ("expected a positive thread count, got " ++ toString threads))

def readListener (s : Settings) : Except ConfigError ListenerConfig := do
  let useSsl ← (s.getBoolOr "server.use.ssl" false).mapError .settings
  let port ← activePort s useSsl
  let hostname ← readHostname s
  let maxThreads ← readMaxThreads s
  .ok { useSsl, hostname, port, maxThreads }

def readTimezone (s : Settings) : Except ConfigError (Option String) :=
  let key := "default.timezone.id"
  if s.contains key then do
    let zone ← (s.getText key).mapError .settings
    if isBlankText zone then .error (.invalidSetting key "must not be empty")
    else .ok (some (trimBlank zone))
  else .ok none

def readPath (s : Settings) (key default : String) : Except ConfigError Path :=
  (s.getPathOr key default).mapError .settings

def ofSettings (s : Settings) : Except ConfigError ServerConfig := do
  let timezone ← readTimezone s
  let tempDir ← readPath s "flowgate.temp.dir" "temp"
  let pluginDir ← readPath s "viewer.plugin.dir" "plugins/viewer"
  let webDir ← readPath s "web.resource.dir" "web"
  let listener ← readListener s
  let devMode ← (s.getBoolOr "rendering.dev.mode" false).mapError .settings
  .ok {
    listener, timezone, devMode
    tempDir := resolvePath s tempDir
    pluginDir := resolvePath s pluginDir
    webDir := resolvePath s webDir }

end ServerConfig

namespace ListenerConfig

def bindAddress (l : ListenerConfig) : String := l.hostname ++ ":" ++ toString l.port

def attribute? (l : ListenerConfig) : String → Option Attribute
  | "Hostname" => some (.text l.hostname)
  | "Port" => some (.int l.port)
  | "UseSsl" => some (.bool l.useSsl)
  | "MaxThreads" => some (.int l.maxThreads)
  | _ => none

def component (l : ListenerConfig) : Component σ where
  kind := "flowgate.server"
  names := ["Hostname", "Port", "UseSsl", "MaxThreads"]
  read := fun _ => l.attribute?
  release := .ok ()

def describe (l : ListenerConfig) : String :=
  Text.record "ListenerSettings" [
    ("use_ssl", Text.truth l.useSsl),
    ("hostname", Text.quoted l.hostname),
    ("port", toString l.port),
    ("max_threads", toString l.maxThreads)]

end ListenerConfig

namespace ServerConfig

def describe (c : ServerConfig) : String :=
  Text.record "ServerSettings" [
    ("listener", c.listener.describe),
    ("temp_dir", Text.quoted c.tempDir.text),
    ("plugin_dir", Text.quoted c.pluginDir.text),
    ("web_resource_dir", Text.quoted c.webDir.text),
    ("timezone", Text.optional Text.quoted c.timezone),
    ("dev_mode", Text.truth c.devMode)]

end ServerConfig

end ViewerHost
