import ViewerHost.Plugin.LoadError
import ViewerHost.Plugin.MountPath
import ViewerHost.Settings.Load
import ViewerHost.Settings.Read

namespace ViewerHost

structure Bundle where
  dir : Path
  settings : Settings
  name : String
  mountPath : String
  handlerClass : String
  order : Int
  hidden : Bool
  external : List String
  libraryDir : Path

namespace Bundle

def settingsFile (dir : Path) : Path := (dir.child "conf").child "plugin.toml"

def overrideFile (dir : Path) : Path := (dir.child "conf").child "override.toml"

/-- The settings files of a bundle, the one that wins last. -/
def settingsFiles (tree : FileTree) (dir : Path) : List Path :=
  settingsFile dir :: if tree.isFile (overrideFile dir) then [overrideFile dir] else []

def loadSettings (tree : FileTree) (dir : Path) : Except LoadError Settings :=
  if tree.isFile (settingsFile dir) then
    (Settings.load tree none (settingsFiles tree dir)).mapError (.invalidConfig dir)
  else .error (.missingConfig (settingsFile dir))

def readMountPath (s : Settings) : Except SettingsError String := do
  let raw ← s.getText "viewer.path"
  let path := MountPath.normalize raw
  if path.isEmpty then .error (.wrongType "viewer.path" "non-empty mount path" raw) else .ok path

def ofSettings (dir : Path) (s : Settings) : Except SettingsError Bundle := do
  let name ← s.getText "viewer.name"
  let mountPath ← readMountPath s
  let handlerClass ← s.getText "viewer.handler.class"
  let order ← s.getIntOr "viewer.order" 0
  let hidden ← s.getBoolOr "viewer.hidden" false
  let external ← s.getList "viewer.external.classpaths"
  .ok {
    dir, settings := s, name, mountPath, handlerClass, order, hidden, external
    libraryDir := dir.child "lib" }

def load (tree : FileTree) (dir : Path) : Except LoadError Bundle := do
  if !tree.isDirectory dir then .error (.notADirectory dir)
  else
    let settings ← loadSettings tree dir
    let bundle ← (ofSettings dir settings).mapError (.invalidConfig dir)
    if tree.isDirectory bundle.libraryDir then .ok bundle
    else .error (.missingLibraryDir bundle.libraryDir)

/-- What lies in the library directory in order of names, and then the external entries. -/
def classpath (tree : FileTree) (b : Bundle) : Except FileError (List Path) := do
  let names ← tree.list b.libraryDir
  .ok (names.map b.libraryDir.child ++ b.external.map b.dir.child)

end Bundle

end ViewerHost
