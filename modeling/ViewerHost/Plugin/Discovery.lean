import ViewerHost.Plugin.Registry

namespace ViewerHost

structure DiscoveryReport where
  /-- Mount paths in order of discovery. -/
  loaded : List String
  failures : List (Path × LoadError)

namespace Discovery

def candidates (tree : FileTree) (root : Path) : List Path :=
  match tree.list root with
  | .ok names => (names.map root.child).filter tree.isDirectory
  | .error _ => []

def enlist (tree : FileTree) (catalog : Catalog) (registry : Registry) (dir : Path) (index : Nat) :
    Except LoadError (Plugin × Registry) := do
  let plugin ← Plugin.load tree catalog dir index
  let after ← registry.register plugin
  .ok (plugin, after)

def step (tree : FileTree) (catalog : Catalog) (state : Registry × DiscoveryReport)
    (candidate : Path × Nat) : Registry × DiscoveryReport :=
  let (registry, report) := state
  match enlist tree catalog registry candidate.1 candidate.2 with
  | .ok (plugin, after) => (after, { report with loaded := report.loaded ++ [plugin.mountPath] })
  | .error e => (registry, { report with failures := report.failures ++ [(candidate.1, e)] })

def run (tree : FileTree) (catalog : Catalog) (root : Path) (registry : Registry) :
    Registry × DiscoveryReport :=
  (candidates tree root).zipIdx.foldl (step tree catalog) (registry, ⟨[], []⟩)

end Discovery

end ViewerHost
