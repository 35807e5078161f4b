import ViewerHost.Plugin.Loading

/-!
The mounted plugins. A plugin is listed and mounted in one step, or neither; the first one on a
mount path keeps it, and none takes a path that the host has reserved.
-/

namespace ViewerHost

structure Mount where
  route : String
  handler : Handler

structure Registry where
  /-- In order of registration. -/
  plugins : List Plugin
  /-- The position of a plugin under its mount path. -/
  byMount : List (String × Nat)
  reserved : List String
  /-- Paths that are reserved with all that lies below them. -/
  reservedTrees : List String

namespace Mount

def describe (m : Mount) : String :=
  Text.record "Mount" [("route", Text.quoted m.route), ("handler", Text.quoted m.handler.name)]

end Mount

namespace Registry

open MountPath

def empty : Registry := ⟨[], [], [], []⟩

def reserve (r : Registry) (route : String) : Registry :=
  match treeOf? route with
  | some tree => { r with reservedTrees := r.reservedTrees ++ [normalize tree] }
  | none =>
    let path := normalize route
    if path.isEmpty then r else { r with reserved := r.reserved ++ [path] }

def reserving (routes : List String) : Registry := routes.foldl reserve empty

def isReserved (r : Registry) (path : String) : Bool :=
  let path := normalize path
  r.reserved.contains path || r.reservedTrees.any fun tree => covers tree path

def register (r : Registry) (p : Plugin) : Except LoadError Registry :=
  if r.isReserved p.mountPath then .error (.reservedMount p.mountPath)
  else
    match r.byMount.lookup p.mountPath with
    | some position =>
      .error (.duplicateMount p.mountPath ((r.plugins[position]?.map (·.name)).getD ""))
    | none =>
      .ok { r with
        plugins := r.plugins ++ [p]
        byMount := r.byMount ++ [(p.mountPath, r.plugins.length)] }

/-- By order, and of equal order by position in the discovery. -/
def precedes (a b : Plugin) : Bool :=
  a.order < b.order || (a.order == b.order && a.index ≤ b.index)

def all (r : Registry) : List Plugin := r.plugins.mergeSort precedes

def visible (r : Registry) : List Plugin := r.all.filter fun p => !p.hidden

def lookup (r : Registry) (mountPath : String) : Option Plugin :=
  (r.byMount.lookup (normalize mountPath)).bind fun position => r.plugins[position]?

def longer (path : String) (best : Option (String × Nat)) (entry : String × Nat) :
    Option (String × Nat) :=
  if covers entry.1 path && best.all fun kept => kept.1.utf8ByteSize < entry.1.utf8ByteSize then
    some entry
  else best

def ownerAmong (entries : List (String × Nat)) (path : String) : Option (String × Nat) :=
  entries.foldl (longer path) none

def routeAmong (r : Registry) (entries : List (String × Nat)) (requestPath : String) :
    Option (Plugin × String) := do
  let path := normalize requestPath
  let (mount, position) ← ownerAmong entries path
  let plugin ← r.plugins[position]?
  let rest ← Text.fromByte? mount.utf8ByteSize path.toList
  some (plugin, dropSlashes (String.ofList rest))

def route (r : Registry) (requestPath : String) : Option (Plugin × String) :=
  r.routeAmong r.byMount requestPath

def mounts (r : Registry) : List Mount := r.all.map fun p => ⟨p.route, p.handler⟩

def templatePaths (r : Registry) : List Path := r.plugins.filterMap (·.origin)

def size (r : Registry) : Nat := r.plugins.length

end Registry

end ViewerHost
