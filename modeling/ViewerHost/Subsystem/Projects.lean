import ViewerHost.Settings.Read
import ViewerHost.Subsystem.Error

namespace ViewerHost

structure ProjectStore where
  names : Array String
  isShutDown : Bool

namespace ProjectStore

def search (names : Array String) (name : String) (low high : Nat) (bound : high ≤ names.size) :
    Bool :=
  if nonempty : low < high then
    let middle := (low + high) / 2
    have inside : middle < names.size := by omega
    if names[middle] = name then true
    else if names[middle] < name then search names name (middle + 1) high bound
    else search names name low middle (by omega)
  else false
termination_by high - low

def ofNames (names : List String) : ProjectStore :=
  ⟨(Dictionary.ofList (names.map fun name => (name, ()))).keys.toArray, false⟩

def ofSettings (s : Settings) : Except SubsystemError ProjectStore :=
  ((s.getList "project.names").mapError .settings).map ofNames

def contains (s : ProjectStore) (name : String) : Bool :=
  !s.isShutDown && search s.names name 0 s.names.size (Nat.le_refl _)

def shutDown (s : ProjectStore) : ProjectStore := { s with isShutDown := true }

end ProjectStore

inductive ProjectManager where
  | memory (store : ProjectStore)
  | standIn (s : StandIn)

namespace ProjectManager

def names : ProjectManager → List String
  | memory store => store.names.toList
  | standIn s => [s.label]

def contains (m : ProjectManager) (name : String) : Bool :=
  match m with
  | memory store => store.contains name
  | standIn s => name == s.label

def shutDown : ProjectManager → ProjectManager × Shutdown
  | memory store => (memory store.shutDown, .done)
  | standIn s => (standIn s, s.shutdown)

end ProjectManager

end ViewerHost
