import ViewerHost.Management.Attribute
import ViewerHost.Management.ComponentId

namespace ViewerHost

structure Component (σ : Type) where
  kind : String
  names : List String
  read : σ → String → Option Attribute
  /-- Runs when the component is taken out. -/
  release : Except String Unit

inductive ManagementError where
  | unknownComponent (id : ComponentId)
  | unknownAttribute (component : ComponentId) (name : String)
  | alreadyRegistered (id : ComponentId)
  | invalidName (name : String)
  | releaseFailed (component : ComponentId) (reason : String)
deriving DecidableEq, Repr

namespace ManagementError

def message : ManagementError → String
  | unknownComponent id => "Unknown component: " ++ id.text
  | unknownAttribute component name =>
    "Component " ++ component.text ++ " has no attribute '" ++ name ++ "'"
  | alreadyRegistered id => "Component " ++ id.text ++ " is already registered"
  | invalidName name => "Invalid component name: '" ++ name ++ "'"
  | releaseFailed component reason =>
    "Failed to release component " ++ component.text ++ ": " ++ reason

end ManagementError

structure Registration (σ : Type) where
  id : ComponentId
  component : Component σ

/-- The registered components, the first one registered in front. -/
structure Bridge (σ : Type) where
  registrations : List (Registration σ)

namespace Bridge

variable {σ : Type}

def empty : Bridge σ := ⟨[]⟩

def list (b : Bridge σ) : List ComponentId := b.registrations.map (·.id)

def size (b : Bridge σ) : Nat := b.registrations.length

def find? (b : Bridge σ) (id : ComponentId) : Option (Registration σ) :=
  b.registrations.find? (·.id == id)

def contains (b : Bridge σ) (id : ComponentId) : Bool := (b.find? id).isSome

def isValidName (name : String) : Bool :=
  !name.isEmpty && name.toList.all fun c => c != ':' && c != ',' && c != '='

def tryRegister (b : Bridge σ) (name : String) (component : Component σ) :
    Except ManagementError (ComponentId × Bridge σ) :=
  let id := ComponentId.of component.kind name
  if !isValidName name then .error (.invalidName name)
  else if b.contains id then .error (.alreadyRegistered id)
  else .ok (id, ⟨b.registrations ++ [⟨id, component⟩]⟩)

def register (b : Bridge σ) (name : String) (component : Component σ) :
    Option ComponentId × Bridge σ :=
  match b.tryRegister name component with
  | .ok (id, after) => (some id, after)
  | .error _ => (none, b)

def releaseError? (registration : Registration σ) : Option ManagementError :=
  match registration.component.release with
  | .ok () => none
  | .error reason => some (.releaseFailed registration.id reason)

def remove (b : Bridge σ) (id : ComponentId) : Bridge σ :=
  ⟨b.registrations.eraseP (·.id == id)⟩

/-- Takes a component out and releases it. It stays out when the release fails. -/
def unregister (b : Bridge σ) (id : ComponentId) : Bridge σ × Except ManagementError Unit :=
  match b.find? id with
  | none => (b, .error (.unknownComponent id))
  | some registration =>
    (b.remove id,
      match releaseError? registration with
      | none => .ok ()
      | some e => .error e)

structure Clearing (σ : Type) where
  bridge : Bridge σ
  released : List ComponentId
  failures : List ManagementError

def Clearing.step (c : Clearing σ) (id : ComponentId) : Clearing σ :=
  let (after, outcome) := c.bridge.unregister id
  { bridge := after
    released := if c.bridge.contains id then c.released ++ [id] else c.released
    failures := match outcome with
      | .ok () => c.failures
      | .error e => c.failures ++ [e] }

def unregisterAll (b : Bridge σ) : Clearing σ :=
  b.list.foldl Clearing.step ⟨b, [], []⟩

def component? (b : Bridge σ) (id : ComponentId) : Except ManagementError (Component σ) :=
  match b.find? id with
  | some registration => .ok registration.component
  | none => .error (.unknownComponent id)

def info (b : Bridge σ) (id : ComponentId) : Except ManagementError (List String) :=
  (b.component? id).map (·.names)

def query (b : Bridge σ) (state : σ) (id : ComponentId) (name : String) :
    Except ManagementError Attribute := do
  let component ← b.component? id
  if component.names.contains name then
    match component.read state name with
    | some value => .ok value
    | none => .error (.unknownAttribute id name)
  else .error (.unknownAttribute id name)

@[simp] theorem list_empty : (empty : Bridge σ).list = [] := rfl

end Bridge

end ViewerHost
