import ViewerHost.Settings.Read
import ViewerHost.Subsystem.Error

namespace ViewerHost

structure User where
  name : String
  roles : List String
deriving DecidableEq, Repr

structure Account where
  password : String
  user : User
deriving DecidableEq, Repr

structure UserStore where
  accounts : Dictionary Account
  isShutDown : Bool

namespace UserStore

open Text

/-- The account of one entry. The password is taken as it stands. -/
def parseEntry (entry : String) : Except SubsystemError Account :=
  match (pieces ':' entry.toList).map String.ofList with
  | name :: password :: roles =>
    let name := trimBlank name
    if name.isEmpty then .error (.invalid ("User entry '" ++ entry ++ "' has no name"))
    else .ok ⟨password, name, Settings.listed (joined ":" roles)⟩
  | _ => .error (.invalid ("User entry '" ++ entry ++ "' has no password"))

def addEntry (accounts : Dictionary Account) (entry : String) :
    Except SubsystemError (Dictionary Account) := do
  let account ← parseEntry entry
  if accounts.contains account.user.name then
    .error (.invalid ("User '" ++ account.user.name ++ "' declared twice"))
  else .ok (accounts.insert account.user.name account)

def ofEntries (entries : List String) : Except SubsystemError UserStore := do
  let accounts ← entries.foldlM addEntry .empty
  .ok ⟨accounts, false⟩

def ofSettings (s : Settings) : Except SubsystemError UserStore := do
  let entries ← (s.getList "user.manager.users").mapError .settings
  ofEntries entries

def count (s : UserStore) : Nat := s.accounts.entries.length

def find? (s : UserStore) (name : String) : Option User := (s.accounts.get? name).map (·.user)

def authenticate (s : UserStore) (name password : String) : Except SubsystemError User :=
  if s.isShutDown then .error (.shutDown "user manager")
  else
    let refused := .error (.invalid ("Bad credentials for '" ++ name ++ "'"))
    match s.accounts.get? name with
    | some account => if account.password = password then .ok account.user else refused
    | none => refused

def shutDown (s : UserStore) : UserStore := { s with isShutDown := true }

end UserStore

inductive UserManager where
  | memory (store : UserStore)
  | standIn (s : StandIn)

namespace UserManager

def count : UserManager → Nat
  | memory store => store.count
  | standIn _ => 0

def find? (m : UserManager) (name : String) : Option User :=
  match m with
  | memory store => store.find? name
  | standIn _ => none

def authenticate (m : UserManager) (name password : String) : Except SubsystemError User :=
  match m with
  | memory store => store.authenticate name password
  | standIn s => .error s.refusal

def shutDown : UserManager → UserManager × Shutdown
  | memory store => (memory store.shutDown, .done)
  | standIn s => (standIn s, s.shutdown)

end UserManager

end ViewerHost
