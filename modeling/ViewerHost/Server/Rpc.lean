import ViewerHost.Extension.ExchangeJson
import ViewerHost.Json.Extent
import ViewerHost.Server.Route

namespace ViewerHost.Rpc

inductive CallId where
  | null
  | number (n : Nat)
  | text (s : String)
deriving DecidableEq, Repr

structure Call where
  id : CallId
  method : String
  params : List Char
deriving DecidableEq, Repr

inductive CallError where
  | methodNotFound
  | invalidParams
  | management (cause : ManagementError)
deriving DecidableEq, Repr

namespace CallId

def toJson : CallId → Json
  | null => .null
  | number n => .int n
  | text s => .string s

def ofJson? : Json → Option CallId
  | .null => some null
  | .int i => if 0 ≤ i then some (number i.toNat) else none
  | .string s => some (text s)
  | _ => none

end CallId

namespace CallError

def code : CallError → Int
  | methodNotFound => -32601
  | invalidParams => -32602
  | management (.unknownComponent _) => -32001
  | management (.unknownAttribute ..) => -32002
  | management _ => -32000

def message : CallError → String
  | methodNotFound => "Method not found"
  | invalidParams => "Invalid params"
  | management cause => cause.message

end CallError

def decode? (source : List Char) : Option Json :=
  (Json.value? Json.nestingLimit source).map (·.1)

/-- The parameters of a call that has none are empty, and so are those given as `null`. -/
def paramsOf : Option (List Char) → List Char
  | none => []
  | some source => if source = "null".toList then [] else source

def callOf? (version id method params : Option (List Char)) : Option Call := do
  let version ← decode? (← version)
  let id ← CallId.ofJson? (← decode? (← id))
  let method ← (← decode? (← method)).string?
  if version.string? = some "2.0" then some ⟨id, method, paramsOf params⟩ else none

def only? (key : String) (members : List (String × α)) : Option (Option α) :=
  match members.filter (·.1 == key) with
  | [] => some none
  | [(_, value)] => some (some value)
  -- A name that is given twice is refused.
  | _ => none

def callOfMembers? (members : List (String × List Char)) : Option Call := do
  let version ← only? "jsonrpc" members
  let id ← only? "id" members
  let method ← only? "method" members
  let params ← only? "params" members
  callOf? version id method params

def callOfItems? : List (List Char) → Option Call
  | [version, id, method, params] => callOf? (some version) (some id) (some method) (some params)
  | _ => none

def Call.read? (text : String) : Option Call :=
  match Json.skipSpace text.toList with
  | '\x7b' :: rest => do
    let (members, rest) ← Json.pairs? Json.source? rest
    if (Json.skipSpace rest).isEmpty then callOfMembers? members else none
  | '[' :: rest => do
    let (items, rest) ← Json.elements? Json.source? rest
    if (Json.skipSpace rest).isEmpty then callOfItems? items else none
  | _ => none

/-- The next value of a list of parameters: the rest starts before the bracket or comma that stands
in front of it. -/
inductive Next (α : Type) where
  | value (a : α) (rest : List Char)
  | missing
  | malformed

def next (decode : Json → Option α) (cs : List Char) : Next α :=
  match Json.skipSpace cs with
  | [] => .missing
  | ']' :: _ => .missing
  | c :: rest =>
    if c = '[' ∨ c = ',' then
      match Json.value? Json.nestingLimit rest with
      | some (j, rest) =>
        match decode j with
        | some a => .value a rest
        | none => .malformed
      | none => .malformed
    else .malformed

def required (decode : Json → Option α) (cs : List Char) : Except CallError (α × List Char) :=
  match next decode cs with
  | .value a rest => .ok (a, rest)
  | _ => .error .invalidParams

def optional (decode : Json → Option (Option α)) (cs : List Char) : Except CallError (Option α) :=
  match next decode cs with
  | .value a _ => .ok a
  | .missing => .ok none
  | .malformed => .error .invalidParams

def named? (params : List Char) : Option (List (String × List Char)) :=
  match params with
  | '\x7b' :: rest =>
    match Json.skipSpace rest with
    | '\x7d' :: _ => some []
    | rest => (Json.pairs? Json.source? rest).map (·.1)
  | _ => none

def requiredNamed (decode : Json → Option α) (key : String) (members : List (String × List Char)) :
    Except CallError α :=
  match only? key members with
  | some (some source) => ((decode? source).bind decode).elim (.error .invalidParams) .ok
  | _ => .error .invalidParams

def optionalNamed (decode : Json → Option (Option α)) (key : String)
    (members : List (String × List Char)) : Except CallError (Option α) :=
  match only? key members with
  | some (some source) => ((decode? source).bind decode).elim (.error .invalidParams) .ok
  | some none => .ok none
  | none => .error .invalidParams

def oneText (key : String) (params : List Char) : Except CallError String :=
  match named? params with
  | some members => requiredNamed Json.string? key members
  | none => (required Json.string? params).map (·.1)

def twoTexts (first second : String) (params : List Char) : Except CallError (String × String) :=
  match named? params with
  | some members => do
    let a ← requiredNamed Json.string? first members
    let b ← requiredNamed Json.string? second members
    .ok (a, b)
  | none => do
    let (a, rest) ← required Json.string? params
    let (b, _) ← required Json.string? rest
    .ok (a, b)

def requestParams? : Json → Option (Option (Dictionary String))
  | .null => some none
  | j => j.texts?.map fun texts => some (Dictionary.ofList texts)

def dispatchParams (params : List Char) : Except CallError (String × Option (Dictionary String)) :=
  match named? params with
  | some members => do
    let path ← requiredNamed Json.string? "path" members
    let texts ← optionalNamed requestParams? "params" members
    .ok (path, texts)
  | none => do
    let (path, rest) ← required Json.string? params
    let texts ← optional requestParams? rest
    .ok (path, texts)

def viewerJson (p : Plugin) : Json := .object [
  ("name", .string p.name), ("path", .string p.mountPath), ("order", .int p.order)]

def idsJson (ids : List ComponentId) : Json := .ofStrings (ids.map (·.text))

def result (c : Context) (tree : FileTree) (call : Call) : Except CallError Json :=
  match call.method with
  | "mgmt.list" => .ok (idsJson c.management.list)
  | "mgmt.info" => do
    let component ← oneText "component" call.params
    let names ← (c.management.info ⟨component⟩).mapError .management
    .ok (.ofStrings names)
  | "mgmt.query" => do
    let (component, name) ← twoTexts "component" "attribute" call.params
    let value ← (c.management.query c.subsystems ⟨component⟩ name).mapError .management
    .ok value.toJson
  | "viewers.list" => .ok (.array (c.plugins.visible.map viewerJson))
  | "viewers.dispatch" => do
    let (path, texts) ← dispatchParams call.params
    .ok (Route.dispatch c tree path ⟨path, texts.getD .empty, none⟩).toJson
  | "routes.list" => .ok (.ofStrings ((Route.mounts c).map (·.route)))
  | _ => .error .methodNotFound

def errorJson (e : CallError) : Json := .object [
  ("code", .int e.code), ("message", .string e.message)]

def respond (c : Context) (tree : FileTree) (call : Call) : Json :=
  .object (("jsonrpc", .string "2.0") :: ("id", call.id.toJson) ::
    match result c tree call with
    | .ok j => [("result", j)]
    | .error e => [("error", errorJson e)])

end ViewerHost.Rpc
