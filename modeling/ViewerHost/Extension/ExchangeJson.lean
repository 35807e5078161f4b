import ViewerHost.Extension.Exchange
import ViewerHost.Json.Value

namespace ViewerHost

namespace Request

def toJson (r : Request) : Json :=
  .object [
    ("path", .string r.path),
    ("params", .object (r.params.entries.map fun (key, value) => (key, .string value))),
    ("user", .ofOption .string r.user)]

def params? : Option Json → Option (Dictionary String)
  | none => some .empty
  | some j => j.texts?.map Dictionary.ofList

def user? : Option Json → Option (Option String)
  | none => some none
  | some .null => some none
  | some j => j.string?.map some

def ofFields? (path params user : Option Json) : Option Request := do
  let path ← path.bind Json.string?
  let params ← params? params
  let user ← user? user
  some ⟨path, params, user⟩

def ofJson? (j : Json) : Option Request :=
  match j with
  | .object _ => ofFields? (j.field? "path") (j.field? "params") (j.field? "user")
  | .array items =>
    if items.length ≤ 3 then ofFields? items[0]? items[1]? items[2]? else none
  | _ => none

end Request

namespace Response

def toJson (r : Response) : Json :=
  .object [
    ("status", .int r.status),
    ("content_type", .string r.contentType),
    ("body", .string r.body)]

def statusLimit : Int := 0x10000

def status? : Json → Option Nat
  | .int i => if 0 ≤ i ∧ i < statusLimit then some i.toNat else none
  | _ => none

def ofFields? (status contentType body : Option Json) : Option Response := do
  let status ← status.bind status?
  let contentType ← contentType.bind Json.string?
  let body ← body.bind Json.string?
  some ⟨status, contentType, body⟩

def ofJson? (j : Json) : Option Response :=
  match j with
  | .object _ => ofFields? (j.field? "status") (j.field? "content_type") (j.field? "body")
  | .array [status, contentType, body] => ofFields? (some status) (some contentType) (some body)
  | _ => none

end Response

end ViewerHost
