import ViewerHost.Json.Value
import ViewerHost.Management.Attribute

namespace ViewerHost.Attribute

def typeName : Attribute → String
  | bool _ => "bool"
  | int _ => "int"
  | float _ => "float"
  | text _ => "text"
  | time _ => "time"
  | list _ => "list"
  | absent => "absent"

def content? : Attribute → Option Json
  | bool b => some (.bool b)
  | int i => some (.int i)
  | float x => some (if x.isFinite then .float x else .null)
  | text s => some (.string s)
  | time t => some (.string t.toText)
  | list items => some (.ofStrings items)
  | absent => none

def toJson (a : Attribute) : Json :=
  .object (("type", .string a.typeName) :: (a.content?.map fun content => ("value", content)).toList)

def int64? : Json → Option Int
  | .int i => if -0x8000000000000000 ≤ i ∧ i < 0x8000000000000000 then some i else none
  | _ => none

def number? : Json → Option Binary64
  | .int i => some (.ofInt i)
  | .float x => some x
  | _ => none

/-- The value of a named type. Only an absent value may lack its content, or have `null` for it. -/
def ofContent? (typeName : String) (content : Option Json) : Option Attribute :=
  match typeName, content with
  | "absent", none => some absent
  | "absent", some .null => some absent
  | "bool", some j => j.bool?.map bool
  | "int", some j => (int64? j).map int
  | "float", some j => (number? j).map float
  | "text", some j => j.string?.map text
  | "time", some j => (j.string?.bind Rfc3339.read?).map time
  | "list", some j => j.strings?.map list
  | _, _ => none

def typeName? : Json → Option String
  | .string s => some s
  | .object [(s, .null)] => some s
  | _ => none

/-- Reads an object with a type and a value, or a list of the two. In a list the type is a string. -/
def ofJson? (j : Json) : Option Attribute :=
  match j with
  | .object _ => do
    let name ← (j.field? "type").bind typeName?
    ofContent? name (j.field? "value")
  | .array [.string name, content] => ofContent? name (some content)
  | _ => none

end ViewerHost.Attribute
