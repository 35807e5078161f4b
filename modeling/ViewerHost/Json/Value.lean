import ViewerHost.Decimal.Binary64

namespace ViewerHost

inductive Json where
  | null
  | bool (b : Bool)
  | int (i : Int)
  | float (x : Binary64)
  | string (s : String)
  | array (items : List Json)
  | object (members : List (String × Json))
deriving Repr

namespace Json

/-- The value under a key; of two members with one key the later one counts. -/
def field? (key : String) : Json → Option Json
  | object members => members.reverse.lookup key
  | _ => none

def string? : Json → Option String
  | string s => some s
  | _ => none

def bool? : Json → Option Bool
  | bool b => some b
  | _ => none

def items? : Json → Option (List Json)
  | array items => some items
  | _ => none

def members? : Json → Option (List (String × Json))
  | object members => some members
  | _ => none

def strings? (j : Json) : Option (List String) :=
  j.items?.bind fun items => items.mapM string?

def texts? (j : Json) : Option (List (String × String)) :=
  j.members?.bind fun members => members.mapM fun (key, value) => value.string?.map (key, ·)

def ofStrings (texts : List String) : Json := array (texts.map string)

def ofOption (encode : α → Json) : Option α → Json
  | none => null
  | some a => encode a

end Json

end ViewerHost
