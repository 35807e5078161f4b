import ViewerHost.Decimal.Layout
import ViewerHost.Json.Value
import ViewerHost.Text.Pieces

namespace ViewerHost

namespace FloatLayout

/-- Powers of ten outside `-5` to `15` are written out, whole numbers end in `.0`, and what is not
finite is `null`. -/
def json : FloatLayout where
  tie := .toEven
  inPlace := fun point => -5 < point ∧ point ≤ 16
  wholeEnding := ".0"
  nan := "null"
  infinity := "null"
  negativeInfinity := "null"

end FloatLayout

namespace Json

def hexChar (n : Nat) : Char := if n < 10 then Char.ofNat (48 + n) else Char.ofNat (87 + n)

def escaped (c : Char) : List Char :=
  if c = '"' then ['\\', '"']
  else if c = '\\' then ['\\', '\\']
  else if c = '\x08' then ['\\', 'b']
  else if c = '\x0c' then ['\\', 'f']
  else if c = '\n' then ['\\', 'n']
  else if c = '\r' then ['\\', 'r']
  else if c = '\t' then ['\\', 't']
  else if c.toNat < 0x20 then ['\\', 'u', '0', '0', hexChar (c.toNat / 16), hexChar (c.toNat % 16)]
  else [c]

def quoted (s : String) : String :=
  "\"" ++ String.ofList (s.toList.flatMap escaped) ++ "\""

mutual

def render : Json → String
  | null => "null"
  | bool b => if b then "true" else "false"
  | int i => toString i
  | float x => FloatLayout.json.render x
  | string s => quoted s
  | array items => "[" ++ Text.joined "," (renderItems items) ++ "]"
  | object members => "\x7b" ++ Text.joined "," (renderMembers members) ++ "\x7d"

def renderItems : List Json → List String
  | [] => []
  | item :: rest => render item :: renderItems rest

def renderMembers : List (String × Json) → List String
  | [] => []
  | (key, value) :: rest => (quoted key ++ ":" ++ render value) :: renderMembers rest

end

end Json

end ViewerHost
