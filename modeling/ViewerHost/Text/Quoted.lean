import ViewerHost.Text.Pieces
import ViewerHost.Text.Unseen

namespace ViewerHost.Text

def hexDigits (n : Nat) : List Char := Nat.toDigits 16 n

def quotedChar (c : Char) : List Char :=
  if c = '"' then ['\\', '"']
  else if c = '\\' then ['\\', '\\']
  else if c = '\n' then ['\\', 'n']
  else if c = '\r' then ['\\', 'r']
  else if c = '\t' then ['\\', 't']
  else if c = '\x00' then ['\\', '0']
  else if isUnseen c then ['\\', 'u', '\x7b'] ++ hexDigits c.toNat ++ ['\x7d']
  else [c]

/-- A text or a path between double quotes. A single quote stands as it is. -/
def quoted (s : String) : String :=
  "\"" ++ String.ofList (s.toList.flatMap quotedChar) ++ "\""

def truth (b : Bool) : String := if b then "true" else "false"

def optional (describe : α → String) : Option α → String
  | none => "None"
  | some a => "Some(" ++ describe a ++ ")"

def record (name : String) (fields : List (String × String)) : String :=
  name ++ " \x7b " ++ joined ", " (fields.map fun (field, text) => field ++ ": " ++ text) ++ " \x7d"

example : quoted "a\"\n\x01" = "\"a\\\"\\n\\u\x7b1\x7d\"" := by decide +kernel

end ViewerHost.Text
