import ViewerHost.Settings.Chain
import ViewerHost.Text.Blank

namespace ViewerHost

namespace Toml

def scalarText? : Toml → Option String
  | string s => some s
  | integer i => some (toString i)
  | float x => some x.toPlainText
  | boolean b => some (if b then "true" else "false")
  | moment m => some m.render
  | array _ => none
  | table _ => none

def wholeNumber? (text : String) : Option Int :=
  let (negative, digits) := sign text.toList
  if digits.isEmpty ∨ !digits.all Char.isDigit then none
  else
    let n : Int := numberOf 10 (digits.map fun c => c.toNat - '0'.toNat)
    if negative then some (-n) else some n

def isWord64 (i : Int) : Bool := -0x8000000000000000 ≤ i && i < 0x8000000000000000

def integer64? : Toml → Option Int
  | integer i => some i
  | string s => (wholeNumber? (Text.trimBlank s)).filter isWord64
  | _ => none

def truth? : Toml → Option Bool
  | boolean b => some b
  | string s =>
    let word := (Text.trimBlank s).toLower
    if word = "true" then some true else if word = "false" then some false else none
  | _ => none

end Toml

namespace Settings

open Text

def textOf (key : String) (value : Toml) : Except SettingsError String :=
  match value.scalarText? with
  | some text => .ok text
  | none => .error (.ofValue key "string" value)

def integerOf (key : String) (value : Toml) : Except SettingsError Int :=
  match value.integer64? with
  | some i => .ok i
  | none => .error (.ofValue key "integer" value)

def truthOf (key : String) (value : Toml) : Except SettingsError Bool :=
  match value.truth? with
  | some b => .ok b
  | none => .error (.ofValue key "boolean" value)

/-- The pieces of a list written with commas: trimmed, and without empty ones. -/
def listed (text : String) : List String :=
  ((pieces ',' text.toList).map fun piece => trimBlank (String.ofList piece)).filter
    fun piece => !piece.isEmpty

def textsOf (key : String) (value : Toml) : Except SettingsError (List String) :=
  match value with
  | .array items => items.mapM (textOf key)
  | .string s => .ok (listed s)
  | other => .error (.ofValue key "list of strings" other)

def require (s : Settings) (key : String) (read : String → Toml → Except SettingsError α) :
    Except SettingsError α :=
  match s.get? key with
  | some value => read key value
  | none => .error (.missing key)

def readOr (s : Settings) (key : String) (default : α)
    (read : String → Toml → Except SettingsError α) : Except SettingsError α :=
  match s.get? key with
  | some value => read key value
  | none => .ok default

def getText (s : Settings) (key : String) : Except SettingsError String := s.require key textOf

def getTextOr (s : Settings) (key default : String) : Except SettingsError String :=
  s.readOr key default textOf

def getInt (s : Settings) (key : String) : Except SettingsError Int := s.require key integerOf

def getIntOr (s : Settings) (key : String) (default : Int) : Except SettingsError Int :=
  s.readOr key default integerOf

def getBoolOr (s : Settings) (key : String) (default : Bool) : Except SettingsError Bool :=
  s.readOr key default truthOf

def getList (s : Settings) (key : String) : Except SettingsError (List String) :=
  s.readOr key [] textsOf

def getPathOr (s : Settings) (key default : String) : Except SettingsError Path :=
  (s.getTextOr key default).map Path.mk

end Settings

end ViewerHost
