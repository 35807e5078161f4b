import ViewerHost.Decimal.Binary64
import ViewerHost.Text.Dictionary
import ViewerHost.Toml.Moment

/-!
TOML values. A table lists its keys in ascending order. As it is written it lists them line by
line, and one that begins with the key reserved for the purpose stands for a date or time.
-/

namespace ViewerHost

inductive Toml where
  | string (s : String)
  | integer (i : Int)
  | float (x : Binary64)
  | boolean (b : Bool)
  | moment (m : Toml.Moment)
  | array (items : List Toml)
  | table (entries : List (String × Toml))
deriving Repr

namespace Toml

def sortEntries (entries : List (String × α)) : List (String × α) :=
  (Dictionary.ofList entries).entries

def momentKey : String := "$__toml_private_datetime"

def underMomentKey? : List (String × Toml) → Option Toml
  | [] => none
  | (key, value) :: _ => if key = momentKey then some value else none

mutual

/-- The value that a written one stands for. What follows the reserved key is passed over. -/
def settled? : Toml → Option Toml
  | array items => (settledItems? items).map array
  | table entries =>
    match underMomentKey? entries with
    | some (string s) => (Moment.ofText? s).map moment
    | some _ => none
    | none => (settledEntries? entries).map fun entries => table (sortEntries entries)
  | value => some value

def settledItems? : List Toml → Option (List Toml)
  | [] => some []
  | item :: rest => do
    let item ← settled? item
    let rest ← settledItems? rest
    some (item :: rest)

def settledEntries? : List (String × Toml) → Option (List (String × Toml))
  | [] => some []
  | (key, value) :: rest => do
    let value ← settled? value
    let rest ← settledEntries? rest
    some ((key, value) :: rest)

end

end Toml

end ViewerHost
