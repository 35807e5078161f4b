import ViewerHost.Decimal.Layout
import ViewerHost.Text.Pieces
import ViewerHost.Time.Rfc3339

namespace ViewerHost

inductive Attribute where
  | bool (b : Bool)
  | int (i : Int)
  | float (x : Binary64)
  | text (s : String)
  | time (t : Instant)
  | list (items : List String)
  | absent
deriving DecidableEq, Repr

namespace Attribute

def ofCount (n : Nat) : Attribute := .int (Int.bmod n 0x10000000000000000)

def ofOption (encode : α → Attribute) : Option α → Attribute
  | none => absent
  | some a => encode a

def display : Attribute → String
  | bool b => if b then "true" else "false"
  | int i => toString i
  | float x => x.toPlainText
  | text s => s
  | time t => t.toPlainText
  | list items => "[" ++ Text.joined ", " items ++ "]"
  | absent => "-"

end Attribute

end ViewerHost
