import ViewerHost.Decimal.Layout
import ViewerHost.Text.Pieces
import ViewerHost.Toml.Value

namespace ViewerHost

namespace FloatLayout

def toml : FloatLayout where
  tie := .up
  inPlace := fun _ => true
  wholeEnding := ".0"
  nan := "nan"
  infinity := "inf"
  negativeInfinity := "-inf"

end FloatLayout

namespace Toml

def longestRun (c : Char) (cs : List Char) : Nat :=
  (cs.foldl (fun (best, run) d => if d = c then (max best (run + 1), run + 1) else (best, 0))
    (0, 0)).1

def needsCode (c : Char) : Bool :=
  (c.val < 0x20 || c.val == 0x7F) && c != '\t' && c != '\n'

def hexChar (n : Nat) : Char := if n < 10 then Char.ofNat (48 + n) else Char.ofNat (55 + n)

def codeText (n : Nat) : List Char :=
  ['\\', 'u', hexChar (n / 4096 % 16), hexChar (n / 256 % 16), hexChar (n / 16 % 16), hexChar (n % 16)]

def escaped (severalLines : Bool) (c : Char) : List Char :=
  if c = '\x08' then ['\\', 'b']
  else if c = '\t' then ['\\', 't']
  else if c = '\n' then if severalLines then ['\n'] else ['\\', 'n']
  else if c = '\x0c' then ['\\', 'f']
  else if c = '\r' then ['\\', 'r']
  else if c = '\\' then ['\\', '\\']
  else if c.val < 0x20 || c.val == 0x7F then codeText c.toNat
  else [c]

/-- Escapes a text; over several lines two quotes in a row may stand as they are. -/
def escapedBody (severalLines : Bool) (quotes : Nat) : List Char → List Char
  | [] => []
  | '"' :: rest =>
    if quotes < (if severalLines then 2 else 0) then '"' :: escapedBody severalLines (quotes + 1) rest
    else '\\' :: '"' :: escapedBody severalLines 0 rest
  | c :: rest => escaped severalLines c ++ escapedBody severalLines 0 rest

def basic (cs : List Char) : String := "\"" ++ String.ofList (escapedBody false 0 cs) ++ "\""

def literal (cs : List Char) : String := "'" ++ String.ofList cs ++ "'"

/-- The break after the opening quotes, which is not part of the text, is written only where the
text has breaks of its own. -/
def opening (cs : List Char) : String := if cs.contains '\n' then "\n" else ""

def basicLines (cs : List Char) : String :=
  "\"\"\"" ++ opening cs ++ String.ofList (escapedBody true 0 cs) ++ "\"\"\""

def literalLines (cs : List Char) : String :=
  "'''" ++ opening cs ++ String.ofList cs ++ "'''"

def renderText (s : String) : String :=
  let cs := s.toList
  let coded := cs.any needsCode
  let escapes := coded || cs.contains '\\'
  let broken := cs.contains '\n'
  if !escapes && !cs.contains '"' && !broken then basic cs
  else if !coded && !cs.contains '\'' && !broken then literal cs
  else if !escapes && longestRun '"' cs ≤ 2 then basicLines cs
  else if !coded && longestRun '\'' cs ≤ 2 then literalLines cs
  else if broken then basicLines cs
  else basic cs

def renderKey (s : String) : String :=
  let cs := s.toList
  let coded := cs.any fun c => needsCode c || c == '\n'
  if !cs.isEmpty && cs.all (fun c => c.isAlphanum || c == '-' || c == '_') then s
  else if !coded && !cs.contains '\\' && !cs.contains '"' then basic cs
  else if !coded && !cs.contains '\'' then literal cs
  else basic cs

def renderPairs (pairs : List (String × String)) : String :=
  if pairs.isEmpty then "\x7b\x7d"
  else "\x7b " ++ Text.joined ", " (pairs.map fun (key, text) => renderKey key ++ " = " ++ text) ++
    " \x7d"

mutual

def render : Toml → String
  | string s => renderText s
  | integer i => toString i
  | float x => FloatLayout.toml.render x
  | boolean b => if b then "true" else "false"
  | moment m => m.render
  | array items => "[" ++ Text.joined ", " (renderItems items) ++ "]"
  | table entries => renderPairs (renderEntries entries)

def renderItems : List Toml → List String
  | [] => []
  | item :: rest => render item :: renderItems rest

def renderEntries : List (String × Toml) → List (String × String)
  | [] => []
  | (key, value) :: rest => (key, render value) :: renderEntries rest

end

/-- The text of a value shown on its own: a date or time then stands in a table. -/
def display : Toml → String
  | moment m => renderPairs [(momentKey, renderText m.render)]
  | value => value.render

end Toml

end ViewerHost
