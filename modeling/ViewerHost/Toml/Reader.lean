import ViewerHost.Toml.Document
import ViewerHost.Toml.Number
import ViewerHost.Toml.Quoted

namespace ViewerHost.Toml

def isBareKey (c : Char) : Bool := c.isAlphanum || c == '-' || c == '_'

def simpleKey? (cs : List Char) : Option (String × List Char) :=
  match cs with
  | '"' :: rest => (basicBody? rest).map fun (body, final) => (String.ofList body, final)
  | '\'' :: rest => (literalBody? rest).map fun (body, final) => (String.ofList body, final)
  | _ =>
    let bare := cs.takeWhile isBareKey
    if bare.isEmpty then none else some (String.ofList bare, cs.drop bare.length)

def keyParts? (cs : List Char) : Option (List String × List Char) :=
  match simpleKey? (skipSpace cs) with
  | none => none
  | some (part, rest) =>
    match skipSpace rest with
    | '.' :: rest =>
      if _h : rest.length < cs.length then
        (keyParts? rest).map fun (parts, final) => (part :: parts, final)
      else none
    | rest => some ([part], rest)
termination_by cs.length

def nestingLimit : Nat := 79

def key? (cs : List Char) : Option (List String × List Char) :=
  (keyParts? cs).filter fun (parts, _) => parts.length ≤ nestingLimit

def skipComment (cs : List Char) : List Char := cs.dropWhile isPlain

def skipLayout (cs : List Char) : List Char :=
  match cs with
  | [] => []
  | '#' :: rest =>
    match newline? (skipComment rest) with
    | some after => if _h : after.length ≤ rest.length then skipLayout after else '#' :: rest
    | none => '#' :: rest
  | '\r' :: '\n' :: rest => skipLayout rest
  | c :: rest => if isSpace c ∨ c = '\n' then skipLayout rest else c :: rest
termination_by cs.length
decreasing_by all_goals simp_all; try omega

def items? (value? : List Char → Option (Toml × List Char)) (cs : List Char) :
    Option (List Toml × List Char) :=
  match value? cs with
  | none => none
  | some (item, rest) =>
    match skipLayout rest with
    | ']' :: rest => some ([item], rest)
    | ',' :: rest =>
      match skipLayout rest with
      | ']' :: rest => some ([item], rest)
      | rest =>
        if _h : rest.length < cs.length then
          (items? value? rest).map fun (items, final) => (item :: items, final)
        else none
    | _ => none
termination_by cs.length

def pairs? (value? : List Char → Option (Toml × List Char)) (table : Entries) (cs : List Char) :
    Option (Entries × List Char) :=
  match key? cs with
  | some (path, '=' :: rest) =>
    match value? (skipSpace rest) with
    | none => none
    | some (value, rest) =>
      match table.addValue path value with
      | none => none
      | some table =>
        match skipSpace rest with
        | '}' :: rest => some (table, rest)
        | ',' :: rest => if _h : rest.length < cs.length then pairs? value? table rest else none
        | _ => none
  | _ => none
termination_by cs.length

def scalar? (cs : List Char) : Option (Toml × List Char) :=
  match cs with
  | 't' :: 'r' :: 'u' :: 'e' :: rest => some (boolean true, rest)
  | 'f' :: 'a' :: 'l' :: 's' :: 'e' :: rest => some (boolean false, rest)
  | '"' :: _ | '\'' :: _ => (quoted? cs).map fun (s, final) => (string s, final)
  | _ =>
    if Moment.startsDate cs ∨ Moment.startsTime cs then
      (Moment.read? cs).map fun (m, final) => (moment m, final)
    else number? cs

def value? (nesting : Nat) (cs : List Char) : Option (Toml × List Char) :=
  match cs with
  | '[' :: rest =>
    match nesting with
    | 0 => none
    | inner + 1 =>
      match skipLayout rest with
      | ']' :: rest => some (array [], rest)
      | rest => (items? (value? inner) rest).map fun (items, final) => (array items, final)
  | '{' :: rest =>
    match nesting with
    | 0 => none
    | inner + 1 =>
      match skipSpace rest with
      | '}' :: rest => some (table [], rest)
      | rest => (pairs? (value? inner) [] rest).map fun (entries, final) =>
          ((Node.table .header entries).toToml, final)
  | _ => scalar? cs

def endOfLine? (cs : List Char) : Option (List Char) :=
  let rest := match skipSpace cs with
    | '#' :: rest => skipComment rest
    | rest => rest
  if rest.isEmpty then some [] else newline? rest

def line? (doc : Document) (cs : List Char) : Option (Document × List Char) :=
  match cs with
  | '[' :: '[' :: rest => do
    let (path, rest) ← key? rest
    match rest with
    | ']' :: ']' :: rest =>
      let rest ← endOfLine? rest
      let doc ← doc.openItem path
      some (doc, rest)
    | _ => none
  | '[' :: rest => do
    let (path, rest) ← key? rest
    match rest with
    | ']' :: rest =>
      let rest ← endOfLine? rest
      let doc ← doc.openTable path
      some (doc, rest)
    | _ => none
  | _ => do
    let (path, rest) ← key? cs
    match rest with
    | '=' :: rest =>
      let (value, rest) ← value? nestingLimit (skipSpace rest)
      let rest ← endOfLine? rest
      let doc ← doc.add path value
      some (doc, rest)
    | _ => none

def document? (doc : Document) (cs : List Char) : Option Document :=
  match skipLayout cs with
  | [] => some doc
  | '#' :: rest => if (skipComment rest).isEmpty then some doc else none
  | rest =>
    match line? doc rest with
    | none => none
    | some (doc, after) =>
      if _h : after.length < cs.length then document? doc after else none
termination_by cs.length

/-- The root table of a document; a byte order mark in front of it is passed over. -/
def read? (text : String) : Option Toml :=
  let cs := match text.toList with
    | '\uFEFF' :: rest => rest
    | cs => cs
  (document? .empty cs).bind Document.toToml

end ViewerHost.Toml
