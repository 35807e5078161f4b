import ViewerHost.Json.Number

namespace ViewerHost.Json

def isSpace (c : Char) : Bool := c == ' ' || c == '\n' || c == '\t' || c == '\r'

def skipSpace (cs : List Char) : List Char := cs.dropWhile isSpace

def hexDigit? (c : Char) : Option Nat :=
  if c.isDigit then some (c.toNat - '0'.toNat)
  else if 'a' ≤ c ∧ c ≤ 'f' then some (c.toNat - 'a'.toNat + 10)
  else if 'A' ≤ c ∧ c ≤ 'F' then some (c.toNat - 'A'.toNat + 10)
  else none

def hexUnit? : List Char → Option (Nat × List Char)
  | a :: b :: c :: d :: rest => do
    let a ← hexDigit? a
    let b ← hexDigit? b
    let c ← hexDigit? c
    let d ← hexDigit? d
    some (((a * 16 + b) * 16 + c) * 16 + d, rest)
  | _ => none

def isHighSurrogate (n : Nat) : Bool := 0xD800 ≤ n && n < 0xDC00

def isLowSurrogate (n : Nat) : Bool := 0xDC00 ≤ n && n < 0xE000

/-- The character after `\u`. A high surrogate needs a low one in a second escape. -/
def unicode? (cs : List Char) : Option (Char × List Char) := do
  let (unit, cs) ← hexUnit? cs
  if isLowSurrogate unit then none
  else if isHighSurrogate unit then
    match cs with
    | '\\' :: 'u' :: rest =>
      let (low, rest) ← hexUnit? rest
      if isLowSurrogate low then
        some (Char.ofNat (0x10000 + (unit - 0xD800) * 0x400 + (low - 0xDC00)), rest)
      else none
    | _ => none
  else some (Char.ofNat unit, cs)

def escape? : List Char → Option (Char × List Char)
  | '"' :: rest => some ('"', rest)
  | '\\' :: rest => some ('\\', rest)
  | '/' :: rest => some ('/', rest)
  | 'b' :: rest => some ('\x08', rest)
  | 'f' :: rest => some ('\x0c', rest)
  | 'n' :: rest => some ('\n', rest)
  | 'r' :: rest => some ('\r', rest)
  | 't' :: rest => some ('\t', rest)
  | 'u' :: rest => unicode? rest
  | _ => none

def characters? (cs : List Char) : Option (List Char × List Char) :=
  match cs with
  | [] => none
  | '"' :: rest => some ([], rest)
  | '\\' :: rest =>
    match escape? rest with
    | none => none
    | some (c, after) =>
      if _h : after.length < rest.length then
        (characters? after).map fun (body, final) => (c :: body, final)
      else none
  | c :: rest =>
    if c.val < 0x20 then none
    else (characters? rest).map fun (body, final) => (c :: body, final)
termination_by cs.length
decreasing_by all_goals simp_all; try omega

def text? : List Char → Option (String × List Char)
  | '"' :: rest => (characters? rest).map fun (body, final) => (String.ofList body, final)
  | _ => none

def elements? (value? : List Char → Option (α × List Char)) (cs : List Char) :
    Option (List α × List Char) :=
  match value? cs with
  | none => none
  | some (item, rest) =>
    match skipSpace rest with
    | ']' :: rest => some ([item], rest)
    | ',' :: rest =>
      if _h : rest.length < cs.length then
        (elements? value? rest).map fun (items, final) => (item :: items, final)
      else none
    | _ => none
termination_by cs.length

def pairs? (value? : List Char → Option (α × List Char)) (cs : List Char) :
    Option (List (String × α) × List Char) :=
  match text? (skipSpace cs) with
  | none => none
  | some (key, rest) =>
    match skipSpace rest with
    | ':' :: rest =>
      match value? rest with
      | none => none
      | some (value, rest) =>
        match skipSpace rest with
        | '}' :: rest => some ([(key, value)], rest)
        | ',' :: rest =>
          if _h : rest.length < cs.length then
            (pairs? value? rest).map fun (members, final) => ((key, value) :: members, final)
          else none
        | _ => none
    | _ => none
termination_by cs.length

def value? (nesting : Nat) (cs : List Char) : Option (Json × List Char) :=
  match skipSpace cs with
  | 'n' :: 'u' :: 'l' :: 'l' :: rest => some (null, rest)
  | 't' :: 'r' :: 'u' :: 'e' :: rest => some (bool true, rest)
  | 'f' :: 'a' :: 'l' :: 's' :: 'e' :: rest => some (bool false, rest)
  | '"' :: rest => (text? ('"' :: rest)).map fun (s, final) => (string s, final)
  | '[' :: rest =>
    match nesting with
    | 0 => none
    | inner + 1 =>
      match skipSpace rest with
      | ']' :: rest => some (array [], rest)
      | rest => (elements? (value? inner) rest).map fun (items, final) => (array items, final)
  | '{' :: rest =>
    match nesting with
    | 0 => none
    | inner + 1 =>
      match skipSpace rest with
      | '}' :: rest => some (object [], rest)
      | rest => (pairs? (value? inner) rest).map fun (members, final) => (object members, final)
  | rest => number? rest

def nestingLimit : Nat := 127

def read? (text : String) : Option Json :=
  match value? nestingLimit text.toList with
  | some (j, rest) => if (skipSpace rest).isEmpty then some j else none
  | none => none

end ViewerHost.Json
