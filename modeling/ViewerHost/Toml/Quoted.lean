import ViewerHost.Json.Reader

namespace ViewerHost.Toml

def isControl (c : Char) : Bool := c.val < 0x20 || c.val == 0x7F

def isPlain (c : Char) : Bool := !isControl c || c == '\t'

def isSpace (c : Char) : Bool := c == ' ' || c == '\t'

def skipSpace (cs : List Char) : List Char := cs.dropWhile isSpace

def newline? : List Char → Option (List Char)
  | '\n' :: rest => some rest
  | '\r' :: '\n' :: rest => some rest
  | _ => none

def codePoint? (width : Nat) (cs : List Char) : Option (Char × List Char) := do
  let digits ← (cs.take width).mapM Json.hexDigit?
  let n := digits.foldl (fun n d => 16 * n + d) 0
  if digits.length = width ∧ n.isValidChar then some (Char.ofNat n, cs.drop width) else none

def escape? : List Char → Option (Char × List Char)
  | 'b' :: rest => some ('\x08', rest)
  | 't' :: rest => some ('\t', rest)
  | 'n' :: rest => some ('\n', rest)
  | 'f' :: rest => some ('\x0c', rest)
  | 'r' :: rest => some ('\r', rest)
  | '"' :: rest => some ('"', rest)
  | '\\' :: rest => some ('\\', rest)
  | 'u' :: rest => codePoint? 4 rest
  | 'U' :: rest => codePoint? 8 rest
  | _ => none

def skipLines : List Char → List Char
  | '\r' :: '\n' :: rest => skipLines rest
  | c :: rest => if isSpace c ∨ c = '\n' then skipLines rest else c :: rest
  | [] => []

def lineEnd? (cs : List Char) : Option (List Char) :=
  (newline? (skipSpace cs)).map skipLines

def basicBody? (cs : List Char) : Option (List Char × List Char) :=
  match cs with
  | [] => none
  | '"' :: rest => some ([], rest)
  | '\\' :: rest =>
    match escape? rest with
    | none => none
    | some (c, after) =>
      if _h : after.length < rest.length then
        (basicBody? after).map fun (body, final) => (c :: body, final)
      else none
  | c :: rest =>
    if isPlain c then (basicBody? rest).map fun (body, final) => (c :: body, final) else none
termination_by cs.length
decreasing_by all_goals simp_all; try omega

def literalBody? : List Char → Option (List Char × List Char)
  | [] => none
  | '\'' :: rest => some ([], rest)
  | c :: rest =>
    if isPlain c then (literalBody? rest).map fun (body, final) => (c :: body, final) else none

/-- The quotes that end a text of several lines: three close it, and up to two before them belong
to the text. -/
def closing? (quote : Char) (cs : List Char) : Option (List Char × List Char) :=
  let count := min (cs.takeWhile (· == quote)).length 5
  if 3 ≤ count then some (List.replicate (count - 3) quote, cs.drop count) else none

def linesBody? (quote : Char) (cs : List Char) : Option (List Char × List Char) :=
  match closing? quote cs with
  | some found => some found
  | none =>
    match cs with
    | [] => none
    | '\r' :: '\n' :: rest => (linesBody? quote rest).map fun (body, final) => ('\n' :: body, final)
    | '\n' :: rest => (linesBody? quote rest).map fun (body, final) => ('\n' :: body, final)
    | '\\' :: rest =>
      -- A backslash escapes in the basic form only.
      if quote = '\'' then (linesBody? quote rest).map fun (body, final) => ('\\' :: body, final)
      else
        match lineEnd? rest with
        | some after =>
          if _h : after.length ≤ rest.length then linesBody? quote after else none
        | none =>
          match escape? rest with
          | none => none
          | some (c, after) =>
            if _h : after.length ≤ rest.length then
              (linesBody? quote after).map fun (body, final) => (c :: body, final)
            else none
    | c :: rest =>
      if isPlain c then (linesBody? quote rest).map fun (body, final) => (c :: body, final) else none
termination_by cs.length
decreasing_by all_goals simp_all; try omega

def lines? (quote : Char) (cs : List Char) : Option (List Char × List Char) :=
  linesBody? quote ((newline? cs).getD cs)

def quoted? : List Char → Option (String × List Char)
  | '"' :: '"' :: '"' :: rest => (lines? '"' rest).map fun (body, final) => (String.ofList body, final)
  | '"' :: rest => (basicBody? rest).map fun (body, final) => (String.ofList body, final)
  | '\'' :: '\'' :: '\'' :: rest =>
    (lines? '\'' rest).map fun (body, final) => (String.ofList body, final)
  | '\'' :: rest => (literalBody? rest).map fun (body, final) => (String.ofList body, final)
  | _ => none

end ViewerHost.Toml
