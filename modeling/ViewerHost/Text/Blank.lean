/-!
Blank characters and trimming. Text is handled as a list of characters; the functions on `String`
only convert at the edge.
-/

namespace ViewerHost.Text

/-- The characters that Unicode lists as white space. -/
def isBlank (c : Char) : Bool :=
  (0x09 ≤ c.val && c.val ≤ 0x0D) || c.val == 0x20 || c.val == 0x85 || c.val == 0xA0 ||
    c.val == 0x1680 || (0x2000 ≤ c.val && c.val ≤ 0x200A) || c.val == 0x2028 ||
    c.val == 0x2029 || c.val == 0x202F || c.val == 0x205F || c.val == 0x3000

def trimEnd (p : Char → Bool) (cs : List Char) : List Char :=
  (cs.reverse.dropWhile p).reverse

def trimBoth (p : Char → Bool) (cs : List Char) : List Char :=
  trimEnd p (cs.dropWhile p)

def trimBlank (s : String) : String :=
  String.ofList (trimBoth isBlank s.toList)

def trimSlashes (s : String) : String :=
  String.ofList (trimBoth (· == '/') s.toList)

def isBlankText (s : String) : Bool :=
  s.toList.all isBlank

theorem toList_trimBlank (s : String) : (trimBlank s).toList = trimBoth isBlank s.toList := by
  simp [trimBlank]

theorem toList_trimSlashes (s : String) : (trimSlashes s).toList = trimBoth (· == '/') s.toList := by
  simp [trimSlashes]

end ViewerHost.Text
