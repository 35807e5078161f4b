import ViewerHost.Text.Pieces

namespace ViewerHost

structure Path where
  text : String
deriving DecidableEq, Repr

namespace Path

open Text

def segments (p : Path) : List String := (pieces '/' p.text.toList).map String.ofList

def isAbsolute (p : Path) : Bool := p.text.toList.head? == some '/'

def ofSegments (segments : List String) : Path :=
  match segments with
  | [""] => ⟨"/"⟩
  | segments => ⟨joined "/" segments⟩

def join (base other : Path) : Path :=
  if other.isAbsolute then other
  else if base.text = "" ∨ base.text.toList.getLast? = some '/' then ⟨base.text ++ other.text⟩
  else ⟨base.text ++ "/" ++ other.text⟩

def child (base : Path) (name : String) : Path := base.join ⟨name⟩

def isFiller (segment : String) : Bool := segment == "" || segment == "."

def dropFillers : List String → List String
  | [] => []
  | [first] => [first]
  | last :: before => if isFiller last then dropFillers before else last :: before

def parentsOf (absolute : Bool) : List String → List Path
  | [] => []
  -- The segments are reversed: the last one that is left is the first of the path.
  | [first] => if absolute ∨ first = "" then [] else [⟨""⟩]
  | _ :: before =>
    let rest := dropFillers before
    ofSegments rest.reverse :: parentsOf absolute rest
termination_by segments => segments.length
decreasing_by
  have shorter (l : List String) : (dropFillers l).length ≤ l.length := by
    fun_induction dropFillers l <;> simp_all; omega
  simpa using Nat.lt_succ_of_le (shorter before)

def parents (p : Path) : List Path := parentsOf p.isAbsolute (dropFillers p.segments.reverse)

def parent? (p : Path) : Option Path := p.parents.head?

def fileName? (p : Path) : Option String :=
  (dropFillers p.segments.reverse).head?.filter fun name => !isFiller name && name != ".."

/-- The name before its last point and what follows the point. A point at the start does not
count. -/
def splitName (name : String) : String × Option String :=
  let cs := name.toList.reverse
  let ending := cs.takeWhile (· != '.')
  match cs.drop ending.length with
  | [] => (name, none)
  | [_] => (name, none)
  | _ :: stem => (String.ofList stem.reverse, some (String.ofList ending.reverse))

def fileStem? (p : Path) : Option String := p.fileName?.map fun name => (splitName name).1

def extension? (p : Path) : Option String := p.fileName?.bind fun name => (splitName name).2

end Path

end ViewerHost
