import ViewerHost.Text.Pieces
import ViewerHost.Text.Blank

namespace ViewerHost.MountPath

open Text

def normalize (path : String) : String := trimSlashes (trimBlank path)

/-- The rest of `path` below `tree`: nothing for `tree` itself, else from the slash on. -/
def below? (tree path : String) : Option String :=
  match tree.toList.isPrefixOf? path.toList with
  | some [] => some ""
  | some ('/' :: rest) => some (String.ofList ('/' :: rest))
  | _ => none

def dropSlashes (path : String) : String := String.ofList (path.toList.dropWhile (· == '/'))

def covers (tree path : String) : Bool := (below? tree path).isSome

def treeOf? (route : String) : Option String := before? "/*" route

end ViewerHost.MountPath
