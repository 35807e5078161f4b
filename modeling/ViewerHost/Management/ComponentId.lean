import ViewerHost.Text.Pieces

namespace ViewerHost

structure ComponentId where
  text : String
deriving DecidableEq, Repr

namespace ComponentId

def separator : String := ":name="

def of (kind name : String) : ComponentId := ⟨kind ++ separator ++ name⟩

/-- What follows the first separator, or all of an identifier that has none. -/
def name (id : ComponentId) : String :=
  match Text.cutAt? separator.toList id.text.toList with
  | some (_, rest) => String.ofList rest
  | none => id.text

end ComponentId

end ViewerHost
