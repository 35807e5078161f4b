import ViewerHost.Settings.Error
import ViewerHost.Toml.Reader

namespace ViewerHost

structure Layer where
  values : Dictionary Toml
  source : Option Path

/-- A layer, and those behind it with the nearest first. -/
structure Settings where
  layer : Layer
  behind : List Layer

namespace Layer

def empty : Layer := ⟨.empty, none⟩

def dotted (start : Option String) (key : String) : String :=
  match start with
  | none => key
  | some start => start ++ "." ++ key

mutual

def spread (key : String) (value : Toml) (values : Dictionary Toml) : Dictionary Toml :=
  match value with
  | .table entries => spreadAll (some key) entries values
  | value => values.insert key value

def spreadAll (start : Option String) (entries : List (String × Toml)) (values : Dictionary Toml) :
    Dictionary Toml :=
  match entries with
  | [] => values
  | (key, value) :: rest => spreadAll start rest (spread (dotted start key) value values)

end

def ofDocument (source : Option Path) : Toml → Layer
  | .table entries => ⟨spreadAll none entries .empty, source⟩
  | _ => ⟨.empty, source⟩

end Layer

namespace Settings

def empty : Settings := ⟨.empty, []⟩

def layers (s : Settings) : List Layer := s.layer :: s.behind

def layersOf : Option Settings → List Layer
  | none => []
  | some s => s.layers

def get? (s : Settings) (key : String) : Option Toml :=
  s.layers.findSome? fun layer => layer.values.get? key

def contains (s : Settings) (key : String) : Bool := (s.get? key).isSome

def flatten (s : Settings) : Dictionary Toml :=
  s.layers.foldr (fun layer below => below.overlay layer.values) .empty

def keys (s : Settings) : List String := s.flatten.keys

def put (s : Settings) (key : String) (value : Toml) : Settings :=
  { s with layer := { s.layer with values := s.layer.values.insert key value } }

def sources (s : Settings) : List (Option Path) := s.layers.map (·.source)

def ofText (parent : Option Settings) (text : String) : Except SettingsError Settings :=
  match Toml.read? text with
  | none => .error .malformedText
  | some document => .ok ⟨.ofDocument none document, layersOf parent⟩

theorem get?_put (s : Settings) (key : String) (value : Toml) (other : String) :
    (s.put key value).get? other = if other = key then some value else s.get? other := by
  by_cases h : other = key <;> simp [get?, layers, put, List.findSome?_cons, h]

end Settings

end ViewerHost
