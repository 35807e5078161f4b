import ViewerHost.Settings.Chain

namespace ViewerHost.Settings

def readLayer (tree : FileTree) (path : Path) : Except SettingsError Layer :=
  match tree.readText path with
  | .error reason => .error (.unreadable path reason)
  | .ok text =>
    match Toml.read? text with
    | none => .error (.malformedFile path)
    | some document => .ok (.ofDocument (some path) document)

/-- Reads one more file in front of a chain. The first one takes the place of the empty layer that
the chain starts with. -/
def loadNext (tree : FileTree) (state : Settings × Bool) (file : Path) :
    Except SettingsError (Settings × Bool) := do
  let (chain, first) := state
  let below := if first then chain.behind else chain.layers
  let nearest ← readLayer tree file
  .ok (⟨nearest, below⟩, false)

/-- One layer per file in front of the parent, the last file nearest; without files an empty layer
in front of the parent. -/
def load (tree : FileTree) (parent : Option Settings) (files : List Path) :
    Except SettingsError Settings :=
  (files.foldlM (loadNext tree) (⟨.empty, layersOf parent⟩, true)).map (·.1)

end ViewerHost.Settings
