import ViewerHost.Proofs.Outcome
import ViewerHost.Settings.Load

/-!
Reading files into a chain of settings. After each file the chain holds the layers of the files so
far, the last of them nearest, in front of the layers of the parent. Only before the first file does
it have a layer of its own, and the first file takes its place.
-/

namespace ViewerHost.Settings

open Outcome

variable {tree tree' : FileTree} {parent : Option Settings} {files : List Path} {file : Path}
  {read below : List Layer} {layer : Layer} {s : Settings} {e : SettingsError} {key : String}

def documentIn? (tree : FileTree) (file : Path) : Option Toml :=
  (tree.readText file).toOption.bind Toml.read?

theorem readLayer_eq_ok_iff :
    readLayer tree file = .ok layer ↔
      ∃ document, documentIn? tree file = some document ∧
        .ofDocument (some file) document = layer := by
  unfold readLayer documentIn?
  cases tree.readText file with
  | error reason => simp [Except.toOption]
  | ok text =>
      cases found : Toml.read? text with
      | none => simp [Except.toOption, found]
      | some document => simp [Except.toOption, found]

theorem source_of_readLayer (given : readLayer tree file = .ok layer) :
    layer.source = some file := by
  obtain ⟨document, -, rfl⟩ := readLayer_eq_ok_iff.mp given
  cases document <;> rfl

def stacked (read below : List Layer) : Settings :=
  match read.reverse with
  | [] => ⟨.empty, below⟩
  | nearest :: behind => ⟨nearest, behind ++ below⟩

theorem stacked_concat : stacked (read ++ [layer]) below = ⟨layer, read.reverse ++ below⟩ := by
  rw [stacked, List.reverse_append, List.reverse_singleton, List.singleton_append]

theorem layers_stacked (nonempty : read ≠ []) :
    (stacked read below).layers = read.reverse ++ below := by
  obtain ⟨front, last, rfl⟩ := List.eq_nil_or_concat read |>.resolve_left nonempty
  rw [List.concat_eq_append, stacked_concat, List.reverse_append]
  rfl

theorem loadNext_stacked :
    loadNext tree (stacked read below, read.isEmpty) file =
      (readLayer tree file).map fun layer => (stacked (read ++ [layer]) below, false) := by
  have stay : (if read.isEmpty then (stacked read below).behind else (stacked read below).layers) =
      read.reverse ++ below := by
    -- The empty layer before the first file goes; every later one stays.
    cases read with
    | nil => rfl
    | cons first rest => exact layers_stacked (List.cons_ne_nil first rest)
  rw [loadNext, stay]
  cases readLayer tree file with
  | error reason => rfl
  | ok layer =>
      rw [Except.map, stacked_concat]
      rfl

theorem foldlM_loadNext (tree : FileTree) (read below : List Layer) (files : List Path) :
    files.foldlM (loadNext tree) (stacked read below, read.isEmpty) =
      (files.mapM (readLayer tree)).map fun layers =>
        (stacked (read ++ layers) below, (read ++ layers).isEmpty) := by
  induction files generalizing read with
  | nil => simp [pure, Except.pure, Except.map]
  | cons file files ih =>
      rw [List.foldlM_cons, List.mapM_cons, loadNext_stacked]
      cases readLayer tree file with
      | error reason => rfl
      | ok layer =>
          have more : (read ++ [layer]).isEmpty = false := by simp
          have later := ih (read ++ [layer])
          rw [more] at later
          refine later.trans ?_
          cases files.mapM (readLayer tree) with
          | error reason => rfl
          | ok layers => simp [bind, Except.bind, pure, Except.pure, Except.map]

theorem load_eq (tree : FileTree) (parent : Option Settings) (files : List Path) :
    load tree parent files =
      (files.mapM (readLayer tree)).map fun layers => stacked layers (layersOf parent) := by
  have run := foldlM_loadNext tree [] (layersOf parent) files
  have start : stacked [] (layersOf parent) = ⟨.empty, layersOf parent⟩ := rfl
  rw [start, List.isEmpty_nil] at run
  rw [load, run]
  cases files.mapM (readLayer tree) with
  | error reason => rfl
  | ok layers => rfl

theorem load_eq_ok_iff :
    load tree parent files = .ok s ↔
      ∃ layers, List.Forall₂ (fun file layer => readLayer tree file = .ok layer) files layers ∧
        stacked layers (layersOf parent) = s := by
  simp only [load_eq, map_eq_ok_iff, mapM_eq_ok_iff]

theorem load_congr (alike : ∀ file ∈ files, readLayer tree file = readLayer tree' file) :
    load tree parent files = load tree' parent files := by
  rw [load_eq, load_eq, mapM_congr alike]

theorem sources_of_forall₂ {layers : List Layer}
    (given : List.Forall₂ (fun file layer => readLayer tree file = .ok layer) files layers) :
    layers.map (·.source) = files.map some := by
  induction given with
  | nil => rfl
  | cons first _ ih => rw [List.map_cons, List.map_cons, source_of_readLayer first, ih]

theorem sources_load (loaded : load tree parent files = .ok s) (nonempty : files ≠ []) :
    s.sources = files.reverse.map some ++ (layersOf parent).map (·.source) := by
  obtain ⟨layers, given, rfl⟩ := load_eq_ok_iff.mp loaded
  have nonempty' : layers ≠ [] := by
    rintro rfl
    exact nonempty (List.forall₂_nil_right_iff.mp given)
  rw [sources, layers_stacked nonempty', List.map_append, List.map_reverse,
    sources_of_forall₂ given, List.map_reverse]

end ViewerHost.Settings
