import ViewerHost.Plugin.Loading
import ViewerHost.Proofs.Outcome
import ViewerHost.Proofs.Plugin.Presentation
import ViewerHost.Proofs.Settings.Loading

namespace ViewerHost

open Outcome

variable {tree tree' : FileTree} {catalog : Catalog} {dir : Path}

namespace Bundle

theorem libraryDir_of_ofSettings {s : Settings} {b : Bundle} (made : ofSettings dir s = .ok b) :
    b.libraryDir = dir.child "lib" := by
  obtain ⟨name, -, made⟩ := bind_eq_ok_iff.mp made
  obtain ⟨mountPath, -, made⟩ := bind_eq_ok_iff.mp made
  obtain ⟨handlerClass, -, made⟩ := bind_eq_ok_iff.mp made
  obtain ⟨order, -, made⟩ := bind_eq_ok_iff.mp made
  obtain ⟨hidden, -, made⟩ := bind_eq_ok_iff.mp made
  obtain ⟨external, -, made⟩ := bind_eq_ok_iff.mp made
  obtain rfl := Except.ok.inj made
  rfl

theorem libraryDir_of_load {b : Bundle} (loaded : load tree dir = .ok b) :
    b.libraryDir = dir.child "lib" := by
  unfold load at loaded
  split at loaded
  · cases loaded
  · obtain ⟨settings, -, loaded⟩ := bind_eq_ok_iff.mp loaded
    obtain ⟨made, read, loaded⟩ := bind_eq_ok_iff.mp loaded
    split at loaded
    · obtain rfl := Except.ok.inj loaded
      exact libraryDir_of_ofSettings (mapError_eq_ok_iff.mp read)
    · cases loaded

def places (dir : Path) : List Path :=
  [dir, settingsFile dir, overrideFile dir, dir.child "lib"]

theorem load_congr (found : ∀ path ∈ places dir, tree.find path = tree'.find path) :
    load tree dir = load tree' dir := by
  have directory : ∀ path ∈ places dir, tree.isDirectory path = tree'.isDirectory path := by
    intro path place
    rw [FileTree.isDirectory, FileTree.isDirectory, found path place]
  have file : ∀ path ∈ places dir, tree.isFile path = tree'.isFile path := by
    intro path place
    rw [FileTree.isFile, FileTree.isFile, found path place]
  have layer : ∀ path ∈ places dir,
      Settings.readLayer tree path = Settings.readLayer tree' path := by
    intro path place
    rw [Settings.readLayer, Settings.readLayer, FileTree.readText, FileTree.readText,
      found path place]
  simp only [places, List.forall_mem_cons] at directory file layer
  have settings : loadSettings tree dir = loadSettings tree' dir := by
    have read : ∀ path ∈ settingsFiles tree' dir,
        Settings.readLayer tree path = Settings.readLayer tree' path := by
      unfold settingsFiles
      cases tree'.isFile (overrideFile dir) with
      | true => simp [layer]
      | false => simp [layer]
    unfold loadSettings
    rw [file.2.1, settingsFiles, file.2.2.1, ← settingsFiles, Settings.load_congr read]
  unfold load
  rw [directory.1, settings]
  split
  · rfl
  · cases loadSettings tree' dir with
    | error e => rfl
    | ok s =>
        simp only [bind, Except.bind]
        cases read : ofSettings dir s with
        | error e => rfl
        | ok b => simp only [Except.mapError, libraryDir_of_ofSettings read, directory]

end Bundle

namespace Plugin

theorem index_of_load {i : Nat} {p : Plugin} (loaded : load tree catalog dir i = .ok p) :
    p.index = i := by
  obtain ⟨bundle, -, loaded⟩ := bind_eq_ok_iff.mp loaded
  obtain ⟨classpath, -, loaded⟩ := bind_eq_ok_iff.mp loaded
  dsimp only at loaded
  split at loaded
  · cases loaded
  · obtain ⟨handler, -, made⟩ := bind_eq_ok_iff.mp loaded
    cases made
    rfl

theorem unplaced_load (i j : Nat) :
    (load tree catalog dir i).map unplaced = (load tree catalog dir j).map unplaced := by
  simp only [load, bind, Except.bind]
  cases Bundle.load tree dir with
  | error e => rfl
  | ok b =>
      dsimp only
      cases (b.classpath tree).mapError LoadError.unreadable with
      | error e => rfl
      | ok classpath =>
          dsimp only
          cases (Scope.ofClasspath tree catalog classpath).resolve? b.handlerClass with
          | none => rfl
          | some resolved =>
              dsimp only
              cases construct tree b resolved.handlerClass with
              | error e => rfl
              | ok handler => rfl

/-- Two trees that agree on the places of a bundle, on what is in its library directory and on what
exists of its class path load it alike, as far as its constructor makes the same of them. -/
theorem load_congr {i : Nat} (found : ∀ path ∈ Bundle.places dir, tree.find path = tree'.find path)
    (libraries : tree.list (dir.child "lib") = tree'.list (dir.child "lib"))
    (bound : ∀ path, Scope.bind? tree catalog path = Scope.bind? tree' catalog path)
    (made : ∀ b classpath resolved,
      (Scope.ofClasspath tree' catalog classpath).resolve? b.handlerClass = some resolved →
      construct tree b resolved.handlerClass = construct tree' b resolved.handlerClass) :
    load tree catalog dir i = load tree' catalog dir i := by
  simp only [load, bind, Except.bind]
  rw [Bundle.load_congr found]
  cases loaded : Bundle.load tree' dir with
  | error e => rfl
  | ok b =>
      have classpaths : b.classpath tree = b.classpath tree' := by
        rw [Bundle.classpath, Bundle.classpath, Bundle.libraryDir_of_load loaded, libraries]
      dsimp only
      rw [classpaths]
      cases (b.classpath tree').mapError LoadError.unreadable with
      | error e => rfl
      | ok classpath =>
          have scopes : Scope.ofClasspath tree catalog classpath =
              Scope.ofClasspath tree' catalog classpath := by
            simp only [Scope.ofClasspath, bound]
          dsimp only
          rw [scopes]
          cases resolved : (Scope.ofClasspath tree' catalog classpath).resolve? b.handlerClass with
          | none => rfl
          | some c =>
              dsimp only
              rw [made b classpath c resolved]

end Plugin

end ViewerHost
