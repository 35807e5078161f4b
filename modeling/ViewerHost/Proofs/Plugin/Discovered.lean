import ViewerHost.Proofs.Outcome
import ViewerHost.Proofs.Plugin.Registration
import ViewerHost.Server.Route

namespace ViewerHost

open MountPath Text Outcome

namespace Bundle

variable {tree : FileTree} {dir : Path} {s : Settings} {b : Bundle} {path : String}

theorem readMountPath_ok (read : readMountPath s = .ok path) :
    path ≠ "" ∧ ∃ raw, s.getText "viewer.path" = .ok raw ∧ path = normalize raw := by
  obtain ⟨raw, given, checked⟩ := bind_eq_ok_iff.mp read
  by_cases empty : (normalize raw).isEmpty = true
  · simp only [empty, if_true, reduceCtorEq] at checked
  · simp only [empty, if_false, Except.ok.injEq, Bool.false_eq_true] at checked
    rw [← checked]
    exact ⟨by simpa using empty, raw, given, rfl⟩

theorem ofSettings_ok (read : ofSettings dir s = .ok b) :
    b.settings = s ∧ readMountPath s = .ok b.mountPath := by
  simp only [ofSettings, bind_eq_ok_iff] at read
  obtain ⟨name, -, path, mounted, handlerClass, -, order, -, hidden, -, external, -, made⟩ := read
  cases made
  exact ⟨rfl, mounted⟩

theorem load_ok (loaded : load tree dir = .ok b) : ofSettings dir b.settings = .ok b := by
  unfold load at loaded
  split at loaded
  · cases loaded
  · obtain ⟨s, -, loaded⟩ := bind_eq_ok_iff.mp loaded
    obtain ⟨made, read, loaded⟩ := bind_eq_ok_iff.mp loaded
    split at loaded
    · cases loaded
      have whole := mapError_eq_ok_iff.mp read
      rwa [(ofSettings_ok whole).1]
    · cases loaded

end Bundle

namespace Plugin

variable {tree : FileTree} {catalog : Catalog} {dir : Path} {index : Nat} {p : Plugin}

def IsNamed (p : Plugin) : Prop :=
  p.mountPath ≠ "" ∧
    ∃ raw, p.bundle.settings.getText "viewer.path" = .ok raw ∧ p.mountPath = normalize raw

theorem load_ok (loaded : load tree catalog dir index = .ok p) :
    Bundle.load tree dir = .ok p.bundle := by
  obtain ⟨bundle, found, loaded⟩ := bind_eq_ok_iff.mp loaded
  obtain ⟨classpath, -, loaded⟩ := bind_eq_ok_iff.mp loaded
  dsimp only at loaded
  split at loaded
  · cases loaded
  · obtain ⟨handler, -, made⟩ := bind_eq_ok_iff.mp loaded
    cases made
    exact found

theorem isNamed_of_load (loaded : load tree catalog dir index = .ok p) : p.IsNamed := by
  have read := Bundle.ofSettings_ok (Bundle.load_ok (load_ok loaded))
  exact Bundle.readMountPath_ok read.2

theorem IsNamed.bare (named : p.IsNamed) :
    opensWith isSlash p.mountPath.toList = false ∧
      closesWith isSlash p.mountPath.toList = false := by
  obtain ⟨-, raw, -, same⟩ := named
  rw [same]
  exact ⟨opensWith_normalize, closesWith_normalize⟩

end Plugin

namespace Discovery

variable {tree : FileTree} {catalog : Catalog} {root : Path} {r : Registry}

theorem step_registry (state : Registry × DiscoveryReport) (candidate : Path × Nat) :
    (step tree catalog state candidate).1 = state.1 ∨
      ∃ p after, p.IsNamed ∧ state.1.register p = .ok after ∧
        (step tree catalog state candidate).1 = after := by
  unfold step
  dsimp only
  split
  · rename_i plugin after enlisted
    obtain ⟨p, loaded, rest⟩ := bind_eq_ok_iff.mp enlisted
    obtain ⟨after', registered, same⟩ := bind_eq_ok_iff.mp rest
    cases same
    exact Or.inr ⟨_, _, Plugin.isNamed_of_load loaded, registered, rfl⟩
  · exact Or.inl rfl

def fill (tree : FileTree) (catalog : Catalog) (root : Path) (r : Registry) : Registry :=
  (run tree catalog root r).1

/-- What every registration of a loaded plugin keeps, a discovery keeps. -/
theorem fill_keeps (Kept : Registry → Prop)
    (registers : ∀ r p after, Plugin.IsNamed p → r.register p = .ok after → Kept r → Kept after)
    (before : Kept r) : Kept (fill tree catalog root r) := by
  have folds : ∀ (candidates : List (Path × Nat)) (state : Registry × DiscoveryReport),
      Kept state.1 → Kept (candidates.foldl (step tree catalog) state).1 := by
    intro candidates
    induction candidates with
    | nil => exact fun state kept => kept
    | cons candidate candidates ih =>
        intro state kept
        apply ih
        rcases step_registry state candidate with same | ⟨p, after, named, registered, same⟩
        · rwa [same]
        · rw [same]
          exact registers _ p after named registered kept
  exact folds _ _ before

end Discovery

namespace Registry

variable {r after : Registry} {p : Plugin}

/-- The registries of a server: discoveries fill one that keeps the routes of the host. -/
inductive Discovered : Registry → Prop where
  | start : Discovered (.reserving Route.reserved)
  | fill {r : Registry} (tree : FileTree) (catalog : Catalog) (root : Path) :
      Discovered r → Discovered (Discovery.fill tree catalog root r)

structure Hosted (r : Registry) : Prop where
  reachable : Reachable r
  named : ∀ p ∈ r.plugins, p.IsNamed
  /-- Discoveries reserve nothing, and give up nothing that is reserved. -/
  reserves : ∀ path, r.isReserved path = true ↔
    ∃ route ∈ Route.reserved, Withholds route (normalize path)

theorem Hosted.register (hosted : r.Hosted) (named : p.IsNamed)
    (accepted : r.register p = .ok after) : after.Hosted := by
  have reached : Reachable after := by
    rw [← offer_of_ok accepted]
    exact .offer p hosted.reachable
  obtain ⟨-, -, rfl⟩ := register_ok accepted
  refine ⟨reached, ?_, hosted.reserves⟩
  intro q member
  rcases List.mem_append.mp member with old | new
  · exact hosted.named q old
  · rwa [List.mem_singleton.mp new]

theorem Discovered.hosted (discovered : Discovered r) : r.Hosted := by
  induction discovered with
  | start =>
      refine ⟨.reserving _, ?_, fun path => isReserved_reserving _⟩
      simp [reserving_entries]
  | fill tree catalog root _ ih =>
      apply Discovery.fill_keeps Hosted _ ih
      intro r p after named accepted hosted
      exact hosted.register named accepted

theorem Hosted.not_withheld (hosted : r.Hosted) (member : p ∈ r.plugins) :
    ∀ route ∈ Route.reserved, ¬Withholds route (normalize p.mountPath) := by
  intro route reserved withheld
  have taken := (hosted.reserves p.mountPath).mpr ⟨route, reserved, withheld⟩
  rw [hosted.reachable.sound.free p member] at taken
  cases taken

end Registry

/-! A server with three plugins, one of them on a path with blanks between its slashes. -/

namespace Sample

def echo : Handler := ⟨"echo", fun _ request => .html request.path⟩

def catalog : Catalog :=
  .ofHost (.ofClasses "host" [⟨"Echo", some fun _ _ => .ok (.handler echo)⟩])

def bundle (name path : String) : List (List String × Entry) := [
  (["plugins", name], .directory),
  (["plugins", name, "conf"], .directory),
  (["plugins", name, "lib"], .directory),
  (["plugins", name, "conf", "plugin.toml"],
    .text ("viewer.name = \"" ++ name ++ "\"\nviewer.path = \"" ++ path ++
      "\"\nviewer.handler.class = \"Echo\"\n"))]

def tree : FileTree where
  entries := (["plugins"], .directory) :: bundle "a" "/ a /" ++ bundle "b" "é" ++ bundle "c" "é/ü"
  workingDirectory := []

def registry : Registry := Discovery.fill tree catalog ⟨"/plugins"⟩ (.reserving Route.reserved)

theorem discovered : registry.Discovered := .fill tree catalog ⟨"/plugins"⟩ .start

theorem mounted (path : String) (given : path ∈ [" a ", "é", "é/ü"]) :
    ∃ p ∈ registry.plugins, p.mountPath = path := by
  have mounts : registry.plugins.map (·.mountPath) = [" a ", "é", "é/ü"] := by decide +kernel
  rw [← mounts] at given
  exact List.mem_map.mp given

end Sample

end ViewerHost
