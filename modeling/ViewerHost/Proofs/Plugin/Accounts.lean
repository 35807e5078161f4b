import ViewerHost.Proofs.Files.Listing
import ViewerHost.Proofs.Plugin.Loading
import ViewerHost.Proofs.Plugin.Resolution
import ViewerHost.Proofs.Plugin.Verdicts

namespace ViewerHost

open Outcome Registry

namespace Discovery

variable {tree : FileTree} {catalog : Catalog} {root : Path} {r : Registry}
  {report : DiscoveryReport} {names : List String}

theorem candidates_of_error {e : FileError} (unlisted : tree.list root = .error e) :
    candidates tree root = [] := by
  simp only [candidates, unlisted]

theorem candidates_of_ok (listed : tree.list root = .ok names) :
    candidates tree root = (names.map root.child).filter tree.isDirectory := by
  simp only [candidates, listed]

def outcomes (tree : FileTree) (catalog : Catalog) (root : Path) :
    List (Except LoadError Plugin) :=
  (candidates tree root).zipIdx.map fun (dir, i) => Plugin.load tree catalog dir i

def failed (dirs : List Path) (verdicts : List (Except LoadError Plugin)) :
    List (Path × LoadError) :=
  (dirs.zip verdicts).filterMap fun (dir, verdict) =>
    match verdict with
    | .ok _ => none
    | .error e => some (dir, e)

/-! ## The run -/

theorem step_eq_of_ok {dir : Path} {i : Nat} {p : Plugin}
    (accepted : r.verdict (Plugin.load tree catalog dir i) = .ok p) :
    step tree catalog (r, report) (dir, i) =
      (r.enrol (Plugin.load tree catalog dir i).toOption.toList,
        { report with loaded := report.loaded ++ [p.mountPath] }) := by
  obtain ⟨q, loads, rest⟩ := bind_eq_ok_iff.mp accepted
  obtain ⟨after, registered, same⟩ := bind_eq_ok_iff.mp rest
  obtain rfl := Except.ok.inj same
  simp [step, enlist, loads, registered, bind, Except.bind, enrol, Except.toOption,
    offer_of_ok registered]

theorem step_eq_of_error {dir : Path} {i : Nat} {e : LoadError}
    (refused : r.verdict (Plugin.load tree catalog dir i) = .error e) :
    step tree catalog (r, report) (dir, i) =
      (r.enrol (Plugin.load tree catalog dir i).toOption.toList,
        { report with failures := report.failures ++ [(dir, e)] }) := by
  cases loads : Plugin.load tree catalog dir i with
  | error cause =>
      rw [loads] at refused
      obtain rfl := Except.error.inj refused
      simp [step, enlist, loads, bind, Except.bind, enrol, Except.toOption]
  | ok p =>
      rw [loads] at refused
      cases registered : r.register p with
      | ok after => simp [verdict, registered, bind, Except.bind] at refused
      | error cause =>
          simp only [verdict, registered, bind, Except.bind, Except.error.injEq] at refused
          simp [step, enlist, loads, registered, bind, Except.bind, enrol, Except.toOption,
            offer_of_error registered, refused]

theorem foldl_step (dirs : List (Path × Nat)) :
    dirs.foldl (step tree catalog) (r, report) =
      let outcomes := dirs.map fun (dir, i) => Plugin.load tree catalog dir i
      (r.enrol (loaded outcomes), {
        loaded := report.loaded ++ (loaded (r.judge outcomes)).map (·.mountPath)
        failures := report.failures ++ failed (dirs.map Prod.fst) (r.judge outcomes) }) := by
  induction dirs generalizing r report with
  | nil => simp [loaded, failed, judge, enrol]
  | cons candidate dirs ih =>
      obtain ⟨dir, i⟩ := candidate
      simp only [List.foldl_cons, List.map_cons, judge, loaded_cons, enrol_append]
      cases judged : r.verdict (Plugin.load tree catalog dir i) with
      | ok p =>
          rw [step_eq_of_ok judged, ih]
          simp [failed, Except.toOption]
      | error e =>
          rw [step_eq_of_error judged, ih]
          simp [failed, Except.toOption]

theorem run_eq (tree : FileTree) (catalog : Catalog) (root : Path) (r : Registry) :
    run tree catalog root r =
      (r.enrol (loaded (outcomes tree catalog root)), {
        loaded := (loaded (r.judge (outcomes tree catalog root))).map (·.mountPath)
        failures := failed (candidates tree root) (r.judge (outcomes tree catalog root)) }) := by
  rw [run, foldl_step]
  simp [outcomes]

theorem index_of_toOption {dir : Path} {i : Nat} {p : Plugin}
    (found : (Plugin.load tree catalog dir i).toOption = some p) : p.index = i := by
  cases loads : Plugin.load tree catalog dir i with
  | error e =>
      rw [loads] at found
      cases found
  | ok q =>
      rw [loads] at found
      obtain rfl := Option.some.inj found
      exact Plugin.index_of_load loads

theorem ascending_loaded : Ascending (loaded (outcomes tree catalog root)) := by
  have positions : ((candidates tree root).zipIdx).Pairwise fun a b => a.2 < b.2 := by
    apply List.pairwise_map.mp
    rw [List.zipIdx_map_snd]
    exact List.pairwise_lt_range'
  rw [loaded, outcomes, List.filterMap_map]
  refine List.Pairwise.filterMap _ ?_ positions
  rintro ⟨dir, i⟩ ⟨dir', j⟩ before p first q second
  rw [index_of_toOption first, index_of_toOption second]
  exact before

/-! ## Candidates left out -/

/-- Outcomes of a second discovery. It lacks some candidates that do not load, and so comes to the
others at other positions. -/
inductive Thinned : List (Except LoadError Plugin) → List (Except LoadError Plugin) → Prop where
  | nil : Thinned [] []
  | kept {first second : Except LoadError Plugin} {outcomes rest : List (Except LoadError Plugin)} :
      first.map Plugin.unplaced = second.map Plugin.unplaced → Thinned outcomes rest →
      Thinned (first :: outcomes) (second :: rest)
  | dropped {outcomes rest : List (Except LoadError Plugin)} (e : LoadError) :
      Thinned outcomes rest → Thinned (.error e :: outcomes) rest

theorem Thinned.loaded_eq {first second : List (Except LoadError Plugin)}
    (thinned : Thinned first second) :
    (loaded first).map Plugin.unplaced = (loaded second).map Plugin.unplaced := by
  induction thinned with
  | nil => rfl
  | @kept first second _ _ same _ ih =>
      have alike : first.toOption.map Plugin.unplaced = second.toOption.map Plugin.unplaced := by
        cases first <;> cases second <;> simp_all [Except.map, Except.toOption]
      rw [loaded_cons, loaded_cons, List.map_append, List.map_append, ih, ← Option.toList_map,
        ← Option.toList_map, alike]
  | dropped e _ ih => exact ih

theorem Thinned.unplaced_enrol {first second : List (Except LoadError Plugin)}
    (thinned : Thinned first second) :
    (r.enrol (loaded first)).unplaced = (r.enrol (loaded second)).unplaced := by
  rw [← enrol_unplaced, ← enrol_unplaced, thinned.loaded_eq]

theorem ascending_run (empty : r.plugins = []) : Ascending (run tree catalog root r).1.plugins := by
  rw [run_eq, plugins_enrol, empty, List.nil_append]
  exact ascending_loaded.sublist (accepted_sublist r _)

theorem loaded_run (empty : r.plugins = []) :
    (run tree catalog root r).2.loaded =
      (run tree catalog root r).1.unplaced.plugins.map (·.mountPath) := by
  rw [run_eq, loaded_judge, unplaced, plugins_enrol, empty, List.nil_append, List.map_map]
  rfl

/-- Each directory in the root gets one verdict, told from what loading it comes to, from the
registry and from the verdicts before it; the report and the registry are read off the verdicts. In
a registry that was empty, leaving out candidates that do not load changes neither what is loaded
nor what is presented. -/
theorem discovery_accounts (tree : FileTree) (catalog : Catalog) (root : Path)
    (reached : Reachable r) :
    ((∀ e, tree.list root = .error e → candidates tree root = []) ∧
      ∀ names, tree.list root = .ok names → names.Pairwise (· < ·) ∧
        (∃ place, tree.locate root = .ok place ∧
          ∀ name, name ∈ names ↔ ∃ entry, (place ++ [name], entry) ∈ tree.entries) ∧
        candidates tree root = (names.map root.child).filter tree.isDirectory) ∧
    (∃ verdicts, r.Judged (outcomes tree catalog root) verdicts ∧
      (run tree catalog root r).2.loaded = (loaded verdicts).map (·.mountPath) ∧
      (run tree catalog root r).2.failures = failed (candidates tree root) verdicts ∧
      (run tree catalog root r).1 = r.extend (loaded verdicts)) ∧
    (r.plugins = [] → ∀ tree' catalog' root',
      Thinned (outcomes tree catalog root) (outcomes tree' catalog' root') →
      (run tree' catalog' root' r).2.loaded = (run tree catalog root r).2.loaded ∧
      (run tree' catalog' root' r).1.visible.map Plugin.unplaced =
        (run tree catalog root r).1.visible.map Plugin.unplaced ∧
      (run tree' catalog' root' r).1.mounts = (run tree catalog root r).1.mounts) := by
  refine ⟨⟨fun e => candidates_of_error, ?_⟩, ⟨r.judge (outcomes tree catalog root), ?_⟩, ?_⟩
  · intro names listed
    obtain ⟨place, located, -, rfl⟩ := FileTree.list_eq_ok_iff.mp listed
    exact ⟨FileTree.pairwise_of_list listed, ⟨place, located, fun name => FileTree.mem_namesIn⟩,
      candidates_of_ok listed⟩
  · refine ⟨reached.sound.judged _, ?_, ?_, ?_⟩
    · rw [run_eq]
    · rw [run_eq]
    · rw [run_eq, loaded_judge, enrol_eq_extend]
  · intro empty tree' catalog' root' thinned
    have same : (run tree catalog root r).1.unplaced = (run tree' catalog' root' r).1.unplaced := by
      rw [run_eq, run_eq]
      exact thinned.unplaced_enrol
    refine ⟨?_, ?_, ?_⟩
    · rw [loaded_run empty, loaded_run empty, same]
    · rw [visible_unplaced (ascending_run empty), visible_unplaced (ascending_run empty), same]
    · rw [mounts_unplaced (ascending_run empty), mounts_unplaced (ascending_run empty), same]

end Discovery

/-! The same plugins beside a bundle without settings. -/

namespace Sample

def crowdedTree : FileTree where
  entries := [(["plugins"], .directory), (["plugins", "broken"], .directory)] ++
    bundle "b" "é" ++ bundle "c" "é/ü"
  workingDirectory := []

def thinTree : FileTree where
  entries := (["plugins"], .directory) :: (bundle "b" "é" ++ bundle "c" "é/ü")
  workingDirectory := []

theorem load_alike {tree tree' : FileTree} {dir : Path} (i j : Nat)
    (found : ∀ path ∈ Bundle.places dir, tree.find path = tree'.find path)
    (libraries : tree.list (dir.child "lib") = tree'.list (dir.child "lib")) :
    (Plugin.load tree catalog dir i).map Plugin.unplaced =
      (Plugin.load tree' catalog dir j).map Plugin.unplaced := by
  have unbound : ∀ (tree : FileTree) path, Scope.bind? tree catalog path = none := by
    intro tree path
    unfold Scope.bind?
    split
    · cases path.fileStem? with
      | none => rfl
      | some stem => rfl
    · rfl
  rw [Plugin.unplaced_load i j, Plugin.load_congr found libraries]
  · intro path
    rw [unbound, unbound]
  · rintro b classpath ⟨c, origin⟩ found
    rcases Scope.resolve?_eq_some_iff.mp found with
      ⟨-, path, -, -, -, ⟨-, stem, library, -, listed, -⟩, -⟩ | ⟨-, host, -⟩
    · cases listed
    · simp only [catalog, Catalog.ofHost, Library.class?, Library.ofClasses, List.foldl_cons,
        List.foldl_nil, Library.add, Library.empty, Dictionary.get?_insert, Dictionary.get?_empty,
        Option.ite_none_right_eq_some, Option.some.injEq] at host
      obtain ⟨-, rfl⟩ := host
      rfl

end Sample

theorem Discovery.discovery_accounts_crowded :
    Thinned (outcomes Sample.crowdedTree Sample.catalog ⟨"/plugins"⟩)
        (outcomes Sample.thinTree Sample.catalog ⟨"/plugins"⟩) ∧
      (run Sample.thinTree Sample.catalog ⟨"/plugins"⟩ (.reserving [])).2.loaded =
        ["é", "é/ü"] := by
  have crowded : candidates Sample.crowdedTree ⟨"/plugins"⟩ =
      [⟨"/plugins/b"⟩, ⟨"/plugins/broken"⟩, ⟨"/plugins/c"⟩] := by decide +kernel
  have thin : candidates Sample.thinTree ⟨"/plugins"⟩ = [⟨"/plugins/b"⟩, ⟨"/plugins/c"⟩] := by
    decide +kernel
  have broken : Plugin.load Sample.crowdedTree Sample.catalog ⟨"/plugins/broken"⟩ 1 =
      .error (.missingConfig (Bundle.settingsFile ⟨"/plugins/broken"⟩)) := by
    have directory : Sample.crowdedTree.isDirectory ⟨"/plugins/broken"⟩ = true := by decide +kernel
    have missing : Sample.crowdedTree.isFile (Bundle.settingsFile ⟨"/plugins/broken"⟩) = false := by
      decide +kernel
    simp [Plugin.load, Bundle.load, Bundle.loadSettings, directory, missing, bind, Except.bind]
  have thinned : Thinned (outcomes Sample.crowdedTree Sample.catalog ⟨"/plugins"⟩)
        (outcomes Sample.thinTree Sample.catalog ⟨"/plugins"⟩) := by
    rw [outcomes, outcomes, crowded, thin]
    refine .kept ?_ ?_
    · exact Sample.load_alike 0 0 (by decide +kernel) (by decide +kernel)
    · simp only [List.zipIdx_cons, List.zipIdx_nil, List.map_cons, List.map_nil, broken]
      refine .dropped _ (.kept ?_ .nil)
      exact Sample.load_alike 2 1 (by decide +kernel) (by decide +kernel)
  refine ⟨thinned, ?_⟩
  have accounts := discovery_accounts Sample.crowdedTree Sample.catalog ⟨"/plugins"⟩ (.reserving [])
  rw [(accounts.2.2 rfl Sample.thinTree Sample.catalog ⟨"/plugins"⟩ thinned).1]
  decide +kernel

end ViewerHost
