import ViewerHost.Proofs.Files.Names

namespace ViewerHost.FileTree

open ViewerHost.Path Outcome

variable {places : List String → Prop} {tree tree' : FileTree} {place next found : List String}
  {names below segments rest : List String} {segment : String} {root : Path} {entry : Entry}

/-- The second tree has the directories of the first, and differs from it only at certain places. -/
structure AgreeOutside (places : List String → Prop) (tree tree' : FileTree) : Prop where
  workingDirectory : tree'.workingDirectory = tree.workingDirectory
  directory : ∀ names, tree.entry? names = some .directory → tree'.entry? names = some .directory
  entry? : ∀ names, ¬places names → tree'.entry? names = tree.entry? names

theorem lookup_filter_of_ne (entries : List (List String × Entry)) (other : names ≠ place) :
    (entries.filter fun e => e.1 != place).lookup names = entries.lookup names := by
  induction entries with
  | nil => rfl
  | cons first entries ih =>
      obtain ⟨at', entry⟩ := first
      by_cases gone : at' = place
      · have apart : (names == at') = false := by simpa [gone] using other
        rw [List.filter_cons_of_neg (by simp [gone]), ih, List.lookup_cons, apart]
      · rw [List.filter_cons_of_pos (by simpa using gone), List.lookup_cons, List.lookup_cons, ih]

theorem entry?_put_of_ne (other : names ≠ place) :
    FileTree.entry? (tree.put place entry) names = tree.entry? names := by
  have apart : (names == place) = false := by simpa using other
  cases names with
  | nil => rfl
  | cons name rest =>
      unfold FileTree.entry? put
      simp only [List.lookup_append, lookup_filter_of_ne _ other, List.lookup_cons, apart,
        List.lookup_nil, Option.or_none]

theorem agreeOutside_put (file : tree.entry? place ≠ some .directory) (within : places place) :
    AgreeOutside places tree (tree.put place entry) where
  workingDirectory := rfl
  directory := by
    intro names isDirectory
    have other : names ≠ place := by
      rintro rfl
      exact file isDirectory
    rw [entry?_put_of_ne other, isDirectory]
  entry? := by
    intro names outside
    apply entry?_put_of_ne
    rintro rfl
    exact outside within

theorem walk_cons (tree : FileTree) (place : List String) (segment : String) (rest : List String) :
    tree.walk place (segment :: rest) =
      tree.walk place [segment] >>= fun next => tree.walk next rest :=
  walk_append tree place [segment] rest

theorem isDirectory_of_walk (walked : tree.walk place (segment :: rest) = .ok found) :
    tree.entry? place = some .directory := by
  by_contra other
  rw [walk, if_pos other] at walked
  cases walked

theorem AgreeOutside.entry?_of_walk (agree : AgreeOutside places tree tree')
    (walked : tree.walk place segments = .ok found) (outside : ¬places found) :
    tree'.entry? place = tree.entry? place := by
  cases segments with
  | nil =>
      cases walked
      exact agree.entry? place outside
  | cons segment rest =>
      have above := isDirectory_of_walk walked
      rw [above, agree.directory place above]

theorem step_of_step (above : tree'.entry? place = tree.entry? place)
    (kept : tree'.entry? next = tree.entry? next)
    (walked : tree.walk place [segment] = .ok next) : tree'.walk place [segment] = .ok next := by
  -- The entry at the next place is looked at only if the segment leads down to it.
  simp only [walk] at walked ⊢
  grind

/-- A walk that ends at a place outside the changed ones goes the same way after the change. -/
theorem AgreeOutside.walk_of_walk (agree : AgreeOutside places tree tree')
    (walked : tree.walk place segments = .ok found) (outside : ¬places found) :
    tree'.walk place segments = .ok found := by
  induction segments generalizing place with
  | nil => exact walked
  | cons segment rest ih =>
      have above := agree.entry?_of_walk walked outside
      rw [walk_cons, bind_eq_ok_iff] at walked ⊢
      obtain ⟨next, first, onward⟩ := walked
      have kept := agree.entry?_of_walk onward outside
      exact ⟨next, step_of_step above kept first, ih onward⟩

theorem AgreeOutside.locate_of_locate (agree : AgreeOutside places tree tree')
    (located : tree.locate root = .ok place) (outside : ¬places place) :
    tree'.locate root = .ok place := by
  rw [locate, bind_eq_ok_iff] at located ⊢
  obtain ⟨checked, ok, walked⟩ := located
  have start : tree'.start root = tree.start root := by
    rw [FileTree.start, agree.workingDirectory, FileTree.start]
  rw [start]
  exact ⟨checked, ok, agree.walk_of_walk walked outside⟩

theorem AgreeOutside.walk_plain (agree : AgreeOutside places tree tree')
    (plain : ∀ name ∈ below, IsPlain name)
    (outside : ∀ front, front <+: below → ¬places (place ++ front)) :
    tree'.walk place below = tree.walk place below := by
  induction below generalizing place with
  | nil => rfl
  | cons name rest ih =>
      have first := plain name List.mem_cons_self
      have here : tree'.entry? place = tree.entry? place := by
        simpa using agree.entry? _ (outside [] List.nil_prefix)
      have next : tree'.entry? (place ++ [name]) = tree.entry? (place ++ [name]) :=
        agree.entry? _ (outside [name] (by simp))
      have onward : tree'.walk (place ++ [name]) rest = tree.walk (place ++ [name]) rest := by
        apply ih fun other member => plain other (List.mem_cons_of_mem _ member)
        intro front begins
        rw [List.append_assoc]
        exact outside (name :: front) (List.cons_prefix_cons.mpr ⟨rfl, begins⟩)
      simp only [FileTree.walk, here, next, onward, first.not_isFiller, first.notAbove,
        Bool.false_eq_true, if_false]

/-- What reading a file comes to depends on the places from the root of its path down to it. -/
theorem AgreeOutside.readText_below (agree : AgreeOutside places tree tree')
    (plain : ∀ name ∈ below, IsPlain name) (above : tree.locate root = .ok place)
    (outside : ∀ front, front <+: below → ¬places (place ++ front)) :
    tree'.readText (below.foldl child root) = tree.readText (below.foldl child root) := by
  have top : ¬places place := by simpa using outside [] List.nil_prefix
  have located : tree'.locate (below.foldl child root) = tree.locate (below.foldl child root) := by
    rw [locate_below plain above, locate_below plain (agree.locate_of_locate above top),
      agree.walk_plain plain outside]
  rw [readText, readText, find, find, located]
  cases led : tree.locate (below.foldl child root) with
  | error cause => rfl
  | ok found =>
      have end' : tree'.entry? found = tree.entry? found := by
        rw [locate_foldl_child plain above led]
        exact agree.entry? _ (outside below List.prefix_rfl)
      simp only [bind, Except.bind, end']

end ViewerHost.FileTree
