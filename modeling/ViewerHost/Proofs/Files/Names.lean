import ViewerHost.Files.Tree
import ViewerHost.Proofs.Outcome
import ViewerHost.Proofs.Text.Pieces

namespace ViewerHost

namespace Path

open Text

variable {base : Path} {name : String} {front below : List String}

def names (p : Path) : List String := p.segments.filter fun segment => !isFiller segment

structure IsPlain (name : String) : Prop where
  nonempty : name ≠ ""
  whole : '/' ∉ name.toList
  notHere : name ≠ "."
  notAbove : name ≠ ".."

theorem IsPlain.not_isFiller (plain : IsPlain name) : isFiller name = false := by
  simp [isFiller, plain.nonempty, plain.notHere]

theorem IsPlain.not_isAbsolute (plain : IsPlain name) : isAbsolute ⟨name⟩ = false := by
  rw [isAbsolute, beq_eq_false_iff_ne]
  intro opens
  exact plain.whole (List.mem_of_mem_head? opens)

theorem child_text (base : Path) (plain : IsPlain name) :
    (base.child name).text =
      if base.text = "" ∨ base.text.toList.getLast? = some '/' then base.text ++ name
      else base.text ++ "/" ++ name := by
  rw [child, join, plain.not_isAbsolute]
  split
  · rename_i impossible
    cases impossible
  · split <;> rfl

theorem text_prefix_child (base : Path) (plain : IsPlain name) :
    base.text.toList <+: (base.child name).text.toList := by
  rw [child_text base plain]
  split
  · simp
  · simp [List.append_assoc]

theorem isAbsolute_child (plain : IsPlain name) :
    (base.child name).isAbsolute = base.isAbsolute := by
  cases start : base.text.toList with
  | nil =>
      have empty : base.text = "" := by simpa using start
      have text := child_text base plain
      rw [if_pos (Or.inl empty), empty, String.empty_append] at text
      have relative := plain.not_isAbsolute
      rw [isAbsolute] at relative ⊢
      rw [text, relative, isAbsolute, start]
      rfl
  | cons c rest =>
      obtain ⟨more, split⟩ := text_prefix_child base plain
      rw [isAbsolute, isAbsolute, ← split, start]
      rfl

theorem segments_child (base : Path) (plain : IsPlain name) :
    ∃ front, (base.child name).segments = front ++ [name] ∧
      (base.segments = front ∨ base.segments = front ++ [""]) := by
  have single : pieces '/' name.toList = [name.toList] := pieces_of_not_mem plain.whole
  have text := child_text base plain
  by_cases empty : base.text = ""
  · rw [if_pos (Or.inl empty), empty, String.empty_append] at text
    refine ⟨[], ?_, Or.inr ?_⟩
    · simp [segments, text, single]
    · simp [segments, empty, pieces]
  · by_cases closes : base.text.toList.getLast? = some '/'
    · obtain ⟨front, split⟩ := List.getLast?_eq_some_iff.mp closes
      rw [if_pos (Or.inr closes)] at text
      have joined : (base.child name).text.toList = front ++ '/' :: name.toList := by
        rw [text, String.toList_append, split]
        simp
      refine ⟨(pieces '/' front).map String.ofList, ?_, Or.inr ?_⟩
      · simp [segments, joined, pieces_append, single]
      · simp [segments, split, pieces_append, pieces]
    · rw [if_neg (not_or.mpr ⟨empty, closes⟩)] at text
      have joined : (base.child name).text.toList = base.text.toList ++ '/' :: name.toList := by
        rw [text]
        simp
      refine ⟨base.segments, ?_, Or.inl rfl⟩
      simp [segments, joined, pieces_append, single]

theorem names_slash_append (front back : String) :
    names ⟨front ++ "/" ++ back⟩ = names ⟨front⟩ ++ names ⟨back⟩ := by
  have cut : (front ++ "/" ++ back).toList = front.toList ++ '/' :: back.toList := by simp
  rw [names, names, names, segments, cut, pieces_append, List.map_append, List.filter_append]
  rfl

theorem IsPlain.names_eq (plain : IsPlain name) : names ⟨name⟩ = [name] := by
  rw [names, segments, pieces_of_not_mem plain.whole]
  simp [plain.not_isFiller]

theorem isPlain_of_mem_names {p : Path} (downwards : ".." ∉ p.names) :
    ∀ name ∈ p.names, IsPlain name := by
  intro name member
  obtain ⟨segment, kept⟩ := List.mem_filter.mp member
  have named : name ≠ "" ∧ name ≠ "." := by simpa [isFiller] using kept
  obtain ⟨cs, cut, same⟩ := List.mem_map.mp segment
  refine ⟨named.1, ?_, named.2, ?_⟩
  · rw [← same, String.toList_ofList]
    exact not_mem_of_mem_pieces '/' _ cs cut
  · rintro rfl
    exact downwards member

theorem isAbsolute_foldl_child (plain : ∀ name ∈ below, IsPlain name) :
    (below.foldl child base).isAbsolute = base.isAbsolute := by
  induction below generalizing base with
  | nil => rfl
  | cons name rest ih =>
      rw [List.foldl_cons, ih fun other member => plain other (List.mem_cons_of_mem _ member)]
      exact isAbsolute_child (plain name List.mem_cons_self)

theorem text_prefix_foldl_child (plain : ∀ name ∈ below, IsPlain name) :
    base.text.toList <+: (below.foldl child base).text.toList := by
  induction below generalizing base with
  | nil => exact List.prefix_rfl
  | cons name rest ih =>
      have first := text_prefix_child base (plain name List.mem_cons_self)
      exact first.trans (ih fun other member => plain other (List.mem_cons_of_mem _ member))

theorem segments_foldl_child (base : Path) (plain : ∀ name ∈ below, IsPlain name)
    (nonempty : below ≠ []) :
    ∃ front, (below.foldl child base).segments = front ++ below ∧
      (base.segments = front ∨ base.segments = front ++ [""]) := by
  induction below generalizing base with
  | nil => exact absurd rfl nonempty
  | cons name rest ih =>
      have first := plain name List.mem_cons_self
      obtain ⟨front, put, above⟩ := segments_child base first
      cases rest with
      | nil => exact ⟨front, put, above⟩
      | cons next rest =>
          have others : ∀ other ∈ next :: rest, IsPlain other := by
            intro other member
            exact plain other (List.mem_cons_of_mem _ member)
          obtain ⟨front', put', above'⟩ := ih (base.child name) others (List.cons_ne_nil _ _)
          refine ⟨front, ?_, above⟩
          rcases above' with same | slash
          · rw [List.foldl_cons, put', ← same, put, List.append_assoc]
            rfl
          · -- The name that was put first is not empty, so no slash ends the path behind it.
            rw [put] at slash
            have last := (List.append_inj_right' slash rfl)
            exact absurd (List.singleton_inj.mp last) first.nonempty

theorem names_foldl_child (plain : ∀ name ∈ below, IsPlain name) :
    (below.foldl child base).names = base.names ++ below := by
  have kept : below.filter (fun segment => !isFiller segment) = below := by
    rw [List.filter_eq_self]
    intro name member
    rw [(plain name member).not_isFiller, Bool.not_false]
  by_cases none : below = []
  · simp [none]
  · obtain ⟨front, put, above⟩ := segments_foldl_child base plain none
    rw [names, put, List.filter_append, kept, names]
    rcases above with same | slash
    · rw [same]
    · rw [slash, List.filter_append]
      simp [isFiller]

end Path

namespace FileTree

open ViewerHost.Path Outcome

variable {tree : FileTree} {place found : List String} {front back below : List String} {root : Path}

theorem walk_append (tree : FileTree) (place front back : List String) :
    tree.walk place (front ++ back) = tree.walk place front >>= fun at' => tree.walk at' back := by
  induction front generalizing place with
  | nil => rfl
  | cons segment front ih =>
      simp only [List.cons_append, walk]
      split
      · rfl
      · split
        · exact ih place
        · split
          · exact ih place.dropLast
          · split
            · rfl
            · split
              · rfl
              · exact ih (place ++ [segment])

theorem walk_plain (plain : ∀ name ∈ below, IsPlain name)
    (walked : tree.walk place below = .ok found) : found = place ++ below := by
  induction below generalizing place with
  | nil =>
      cases walked
      simp
  | cons name rest ih =>
      have first := plain name List.mem_cons_self
      have others : ∀ other ∈ rest, IsPlain other := by
        intro other member
        exact plain other (List.mem_cons_of_mem _ member)
      rw [walk] at walked
      split at walked
      · cases walked
      · rw [if_neg (by simp [first.not_isFiller]), if_neg first.notAbove] at walked
        split at walked
        · cases walked
        · split at walked
          · cases walked
          · rw [ih others walked, List.append_assoc]
            rfl

theorem walk_slash (walked : tree.walk place (front ++ [""]) = .ok found) :
    tree.walk place front = .ok found := by
  rw [walk_append, bind_eq_ok_iff] at walked
  obtain ⟨place', before, after⟩ := walked
  rw [walk] at after
  split at after
  · cases after
  · simp only [isFiller, walk] at after
    cases after
    exact before

theorem locate_below (plain : ∀ name ∈ below, IsPlain name) (above : tree.locate root = .ok place) :
    tree.locate (below.foldl child root) =
      checkPath (below.foldl child root) >>= fun _ => tree.walk place below := by
  obtain ⟨⟨⟩, checked, walked⟩ := bind_eq_ok_iff.mp above
  by_cases none : below = []
  · subst none
    rw [List.foldl_nil, above, checked]
    rfl
  · obtain ⟨front, put, behind⟩ := segments_foldl_child root plain none
    have start : tree.start (below.foldl child root) = tree.start root := by
      rw [FileTree.start, isAbsolute_foldl_child plain, FileTree.start]
    -- A slash at the end of the root makes no segment, and the walk does not move on it.
    have down : tree.walk (tree.start root) front = .ok place := by
      rcases behind with same | slash
      · rwa [← same]
      · apply walk_slash
        rwa [← slash]
    rw [locate, put, start, walk_append, down]
    rfl

/-- What lies at plain names behind a path lies below the place of that path. -/
theorem locate_foldl_child (plain : ∀ name ∈ below, IsPlain name)
    (above : tree.locate root = .ok place)
    (located : tree.locate (below.foldl child root) = .ok found) : found = place ++ below := by
  rw [locate_below plain above] at located
  obtain ⟨-, -, walked⟩ := bind_eq_ok_iff.mp located
  exact walk_plain plain walked

end FileTree

end ViewerHost
