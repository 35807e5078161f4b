import ViewerHost.Proofs.Files.Names

namespace ViewerHost.Path

open Text

variable {base : Path} {name : String} {last : String} {before : List String}

def bare (p : Path) : Path := ofSegments (dropFillers p.segments.reverse).reverse

theorem dropFillers_named (named : isFiller last = false) :
    dropFillers (last :: before) = last :: before := by
  cases before with
  | nil => rfl
  | cons next before => simp [dropFillers, named]

theorem dropFillers_slash (more : before ≠ []) :
    dropFillers ("" :: before) = dropFillers before := by
  cases before with
  | nil => exact absurd rfl more
  | cons next before => rfl

theorem joined_segments (p : Path) : joined "/" p.segments = p.text := by
  rw [segments, joined_pieces rfl, String.ofList_toList]

theorem ofSegments_segments {p : Path} (cut : p.segments ≠ [""]) : ofSegments p.segments = p := by
  rw [ofSegments, joined_segments]
  exact cut

theorem text_child_ne_empty (base : Path) (plain : IsPlain name) : (base.child name).text ≠ "" := by
  rw [child_text base plain]
  split
  · simp [plain.nonempty]
  · simp

theorem segments_ne_of_nonempty (nonempty : base.text ≠ "") : base.segments ≠ [""] := by
  intro single
  have same := joined_segments base
  rw [single] at same
  exact nonempty same.symm

theorem parent?_child (plain : IsPlain name) (nonempty : base.text ≠ "") :
    (base.child name).parent? = some base.bare := by
  obtain ⟨front, put, above⟩ := segments_child base plain
  have kept : dropFillers (base.child name).segments.reverse = name :: front.reverse := by
    rw [put, List.reverse_append, List.reverse_singleton, List.singleton_append,
      dropFillers_named plain.not_isFiller]
  have more : front ≠ [] := by
    rintro rfl
    rcases above with none | single
    · exact pieces_ne_nil '/' _ (List.map_eq_nil_iff.mp none)
    · exact segments_ne_of_nonempty nonempty single
  have same : dropFillers base.segments.reverse = dropFillers front.reverse := by
    rcases above with same | slash
    · rw [same]
    · rw [slash, List.reverse_append, List.reverse_singleton, List.singleton_append,
        dropFillers_slash (mt List.reverse_eq_nil_iff.mp more)]
  rw [parent?, parents, kept, bare, same]
  obtain ⟨last, before, split⟩ := List.exists_cons_of_ne_nil (mt List.reverse_eq_nil_iff.mp more)
  rw [split, parentsOf]
  · rfl
  · simp

theorem bare_child (base : Path) (plain : IsPlain name) :
    (base.child name).bare = base.child name := by
  obtain ⟨front, put, -⟩ := segments_child base plain
  rw [bare, put, List.reverse_append, List.reverse_singleton, List.singleton_append,
    dropFillers_named plain.not_isFiller, List.reverse_cons, List.reverse_reverse, ← put]
  exact ofSegments_segments (segments_ne_of_nonempty (text_child_ne_empty base plain))

end ViewerHost.Path
