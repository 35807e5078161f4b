import Mathlib.Data.List.Basic
import Mathlib.Data.List.TakeWhile
import ViewerHost.Text.Pieces

namespace ViewerHost.Text

variable {sep : Char} {cs front back : List Char} {mark : String} {parts : List String}

theorem pieces_of_not_mem (absent : sep ∉ cs) : pieces sep cs = [cs] := by
  induction cs with
  | nil => rfl
  | cons c cs ih =>
      simp only [List.mem_cons, not_or] at absent
      rw [pieces, if_neg (Ne.symm absent.1), ih absent.2]

theorem pieces_append (front back : List Char) :
    pieces sep (front ++ sep :: back) = pieces sep front ++ pieces sep back := by
  induction front with
  | nil => simp [pieces]
  | cons c front ih =>
      by_cases same : c = sep
      · simp [pieces, same, ih]
      · simp only [List.cons_append, pieces, if_neg same, ih]
        cases split : pieces sep front with
        | nil => exact absurd split (pieces_ne_nil sep front)
        | cons first rest => rfl

def behind (sep : Char) (cs : List Char) : List Char := (cs.dropWhile (· ≠ sep)).drop 1

theorem pieces_of_mem (present : sep ∈ cs) :
    pieces sep cs = cs.takeWhile (· ≠ sep) :: pieces sep (behind sep cs) := by
  unfold behind
  induction cs with
  | nil => cases present
  | cons c cs ih =>
      by_cases same : c = sep
      · simp [pieces, same]
      · rw [pieces, if_neg same, ih (List.mem_of_ne_of_mem (Ne.symm same) present)]
        simp [same]

theorem takeWhile_of_not_mem (absent : sep ∉ cs) : cs.takeWhile (· ≠ sep) = cs := by
  rw [List.takeWhile_eq_self_iff]
  intro c member
  exact decide_eq_true (ne_of_mem_of_not_mem member absent)

theorem behind_of_not_mem (absent : sep ∉ cs) : behind sep cs = [] := by
  have whole : cs.dropWhile (· ≠ sep) = [] := by
    rw [List.dropWhile_eq_nil_iff]
    intro c member
    exact decide_eq_true (ne_of_mem_of_not_mem member absent)
  rw [behind, whole, List.drop_nil]

theorem takeWhile_append_sep (absent : sep ∉ front) :
    (front ++ sep :: back).takeWhile (· ≠ sep) = front := by
  rw [List.takeWhile_append, takeWhile_of_not_mem absent]
  simp

theorem behind_append_sep (absent : sep ∉ front) : behind sep (front ++ sep :: back) = back := by
  induction front with
  | nil => simp [behind]
  | cons c front ih =>
      simp only [List.mem_cons, not_or] at absent
      have other : c ≠ sep := Ne.symm absent.1
      simpa [behind, other] using ih absent.2

theorem pieces_eq_splitOn (sep : Char) (cs : List Char) : pieces sep cs = cs.splitOn sep := by
  rw [List.splitOn]
  induction cs with
  | nil => rfl
  | cons c cs ih =>
      rw [pieces, List.splitOnP_cons_eq_if_modifyHead, ih]
      by_cases same : c = sep
      · simp [same]
      · simp only [if_neg same, beq_iff_eq]
        cases split : cs.splitOnP (· == sep) with
        | nil => exact absurd split (List.splitOnP_ne_nil _ cs)
        | cons first rest => rfl

theorem joined_cons {part : String} (more : parts ≠ []) :
    joined mark (part :: parts) = part ++ mark ++ joined mark parts := by
  cases parts with
  | nil => exact absurd rfl more
  | cons next parts => rfl

theorem joined_concat {part : String} (nonempty : parts ≠ []) :
    joined mark (parts ++ [part]) = joined mark parts ++ mark ++ part := by
  induction parts with
  | nil => exact absurd rfl nonempty
  | cons first rest ih =>
      cases rest with
      | nil => rfl
      | cons next rest =>
          have more := List.cons_ne_nil next rest
          have more' : next :: rest ++ [part] ≠ [] := List.cons_ne_nil _ _
          rw [List.cons_append, joined_cons more', joined_cons more, ih more]
          simp only [String.append_assoc]

theorem toList_joined (mark : String) (parts : List String) :
    (joined mark parts).toList = mark.toList.intercalate (parts.map String.toList) := by
  induction parts with
  | nil => rfl
  | cons part rest ih =>
      cases rest with
      | nil => simp [joined]
      | cons next rest =>
          rw [joined_cons (List.cons_ne_nil next rest), String.toList_append,
            String.toList_append, ih]
          simp

theorem joined_pieces (single : mark.toList = [sep]) (cs : List Char) :
    joined mark ((pieces sep cs).map String.ofList) = String.ofList cs := by
  rw [← String.toList_inj, toList_joined, single, List.map_map, pieces_eq_splitOn]
  simp [Function.comp_def, List.intercalate_splitOn]

theorem pieces_joined (single : mark.toList = [sep]) (bare : ∀ part ∈ parts, sep ∉ part.toList)
    (nonempty : parts ≠ []) :
    pieces sep (joined mark parts).toList = parts.map String.toList := by
  rw [toList_joined, single, pieces_eq_splitOn]
  apply List.splitOn_intercalate
  · simpa using bare
  · simpa using nonempty

/-- An occurrence of a mark that does not repeat its first character ends before the next one
begins. -/
theorem prefix_of_prefix_append {head : Char} {tail : List Char} (single : head ∉ tail)
    (nonempty : front ≠ []) (occurs : head :: tail <+: front ++ (head :: tail ++ back)) :
    head :: tail <+: front := by
  rcases List.prefix_or_prefix_of_prefix occurs (List.prefix_append front _) with whole | cut
  · exact whole
  · obtain ⟨c, front, rfl⟩ := List.exists_cons_of_ne_nil nonempty
    obtain ⟨rest, split⟩ := cut
    rw [List.cons_append] at split
    obtain ⟨rfl, rfl⟩ := List.cons.inj split
    cases rest with
    | nil => simp
    | cons next rest =>
        obtain ⟨more, same⟩ := occurs
        rw [← List.cons_append, List.append_assoc, List.append_right_inj] at same
        obtain ⟨rfl, -⟩ := List.cons.inj same
        exact absurd (List.mem_append_right front List.mem_cons_self) single

theorem cutAt?_first {head : Char} {tail : List Char} (single : head ∉ tail)
    (absent : ¬head :: tail <:+: front) :
    cutAt? (head :: tail) (front ++ (head :: tail ++ back)) = some (front, back) := by
  induction front with
  | nil =>
      have found : (head :: tail).isPrefixOf? (head :: (tail ++ back)) = some back :=
        List.isPrefixOf?_eq_some_iff_append_eq.mpr rfl
      simp [cutAt?, found]
  | cons c front ih =>
      have behind : ¬head :: tail <:+: front := fun inside => absent (List.infix_cons inside)
      have fails : (head :: tail).isPrefixOf? (c :: (front ++ (head :: tail ++ back))) = none := by
        rw [Option.eq_none_iff_forall_ne_some]
        intro rest found
        have occurs : head :: tail <+: c :: front ++ (head :: tail ++ back) :=
          ⟨rest, List.isPrefixOf?_eq_some_iff_append_eq.mp found⟩
        exact absent (prefix_of_prefix_append single (List.cons_ne_nil c front) occurs).isInfix
      rw [List.cons_append, cutAt?, fails, ih behind, Option.map_some]

theorem exists_first {mark : List Char} (inside : mark <:+: cs) (nonempty : mark ≠ []) :
    ∃ front back, cs = front ++ (mark ++ back) ∧ ¬mark <:+: front := by
  induction cs with
  | nil => exact absurd (List.eq_nil_of_infix_nil inside) nonempty
  | cons c cs ih =>
      -- Unless the mark stands at the start, its first place is that in the rest.
      by_cases opens : mark <+: c :: cs
      · obtain ⟨back, split⟩ := opens
        refine ⟨[], back, split.symm, ?_⟩
        intro empty
        exact nonempty (List.eq_nil_of_infix_nil empty)
      · have later := (List.infix_cons_iff.mp inside).resolve_left opens
        obtain ⟨front, back, rfl, first⟩ := ih later
        refine ⟨c :: front, back, rfl, ?_⟩
        intro occurs
        rcases List.infix_cons_iff.mp occurs with start | deeper
        · exact opens (start.trans (List.prefix_append (c :: front) (mark ++ back)))
        · exact first deeper

end ViewerHost.Text
