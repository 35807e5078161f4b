import Mathlib.Data.List.DropRight
import ViewerHost.Text.Blank

namespace ViewerHost.Text

variable {p : Char → Bool} {cs front middle back : List Char}

def opensWith (p : Char → Bool) (cs : List Char) : Bool := cs.head?.any p

def closesWith (p : Char → Bool) (cs : List Char) : Bool := cs.getLast?.any p

@[simp] theorem opensWith_cons (c : Char) : opensWith p (c :: cs) = p c := rfl

@[simp] theorem closesWith_concat (c : Char) : closesWith p (cs ++ [c]) = p c := by
  simp [closesWith]

theorem closesWith_append (nonempty : back ≠ []) :
    closesWith p (front ++ back) = closesWith p back := by
  simp only [closesWith, List.getLast?_append]
  cases last : back.getLast? with
  | none => exact absurd (List.getLast?_eq_none_iff.mp last) nonempty
  | some c => rfl

theorem opensWith_append (nonempty : front ≠ []) :
    opensWith p (front ++ back) = opensWith p front := by
  cases front with
  | nil => exact absurd rfl nonempty
  | cons c rest => rfl

theorem opensWith_dropWhile : opensWith p (cs.dropWhile p) = false := by
  unfold opensWith
  cases rest : cs.dropWhile p with
  | nil => rfl
  | cons c tail =>
      have stopped := List.head_dropWhile_not p (l := cs) (by simp [rest])
      simpa [rest] using stopped

theorem dropWhile_of_not_opensWith (bare : opensWith p cs = false) : cs.dropWhile p = cs := by
  cases cs with
  | nil => rfl
  | cons c rest => exact List.dropWhile_cons_of_neg (by simpa using bare)

theorem opensWith_reverse : opensWith p cs.reverse = closesWith p cs := by
  simp [opensWith, closesWith]

theorem closesWith_reverse : closesWith p cs.reverse = opensWith p cs := by
  simp [opensWith, closesWith]

theorem closesWith_trimEnd : closesWith p (trimEnd p cs) = false := by
  rw [trimEnd, closesWith_reverse]
  exact opensWith_dropWhile

theorem trimEnd_of_not_closesWith (bare : closesWith p cs = false) : trimEnd p cs = cs := by
  rw [← opensWith_reverse] at bare
  rw [trimEnd, dropWhile_of_not_opensWith bare, List.reverse_reverse]

theorem isPrefix_trimEnd : trimEnd p cs <+: cs := List.rdropWhile_prefix p cs

theorem trimEnd_append (nonempty : front ≠ []) (bare : closesWith p front = false) :
    trimEnd p (front ++ back) = front ++ trimEnd p back := by
  have stops : front.reverse.dropWhile p = front.reverse :=
    dropWhile_of_not_opensWith (by rwa [opensWith_reverse])
  have stays : front.reverse.isEmpty = false := by simpa using nonempty
  rw [trimEnd, trimEnd, List.reverse_append, List.dropWhile_append]
  cases rest : back.reverse.dropWhile p with
  | nil => simp [stops]
  | cons c tail => simp

theorem opensWith_trimEnd (bare : opensWith p cs = false) {q : Char → Bool} :
    opensWith p (trimEnd q cs) = false := by
  have kept : trimEnd q cs <+: cs := isPrefix_trimEnd
  obtain ⟨dropped, split⟩ := kept
  cases kept : trimEnd q cs with
  | nil => rfl
  | cons c rest =>
      rw [kept] at split
      simpa [← split] using bare

theorem opensWith_trimBoth : opensWith p (trimBoth p cs) = false :=
  opensWith_trimEnd opensWith_dropWhile

theorem closesWith_trimBoth : closesWith p (trimBoth p cs) = false := closesWith_trimEnd

theorem trimBoth_of_bare (opens : opensWith p cs = false) (closes : closesWith p cs = false) :
    trimBoth p cs = cs := by
  rw [trimBoth, dropWhile_of_not_opensWith opens, trimEnd_of_not_closesWith closes]

theorem isInfix_trimBoth : trimBoth p cs <:+: cs :=
  isPrefix_trimEnd.isInfix.trans (List.dropWhile_suffix p).isInfix

theorem trimBoth_eq_self_iff :
    trimBoth p cs = cs ↔ opensWith p cs = false ∧ closesWith p cs = false := by
  constructor
  · intro same
    rw [← same]
    exact ⟨opensWith_trimBoth, closesWith_trimBoth⟩
  · rintro ⟨opens, closes⟩
    exact trimBoth_of_bare opens closes

/-- Two trims that give the text back did nothing, the first of them included. -/
theorem trimBoth_trimBoth_eq_self_iff {q : Char → Bool} :
    trimBoth q (trimBoth p cs) = cs ↔ trimBoth p cs = cs ∧ trimBoth q cs = cs := by
  constructor
  · intro same
    have shorter : (trimBoth q (trimBoth p cs)).length ≤ (trimBoth p cs).length :=
      isInfix_trimBoth.length_le
    rw [same] at shorter
    have first : trimBoth p cs = cs := isInfix_trimBoth.eq_of_length_le shorter
    rw [first] at same
    exact ⟨first, same⟩
  · rintro ⟨first, second⟩
    rw [first, second]

theorem trimEnd_of_all (all : ∀ c ∈ cs, p c = true) : trimEnd p cs = [] :=
  List.rdropWhile_eq_nil_iff.mpr all

theorem trimBoth_split (p : Char → Bool) (cs : List Char) :
    ∃ front back, cs = front ++ (trimBoth p cs ++ back) ∧
      (∀ c ∈ front, p c = true) ∧ ∀ c ∈ back, p c = true := by
  refine ⟨cs.takeWhile p, (cs.dropWhile p).rtakeWhile p, ?_, ?_, ?_⟩
  · have ending : trimBoth p cs ++ (cs.dropWhile p).rtakeWhile p = cs.dropWhile p :=
      List.rdropWhile_append_rtakeWhile
    rw [ending, List.takeWhile_append_dropWhile]
  · intro c member
    exact List.mem_takeWhile_imp member
  · intro c member
    exact List.mem_rtakeWhile_imp member

theorem trimBoth_padded (nonempty : cs ≠ [])
    (bare : opensWith p cs = false ∧ closesWith p cs = false) (first : ∀ c ∈ front, p c = true)
    (last : ∀ c ∈ back, p c = true) : trimBoth p (front ++ cs ++ back) = cs := by
  have opens : opensWith p (cs ++ back) = false := by rw [opensWith_append nonempty, bare.1]
  rw [trimBoth, List.append_assoc, List.dropWhile_append_of_pos first,
    dropWhile_of_not_opensWith opens, trimEnd_append nonempty bare.2, trimEnd_of_all last,
    List.append_nil]

theorem opensWith_trimBoth_of_opensWith {q : Char → Bool} (other : ∀ c, p c = true → q c = false)
    (opens : opensWith p cs = true) : opensWith p (trimBoth q cs) = true := by
  cases cs with
  | nil => cases opens
  | cons c rest =>
      have stays : q c = false := other c opens
      have kept : trimEnd q ([c] ++ rest) = [c] ++ trimEnd q rest :=
        trimEnd_append (List.cons_ne_nil c []) (by simpa [closesWith] using stays)
      rw [trimBoth, List.dropWhile_cons_of_neg (by simp [stays]), ← List.singleton_append, kept]
      exact opens

theorem closesWith_trimBoth_of_closesWith {q : Char → Bool} (other : ∀ c, p c = true → q c = false)
    (closes : closesWith p cs = true) : closesWith p (trimBoth q cs) = true := by
  induction cs using List.reverseRecOn with
  | nil => cases closes
  | append_singleton front c _ =>
      rw [closesWith_concat] at closes
      have stays : q c = false := other c closes
      have kept : (front ++ [c]).dropWhile q = front.dropWhile q ++ [c] := by
        rw [List.dropWhile_append]
        split
        · rename_i nothing
          rw [List.isEmpty_iff] at nothing
          simp [nothing, stays]
        · rfl
      rw [trimBoth, kept, trimEnd_of_not_closesWith (by rw [closesWith_concat, stays]),
        closesWith_concat, closes]

end ViewerHost.Text
