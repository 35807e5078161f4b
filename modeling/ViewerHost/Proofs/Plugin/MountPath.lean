import ViewerHost.Plugin.MountPath
import ViewerHost.Proofs.Text.Trimming

/-!
Normal mount paths, and the paths below a mount. Normalising drops blanks and then slashes, so it
leaves no slash at an end but may leave a blank there: exactly the paths without either are left as
they are (`normalize_eq_self_iff`).
-/

namespace ViewerHost.MountPath

open Text

abbrev isSlash : Char → Bool := (· == '/')

variable {mount name path : String} {cs front back : List Char}

/-! ## Normal paths -/

theorem toList_normalize :
    (normalize path).toList = trimBoth isSlash (trimBoth isBlank path.toList) := by
  simp [normalize, toList_trimSlashes, toList_trimBlank]

theorem opensWith_normalize : opensWith isSlash (normalize path).toList = false := by
  rw [toList_normalize]
  exact opensWith_trimBoth

theorem closesWith_normalize : closesWith isSlash (normalize path).toList = false := by
  rw [toList_normalize]
  exact closesWith_trimBoth

theorem normalize_eq_self_iff :
    normalize path = path ↔
      (opensWith isBlank path.toList = false ∧ closesWith isBlank path.toList = false) ∧
        (opensWith isSlash path.toList = false ∧ closesWith isSlash path.toList = false) := by
  rw [← String.toList_inj, toList_normalize, trimBoth_trimBoth_eq_self_iff, trimBoth_eq_self_iff,
    trimBoth_eq_self_iff]

/-- The slash in front keeps the blanks behind it, so only those at the end are dropped. -/
theorem toList_normalize_slash_append :
    (normalize ("/" ++ path)).toList = trimBoth isSlash (trimEnd isBlank path.toList) := by
  have blanks : trimBoth isBlank ('/' :: path.toList) = '/' :: trimEnd isBlank path.toList := by
    have slash : closesWith isBlank ['/'] = false := by decide
    rw [trimBoth, dropWhile_of_not_opensWith (by rw [opensWith_cons]; decide)]
    exact trimEnd_append (List.cons_ne_nil _ _) slash
  rw [toList_normalize, String.toList_append, show "/".toList = ['/'] from rfl,
    List.singleton_append, blanks]
  rfl

theorem length_normalize_slash_append : (normalize ("/" ++ path)).length ≤ path.length := by
  rw [← String.length_toList, ← String.length_toList, toList_normalize_slash_append]
  exact isInfix_trimBoth.length_le.trans isPrefix_trimEnd.length_le

theorem normalize_slash_append_eq_iff (opens : opensWith isSlash path.toList = false)
    (closes : closesWith isSlash path.toList = false) :
    normalize ("/" ++ path) = path ↔ closesWith isBlank path.toList = false := by
  rw [← String.toList_inj, toList_normalize_slash_append]
  constructor
  · intro same
    have longer : (trimBoth isSlash (trimEnd isBlank path.toList)).length ≤
        (trimEnd isBlank path.toList).length := isInfix_trimBoth.length_le
    rw [same] at longer
    rw [← isPrefix_trimEnd.eq_of_length_le longer]
    exact closesWith_trimEnd
  · intro bare
    rw [trimEnd_of_not_closesWith bare, trimBoth_of_bare opens closes]

theorem normalize_slashes (nonempty : path ≠ "") (opens : opensWith isSlash path.toList = false)
    (closes : closesWith isSlash path.toList = false) : normalize ("/" ++ path ++ "/") = path := by
  have shown : path.toList ≠ [] := by simpa using nonempty
  have unblank : closesWith isBlank (path.toList ++ ['/']) = false := by
    rw [closesWith_concat]
    decide
  have bare : opensWith isSlash (path.toList ++ ['/']) = false := by rwa [opensWith_append shown]
  rw [String.append_assoc, ← String.toList_inj, toList_normalize_slash_append, String.toList_append,
    show "/".toList = ['/'] from rfl, trimEnd_of_not_closesWith unblank, trimBoth,
    dropWhile_of_not_opensWith bare, trimEnd_append shown closes]
  exact List.append_nil _

/-! ## Paths below a mount -/

/-- A path that is the mount or goes on from it at a slash. -/
def Within (mount path : String) : Prop := path = mount ∨ ∃ rest, path = mount ++ "/" ++ rest

def AtSlash (rest : List Char) : Prop := rest = [] ∨ opensWith isSlash rest = true

theorem atSlash_iff {rest : List Char} : AtSlash rest ↔ rest = [] ∨ ∃ below, rest = '/' :: below := by
  cases rest with
  | nil => simp [AtSlash]
  | cons c tail => simp [AtSlash]

theorem AtSlash.of_prefix {rest : List Char} (ok : AtSlash back) (begins : rest <+: back) :
    AtSlash rest := by
  obtain ⟨dropped, rfl⟩ := begins
  cases rest with
  | nil => exact Or.inl rfl
  | cons c tail => simpa [AtSlash] using ok

theorem within_iff :
    Within mount path ↔ ∃ rest, path.toList = mount.toList ++ rest ∧ AtSlash rest := by
  simp only [atSlash_iff, Within, ← String.toList_inj]
  constructor
  · rintro (same | ⟨rest, below⟩)
    · exact ⟨[], by simp [same], Or.inl rfl⟩
    · exact ⟨'/' :: rest.toList, by simp [below], Or.inr ⟨_, rfl⟩⟩
  · rintro ⟨rest, split, rfl | ⟨below, rfl⟩⟩
    · exact Or.inl (by simp [split])
    · exact Or.inr ⟨String.ofList below, by simp [split]⟩

theorem covers_iff : covers mount path = true ↔ Within mount path := by
  rw [within_iff, covers, below?]
  cases found : mount.toList.isPrefixOf? path.toList with
  | none =>
      simp only [Option.isSome_none, Bool.false_eq_true, false_iff]
      rintro ⟨rest, split, -⟩
      simp [List.isPrefixOf?_eq_some_iff_append_eq.mpr split.symm] at found
  | some rest =>
      have split := List.isPrefixOf?_eq_some_iff_append_eq.mp found
      have only : ∀ other, path.toList = mount.toList ++ other → other = rest := by
        intro other same
        exact List.append_cancel_left (same.symm.trans split.symm)
      have below : (∃ other, path.toList = mount.toList ++ other ∧ AtSlash other) ↔ AtSlash rest :=
        ⟨fun ⟨other, same, ok⟩ => only other same ▸ ok, fun ok => ⟨rest, split.symm, ok⟩⟩
      rw [below, atSlash_iff]
      cases rest with
      | nil => simp
      | cons c tail =>
          by_cases slash : c = '/'
          · subst slash
            simp
          · simp [slash]

instance (mount path : String) : Decidable (Within mount path) := decidable_of_iff _ covers_iff

/-! ## Names -/

/-- Text without slashes, and without blanks at its ends. -/
def IsName (name : String) : Prop :=
  '/' ∉ name.toList ∧ opensWith isBlank name.toList = false ∧ closesWith isBlank name.toList = false

instance (name : String) : Decidable (IsName name) := by
  unfold IsName
  infer_instance

theorem IsName.bare (named : IsName name) :
    opensWith isSlash name.toList = false ∧ closesWith isSlash name.toList = false := by
  constructor
  · cases opens : name.toList.head? with
    | none => simp [opensWith, opens]
    | some c =>
        have other : c ≠ '/' := fun same => named.1 (same ▸ List.mem_of_mem_head? opens)
        simpa [opensWith, opens] using other
  · cases closes : name.toList.getLast? with
    | none => simp [closesWith, closes]
    | some c =>
        have other : c ≠ '/' := fun same => named.1 (same ▸ List.mem_of_mem_getLast? closes)
        simpa [closesWith, closes] using other

theorem IsName.normalize_eq (named : IsName name) : normalize name = name :=
  normalize_eq_self_iff.mpr ⟨named.2, named.bare⟩

theorem IsName.normalize_slash_append (named : IsName name) : normalize ("/" ++ name) = name :=
  (normalize_slash_append_eq_iff named.bare.1 named.bare.2).mpr named.2.2

theorem IsName.within_of_within (named : IsName name) (inside : Within name path)
    (inside' : Within mount path) : Within name mount := by
  obtain ⟨rest, split, ok⟩ := within_iff.mp inside
  obtain ⟨rest', split', ok'⟩ := within_iff.mp inside'
  rw [within_iff]
  rcases List.append_eq_append_iff.mp (split.symm.trans split') with
    ⟨more, below, tail⟩ | ⟨more, below, tail⟩
  · exact ⟨more, below, ok.of_prefix ⟨rest', tail.symm⟩⟩
  -- If the name is the longer one, it goes on from the mount at a slash, unless it is the mount.
  · refine ⟨[], ?_, Or.inl rfl⟩
    rcases atSlash_iff.mp (ok'.of_prefix ⟨rest, tail.symm⟩) with rfl | ⟨lower, rfl⟩
    · simpa using below.symm
    · have slash : '/' ∈ name.toList := by
        rw [below]
        exact List.mem_append_right _ List.mem_cons_self
      exact absurd slash named.1

theorem IsName.eq_of_within (named : IsName name) (inside : Within mount name) : mount = name := by
  have inside' : Within name mount := named.within_of_within (Or.inl rfl) inside
  obtain ⟨rest, split, -⟩ := within_iff.mp inside
  obtain ⟨rest', split', -⟩ := within_iff.mp inside'
  have same : mount.toList.length = name.toList.length := by
    have longer := congrArg List.length split
    have longer' := congrArg List.length split'
    simp only [List.length_append] at longer longer'
    omega
  have begins : mount.toList <+: name.toList := ⟨rest, split.symm⟩
  exact String.toList_inj.mp (begins.eq_of_length same)

theorem IsName.toList_normalize (named : IsName name) (nonempty : name ≠ "")
    (slashes : ∀ c ∈ front, isSlash c = true)
    (split : path.toList = front ++ (name.toList ++ back)) :
    (normalize path).toList = name.toList ++ trimEnd isSlash (trimEnd isBlank back) := by
  have shown : name.toList ≠ [] := by simpa using nonempty
  have opens : opensWith isBlank path.toList = false := by
    rw [split]
    cases front with
    | nil =>
        rw [List.nil_append, opensWith_append shown]
        exact named.2.1
    | cons c front =>
        obtain rfl : c = '/' := by simpa using slashes c List.mem_cons_self
        rw [List.cons_append, opensWith_cons]
        decide
  have closes : closesWith isBlank (front ++ name.toList) = false := by
    rw [closesWith_append shown]
    exact named.2.2
  have unblank : trimBoth isBlank path.toList =
      front ++ (name.toList ++ trimEnd isBlank back) := by
    rw [trimBoth, dropWhile_of_not_opensWith opens, split, ← List.append_assoc,
      trimEnd_append (List.append_ne_nil_of_right_ne_nil front shown) closes, List.append_assoc]
  have bare : opensWith isSlash (name.toList ++ trimEnd isBlank back) = false := by
    rw [opensWith_append shown]
    exact named.bare.1
  rw [MountPath.toList_normalize, unblank, trimBoth, List.dropWhile_append_of_pos slashes,
    dropWhile_of_not_opensWith bare, trimEnd_append shown named.bare.2]

theorem IsName.within_normalize (named : IsName name) (nonempty : name ≠ "")
    (inside : Within name path) : Within name (normalize path) := by
  obtain ⟨rest, split, ok⟩ := within_iff.mp inside
  have none : ∀ c ∈ ([] : List Char), isSlash c = true := nofun
  have normal := named.toList_normalize nonempty none split
  exact within_iff.mpr ⟨_, normal, ok.of_prefix (isPrefix_trimEnd.trans isPrefix_trimEnd)⟩

/-! ## Paths without the slashes at their ends -/

theorem trimSlashes_split (path : String) :
    ∃ front back, path.toList = front ++ ((trimSlashes path).toList ++ back) ∧
      (∀ c ∈ front, isSlash c = true) ∧ ∀ c ∈ back, isSlash c = true := by
  rw [toList_trimSlashes]
  exact trimBoth_split isSlash path.toList

theorem bare_trimSlashes (path : String) :
    opensWith isSlash (trimSlashes path).toList = false ∧
      closesWith isSlash (trimSlashes path).toList = false := by
  rw [toList_trimSlashes]
  exact ⟨opensWith_trimBoth, closesWith_trimBoth⟩

theorem trimSlashes_trimSlashes (path : String) : trimSlashes (trimSlashes path) = trimSlashes path := by
  have bare := bare_trimSlashes path
  rw [← String.toList_inj, toList_trimSlashes (trimSlashes path)]
  exact trimBoth_of_bare bare.1 bare.2

theorem normalize_of_isName_trimSlashes (named : IsName (trimSlashes path)) :
    normalize path = trimSlashes path := by
  obtain ⟨front, back, split, before, behind⟩ := trimSlashes_split path
  have nothing : trimEnd isSlash (trimEnd isBlank back) = [] :=
    trimEnd_of_all fun c member => behind c (isPrefix_trimEnd.subset member)
  by_cases empty : trimSlashes path = ""
  · rw [empty, ← String.toList_inj, toList_normalize, String.toList_empty]
    have slashes : ∀ c ∈ path.toList, isSlash c = true := by
      rw [split, empty, String.toList_empty, List.nil_append]
      exact fun c member => (List.mem_append.mp member).elim (before c) (behind c)
    have kept : ∀ c ∈ trimBoth isBlank path.toList, isSlash c = true :=
      fun c member => slashes c (isInfix_trimBoth.subset member)
    exact trimEnd_of_all fun c member => kept c ((List.dropWhile_suffix isSlash).subset member)
  · rw [← String.toList_inj, named.toList_normalize empty before split, nothing, List.append_nil]

theorem IsName.within_normalize_of_trimSlashes (named : IsName name) (nonempty : name ≠ "")
    (inside : Within name (trimSlashes path)) : Within name (normalize path) := by
  obtain ⟨front, back, split, before, behind⟩ := trimSlashes_split path
  obtain ⟨rest, below, ok⟩ := within_iff.mp inside
  rw [below, List.append_assoc] at split
  have normal := named.toList_normalize nonempty before split
  have ok' : AtSlash (rest ++ back) := by
    cases rest with
    | cons c rest => exact Or.inr (by simpa [AtSlash] using ok)
    | nil =>
        cases back with
        | nil => exact Or.inl rfl
        | cons c back => exact Or.inr (behind c List.mem_cons_self)
  exact within_iff.mpr ⟨_, normal, ok'.of_prefix (isPrefix_trimEnd.trans isPrefix_trimEnd)⟩

theorem normalize_of_unblank (opens : opensWith isBlank path.toList = false)
    (closes : closesWith isBlank path.toList = false) : normalize path = trimSlashes path := by
  rw [normalize, trimBlank, trimBoth_of_bare opens closes, String.ofList_toList]

theorem not_isSlash_of_isBlank (c : Char) (blank : isBlank c = true) : isSlash c = false := by
  rw [beq_eq_false_iff_ne]
  rintro rfl
  exact absurd blank (by decide)

theorem opensWith_trimSlashes (opens : opensWith isBlank path.toList = true) :
    opensWith isBlank (trimSlashes path).toList = true := by
  rw [toList_trimSlashes]
  exact opensWith_trimBoth_of_opensWith not_isSlash_of_isBlank opens

theorem closesWith_trimSlashes (closes : closesWith isBlank path.toList = true) :
    closesWith isBlank (trimSlashes path).toList = true := by
  rw [toList_trimSlashes]
  exact closesWith_trimBoth_of_closesWith not_isSlash_of_isBlank closes

end ViewerHost.MountPath
