import ViewerHost.Proofs.Settings.Values
import ViewerHost.Proofs.Text.Pieces
import ViewerHost.Proofs.Text.Trimming

namespace ViewerHost.Settings

open Text

/-- A piece of a list: it is not blank, and cannot be cut or trimmed. -/
structure IsPiece (piece : String) : Prop where
  filled : piece ≠ ""
  trimmed : trimBlank piece = piece
  whole : ',' ∉ piece.toList

/-- What may stand between commas for the items of a list: each item in its turn with blanks around
it, and any number of blank parts between them. -/
inductive Spells : List String → List String → Prop where
  | done : Spells [] []
  | blank {items parts : List String} {part : String} (empty : isBlankText part = true)
      (rest : Spells items parts) : Spells items (part :: parts)
  | item {items parts : List String} {before after : String} (item : String)
      (front : isBlankText before = true) (back : isBlankText after = true)
      (rest : Spells items parts) : Spells (item :: items) ((before ++ item ++ after) :: parts)

variable {piece before after text : String} {items parts : List String}

theorem mem_of_isBlankText (blank : isBlankText text = true) :
    ∀ c ∈ text.toList, isBlank c = true :=
  List.all_eq_true.mp blank

theorem whole_of_isBlankText (blank : isBlankText text = true) : ',' ∉ text.toList := by
  intro member
  have comma := mem_of_isBlankText blank ',' member
  revert comma
  decide

theorem trimBlank_eq_empty_iff : trimBlank text = "" ↔ isBlankText text = true := by
  rw [← String.toList_inj, toList_trimBlank]
  constructor
  · intro empty
    obtain ⟨front, back, split, blankFront, blankBack⟩ := trimBoth_split isBlank text.toList
    rw [empty] at split
    rw [isBlankText, split, List.all_eq_true]
    intro c member
    rcases List.mem_append.mp member with inFront | inBack
    · exact blankFront c inFront
    · exact blankBack c inBack
  · intro blank
    have dropped : text.toList.dropWhile isBlank = [] :=
      List.dropWhile_eq_nil_iff.mpr (mem_of_isBlankText blank)
    rw [trimBoth, dropped]
    rfl

theorem trimBlank_trimBlank (text : String) : trimBlank (trimBlank text) = trimBlank text := by
  rw [← String.toList_inj, toList_trimBlank, toList_trimBlank]
  exact trimBoth_of_bare opensWith_trimBoth closesWith_trimBoth

namespace IsPiece

theorem unblank (plain : IsPiece piece) : isBlankText piece = false := by
  rw [← Bool.not_eq_true, ← trimBlank_eq_empty_iff, plain.trimmed]
  exact plain.filled

theorem trimBlank_padded (plain : IsPiece piece) (front : isBlankText before = true)
    (back : isBlankText after = true) : trimBlank (before ++ piece ++ after) = piece := by
  have bare : trimBoth isBlank piece.toList = piece.toList := by
    rw [← toList_trimBlank, plain.trimmed]
  have nonempty : piece.toList ≠ [] := by simpa using plain.filled
  rw [← String.toList_inj, toList_trimBlank, String.toList_append, String.toList_append]
  exact trimBoth_padded nonempty (trimBoth_eq_self_iff.mp bare) (mem_of_isBlankText front)
    (mem_of_isBlankText back)

theorem whole_padded (plain : IsPiece piece) (front : isBlankText before = true)
    (back : isBlankText after = true) : ',' ∉ (before ++ piece ++ after).toList := by
  simp only [String.toList_append, List.mem_append, not_or]
  exact ⟨⟨whole_of_isBlankText front, plain.whole⟩, whole_of_isBlankText back⟩

end IsPiece

/-! ## From the parts to the list -/

def kept (parts : List String) : List String :=
  (parts.map trimBlank).filter fun part => !part.isEmpty

theorem listed_eq_kept (text : String) :
    listed text = kept ((pieces ',' text.toList).map String.ofList) := by
  rw [listed, kept, List.map_map]
  rfl

theorem kept_blank (blank : isBlankText text = true) (parts : List String) :
    kept (text :: parts) = kept parts := by
  rw [kept, List.map_cons, trimBlank_eq_empty_iff.mpr blank]
  rfl

theorem kept_filled (filled : isBlankText text = false) (parts : List String) :
    kept (text :: parts) = trimBlank text :: kept parts := by
  have shown : trimBlank text ≠ "" := by
    rw [Ne, trimBlank_eq_empty_iff, filled]
    exact Bool.false_ne_true
  rw [kept, List.map_cons, List.filter_cons_of_pos (by simpa using shown), kept]

theorem listed_joined_kept (whole : ∀ part ∈ parts, ',' ∉ part.toList) :
    listed (joined "," parts) = kept parts := by
  rw [listed_eq_kept]
  cases parts with
  | nil => rfl
  | cons first rest =>
      have single : ",".toList = [','] := rfl
      rw [pieces_joined single whole (List.cons_ne_nil first rest), List.map_map]
      simp [Function.comp_def]

theorem Spells.whole (spelled : Spells items parts) (plain : ∀ item ∈ items, IsPiece item) :
    ∀ part ∈ parts, ',' ∉ part.toList := by
  induction spelled with
  | done => exact nofun
  | blank empty rest ih => exact List.forall_mem_cons.mpr ⟨whole_of_isBlankText empty, ih plain⟩
  | item item front back rest ih =>
      obtain ⟨first, others⟩ := List.forall_mem_cons.mp plain
      exact List.forall_mem_cons.mpr ⟨first.whole_padded front back, ih others⟩

theorem Spells.kept_eq (spelled : Spells items parts) (plain : ∀ item ∈ items, IsPiece item) :
    kept parts = items := by
  induction spelled with
  | done => rfl
  | blank empty rest ih => rw [kept_blank empty, ih plain]
  | @item items parts before after item front back rest ih =>
      obtain ⟨first, others⟩ := List.forall_mem_cons.mp plain
      have filled : isBlankText (before ++ item ++ after) = false := by
        rw [← Bool.not_eq_true, ← trimBlank_eq_empty_iff, first.trimBlank_padded front back]
        exact first.filled
      rw [kept_filled filled, first.trimBlank_padded front back, ih others]

theorem listed_of_spells (spelled : Spells items parts) (plain : ∀ item ∈ items, IsPiece item) :
    listed (joined "," parts) = items := by
  rw [listed_joined_kept (spelled.whole plain), spelled.kept_eq plain]

theorem spells_self (items : List String) : Spells items items := by
  induction items with
  | nil => exact .done
  | cons item items ih =>
      have spelled := @Spells.item items items "" "" item rfl rfl ih
      rwa [String.empty_append, String.append_empty] at spelled

theorem listed_joined {parts : List String} (plain : ∀ part ∈ parts, IsPiece part) :
    listed (joined "," parts) = parts :=
  listed_of_spells (spells_self parts) plain

/-! ## From a text to its parts -/

theorem exists_padded (text : String) :
    ∃ before after, text = before ++ trimBlank text ++ after ∧ isBlankText before = true ∧
      isBlankText after = true := by
  obtain ⟨front, back, split, blankFront, blankBack⟩ := trimBoth_split isBlank text.toList
  refine ⟨String.ofList front, String.ofList back, ?_, ?_, ?_⟩
  · rw [← String.toList_inj]
    simpa [toList_trimBlank] using split
  · rw [isBlankText, String.toList_ofList]
    exact List.all_eq_true.mpr blankFront
  · rw [isBlankText, String.toList_ofList]
    exact List.all_eq_true.mpr blankBack

theorem spells_kept (parts : List String) : Spells (kept parts) parts := by
  induction parts with
  | nil => exact .done
  | cons part parts ih =>
      cases blank : isBlankText part with
      | true =>
          rw [kept_blank blank]
          exact .blank blank ih
      | false =>
          obtain ⟨before, after, split, front, back⟩ := exists_padded part
          have spelled := Spells.item (trimBlank part) front back ih
          rw [kept_filled blank]
          rwa [← split] at spelled

theorem exists_spells (text : String) :
    ∃ parts, text = joined "," parts ∧ Spells (listed text) parts := by
  have single : ",".toList = [','] := rfl
  refine ⟨(pieces ',' text.toList).map String.ofList, ?_, ?_⟩
  · rw [joined_pieces single, String.ofList_toList]
  · rw [listed_eq_kept]
    exact spells_kept _

theorem isPiece_of_mem_listed (member : piece ∈ listed text) : IsPiece piece := by
  obtain ⟨trimmed, filled⟩ := List.mem_filter.mp member
  obtain ⟨cs, cut, rfl⟩ := List.mem_map.mp trimmed
  refine ⟨by simpa using filled, trimBlank_trimBlank _, ?_⟩
  intro comma
  rw [toList_trimBlank, String.toList_ofList] at comma
  exact not_mem_of_mem_pieces ',' _ cs cut (isInfix_trimBoth.subset comma)

/-! ## Reading the setting -/

theorem getList_string {s : Settings} {key : String} (given : s.get? key = some (.string text)) :
    s.getList key = .ok (listed text) := by
  rw [getList_eq_ok_iff, Yields, given]
  rfl

theorem getList_strings {s : Settings} {key : String}
    (given : s.get? key = some (.array (items.map .string))) : s.getList key = .ok items := by
  rw [getList_eq_ok_iff, Yields, given]
  change List.Forall₂ Toml.Reads (items.map .string) items
  rw [List.forall₂_map_left_iff, List.forall₂_same]
  exact fun item member => rfl

/-- A list of pieces is read from the array of them and from each of its spellings. Every string
is a spelling of the list that is read from it, whose items are pieces, so that the items joined
with commas are read as the same list. -/
theorem list_reads_back :
    (∀ (s : Settings) (key : String) (items : List String), (∀ item ∈ items, IsPiece item) →
      (s.get? key = some (.array (items.map .string)) → s.getList key = .ok items) ∧
      ∀ parts, Spells items parts → s.get? key = some (.string (joined "," parts)) →
        s.getList key = .ok items) ∧
    ∀ (s : Settings) (key text : String), s.get? key = some (.string text) →
      ∃ items, s.getList key = .ok items ∧
        (∀ item ∈ items, IsPiece item ∧ isBlankText item = false) ∧
        (∃ parts, text = joined "," parts ∧ Spells items parts) ∧
        ∀ (other : Settings) (key' : String),
          other.get? key' = some (.string (joined "," items)) → other.getList key' = .ok items := by
  constructor
  · intro s key items plain
    refine ⟨getList_strings, ?_⟩
    intro parts spelled given
    rw [getList_string given, listed_of_spells spelled plain]
  · intro s key text given
    refine ⟨listed text, getList_string given, ?_, exists_spells text, ?_⟩
    · intro item member
      have plain := isPiece_of_mem_listed member
      exact ⟨plain, plain.unblank⟩
    · intro other key' given'
      rw [getList_string given', listed_joined fun part => isPiece_of_mem_listed]

theorem list_reads_back_padded :
    let text := "\u00a0x.jar,\t ,y z.jar ,,"
    let s : Settings := ⟨⟨Dictionary.empty.insert "csv" (.string text), none⟩, []⟩
    let parts := ["\u00a0x.jar", "\t ", "y z.jar ", "", ""]
    text = joined "," parts ∧ Spells ["x.jar", "y z.jar"] parts ∧
      (∀ item ∈ ["x.jar", "y z.jar"], IsPiece item) ∧
      s.getList "csv" = .ok ["x.jar", "y z.jar"] := by
  intro text s parts
  have plain : ∀ item ∈ ["x.jar", "y z.jar"], IsPiece item := by
    simp only [List.forall_mem_cons, List.not_mem_nil, false_implies, implies_true, and_true]
    constructor
    · exact ⟨by decide, by decide +kernel, by decide⟩
    · exact ⟨by decide, by decide +kernel, by decide⟩
  have spelled : Spells ["x.jar", "y z.jar"] parts :=
    @Spells.item _ _ "\u00a0" "" "x.jar" (by decide) rfl <|
    .blank (by decide) <|
    @Spells.item _ _ "" " " "y z.jar" rfl (by decide) <|
    .blank rfl <| .blank rfl .done
  have same : text = joined "," parts := by decide +kernel
  have given : s.get? "csv" = some (.string (joined "," parts)) := by
    rw [← same]
    rfl
  exact ⟨same, spelled, plain, (list_reads_back.1 s "csv" _ plain).2 parts spelled given⟩

end ViewerHost.Settings
