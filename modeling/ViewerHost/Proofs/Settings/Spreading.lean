import ViewerHost.Proofs.Text.Pieces
import ViewerHost.Proofs.Toml.Equality
import ViewerHost.Proofs.Toml.Lines
import ViewerHost.Settings.Chain

namespace ViewerHost

open Toml (Reaches)

variable {source : Option Path} {table table' value : Toml} {values values' : Dictionary Toml}
  {front path : List String} {key : String}

def dottedPath (path : List String) : String := Text.joined "." path

namespace Layer

def startOf : List String → Option String
  | [] => none
  | front => some (dottedPath front)

theorem dotted_startOf (front : List String) (key : String) :
    dotted (startOf front) key = dottedPath (front ++ [key]) := by
  cases front with
  | nil => rfl
  | cons first rest => exact (Text.joined_concat (List.cons_ne_nil first rest)).symm

mutual

theorem spread_eq_foldl : ∀ (value : Toml) (front : List String) (values : Dictionary Toml),
    front ≠ [] → spread (dottedPath front) value values =
      value.leaves.foldl (fun values (path, leaf) => values.insert (dottedPath (front ++ path)) leaf)
        values
  | .table entries, first :: front, values, _ =>
      spreadAll_eq_foldl entries (first :: front) values
  | .string _, front, values, _
  | .integer _, front, values, _
  | .float _, front, values, _
  | .boolean _, front, values, _
  | .moment _, front, values, _
  | .array _, front, values, _ => by
      show _ = values.insert (dottedPath (front ++ [])) _
      rw [List.append_nil]
      rfl

theorem spreadAll_eq_foldl : ∀ (entries : List (String × Toml)) (front : List String)
    (values : Dictionary Toml), spreadAll (startOf front) entries values =
      (Toml.leavesAll entries).foldl
        (fun values (path, leaf) => values.insert (dottedPath (front ++ path)) leaf) values
  | [], _, _ => rfl
  | (key, value) :: rest, front, values => by
      rw [spreadAll, dotted_startOf, spread_eq_foldl value (front ++ [key]) values (by simp),
        spreadAll_eq_foldl rest front, Toml.leavesAll, List.foldl_append, List.foldl_map]
      simp only [List.append_assoc, List.singleton_append]

end

theorem values_ofDocument (source : Option Path) (entries : List (String × Toml)) :
    (ofDocument source (.table entries)).values =
      .ofList ((Toml.table entries).leaves.map fun (path, leaf) => (dottedPath path, leaf)) := by
  rw [Dictionary.ofList, List.foldl_map]
  exact spreadAll_eq_foldl entries [] .empty

end Layer

/-- What a table gives when it is spread: the keys that paths to its values join to. A path that
no other one joins with gives its key its value, and of several the one that a walk through the
table meets last. -/
structure Spreads (table : Toml) (values : Dictionary Toml) : Prop where
  keys : ∀ key, key ∈ values.keys ↔ ∃ path value, table.Reaches path value ∧ dottedPath path = key
  alone : ∀ path value, table.Reaches path value →
    (∀ other value', table.Reaches other value' → dottedPath other = dottedPath path →
      other = path) → values.get? (dottedPath path) = some value
  last : ∀ key value, values.get? key = some value ↔ ∃ before path after,
    table.leaves = before ++ (path, value) :: after ∧ dottedPath path = key ∧
      ∀ later ∈ after, dottedPath later.1 ≠ key

namespace Layer

theorem get?_ofDocument {entries : List (String × Toml)} :
    (ofDocument source (.table entries)).values.get? key = some value ↔ ∃ before path after,
      (Toml.table entries).leaves = before ++ (path, value) :: after ∧ dottedPath path = key ∧
        ∀ later ∈ after, dottedPath later.1 ≠ key := by
  rw [values_ofDocument, Dictionary.get?_ofList_eq_some_iff]
  constructor
  · rintro ⟨before, after, split, others⟩
    obtain ⟨before', rest, leavesSplit, rfl, restSplit⟩ := List.map_eq_append_iff.mp split
    obtain ⟨⟨path, leaf⟩, after', rfl, same, rfl⟩ := List.map_eq_cons_iff.mp restSplit
    obtain ⟨rfl, rfl⟩ := Prod.mk.inj same
    refine ⟨before', path, after', leavesSplit, rfl, ?_⟩
    intro later member
    exact others _ (List.mem_map_of_mem member)
  · rintro ⟨before, path, after, split, rfl, others⟩
    rw [split, List.map_append, List.map_cons]
    refine ⟨_, _, rfl, ?_⟩
    intro later member
    obtain ⟨leaf, listed, rfl⟩ := List.mem_map.mp member
    exact others leaf listed

theorem ofDocument_spreads {entries : List (String × Toml)} (sorted : (Toml.table entries).IsSorted)
    (source : Option Path) :
    Spreads (.table entries) (ofDocument source (.table entries)).values where
  keys key := by
    rw [values_ofDocument, Dictionary.mem_keys_ofList]
    simp only [List.mem_map, Prod.mk.injEq, Prod.exists, Toml.mem_leaves_iff]
    constructor
    · rintro ⟨value, path, leaf, reaches, joins, -⟩
      exact ⟨path, leaf, reaches, joins⟩
    · rintro ⟨path, leaf, reaches, joins⟩
      exact ⟨leaf, path, leaf, reaches, joins, rfl⟩
  alone path value reaches single := by
    rw [get?_ofDocument]
    obtain ⟨before, after, split⟩ := List.append_of_mem (Toml.mem_leaves_iff.mpr reaches)
    refine ⟨before, path, after, split, rfl, ?_⟩
    intro later member joins
    have ascending := sorted.leaves_ascending
    rw [split, List.pairwise_append, List.pairwise_cons] at ascending
    have less : path < later.1 := ascending.2.1.1 later member
    have listed : later ∈ (Toml.table entries).leaves := by
      rw [split]
      exact List.mem_append_right _ (List.mem_cons_of_mem _ member)
    rw [single later.1 later.2 (Toml.mem_leaves_iff.mp listed) joins] at less
    exact List.lt_irrefl _ less
  last key value := get?_ofDocument

end Layer

/-- Nothing but where the values of a table are decides what it gives. -/
theorem Spreads.unique (spreads : Spreads table values) (spreads' : Spreads table' values')
    (sorted : table.IsSorted) (sorted' : table'.IsSorted)
    (alike : ∀ path value, table.Reaches path value ↔ table'.Reaches path value) :
    values = values' := by
  apply Dictionary.ext_get?
  intro key
  apply Option.ext
  intro value
  rw [spreads.last, spreads'.last, Toml.leaves_eq_of_reaches sorted sorted' alike]

namespace Settings

/-- A table of any depth gives the keys that the paths to its values join to, each with the value
that a walk in the order of the keys meets last; empty tables give nothing, and an array counts as
a value. What is read from a text is such a table, and the order of its lines has no part in it. -/
theorem spread_by_path :
    (∀ source entries, (Toml.table entries).IsSorted →
      Spreads (.table entries) (Layer.ofDocument source (.table entries)).values ∧
      (Toml.table entries).leaves.Pairwise (fun a b => a.1 < b.1) ∧
      ∀ path value, (path, value) ∈ (Toml.table entries).leaves ↔
        (Toml.table entries).Reaches path value) ∧
    (∀ parent text document, Toml.read? text = some document →
      ∃ entries layer, document = .table entries ∧ document.IsSorted ∧
        ofText parent text = .ok ⟨layer, layersOf parent⟩ ∧ layer.source = none ∧
        Spreads document layer.values) ∧
    (∀ table table' values values', table.IsSorted → table'.IsSorted →
      (∀ path value, table.Reaches path value ↔ table'.Reaches path value) →
        Spreads table values → Spreads table' values' → values = values') ∧
    ∀ parent text text' entries entries',
      Toml.written? text = some entries → Toml.written? text' = some entries' →
        Relation.ReflTransGen Toml.Exchanged entries entries' →
          ofText parent text = ofText parent text' := by
  refine ⟨?_, ?_, ?_, ?_⟩
  · intro source entries sorted
    exact ⟨Layer.ofDocument_spreads sorted source, sorted.leaves_ascending,
      fun path value => Toml.mem_leaves_iff⟩
  · intro parent text document read
    obtain ⟨entries, rfl, sorted⟩ := Toml.isSorted_of_read? read
    refine ⟨entries, .ofDocument none (.table entries), rfl, sorted, ?_, rfl, ?_⟩
    · rw [ofText, read]
    · exact Layer.ofDocument_spreads sorted none
  · intro table table' values values' sorted sorted' alike spreads spreads'
    exact spreads.unique spreads' sorted sorted' alike
  · intro parent text text' entries entries' written written' exchanged
    rw [ofText, ofText, Toml.read?_exchanged written written' exchanged]

theorem spread_by_path_joined_alike :
    ∃ s, ofText none "\"a.b\" = 1\na.b = 2" = .ok s ∧ ofText none "a.b = 2\n\"a.b\" = 1" = .ok s ∧
      s.layer.values.get? "a.b" = some (.integer 1) ∧
      ∀ key, key ∈ s.layer.values.keys ↔ key = "a.b" := by
  have written : Toml.written? "\"a.b\" = 1\na.b = 2" =
      some [("a.b", .integer 1), ("a", .table [("b", .integer 2)])] := by decide +kernel
  have turned : Toml.written? "a.b = 2\n\"a.b\" = 1" =
      some [("a", .table [("b", .integer 2)]), ("a.b", .integer 1)] := by decide +kernel
  have read : Toml.read? "\"a.b\" = 1\na.b = 2" =
      some (.table [("a", .table [("b", .integer 2)]), ("a.b", .integer 1)]) := by decide +kernel
  have exchanged : Toml.Exchanged
      ([] ++ ("a.b", .integer 1) :: ("a", .table [("b", .integer 2)]) :: [])
      ([] ++ ("a", .table [("b", .integer 2)]) :: ("a.b", .integer 1) :: []) := .here (by decide)
  obtain ⟨-, spreads, -, alike⟩ := spread_by_path
  obtain ⟨entries, layer, -, -, given, -, held⟩ := spreads none _ _ read
  refine ⟨⟨layer, []⟩, given, ?_, ?_, ?_⟩
  · rw [← alike none _ _ _ _ written turned (.single exchanged)]
    exact given
  · exact (held.last _ _).mpr ⟨[(["a", "b"], .integer 2)], ["a.b"], [], rfl, rfl, by simp⟩
  · intro key
    have joins : dottedPath ["a", "b"] = "a.b" ∧ dottedPath ["a.b"] = "a.b" := by decide +kernel
    rw [held.keys]
    simp only [← Toml.mem_leaves_iff, Toml.leaves, Toml.leavesAll]
    constructor
    · rintro ⟨path, value, member, rfl⟩
      simp only [List.map_cons, List.map_nil, List.cons_append, List.nil_append, List.mem_cons,
        Prod.mk.injEq, List.not_mem_nil, or_false] at member
      rcases member with ⟨rfl, -⟩ | ⟨rfl, -⟩
      · exact joins.1
      · exact joins.2
    · rintro rfl
      exact ⟨["a.b"], .integer 1, by simp, joins.2⟩

end Settings

end ViewerHost
