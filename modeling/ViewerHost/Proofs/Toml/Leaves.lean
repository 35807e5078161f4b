import ViewerHost.Proofs.Text.Dictionary
import ViewerHost.Toml.Reader

namespace ViewerHost.Toml

variable {value result : Toml} {entries results : List (String × Toml)} {path : List String}
  {text : String}

mutual

def leaves : Toml → List (List String × Toml)
  | table entries => leavesAll entries
  | value => [([], value)]

def leavesAll : List (String × Toml) → List (List String × Toml)
  | [] => []
  | (key, value) :: rest =>
    (leaves value).map (fun (path, leaf) => (key :: path, leaf)) ++ leavesAll rest

end

inductive Reaches : Toml → List String → Toml → Prop where
  | here {value : Toml} (plain : ∀ entries, value ≠ .table entries) : Reaches value [] value
  | inside {entries : List (String × Toml)} {key : String} {child value : Toml}
      {path : List String} (listed : (key, child) ∈ entries) (further : Reaches child path value) :
      Reaches (.table entries) (key :: path) value

theorem leavesAll_eq_flatMap (entries : List (String × Toml)) :
    leavesAll entries = entries.flatMap fun (key, value) =>
      (leaves value).map fun (path, leaf) => (key :: path, leaf) := by
  induction entries with
  | nil => rfl
  | cons entry rest ih =>
      rw [leavesAll, ih]
      rfl

theorem leaves_of_plain (plain : ∀ entries, value ≠ .table entries) :
    leaves value = [([], value)] := by
  cases value with
  | table entries => exact absurd rfl (plain entries)
  | _ => rfl

theorem leaves_table (entries : List (String × Toml)) :
    leaves (.table entries) = entries.flatMap fun (key, value) =>
      (leaves value).map fun (path, leaf) => (key :: path, leaf) :=
  leavesAll_eq_flatMap entries

theorem Reaches.mem_leaves {t : Toml} (reaches : t.Reaches path value) :
    (path, value) ∈ t.leaves := by
  induction reaches with
  | here plain =>
      rw [leaves_of_plain plain]
      exact List.mem_singleton_self _
  | @inside entries key child value path listed further ih =>
      rw [leaves_table, List.mem_flatMap]
      exact ⟨(key, child), listed, List.mem_map_of_mem ih⟩

mutual

theorem reaches_of_mem_leaves : ∀ {t : Toml} {path : List String} {value : Toml},
    (path, value) ∈ t.leaves → t.Reaches path value
  | table entries, path, value, member => by
      obtain ⟨key, child, listed, rest, rfl, further⟩ := reaches_of_mem_leavesAll member
      exact .inside listed further
  | string _, _, _, member
  | integer _, _, _, member
  | float _, _, _, member
  | boolean _, _, _, member
  | moment _, _, _, member
  | array _, _, _, member => by
      obtain ⟨rfl, rfl⟩ := Prod.mk.inj (List.mem_singleton.mp member)
      exact .here nofun

theorem reaches_of_mem_leavesAll : ∀ {entries : List (String × Toml)} {path : List String}
    {value : Toml}, (path, value) ∈ leavesAll entries →
      ∃ key child, (key, child) ∈ entries ∧ ∃ rest, path = key :: rest ∧ child.Reaches rest value
  | (key, child) :: entries, path, value, member => by
      rw [leavesAll, List.mem_append] at member
      rcases member with first | later
      · obtain ⟨⟨rest, leaf⟩, inner, same⟩ := List.mem_map.mp first
        obtain ⟨rfl, rfl⟩ := Prod.mk.inj same
        exact ⟨key, child, List.mem_cons_self, rest, rfl, reaches_of_mem_leaves inner⟩
      · obtain ⟨key', child', listed, found⟩ := reaches_of_mem_leavesAll later
        exact ⟨key', child', List.mem_cons_of_mem _ listed, found⟩

end

theorem mem_leaves_iff {t : Toml} : (path, value) ∈ t.leaves ↔ t.Reaches path value :=
  ⟨reaches_of_mem_leaves, Reaches.mem_leaves⟩

inductive IsSorted : Toml → Prop where
  | plain {value : Toml} (plain : ∀ entries, value ≠ .table entries) : IsSorted value
  | table {entries : List (String × Toml)} (ascending : entries.Pairwise fun a b => a.1 < b.1)
      (inside : ∀ entry ∈ entries, IsSorted entry.2) : IsSorted (.table entries)

theorem IsSorted.leaves_ascending {t : Toml} (sorted : t.IsSorted) :
    t.leaves.Pairwise fun a b => a.1 < b.1 := by
  induction sorted with
  | plain plain =>
      rw [leaves_of_plain plain]
      exact List.pairwise_singleton _ _
  | table ascending inside ih =>
      rw [leaves_table, List.pairwise_flatMap]
      constructor
      -- Paths into one entry share their first key, and paths into two differ in it.
      · intro entry member
        rw [List.pairwise_map]
        exact (ih entry member).imp fun less => List.cons_lt_cons_iff.mpr (Or.inr ⟨rfl, less⟩)
      · refine ascending.imp ?_
        intro a b less first firstMember second secondMember
        obtain ⟨_, -, rfl⟩ := List.mem_map.mp firstMember
        obtain ⟨_, -, rfl⟩ := List.mem_map.mp secondMember
        exact List.cons_lt_cons_iff.mpr (Or.inl less)

/-- A table in order is determined, for what it holds, by where its values are. -/
theorem leaves_eq_of_reaches {t t' : Toml} (sorted : t.IsSorted) (sorted' : t'.IsSorted)
    (alike : ∀ path value, t.Reaches path value ↔ t'.Reaches path value) :
    t.leaves = t'.leaves := by
  have : Std.Irrefl fun a b : List String × Toml => a.1 < b.1 := ⟨fun _ => List.lt_irrefl _⟩
  have : Std.Antisymm fun a b : List String × Toml => a.1 < b.1 :=
    ⟨fun _ _ less more => absurd more (List.lt_asymm less)⟩
  apply sorted.leaves_ascending.eq_of_mem_iff sorted'.leaves_ascending
  rintro ⟨path, value⟩
  rw [mem_leaves_iff, mem_leaves_iff, alike]

theorem isSorted_sortEntries (inside : ∀ entry ∈ entries, entry.2.IsSorted) :
    (Toml.table (sortEntries entries)).IsSorted := by
  refine .table (Dictionary.ofList entries).ascending ?_
  intro entry member
  exact inside entry (Dictionary.mem_of_mem_ofList member)

mutual

theorem isSorted_of_settled : ∀ {value result : Toml}, settled? value = some result →
    result.IsSorted
  | array items, result, settled => by
      rw [settled?, Option.map_eq_some_iff] at settled
      obtain ⟨items', -, rfl⟩ := settled
      exact .plain nofun
  | table entries, result, settled => by
      rw [settled?] at settled
      split at settled
      · obtain ⟨moment, -, rfl⟩ := Option.map_eq_some_iff.mp settled
        exact .plain nofun
      · cases settled
      · obtain ⟨results, inner, rfl⟩ := Option.map_eq_some_iff.mp settled
        exact isSorted_sortEntries (isSorted_of_settledEntries inner)
  | string _, _, settled
  | integer _, _, settled
  | float _, _, settled
  | boolean _, _, settled
  | moment _, _, settled => by
      obtain rfl := Option.some.inj settled
      exact .plain nofun

theorem isSorted_of_settledEntries : ∀ {entries results : List (String × Toml)},
    settledEntries? entries = some results → ∀ entry ∈ results, entry.2.IsSorted
  | [], results, settled => by
      obtain rfl := Option.some.inj settled
      exact nofun
  | (key, value) :: entries, results, settled => by
      rw [settledEntries?] at settled
      obtain ⟨first, settledFirst, settled⟩ := Option.bind_eq_some_iff.mp settled
      obtain ⟨rest, settledRest, same⟩ := Option.bind_eq_some_iff.mp settled
      obtain rfl := Option.some.inj same
      rw [List.forall_mem_cons]
      exact ⟨isSorted_of_settled settledFirst, isSorted_of_settledEntries settledRest⟩

end

end ViewerHost.Toml
