import Mathlib.Data.List.Induction
import Mathlib.Data.List.Sort
import ViewerHost.Text.Dictionary

namespace ViewerHost.Dictionary

variable {α : Type} {key : String} {entries : List (String × α)}

theorem mem_keys_iff {d : Dictionary α} : key ∈ d.keys ↔ (d.get? key).isSome = true := by
  simp only [keys, get?, List.mem_map, List.lookup_isSome_iff, beq_iff_eq]
  constructor
  · rintro ⟨entry, member, rfl⟩
    exact ⟨entry, member, rfl⟩
  · rintro ⟨entry, member, same⟩
    exact ⟨entry, member, same.symm⟩

theorem ofList_append (entries : List (String × α)) (key : String) (value : α) :
    ofList (entries ++ [(key, value)]) = (ofList entries).insert key value := by
  rw [ofList, List.foldl_append]
  rfl

theorem mem_of_mem_ofList {entry : String × α} (member : entry ∈ (ofList entries).entries) :
    entry ∈ entries := by
  induction entries using List.reverseRecOn with
  | nil => exact member
  | append_singleton entries last ih =>
      rw [ofList_append] at member
      rw [List.mem_append, List.mem_singleton]
      rcases mem_place member with same | earlier
      · exact Or.inr same
      · exact Or.inl (ih earlier)

theorem get?_ofList (entries : List (String × α)) (key : String) :
    (ofList entries).get? key = entries.reverse.lookup key := by
  induction entries using List.reverseRecOn with
  | nil => rfl
  | append_singleton entries last ih =>
      rw [ofList_append, get?_insert, ih, List.reverse_append, List.reverse_singleton,
        List.singleton_append, lookup_entry]

theorem get?_ofList_eq_some_iff {value : α} : (ofList entries).get? key = some value ↔
    ∃ before after, entries = before ++ (key, value) :: after ∧ ∀ later ∈ after, later.1 ≠ key := by
  rw [get?_ofList, List.lookup_eq_some_iff]
  constructor
  · rintro ⟨after, before, split, others⟩
    refine ⟨before.reverse, after.reverse, ?_, ?_⟩
    · rw [← List.reverse_reverse entries, split]
      simp
    · intro later member
      exact (bne_iff_ne.mp (others later (List.mem_reverse.mp member))).symm
  · rintro ⟨before, after, rfl, others⟩
    refine ⟨after.reverse, before.reverse, by simp, ?_⟩
    intro later member
    exact bne_iff_ne.mpr (others later (List.mem_reverse.mp member)).symm

theorem mem_keys_ofList : key ∈ (ofList entries).keys ↔ ∃ value, (key, value) ∈ entries := by
  rw [mem_keys_iff]
  induction entries using List.reverseRecOn with
  | nil => simp [ofList]
  | append_singleton entries last ih =>
      obtain ⟨key', value'⟩ := last
      rw [ofList_append, get?_insert]
      split
      · rename_i same
        simp [same]
      · rename_i other
        simp [ih, other]

theorem lookup_of_above (above : ∀ entry ∈ entries, key < entry.1) : entries.lookup key = none := by
  rw [List.lookup_eq_none_iff]
  intro entry member
  rw [bne_iff_ne]
  exact String.ne_of_lt (above entry member)

theorem get?_foldl_insert (d : Dictionary α)
    (ascending : entries.Pairwise fun a b => a.1 < b.1) :
    (entries.foldl (fun d (key, value) => d.insert key value) d).get? key =
      (entries.lookup key).or (d.get? key) := by
  induction entries generalizing d with
  | nil => rfl
  | cons entry rest ih =>
      obtain ⟨first, value⟩ := entry
      obtain ⟨above, ascending⟩ := List.pairwise_cons.mp ascending
      rw [List.foldl_cons, ih _ ascending, get?_insert, lookup_entry]
      by_cases same : key = first
      · -- The entries behind have greater keys, so that none of them takes this one's place.
        subst same
        simp [lookup_of_above above]
      · simp [same]

theorem get?_overlay (lower upper : Dictionary α) (key : String) :
    (lower.overlay upper).get? key = (upper.get? key).or (lower.get? key) :=
  get?_foldl_insert lower upper.ascending

theorem mem_entries_iff {d : Dictionary α} {value : α} :
    (key, value) ∈ d.entries ↔ d.get? key = some value := by
  obtain ⟨entries, ascending⟩ := d
  show _ ↔ entries.lookup key = some value
  induction entries with
  | nil => simp
  | cons entry rest ih =>
      obtain ⟨first, held⟩ := entry
      obtain ⟨above, ascending⟩ := List.pairwise_cons.mp ascending
      rw [List.mem_cons, ih ascending, lookup_entry]
      by_cases same : key = first
      · subst same
        simp [lookup_of_above above, eq_comm]
      · simp [same]

theorem ext_get? {d d' : Dictionary α} (alike : ∀ key, d.get? key = d'.get? key) : d = d' := by
  have : Std.Irrefl fun a b : String × α => a.1 < b.1 := ⟨fun _ => String.lt_irrefl _⟩
  have : Std.Antisymm fun a b : String × α => a.1 < b.1 :=
    ⟨fun _ _ less more => absurd more (String.lt_asymm less)⟩
  have same : d.entries = d'.entries := by
    apply d.ascending.eq_of_mem_iff d'.ascending
    rintro ⟨key, value⟩
    rw [mem_entries_iff, mem_entries_iff, alike]
  cases d
  cases d'
  cases same
  rfl

theorem ofList_swap {key' : String} {value value' : α} {before after : List (String × α)}
    (other : key ≠ key') : ofList (before ++ (key, value) :: (key', value') :: after) =
      ofList (before ++ (key', value') :: (key, value) :: after) := by
  apply ext_get?
  intro found
  have apart : found = key → found ≠ key' := fun same => same ▸ other
  simp only [get?_ofList, List.reverse_append, List.reverse_cons, List.append_assoc,
    List.lookup_append, List.singleton_append, lookup_entry]
  by_cases same : found = key
  · rw [if_pos same, if_neg (apart same), if_pos same]
  · rw [if_neg same, if_neg same]

end ViewerHost.Dictionary
