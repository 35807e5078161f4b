namespace ViewerHost

structure Dictionary (α : Type) where
  entries : List (String × α)
  ascending : entries.Pairwise fun a b => a.1 < b.1

namespace Dictionary

def place (key : String) (value : α) : List (String × α) → List (String × α)
  | [] => [(key, value)]
  | (k, v) :: rest =>
    if key < k then (key, value) :: (k, v) :: rest
    else if k < key then (k, v) :: place key value rest
    else (key, value) :: rest

theorem eq_of_not_lt {a b : String} (h : ¬a < b) (h' : ¬b < a) : a = b :=
  String.le_antisymm (String.not_lt.1 h') (String.not_lt.1 h)

theorem mem_place {key : String} {value : α} {entries : List (String × α)} {entry : String × α}
    (h : entry ∈ place key value entries) : entry = (key, value) ∨ entry ∈ entries := by
  induction entries with
  | nil => simpa [place] using h
  | cons head rest ih =>
    obtain ⟨k, v⟩ := head
    simp only [place] at h
    split at h
    · simpa using h
    · split at h
      · rcases List.mem_cons.1 h with rfl | h
        · simp
        · rcases ih h with rfl | h
          · simp
          · simp [h]
      · rcases List.mem_cons.1 h with rfl | h
        · simp
        · simp [h]

theorem pairwise_place (key : String) (value : α) (entries : List (String × α))
    (ascending : entries.Pairwise fun a b => a.1 < b.1) :
    (place key value entries).Pairwise fun a b => a.1 < b.1 := by
  induction entries with
  | nil => simp [place]
  | cons head rest ih =>
    obtain ⟨k, v⟩ := head
    have above := (List.pairwise_cons.1 ascending).1
    have tail := (List.pairwise_cons.1 ascending).2
    simp only [place]
    split
    · rename_i less
      refine List.pairwise_cons.2 ⟨fun entry h => ?_, ascending⟩
      rcases List.mem_cons.1 h with rfl | h
      · exact less
      · exact String.lt_trans less (above entry h)
    · rename_i notLess
      split
      · rename_i more
        refine List.pairwise_cons.2 ⟨fun entry h => ?_, ih tail⟩
        rcases mem_place h with rfl | h
        · exact more
        · exact above entry h
      · rename_i notMore
        obtain rfl := eq_of_not_lt notLess notMore
        exact List.pairwise_cons.2 ⟨above, tail⟩

def empty : Dictionary α := ⟨[], List.Pairwise.nil⟩

instance : Inhabited (Dictionary α) := ⟨empty⟩

def insert (d : Dictionary α) (key : String) (value : α) : Dictionary α :=
  ⟨place key value d.entries, pairwise_place key value d.entries d.ascending⟩

def ofList (entries : List (String × α)) : Dictionary α :=
  entries.foldl (fun d (key, value) => d.insert key value) empty

def get? (d : Dictionary α) (key : String) : Option α := d.entries.lookup key

def contains (d : Dictionary α) (key : String) : Bool := (d.get? key).isSome

def keys (d : Dictionary α) : List String := d.entries.map (·.1)

def overlay (lower upper : Dictionary α) : Dictionary α :=
  upper.entries.foldl (fun d (key, value) => d.insert key value) lower

@[simp] theorem get?_empty (key : String) : (empty : Dictionary α).get? key = none := rfl

theorem lookup_entry (key : String) (value : α) (rest : List (String × α)) (other : String) :
    ((key, value) :: rest).lookup other = if other = key then some value else rest.lookup other := by
  by_cases h : other = key
  · simp [h]
  · simp [List.lookup_cons, h, beq_eq_false_iff_ne.2 h]

theorem lookup_place (key : String) (value : α) (entries : List (String × α)) (other : String) :
    (place key value entries).lookup other =
      if other = key then some value else entries.lookup other := by
  induction entries with
  | nil => simp [place, lookup_entry]
  | cons head rest ih =>
    obtain ⟨k, v⟩ := head
    simp only [place]
    split
    · simp only [lookup_entry]
    · rename_i notLess
      split
      · rename_i more
        simp only [lookup_entry, ih]
        by_cases h : other = k
        · subst h
          have ne : other ≠ key := fun e => String.lt_irrefl key (e ▸ more)
          simp [ne]
        · simp [h]
      · rename_i notMore
        obtain rfl := eq_of_not_lt notLess notMore
        simp only [lookup_entry]
        split <;> rfl

@[simp] theorem get?_insert (d : Dictionary α) (key : String) (value : α) (other : String) :
    (d.insert key value).get? other = if other = key then some value else d.get? other :=
  lookup_place key value d.entries other

theorem keys_ascending (d : Dictionary α) : d.keys.Pairwise (· < ·) :=
  List.pairwise_map.2 d.ascending

end Dictionary

end ViewerHost
