import ViewerHost.Proofs.Plugin.Enrolment

namespace ViewerHost

def Plugin.unplaced (p : Plugin) : Plugin := { p with index := 0 }

namespace Registry

variable {r : Registry} {p : Plugin} {calls : List Plugin}

def unplaced (r : Registry) : Registry := { r with plugins := r.plugins.map Plugin.unplaced }

theorem register_unplaced : r.unplaced.register p.unplaced = (r.register p).map unplaced := by
  have reserved : r.unplaced.isReserved p.unplaced.mountPath = r.isReserved p.mountPath := rfl
  have entries : r.unplaced.byMount.lookup p.unplaced.mountPath =
      r.byMount.lookup p.mountPath := rfl
  unfold register
  rw [reserved, entries]
  split
  · rfl
  · cases r.byMount.lookup p.mountPath with
    | some position =>
        simp only [Except.map, unplaced, List.getElem?_map, Option.map_map]
        rfl
    | none => simp [Except.map, unplaced, Plugin.unplaced, Plugin.mountPath]

theorem offer_unplaced : r.unplaced.offer p.unplaced = (r.offer p).unplaced := by
  rw [offer, offer, register_unplaced]
  cases r.register p with
  | ok after => rfl
  | error e => rfl

theorem enrol_unplaced :
    r.unplaced.enrol (calls.map Plugin.unplaced) = (r.enrol calls).unplaced := by
  induction calls generalizing r with
  | nil => rfl
  | cons p calls ih =>
      rw [List.map_cons, enrol, List.foldl_cons, offer_unplaced]
      exact ih

theorem accepted_sublist (r : Registry) (calls : List Plugin) :
    (r.accepted calls).Sublist calls := by
  induction calls generalizing r with
  | nil => exact .slnil
  | cons p calls ih =>
      rw [accepted]
      cases r.register p with
      | ok after => exact (ih after).cons_cons p
      | error e => exact (ih r).cons p

def inOrder (a b : Plugin) : Bool := a.order ≤ b.order

def Ascending (plugins : List Plugin) : Prop := plugins.Pairwise fun a b => a.index < b.index

theorem Ascending.le_iff {plugins : List Plugin} (ascending : Ascending plugins) {a b : Plugin}
    {i j : Nat} (first : plugins[i]? = some a) (second : plugins[j]? = some b) :
    a.index ≤ b.index ↔ i ≤ j := by
  obtain ⟨inside, rfl⟩ := List.getElem?_eq_some_iff.mp first
  obtain ⟨inside', rfl⟩ := List.getElem?_eq_some_iff.mp second
  have rises := List.pairwise_iff_getElem.mp ascending
  rcases Nat.lt_trichotomy i j with less | rfl | more
  · have := rises i j inside inside' less
    omega
  · simp
  · have := rises j i inside' inside more
    omega

-- The library states that a merge sort is stable by sorting with the positions in the list as a
-- tie-break. The positions in the discovery ascend along the list, so both tie-breaks are the same.
theorem Ascending.mergeSort_precedes {plugins : List Plugin} (ascending : Ascending plugins) :
    plugins.mergeSort precedes = plugins.mergeSort inOrder := by
  have ties : ∀ a ∈ plugins.zipIdx, ∀ b ∈ plugins.zipIdx,
      List.zipIdxLE inOrder a b = precedes a.1 b.1 := by
    rintro ⟨a, i⟩ first ⟨b, j⟩ second
    have positions := ascending.le_iff (List.mk_mem_zipIdx_iff_getElem?.mp first)
      (List.mk_mem_zipIdx_iff_getElem?.mp second)
    rw [Bool.eq_iff_iff]
    simp only [List.zipIdxLE, inOrder, precedes, decide_eq_true_eq, Bool.or_eq_true,
      Bool.and_eq_true, beq_iff_eq]
    split
    · split
      · simp only [decide_eq_true_eq]
        omega
      · simp only [true_iff]
        omega
    · simp only [Bool.false_eq_true, false_iff]
      omega
  calc plugins.mergeSort precedes
      = (plugins.zipIdx.map Prod.fst).mergeSort precedes := by rw [List.zipIdx_map_fst]
    _ = (plugins.zipIdx.mergeSort (List.zipIdxLE inOrder)).map Prod.fst :=
        (List.map_mergeSort ties).symm
    _ = plugins.mergeSort inOrder := List.mergeSort_zipIdx

theorem all_unplaced (ascending : Ascending r.plugins) :
    r.all.map Plugin.unplaced = r.unplaced.plugins.mergeSort inOrder := by
  rw [all, ascending.mergeSort_precedes, unplaced]
  exact List.map_mergeSort fun a _ b _ => rfl

theorem visible_unplaced (ascending : Ascending r.plugins) :
    r.visible.map Plugin.unplaced =
      (r.unplaced.plugins.mergeSort inOrder).filter fun p => !p.hidden := by
  rw [← all_unplaced ascending, visible, List.filter_map]
  rfl

theorem mounts_unplaced (ascending : Ascending r.plugins) :
    r.mounts = (r.unplaced.plugins.mergeSort inOrder).map fun p => ⟨p.route, p.handler⟩ := by
  rw [← all_unplaced ascending, mounts, List.map_map]
  rfl

end Registry

end ViewerHost
