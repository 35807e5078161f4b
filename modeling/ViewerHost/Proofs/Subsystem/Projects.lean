import Mathlib.Data.List.Dedup
import Mathlib.Data.String.Basic
import ViewerHost.Proofs.Settings.Values
import ViewerHost.Proofs.Subsystem.Directories
import ViewerHost.Proofs.Text.Dictionary

namespace ViewerHost.ProjectStore

open Outcome Subsystems

variable {names : Array String} {name : String} {s : Settings} {configured : List String}

theorem lt_of_getElem_lt (ascending : names.toList.Pairwise (· < ·)) {i j : Nat}
    {inside : i < names.size} {inside' : j < names.size} (less : names[i] < names[j]) : i < j := by
  by_contra behind
  rcases Nat.lt_or_eq_of_le (Nat.le_of_not_lt behind) with more | same
  · have other : names[j] < names[i] :=
      List.pairwise_iff_getElem.mp ascending j i inside' inside more
    exact String.lt_asymm less other
  · subst same
    exact String.lt_irrefl _ less

/-- A name that is not in the middle can only lie on the side of the middle that it belongs to. -/
theorem search_eq_true_iff (ascending : names.toList.Pairwise (· < ·)) {low high : Nat}
    {bound : high ≤ names.size} :
    search names name low high bound = true ↔
      ∃ i, low ≤ i ∧ i < high ∧ names[i]? = some name := by
  fun_induction search names name low high bound with
  | case1 low high bound nonempty middle inside found =>
      apply iff_of_true rfl
      refine ⟨middle, ?_, ?_, ?_⟩
      · omega
      · omega
      · rw [Array.getElem?_eq_getElem inside, found]
  | case2 low high bound nonempty middle inside other below ih =>
      rw [ih]
      apply exists_congr
      intro i
      constructor
      · rintro ⟨above, within, found⟩
        exact ⟨by omega, within, found⟩
      · rintro ⟨above, within, found⟩
        obtain ⟨inside', rfl⟩ := Array.getElem?_eq_some_iff.mp found
        exact ⟨lt_of_getElem_lt ascending below, within, found⟩
  | case3 low high bound nonempty middle inside other notBelow ih =>
      rw [ih]
      apply exists_congr
      intro i
      constructor
      · rintro ⟨above, within, found⟩
        exact ⟨above, by omega, found⟩
      · rintro ⟨above, within, found⟩
        obtain ⟨inside', rfl⟩ := Array.getElem?_eq_some_iff.mp found
        have less : names[i] < names[middle] := by
          by_contra notAbove
          exact other (Dictionary.eq_of_not_lt notBelow notAbove)
        exact ⟨above, lt_of_getElem_lt ascending less, found⟩
  | case4 low high bound empty =>
      apply iff_of_false Bool.false_ne_true
      rintro ⟨i, above, within, -⟩
      omega

theorem contains_iff {store : ProjectStore} (ascending : store.names.toList.Pairwise (· < ·))
    (running : store.isShutDown = false) :
    store.contains name = true ↔ name ∈ store.names.toList := by
  rw [contains, running, Bool.not_false, Bool.true_and, search_eq_true_iff ascending,
    Array.mem_toList_iff, Array.mem_iff_getElem?]
  apply exists_congr
  intro i
  constructor
  · exact fun found => found.2.2
  · intro found
    obtain ⟨inside, -⟩ := Array.getElem?_eq_some_iff.mp found
    exact ⟨Nat.zero_le i, inside, found⟩

theorem ascending_ofNames (configured : List String) :
    (ofNames configured).names.toList.Pairwise (· < ·) :=
  Dictionary.keys_ascending _

theorem mem_ofNames : name ∈ (ofNames configured).names.toList ↔ name ∈ configured := by
  rw [ofNames, Dictionary.mem_keys_ofList]
  simp

theorem toList_ofNames (configured : List String) :
    (ofNames configured).names.toList = (configured.mergeSort (· ≤ ·)).dedup := by
  have ascending := ascending_ofNames configured
  have sorted : (configured.mergeSort (· ≤ ·)).Pairwise (· ≤ ·) := by
    have pairwise : (configured.mergeSort (· ≤ ·)).Pairwise fun a b => decide (a ≤ b) = true :=
      List.pairwise_mergeSort (by simpa using fun _ _ _ => le_trans) (by simpa using le_total) _
    simpa using pairwise
  have strict : (configured.mergeSort (· ≤ ·)).dedup.Pairwise (· < ·) :=
    (sorted.sublist (List.dedup_sublist _)).and (List.nodup_dedup _) |>.imp
      fun ⟨less, other⟩ => lt_of_le_of_ne less other
  apply ascending.eq_of_mem_iff strict
  intro name
  rw [mem_ofNames, List.mem_dedup, List.mem_mergeSort]

theorem ofSettings_eq_ok (read : s.getList "project.names" = .ok configured) :
    ofSettings s = .ok (ofNames configured) := by
  rw [ofSettings, read]
  rfl

/-- The names are those that are configured, sorted and without repetitions. The search finds
exactly these, and after a shutdown none. Whatever is asked of the subsystems of a host, nothing but
that shutdown changes an answer. -/
theorem projects_as_configured (read : s.getList "project.names" = .ok configured) :
    ∃ store, ofSettings s = .ok store ∧
      store.names.toList = (configured.mergeSort (· ≤ ·)).dedup ∧
      store.names.toList.Pairwise (· < ·) ∧
      (∀ name, name ∈ store.names.toList ↔ name ∈ configured) ∧
      (∀ name, store.contains name = true ↔ name ∈ configured) ∧
      (∀ name, store.shutDown.contains name = false) ∧
      ∀ (host : Subsystems) (calls : List Call), host.projects.manager = .memory store →
        (host.after calls).projects.manager.names = store.names.toList ∧
        ∀ name, (host.after calls).projects.manager.contains name = true ↔
          name ∈ configured ∧ .close .projects ∉ calls := by
  have ascending := ascending_ofNames configured
  have found (name : String) : (ofNames configured).contains name = true ↔ name ∈ configured := by
    rw [contains_iff ascending rfl, mem_ofNames]
  have closed (name : String) : (ofNames configured).shutDown.contains name = false := rfl
  refine ⟨_, ofSettings_eq_ok read, toList_ofNames configured, ascending, fun name => mem_ofNames,
    found, closed, ?_⟩
  intro host calls hosted
  by_cases shut : .close .projects ∈ calls
  · have manager := projects_closedBy.closed host shut
    rw [manager, hosted]
    refine ⟨rfl, fun name => iff_of_false ?_ fun open' => open'.2 shut⟩
    exact Bool.not_eq_true _ ▸ closed name
  · have manager := projects_closedBy.unclosed host shut
    rw [manager, hosted]
    exact ⟨rfl, fun name => (found name).trans (and_iff_left shut).symm⟩

theorem projects_as_configured_repeated :
    let s : Settings := ⟨⟨Dictionary.empty.insert "project.names"
      (.array [.string "reports", .string "etl", .string "reports"]), none⟩, []⟩
    s.getList "project.names" = .ok ["reports", "etl", "reports"] ∧
      ∃ store, ofSettings s = .ok store ∧ store.names.toList = ["etl", "reports"] ∧
        store.contains "reports" = true ∧ store.contains "reports2" = false ∧
        store.shutDown.contains "reports" = false := by
  intro s
  have read : s.getList "project.names" = .ok ["reports", "etl", "reports"] := by decide +kernel
  obtain ⟨store, made, -, -, -, found, closed, -⟩ := projects_as_configured read
  obtain rfl := Except.ok.inj ((ofSettings_eq_ok read).symm.trans made)
  refine ⟨read, _, made, by decide +kernel, ?_, ?_, closed _⟩
  · exact (found _).mpr (by simp)
  · rw [← Bool.not_eq_true, found]
    simp

end ViewerHost.ProjectStore
