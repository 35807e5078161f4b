import Mathlib.Data.List.Nodup
import ViewerHost.Plugin.Registry
import ViewerHost.Proofs.Plugin.MountPath

namespace ViewerHost.Registry
open MountPath

variable {r after : Registry} {p q : Plugin} {path : String} {i : Nat}

def offer (r : Registry) (p : Plugin) : Registry :=
  match r.register p with
  | .ok after => after
  | .error _ => r

inductive Reachable : Registry → Prop where
  | empty : Reachable .empty
  | reserving (routes : List String) : Reachable (.reserving routes)
  | offer {r : Registry} (p : Plugin) : Reachable r → Reachable (r.offer p)

structure Sound (r : Registry) : Prop where
  positions : r.byMount = r.plugins.zipIdx.map fun (p, i) => (p.mountPath, i)
  distinct : (r.plugins.map (·.mountPath)).Nodup
  free : ∀ p ∈ r.plugins, r.isReserved p.mountPath = false

/-- A route that keeps a normal path for the host: its own path, or its tree. -/
def Withholds (route path : String) : Prop :=
  match treeOf? route with
  | some tree => Within (normalize tree) path
  | none => path = normalize route ∧ path ≠ ""

theorem isReserved_iff :
    r.isReserved path = true ↔
      normalize path ∈ r.reserved ∨ ∃ tree ∈ r.reservedTrees, Within tree (normalize path) := by
  simp [isReserved, covers_iff]

theorem isReserved_reserve (route : String) :
    (r.reserve route).isReserved path = true ↔
      r.isReserved path = true ∨ Withholds route (normalize path) := by
  simp only [isReserved_iff, reserve, Withholds]
  cases treeOf? route with
  | some tree => simp [or_and_right, exists_or, or_assoc]
  | none =>
      by_cases blank : normalize route = ""
      · simp [blank]
      · have shown : normalize path = normalize route → normalize path ≠ "" := by
          intro same empty
          exact blank (same.symm.trans empty)
        simp only [String.isEmpty_iff, blank, if_false, List.mem_append, List.mem_singleton,
          and_iff_left_of_imp shown]
        exact or_right_comm

theorem isReserved_foldl_reserve (routes : List String) :
    (routes.foldl reserve r).isReserved path = true ↔
      r.isReserved path = true ∨ ∃ route ∈ routes, Withholds route (normalize path) := by
  induction routes generalizing r with
  | nil => simp
  | cons route routes ih => simp [ih, isReserved_reserve, or_assoc]

theorem isReserved_reserving (routes : List String) :
    (reserving routes).isReserved path = true ↔
      ∃ route ∈ routes, Withholds route (normalize path) := by
  rw [reserving, isReserved_foldl_reserve, isReserved_iff]
  simp [empty]

theorem reserve_entries (route : String) :
    (r.reserve route).plugins = r.plugins ∧ (r.reserve route).byMount = r.byMount := by
  unfold reserve
  split
  · exact ⟨rfl, rfl⟩
  · dsimp only
    split <;> exact ⟨rfl, rfl⟩

theorem foldl_reserve_entries (routes : List String) :
    (routes.foldl reserve r).plugins = r.plugins ∧
      (routes.foldl reserve r).byMount = r.byMount := by
  induction routes generalizing r with
  | nil => exact ⟨rfl, rfl⟩
  | cons route routes ih =>
      obtain ⟨plugins, byMount⟩ := reserve_entries (r := r) route
      rw [List.foldl_cons]
      exact ⟨ih.1.trans plugins, ih.2.trans byMount⟩

theorem reserving_entries (routes : List String) :
    (reserving routes).plugins = [] ∧ (reserving routes).byMount = [] := foldl_reserve_entries routes

theorem register_ok (accepted : r.register p = .ok after) :
    r.isReserved p.mountPath = false ∧ r.byMount.lookup p.mountPath = none ∧
      after = { r with
        plugins := r.plugins ++ [p]
        byMount := r.byMount ++ [(p.mountPath, r.plugins.length)] } := by
  unfold register at accepted
  split at accepted
  · cases accepted
  · rename_i free
    split at accepted
    · cases accepted
    · rename_i unused
      exact ⟨by simpa using free, unused, (Except.ok.inj accepted).symm⟩

theorem Sound.mem_byMount (sound : r.Sound) :
    (path, i) ∈ r.byMount ↔ ∃ p, r.plugins[i]? = some p ∧ p.mountPath = path := by
  rw [sound.positions, List.mem_map]
  constructor
  · rintro ⟨⟨p, position⟩, member, same⟩
    obtain ⟨rfl, rfl⟩ := Prod.mk.inj same
    exact ⟨p, List.mk_mem_zipIdx_iff_getElem?.mp member, rfl⟩
  · rintro ⟨p, located, rfl⟩
    exact ⟨(p, i), List.mk_mem_zipIdx_iff_getElem?.mpr located, rfl⟩

theorem Sound.map_fst_byMount (sound : r.Sound) :
    r.byMount.map Prod.fst = r.plugins.map (·.mountPath) := by
  calc r.byMount.map Prod.fst
      = (r.plugins.zipIdx.map Prod.fst).map (·.mountPath) := by
        rw [sound.positions, List.map_map, List.map_map]
        rfl
    _ = r.plugins.map (·.mountPath) := by rw [List.zipIdx_map_fst]

theorem Sound.unused_iff (sound : r.Sound) :
    r.byMount.lookup path = none ↔ ∀ p ∈ r.plugins, p.mountPath ≠ path := by
  simp only [List.lookup_eq_none_iff, bne_iff_ne]
  constructor
  · intro absent p member same
    obtain ⟨i, located⟩ := List.getElem?_of_mem member
    exact absent (path, i) (sound.mem_byMount.mpr ⟨p, located, same⟩) rfl
  · rintro other ⟨mount, i⟩ member same
    obtain ⟨p, located, rfl⟩ := sound.mem_byMount.mp member
    exact other p (List.mem_of_getElem? located) same.symm

theorem Sound.register (sound : r.Sound) (accepted : r.register p = .ok after) : after.Sound := by
  obtain ⟨free, unused, rfl⟩ := register_ok accepted
  have other := sound.unused_iff.mp unused
  refine ⟨?_, ?_, ?_⟩
  · simp [sound.positions, List.zipIdx_append]
  · rw [List.map_append, List.nodup_append]
    refine ⟨sound.distinct, by simp, ?_⟩
    intro mount old mount' new
    obtain ⟨q, member, rfl⟩ := List.mem_map.mp old
    obtain rfl : mount' = p.mountPath := by simpa using new
    exact other q member
  · intro q member
    rcases List.mem_append.mp member with old | new
    · exact sound.free q old
    · obtain rfl := List.mem_singleton.mp new
      exact free

theorem offer_of_ok (accepted : r.register p = .ok after) : r.offer p = after := by
  rw [offer, accepted]

theorem Sound.offer (sound : r.Sound) (p : Plugin) : (r.offer p).Sound := by
  unfold Registry.offer
  cases outcome : r.register p with
  | ok after => exact sound.register outcome
  | error cause => exact sound

theorem Reachable.sound (reached : Reachable r) : r.Sound := by
  induction reached with
  | empty => exact ⟨rfl, List.nodup_nil, by simp [Registry.empty]⟩
  | reserving routes =>
      obtain ⟨plugins, byMount⟩ := reserving_entries routes
      refine ⟨?_, ?_, ?_⟩ <;> simp [plugins, byMount]
  | offer p _ ih => exact ih.offer p

theorem Sound.eq_of_mountPath_eq (sound : r.Sound) (hp : p ∈ r.plugins) (hq : q ∈ r.plugins)
    (same : p.mountPath = q.mountPath) : p = q :=
  List.inj_on_of_nodup_map sound.distinct hp hq same

theorem Sound.lookup_byMount_eq_some_iff (sound : r.Sound) :
    r.byMount.lookup path = some i ↔ ∃ p, r.plugins[i]? = some p ∧ p.mountPath = path := by
  rw [← sound.mem_byMount]
  constructor
  · intro found
    obtain ⟨before, behind, split, -⟩ := List.lookup_eq_some_iff.mp found
    rw [split]
    exact List.mem_append_cons_self
  · intro member
    obtain ⟨p, located, rfl⟩ := sound.mem_byMount.mp member
    cases found : r.byMount.lookup p.mountPath with
    | none => exact absurd rfl (sound.unused_iff.mp found p (List.mem_of_getElem? located))
    | some j =>
        obtain ⟨before, behind, split, -⟩ := List.lookup_eq_some_iff.mp found
        obtain ⟨q, located', same⟩ := sound.mem_byMount.mp (split ▸ List.mem_append_cons_self)
        have inBounds := (List.getElem?_eq_some_iff.mp located).1
        have twice := (List.getElem?_inj (by simpa using inBounds) sound.distinct).mp
          (show (r.plugins.map (·.mountPath))[i]? = (r.plugins.map (·.mountPath))[j]? by
            simp [located, located', same])
        rw [twice]

theorem Sound.lookup_eq_some_iff (sound : r.Sound) :
    r.lookup path = some p ↔ p ∈ r.plugins ∧ p.mountPath = normalize path := by
  rw [lookup, Option.bind_eq_some_iff]
  simp only [sound.lookup_byMount_eq_some_iff]
  constructor
  · rintro ⟨i, ⟨q, located', same⟩, located⟩
    obtain rfl := Option.some.inj (located.symm.trans located')
    exact ⟨List.mem_of_getElem? located, same⟩
  · rintro ⟨member, same⟩
    obtain ⟨i, located⟩ := List.getElem?_of_mem member
    exact ⟨i, ⟨p, located, same⟩, located⟩

end ViewerHost.Registry
