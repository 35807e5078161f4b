import ViewerHost.Proofs.Plugin.Discovered

/-!
Routing finds the longest of the mount paths that a path lies within, in whatever order the mounts
are looked at. The scan compares sizes in bytes; mounts that the same path lies within begin alike,
so that is the order of their lengths.
-/

namespace ViewerHost.Registry
open MountPath Text

variable {r : Registry} {p q : Plugin} {entries : List (String × Nat)}
  {path mount other requestPath rest : String}

theorem toList_prefix_of_within (inside : Within mount path) : mount.toList <+: path.toList := by
  obtain ⟨rest, split, -⟩ := within_iff.mp inside
  exact ⟨rest, split.symm⟩

theorem eq_of_prefix_of_bytes_le (begins : mount.toList <+: other.toList)
    (small : other.utf8ByteSize ≤ mount.utf8ByteSize) : other = mount := by
  obtain ⟨rest, split⟩ := begins
  have whole : other = mount ++ String.ofList rest := by
    rw [← String.toList_inj, String.toList_append, String.toList_ofList, split]
  rw [whole, String.utf8ByteSize_append] at small
  have nothing : String.ofList rest = "" := String.utf8ByteSize_eq_zero_iff.mp (by omega)
  rw [whole, nothing, String.append_empty]

theorem length_le_of_bytes_le (inside : Within mount path) (inside' : Within other path)
    (small : other.utf8ByteSize ≤ mount.utf8ByteSize) : other.length ≤ mount.length := by
  rw [← String.length_toList, ← String.length_toList]
  rcases List.prefix_or_prefix_of_prefix (toList_prefix_of_within inside)
    (toList_prefix_of_within inside') with begins | begins
  · rw [eq_of_prefix_of_bytes_le begins small]
  · exact begins.length_le

theorem eq_of_within_of_length_eq (inside : Within mount path) (inside' : Within other path)
    (same : mount.length = other.length) : mount = other := by
  rw [← String.length_toList, ← String.length_toList] at same
  have begins := List.prefix_of_prefix_length_le (toList_prefix_of_within inside)
    (toList_prefix_of_within inside') same.le
  exact String.toList_inj.mp (begins.eq_of_length same)

def Best (entries : List (String × Nat)) (path : String) : Option (String × Nat) → Prop
  | none => ∀ other ∈ entries, ¬Within other.1 path
  | some best => best ∈ entries ∧ Within best.1 path ∧
      ∀ other ∈ entries, Within other.1 path → other.1.utf8ByteSize ≤ best.1.utf8ByteSize

theorem best_longer {best : Option (String × Nat)} (entry : String × Nat)
    (found : Best entries path best) : Best (entries ++ [entry]) path (longer path best entry) := by
  have extend : ∀ {P : String × Nat → Prop}, (∀ other ∈ entries, P other) → P entry →
      ∀ other ∈ entries ++ [entry], P other := by
    intro P old new
    exact List.forall_mem_append.mpr ⟨old, List.forall_mem_singleton.mpr new⟩
  unfold longer
  by_cases inside : Within entry.1 path
  · cases best with
    | none =>
        simp only [covers_iff.mpr inside, Option.all_none, Bool.and_self, if_true]
        refine ⟨by simp, inside, extend ?_ (fun _ => Nat.le_refl _)⟩
        intro other old within
        exact absurd within (found other old)
    | some best =>
        obtain ⟨member, within, longest⟩ := found
        by_cases more : best.1.utf8ByteSize < entry.1.utf8ByteSize
        · simp only [covers_iff.mpr inside, Option.all_some, more, decide_true, Bool.and_self,
            if_true]
          refine ⟨by simp, inside, extend ?_ (fun _ => Nat.le_refl _)⟩
          intro other old within'
          exact (longest other old within').trans more.le
        · simp only [Option.all_some, more, decide_false, Bool.and_false, Bool.false_eq_true,
            if_false]
          refine ⟨List.mem_append_left _ member, within, extend longest ?_⟩
          intro _
          exact Nat.le_of_not_lt more
  · have skipped : covers entry.1 path = false := by
      rw [← Bool.not_eq_true, covers_iff]
      exact inside
    simp only [skipped, Bool.false_and, Bool.false_eq_true, if_false]
    cases best with
    | none => exact extend found inside
    | some best =>
        obtain ⟨member, within, longest⟩ := found
        refine ⟨List.mem_append_left _ member, within, extend longest ?_⟩
        intro within'
        exact absurd within' inside

theorem best_ownerAmong : Best entries path (ownerAmong entries path) := by
  induction entries using List.reverseRecOn with
  | nil => exact fun other member => absurd member List.not_mem_nil
  | append_singleton entries entry ih =>
      rw [ownerAmong, List.foldl_append]
      exact best_longer entry ih

/-- The plugin whose mount path is the longest of those that the path lies within. -/
def Owns (r : Registry) (path : String) (p : Plugin) : Prop :=
  p ∈ r.plugins ∧ Within p.mountPath path ∧
    ∀ q ∈ r.plugins, Within q.mountPath path → q.mountPath.length ≤ p.mountPath.length

theorem Owns.unique (sound : r.Sound) (first : r.Owns path p) (second : r.Owns path q) : p = q := by
  obtain ⟨member, inside, longest⟩ := first
  obtain ⟨member', inside', longest'⟩ := second
  have same := (longest' p member inside).antisymm (longest q member' inside')
  exact sound.eq_of_mountPath_eq member member' (eq_of_within_of_length_eq inside inside' same)

theorem within_of_ownerAmong_none (sound : r.Sound) (order : entries.Perm r.byMount)
    (absent : ownerAmong entries path = none) : ∀ p ∈ r.plugins, ¬Within p.mountPath path := by
  have outside : Best entries path (ownerAmong entries path) := best_ownerAmong
  rw [absent] at outside
  intro p member
  obtain ⟨i, located⟩ := List.getElem?_of_mem member
  exact outside _ (order.mem_iff.mpr (sound.mem_byMount.mpr ⟨p, located, rfl⟩))

theorem owns_of_ownerAmong {i : Nat} (sound : r.Sound) (order : entries.Perm r.byMount)
    (found : ownerAmong entries path = some (mount, i)) :
    ∃ p, r.plugins[i]? = some p ∧ p.mountPath = mount ∧ r.Owns path p := by
  have best : Best entries path (ownerAmong entries path) := best_ownerAmong
  rw [found] at best
  obtain ⟨entry, inside, longest⟩ := best
  obtain ⟨p, located, rfl⟩ := sound.mem_byMount.mp (order.mem_iff.mp entry)
  refine ⟨p, located, rfl, List.mem_of_getElem? located, inside, ?_⟩
  intro q member within
  obtain ⟨j, located'⟩ := List.getElem?_of_mem member
  have entry' := order.mem_iff.mpr (sound.mem_byMount.mpr ⟨q, located', rfl⟩)
  exact length_le_of_bytes_le inside within (longest _ entry' within)

theorem fromByte?_of_within (inside : Within mount path) :
    ∃ below, path = mount ++ below ∧
      fromByte? mount.utf8ByteSize path.toList = some below.toList := by
  obtain ⟨rest, split, -⟩ := within_iff.mp inside
  refine ⟨String.ofList rest, ?_, ?_⟩
  · rw [← String.toList_inj, String.toList_append, String.toList_ofList, split]
  · have cut := fromByte?_append mount.toList rest
    rwa [String.ofList_toList, ← split, ← String.toList_ofList (l := rest)] at cut

theorem routeAmong_of_none (absent : ownerAmong entries (normalize requestPath) = none) :
    r.routeAmong entries requestPath = none := by
  simp [routeAmong, absent]

theorem routeAmong_of_owner (sound : r.Sound) (order : entries.Perm r.byMount)
    {entry : String × Nat} (found : ownerAmong entries (normalize requestPath) = some entry) :
    ∃ p below, r.Owns (normalize requestPath) p ∧ normalize requestPath = p.mountPath ++ below ∧
      r.routeAmong entries requestPath = some (p, dropSlashes below) := by
  obtain ⟨p, located, mounted, owns⟩ := owns_of_ownerAmong sound order found
  obtain ⟨below, split, cut⟩ := fromByte?_of_within owns.2.1
  refine ⟨p, below, owns, split, ?_⟩
  simp [routeAmong, found, located, ← mounted, cut]

theorem routeAmong_eq_none_iff (sound : r.Sound) (order : entries.Perm r.byMount) :
    r.routeAmong entries requestPath = none ↔
      ∀ p ∈ r.plugins, ¬Within p.mountPath (normalize requestPath) := by
  cases found : ownerAmong entries (normalize requestPath) with
  | none =>
      have outside := within_of_ownerAmong_none sound order found
      exact ⟨fun _ => outside, fun _ => routeAmong_of_none found⟩
  | some entry =>
      obtain ⟨p, below, owns, -, routed⟩ := routeAmong_of_owner sound order found
      constructor
      · intro absent
        simp [routed] at absent
      · intro outside
        exact absurd owns.2.1 (outside p owns.1)

theorem routeAmong_eq_some_iff (sound : r.Sound) (order : entries.Perm r.byMount) :
    r.routeAmong entries requestPath = some (p, rest) ↔
      r.Owns (normalize requestPath) p ∧
        ∃ below, normalize requestPath = p.mountPath ++ below ∧ rest = dropSlashes below := by
  cases found : ownerAmong entries (normalize requestPath) with
  | none =>
      rw [routeAmong_of_none found]
      constructor
      · rintro ⟨⟩
      · rintro ⟨⟨member, inside, -⟩, -⟩
        exact absurd inside (within_of_ownerAmong_none sound order found p member)
  | some entry =>
      obtain ⟨q, below, owns, split, routed⟩ := routeAmong_of_owner sound order found
      rw [routed]
      constructor
      · intro same
        obtain ⟨rfl, rfl⟩ := Prod.mk.inj (Option.some.inj same)
        exact ⟨owns, below, split, rfl⟩
      · rintro ⟨owns', below', split', rfl⟩
        obtain rfl := owns'.unique sound owns
        have same : below' = below := by
          rw [← String.toList_inj]
          rw [split', ← String.toList_inj, String.toList_append, String.toList_append] at split
          exact List.append_cancel_left split
        rw [same]

theorem bare_dropSlashes {below : String} (closes : closesWith isSlash path.toList = false)
    (split : path = mount ++ below) :
    opensWith isSlash (dropSlashes below).toList = false ∧
      closesWith isSlash (dropSlashes below).toList = false := by
  rw [dropSlashes, String.toList_ofList]
  refine ⟨opensWith_dropWhile, ?_⟩
  obtain ⟨slashes, kept⟩ := List.dropWhile_suffix isSlash (l := below.toList)
  cases rest : below.toList.dropWhile isSlash with
  | nil => rfl
  | cons c tail =>
      rw [split, String.toList_append, ← kept, ← List.append_assoc, rest,
        closesWith_append (List.cons_ne_nil c tail)] at closes
      exact closes

/-- The answer does not depend on the order of the mounts: nothing when the path lies within none
of them, else the plugin on the longest one with the rest of the path, which can always be cut off
and has no slash at its ends. -/
theorem route_finds_longest_mount (reached : Reachable r) (order : entries.Perm r.byMount)
    (requestPath : String) :
    r.routeAmong entries requestPath = r.route requestPath ∧
    (r.route requestPath = none ↔
      ∀ p ∈ r.plugins, ¬Within p.mountPath (normalize requestPath)) ∧
    ((∃ p ∈ r.plugins, Within p.mountPath (normalize requestPath)) →
      ∃! p, r.Owns (normalize requestPath) p) ∧
    (∀ p rest, r.route requestPath = some (p, rest) ↔
      r.Owns (normalize requestPath) p ∧
        ∃ below, normalize requestPath = p.mountPath ++ below ∧ rest = dropSlashes below) ∧
    (∀ p ∈ r.plugins, Within p.mountPath (normalize requestPath) →
      (fromByte? p.mountPath.utf8ByteSize (normalize requestPath).toList).isSome) ∧
    (∀ p rest, r.route requestPath = some (p, rest) →
      opensWith isSlash rest.toList = false ∧ closesWith isSlash rest.toList = false) := by
  have sound := reached.sound
  have own : r.byMount.Perm r.byMount := .refl _
  refine ⟨?_, routeAmong_eq_none_iff sound own, ?_, fun p rest => routeAmong_eq_some_iff sound own,
    ?_, ?_⟩
  · apply Option.ext
    rintro ⟨p, rest⟩
    exact (routeAmong_eq_some_iff sound order).trans (routeAmong_eq_some_iff sound own).symm
  · rintro ⟨p, member, inside⟩
    cases found : ownerAmong r.byMount (normalize requestPath) with
    | none => exact absurd inside (within_of_ownerAmong_none sound own found p member)
    | some entry =>
        obtain ⟨q, -, -, owns⟩ := owns_of_ownerAmong sound own found
        exact ⟨q, owns, fun other owns' => owns'.unique sound owns⟩
  · intro p member inside
    obtain ⟨below, -, cut⟩ := fromByte?_of_within inside
    rw [cut]
    rfl
  · intro p rest routed
    obtain ⟨-, below, split, rfl⟩ := (routeAmong_eq_some_iff sound own).mp routed
    exact bare_dropSlashes closesWith_normalize split

theorem route_finds_longest_mount_nested :
    Reachable Sample.registry ∧ Sample.registry.byMount.reverse.Perm Sample.registry.byMount ∧
    (Sample.registry.routeAmong Sample.registry.byMount.reverse "/é/ü//x/").map
      (fun (p, rest) => (p.mountPath, rest)) = some ("é/ü", "x") := by
  have reached := Sample.discovered.hosted.reachable
  have order := List.reverse_perm Sample.registry.byMount
  refine ⟨reached, order, ?_⟩
  rw [(route_finds_longest_mount reached order "/é/ü//x/").1]
  decide +kernel

end ViewerHost.Registry
