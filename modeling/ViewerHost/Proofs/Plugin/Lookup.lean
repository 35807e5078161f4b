import ViewerHost.Proofs.Plugin.Routing

namespace ViewerHost.Registry
open MountPath Text

variable {r : Registry} {p : Plugin} {entries : List (String × Nat)} {mount path below : String}

theorem length_le_of_within (inside : Within mount path) : mount.length ≤ path.length := by
  rw [← String.length_toList, ← String.length_toList]
  exact (toList_prefix_of_within inside).length_le

theorem owns_mountPath (member : p ∈ r.plugins) : r.Owns p.mountPath p := by
  refine ⟨member, Or.inl rfl, ?_⟩
  intro q _ inside
  exact length_le_of_within inside

theorem all_isSlash_of_dropSlashes (nothing : dropSlashes below = "") :
    ∀ c ∈ below.toList, isSlash c = true := by
  have dropped : below.toList.dropWhile isSlash = [] := by
    rw [dropSlashes, ← String.toList_inj, String.toList_ofList] at nothing
    exact nothing
  exact List.dropWhile_eq_nil_iff.mp dropped

theorem dropSlashes_eq_empty_iff (closes : closesWith isSlash path.toList = false)
    (split : path = mount ++ below) : dropSlashes below = "" ↔ below = "" := by
  constructor
  · intro nothing
    have slashes := all_isSlash_of_dropSlashes nothing
    rw [← String.toList_inj, String.toList_empty]
    cases last : below.toList.getLast? with
    | none => exact List.getLast?_eq_none_iff.mp last
    -- A last slash below the mount is a last slash of the path, which has none.
    | some c =>
        have slash := slashes c (List.mem_of_mem_getLast? last)
        have ends : closesWith isSlash path.toList = true := by
          rw [split, String.toList_append, closesWith_append, closesWith, last]
          · exact slash
          · intro empty
            simp [empty] at last
        rw [closes] at ends
        cases ends
  · rintro rfl
    rfl

/-- A plugin is found under a path exactly when the path is routed to it with nothing left over, in
whatever order the mounts are looked at. -/
theorem lookup_agrees_with_route (reached : Reachable r) (order : entries.Perm r.byMount)
    (path : String) (p : Plugin) :
    (r.lookup path = some p ↔ r.routeAmong entries path = some (p, "")) ∧
    (r.lookup path = some p ↔ r.route path = some (p, "")) := by
  have agree : ∀ {entries : List (String × Nat)}, entries.Perm r.byMount →
      (r.lookup path = some p ↔ r.routeAmong entries path = some (p, "")) := by
    intro entries order
    rw [reached.sound.lookup_eq_some_iff, routeAmong_eq_some_iff reached.sound order]
    constructor
    · rintro ⟨member, same⟩
      rw [← same]
      exact ⟨owns_mountPath member, "", String.append_empty.symm, rfl⟩
    · rintro ⟨⟨member, -, -⟩, below, split, nothing⟩
      have empty := (dropSlashes_eq_empty_iff closesWith_normalize split).mp nothing.symm
      rw [empty, String.append_empty] at split
      exact ⟨member, split.symm⟩
  exact ⟨agree order, agree (.refl _)⟩

theorem lookup_agrees_with_route_nested :
    Reachable Sample.registry ∧ Sample.registry.byMount.reverse.Perm Sample.registry.byMount ∧
    ∃ p, p.mountPath = "é/ü" ∧ Sample.registry.lookup " /é/ü/" = some p ∧
      Sample.registry.routeAmong Sample.registry.byMount.reverse " /é/ü/" = some (p, "") := by
  have reached := Sample.discovered.hosted.reachable
  have order := List.reverse_perm Sample.registry.byMount
  obtain ⟨p, member, mounted⟩ := Sample.mounted "é/ü" (by decide)
  have found : Sample.registry.lookup " /é/ü/" = some p := by
    rw [reached.sound.lookup_eq_some_iff, mounted]
    exact ⟨member, by decide +kernel⟩
  exact ⟨reached, order, p, mounted, found,
    (lookup_agrees_with_route reached order " /é/ü/" p).1.mp found⟩

end ViewerHost.Registry
