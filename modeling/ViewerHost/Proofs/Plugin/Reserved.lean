import ViewerHost.Proofs.Plugin.Enrolment

/-!
What a registry keeps for the host, against what the routes of the host stand for. The two differ
in one point: the tree of all paths has the empty name, and no normal path goes on from that at a
slash, so of this tree only the empty path is kept.
-/

namespace ViewerHost

theorem Text.before?_eq_some_iff {finish text front : String} :
    before? finish text = some front ↔ text = front ++ finish := by
  rw [before?, Option.map_eq_some_iff, ← String.toList_inj, String.toList_append]
  simp only [List.isPrefixOf?_eq_some_iff_append_eq]
  constructor
  · rintro ⟨rest, split, rfl⟩
    rw [String.toList_ofList, ← List.reverse_inj, ← split, List.reverse_append,
      List.reverse_reverse]
  · intro split
    refine ⟨front.toList.reverse, ?_, ?_⟩
    · rw [split, List.reverse_append]
    · rw [List.reverse_reverse, String.ofList_toList]

namespace MountPath

open Text

variable {route path tree : String}

theorem treeOf?_eq_some_iff : treeOf? route = some tree ↔ route = tree ++ "/*" :=
  before?_eq_some_iff

theorem treeOf?_eq_none_iff : treeOf? route = none ↔ ∀ tree, route ≠ tree ++ "/*" := by
  simp only [Option.eq_none_iff_forall_ne_some, ne_eq, treeOf?_eq_some_iff]

theorem within_empty_iff (opens : opensWith isSlash path.toList = false) :
    Within "" path ↔ path = "" := by
  constructor
  · rintro (same | ⟨rest, below⟩)
    · exact same
    · rw [below] at opens
      simp at opens
  · exact Or.inl

end MountPath

namespace Registry

open MountPath Text

variable {route path : String}

def IsRoot (route : String) : Prop := ∃ tree, route = tree ++ "/*" ∧ normalize tree = ""

/-- What a route stands for: a tree with all that lies below it, or else its own path, unless that
is empty. -/
def Reserves (route path : String) : Prop :=
  IsRoot route ∨
  (∃ tree, route = tree ++ "/*" ∧ Within (normalize tree) path) ∨
  ((∀ tree, route ≠ tree ++ "/*") ∧ path = normalize route ∧ path ≠ "")

theorem withholds_iff_reserves (opens : opensWith isSlash path.toList = false) :
    Withholds route path ↔ Reserves route path ∧ (IsRoot route → path = "") := by
  unfold Withholds Reserves IsRoot
  simp only [← treeOf?_eq_some_iff, ← treeOf?_eq_none_iff]
  cases treeOf? route with
  | none => simp
  | some tree =>
      by_cases empty : normalize tree = ""
      · simp [empty, within_empty_iff opens]
      · simp [empty]

/-- A path is kept for the host exactly when a route stands for it and, if that is the route of all
paths, is empty. So a registry keeps what its routes stand for, unless one of them is the route of
all paths: then it does so for the empty path and for those that another route stands for. -/
theorem reserved_but_for_root (routes : List String) (path : String) :
    ((reserving routes).isReserved path = true ↔
      ∃ route ∈ routes, Reserves route (normalize path) ∧
        (IsRoot route → normalize path = "")) ∧
    (((reserving routes).isReserved path = true ↔
        ∃ route ∈ routes, Reserves route (normalize path)) ↔
      ((∃ route ∈ routes, IsRoot route) →
        normalize path = "" ∨
        ∃ route ∈ routes, ¬IsRoot route ∧ Reserves route (normalize path))) := by
  have kept : (reserving routes).isReserved path = true ↔
      ∃ route ∈ routes, Reserves route (normalize path) ∧
        (IsRoot route → normalize path = "") := by
    rw [isReserved_reserving]
    simp only [withholds_iff_reserves opensWith_normalize]
  refine ⟨kept, ?_⟩
  rw [kept]
  constructor
  · rintro agree ⟨root, listed, isRoot⟩
    obtain ⟨route, listed, reserves, empty⟩ := agree.mpr ⟨root, listed, Or.inl isRoot⟩
    by_cases isRoot : IsRoot route
    · exact Or.inl (empty isRoot)
    · exact Or.inr ⟨route, listed, isRoot, reserves⟩
  · intro covered
    constructor
    · rintro ⟨route, listed, reserves, -⟩
      exact ⟨route, listed, reserves⟩
    · rintro ⟨route, listed, reserves⟩
      by_cases isRoot : IsRoot route
      · rcases covered ⟨route, listed, isRoot⟩ with empty | ⟨other, listed', inner, reserves'⟩
        · exact ⟨route, listed, reserves, fun _ => empty⟩
        · exact ⟨other, listed', reserves', fun isRoot' => absurd isRoot' inner⟩
      · exact ⟨route, listed, reserves, fun isRoot' => absurd isRoot' isRoot⟩

theorem root_unreserved :
    ¬((reserving ["/*"]).isReserved "logs" = true ↔
        ∃ route ∈ ["/*"], Reserves route (normalize "logs")) ∧
      ∃ after, (reserving ["/*"]).register (Sample.offered "a" "logs") = .ok after := by
  have free : (reserving ["/*"]).isReserved "logs" = false := by decide +kernel
  have root : IsRoot "/*" := ⟨"", by decide, by decide⟩
  refine ⟨?_, ?_⟩
  · intro agree
    have taken := agree.mpr ⟨"/*", List.mem_singleton.mpr rfl, Or.inl root⟩
    rw [free] at taken
    cases taken
  · rw [(sound_reserving _).register_isOk_iff]
    exact ⟨free, by simp [reserving_entries]⟩

end Registry

end ViewerHost
