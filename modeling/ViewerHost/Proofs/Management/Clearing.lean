import ViewerHost.Proofs.Management.Registrations

/-!
Taking everything out. The identifiers are those that are registered at the start, and each of them
is looked for among what is left when its turn comes. There it stands first, so that every component
is released in its turn, whatever the releases before it came to.
-/

namespace ViewerHost

namespace Bridge

variable {σ : Type} {r : Registration σ} {e : ManagementError}

/-- The components that a run of `unregister` calls releases: for each identifier the one that is
registered under it when its turn comes. -/
def releases (b : Bridge σ) : List ComponentId → List (Registration σ)
  | [] => []
  | id :: ids => (b.find? id).toList ++ (b.unregister id).1.releases ids

theorem unregister_head (r : Registration σ) (rest : List (Registration σ)) :
    ((⟨r :: rest⟩ : Bridge σ).unregister r.id).1 = ⟨rest⟩ := by
  simp only [unregister, find?_head, remove_head]

/-- Whatever the bridge and the identifiers, what a run of calls keeps as released are the
identifiers of the components that it releases. -/
theorem released_foldl_step (c : Clearing σ) (ids : List ComponentId) :
    (ids.foldl Clearing.step c).released = c.released ++ (c.bridge.releases ids).map (·.id) := by
  induction ids generalizing c with
  | nil => simp [releases]
  | cons id ids ih =>
      have after : (c.step id).bridge = (c.bridge.unregister id).1 := rfl
      have released : (c.step id).released = c.released ++ (c.bridge.find? id).toList.map (·.id) := by
        rw [Clearing.step, contains]
        cases found : c.bridge.find? id with
        | none => simp
        | some r =>
            have same : r.id = id := by simpa using List.find?_some found
            simp [same]
      rw [List.foldl_cons, ih, after, released, releases, List.map_append, List.append_assoc]

theorem releases_list (b : Bridge σ) : b.releases b.list = b.registrations := by
  obtain ⟨registrations⟩ := b
  induction registrations with
  | nil => rfl
  | cons r rest ih =>
      have listed : (⟨r :: rest⟩ : Bridge σ).list = r.id :: (⟨rest⟩ : Bridge σ).list := rfl
      rw [listed, releases, find?_head, unregister_head, ih]
      rfl

theorem releaseError?_eq_some_iff :
    releaseError? r = some e ↔
      ∃ reason, r.component.release = .error reason ∧ e = .releaseFailed r.id reason := by
  unfold releaseError?
  cases r.component.release with
  | ok done => simp
  | error reason => simp [eq_comm]

end Bridge

namespace BridgeHistory

open Bridge

variable {σ : Type}

/-- After any calls, taking everything out releases the registered components in the order of their
registration, each of them once, and leaves none. The failures are those of the releases that fail,
in the same order. A second time there is nothing to release and no failure. -/
theorem clearing_releases_each_once (calls : List (BridgeCall σ)) :
    let b := (run calls).bridge
    let cleared := b.unregisterAll
    (b.releases b.list = b.registrations ∧ b.list.Nodup ∧ cleared.released = b.list) ∧
    cleared.bridge = .empty ∧
    cleared.failures = b.registrations.filterMap releaseError? ∧
    (∀ e, e ∈ cleared.failures ↔ ∃ r ∈ b.registrations, ∃ reason,
      r.component.release = .error reason ∧ e = .releaseFailed r.id reason) ∧
    (∀ id, .unknownComponent id ∉ cleared.failures) ∧
    cleared.bridge.releases cleared.bridge.list = [] ∧
    cleared.bridge.unregisterAll = ⟨.empty, [], []⟩ := by
  intro b cleared
  have agrees : Agrees (run calls).log b := agrees_run calls
  have all : cleared = ⟨.empty, b.list, b.registrations.filterMap releaseError?⟩ :=
    b.unregisterAll_eq
  have failed : ∀ e, e ∈ cleared.failures ↔ ∃ r ∈ b.registrations, ∃ reason,
      r.component.release = .error reason ∧ e = .releaseFailed r.id reason := by
    intro e
    rw [all, List.mem_filterMap]
    simp only [releaseError?_eq_some_iff]
  have released : cleared.released = b.list := by
    have run := released_foldl_step ⟨b, [], []⟩ b.list
    rw [releases_list] at run
    exact run
  refine ⟨⟨b.releases_list, agrees.distinct, released⟩, ?_, ?_, failed, ?_, ?_, ?_⟩
  · rw [all]
  · rw [all]
  · intro id member
    obtain ⟨r, -, reason, -, impossible⟩ := (failed _).mp member
    cases impossible
  · rw [all]
    rfl
  · rw [all, unregisterAll_eq]
    rfl

end BridgeHistory

end ViewerHost
