import ViewerHost.Proofs.Plugin.Discovered
import ViewerHost.Proofs.Plugin.Presentation

namespace ViewerHost

open Outcome

namespace Registry

variable {r : Registry} {p q : Plugin} {outcome : Except LoadError Plugin}
  {outcomes verdicts : List (Except LoadError Plugin)} {e : LoadError} {i : Nat}

def loaded (verdicts : List (Except LoadError Plugin)) : List Plugin :=
  verdicts.filterMap Except.toOption

def verdict (r : Registry) (outcome : Except LoadError Plugin) : Except LoadError Plugin := do
  let p ← outcome
  let _ ← r.register p
  .ok p

def judge (r : Registry) : List (Except LoadError Plugin) → List (Except LoadError Plugin)
  | [] => []
  | outcome :: outcomes => r.verdict outcome :: (r.enrol outcome.toOption.toList).judge outcomes

theorem loaded_cons :
    loaded (outcome :: outcomes) = outcome.toOption.toList ++ loaded outcomes := by
  cases outcome with
  | ok p => rfl
  | error e => rfl

theorem mem_loaded_take :
    q ∈ loaded (verdicts.take i) ↔ ∃ j < i, verdicts[j]? = some (.ok q) := by
  rw [loaded, List.mem_filterMap]
  constructor
  · rintro ⟨verdict, member, isOk⟩
    cases verdict with
    | error e => cases isOk
    | ok p =>
        obtain rfl := Option.some.inj isOk
        obtain ⟨j, located⟩ := List.getElem?_of_mem member
        rw [List.getElem?_take] at located
        split at located
        · rename_i inside
          exact ⟨j, inside, located⟩
        · cases located
  · rintro ⟨j, inside, located⟩
    refine ⟨.ok q, List.mem_of_getElem? (i := j) ?_, rfl⟩
    rw [List.getElem?_take, if_pos inside, located]

theorem length_judge : (r.judge outcomes).length = outcomes.length := by
  induction outcomes generalizing r with
  | nil => rfl
  | cons outcome outcomes ih => simp [judge, ih]

theorem judge_take : (r.judge outcomes).take i = r.judge (outcomes.take i) := by
  induction outcomes generalizing r i with
  | nil => simp [judge]
  | cons outcome outcomes ih =>
      cases i with
      | zero => rfl
      | succ i => simp [judge, ih]

theorem accepted_cons (r : Registry) (p : Plugin) (calls : List Plugin) :
    r.accepted (p :: calls) =
      (r.verdict (.ok p)).toOption.toList ++ (r.offer p).accepted calls := by
  cases registered : r.register p with
  | error e =>
      rw [offer_of_error registered]
      simp [accepted, verdict, registered, bind, Except.bind, Except.toOption]
  | ok after =>
      rw [offer_of_ok registered]
      simp [accepted, verdict, registered, bind, Except.bind, Except.toOption]

theorem loaded_judge : loaded (r.judge outcomes) = r.accepted (loaded outcomes) := by
  induction outcomes generalizing r with
  | nil => rfl
  | cons outcome outcomes ih =>
      rw [judge, loaded_cons, loaded_cons, ih]
      cases outcome with
      | error e => rfl
      | ok p => exact (accepted_cons r p _).symm

theorem getElem?_judge (i : Nat) :
    (r.judge outcomes)[i]? = outcomes[i]?.map (r.enrol (loaded (outcomes.take i))).verdict := by
  induction outcomes generalizing r i with
  | nil => rfl
  | cons outcome outcomes ih =>
      cases i with
      | zero => rfl
      | succ i =>
          rw [judge, List.getElem?_cons_succ, ih, ← enrol_append, List.getElem?_cons_succ,
            List.take_succ_cons, loaded_cons]

theorem Sound.verdict_eq_ok_iff (sound : r.Sound) :
    r.verdict outcome = .ok p ↔ outcome = .ok p ∧ r.IsFree p.mountPath := by
  rw [← sound.register_isOk_iff, Registry.verdict]
  simp only [bind_eq_ok_iff]
  constructor
  · rintro ⟨q, rfl, after, registered, same⟩
    obtain rfl := Except.ok.inj same
    exact ⟨rfl, after, registered⟩
  · rintro ⟨rfl, after, registered⟩
    exact ⟨p, rfl, after, registered, rfl⟩

theorem Sound.verdict_eq_error_iff (sound : r.Sound) :
    r.verdict outcome = .error e ↔
      outcome = .error e ∨ ∃ p, outcome = .ok p ∧ r.Refuses p e := by
  simp only [← sound.register_eq_error_iff]
  cases outcome with
  | error cause => simp [Registry.verdict, bind, Except.bind]
  | ok p =>
      cases registered : r.register p with
      | error e => simp [Registry.verdict, bind, Except.bind, registered]
      | ok after => simp [Registry.verdict, bind, Except.bind, registered]

/-- The verdict on an outcome, told from the registry and the verdicts on those before it. -/
structure Judged (r : Registry) (outcomes verdicts : List (Except LoadError Plugin)) : Prop where
  each : verdicts.length = outcomes.length
  loads : ∀ (i : Nat) (p : Plugin), verdicts[i]? = some (.ok p) ↔
    outcomes[i]? = some (.ok p) ∧ r.isReserved p.mountPath = false ∧
      (∀ q ∈ r.plugins, q.mountPath ≠ p.mountPath) ∧
      ∀ j < i, ∀ q, verdicts[j]? = some (.ok q) → q.mountPath ≠ p.mountPath
  fails : ∀ (i : Nat) (e : LoadError), verdicts[i]? = some (.error e) ↔
    outcomes[i]? = some (.error e) ∨ ∃ p, outcomes[i]? = some (.ok p) ∧
      ((r.isReserved p.mountPath = true ∧ e = .reservedMount p.mountPath) ∨
      (r.isReserved p.mountPath = false ∧ ∃ q,
        (q ∈ r.plugins ∨ ∃ j < i, verdicts[j]? = some (.ok q)) ∧
        q.mountPath = p.mountPath ∧ e = .duplicateMount p.mountPath q.name))

theorem Sound.judged (sound : r.Sound) (outcomes : List (Except LoadError Plugin)) :
    r.Judged outcomes (r.judge outcomes) := by
  have held : ∀ i q, q ∈ (r.enrol (loaded (outcomes.take i))).plugins ↔
      q ∈ r.plugins ∨ ∃ j < i, (r.judge outcomes)[j]? = some (.ok q) := by
    intro i q
    rw [plugins_enrol, List.mem_append, ← loaded_judge, ← judge_take, mem_loaded_take]
  refine ⟨length_judge, ?_, ?_⟩
  · intro i p
    have sound' := sound.enrol (loaded (outcomes.take i))
    rw [getElem?_judge, Option.map_eq_some_iff]
    simp only [sound'.verdict_eq_ok_iff, IsFree, isReserved_enrol, held]
    constructor
    · rintro ⟨outcome, located, rfl, free, unused⟩
      refine ⟨located, free, fun q member => unused q (Or.inl member), ?_⟩
      exact fun j before q earlier => unused q (Or.inr ⟨j, before, earlier⟩)
    · rintro ⟨located, free, unused, unused'⟩
      refine ⟨_, located, rfl, free, ?_⟩
      rintro q (member | ⟨j, before, earlier⟩)
      · exact unused q member
      · exact unused' j before q earlier
  · intro i e
    have sound' := sound.enrol (loaded (outcomes.take i))
    rw [getElem?_judge, Option.map_eq_some_iff]
    simp only [sound'.verdict_eq_error_iff, Refuses, isReserved_enrol, held]
    constructor
    · rintro ⟨outcome, located, rfl | ⟨p, rfl, refused⟩⟩
      · exact Or.inl located
      · exact Or.inr ⟨p, located, refused⟩
    · rintro (located | ⟨p, located, refused⟩)
      · exact ⟨_, located, Or.inl rfl⟩
      · exact ⟨_, located, Or.inr ⟨p, rfl, refused⟩⟩

end Registry

end ViewerHost
