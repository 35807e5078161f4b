import Mathlib.Data.List.Forall2

namespace ViewerHost.Outcome

variable {ε ε' α β : Type}

instance decidableEq [DecidableEq ε] [DecidableEq α] : DecidableEq (Except ε α)
  | .ok a, .ok b => decidable_of_iff (a = b) (by simp)
  | .error a, .error b => decidable_of_iff (a = b) (by simp)
  | .ok _, .error _ => isFalse nofun
  | .error _, .ok _ => isFalse nofun

theorem bind_eq_ok_iff {first : Except ε α} {next : α → Except ε β} {result : β} :
    first >>= next = .ok result ↔ ∃ a, first = .ok a ∧ next a = .ok result := by
  cases first with
  | ok a => simp [bind, Except.bind]
  | error cause => simp [bind, Except.bind]

theorem bind_ok_eq_map (first : Except ε α) (f : α → β) :
    (first >>= fun a => .ok (f a)) = first.map f := by
  cases first with
  | ok a => rfl
  | error e => rfl

theorem mapError_eq_ok_iff {outcome : Except ε α} {f : ε → ε'} {result : α} :
    outcome.mapError f = .ok result ↔ outcome = .ok result := by
  cases outcome with
  | ok a =>
      constructor
      · rintro ⟨⟩
        rfl
      · rintro ⟨⟩
        rfl
  | error cause =>
      constructor
      · rintro ⟨⟩
      · rintro ⟨⟩

theorem map_eq_ok_iff {outcome : Except ε α} {f : α → β} {result : β} :
    outcome.map f = .ok result ↔ ∃ a, outcome = .ok a ∧ f a = result := by
  cases outcome with
  | ok a => simp [Except.map]
  | error cause => simp [Except.map]

theorem mapM_eq_ok_iff {f : α → Except ε β} {items : List α} {results : List β} :
    items.mapM f = .ok results ↔
      List.Forall₂ (fun item result => f item = .ok result) items results := by
  induction items generalizing results with
  | nil =>
      rw [List.mapM_nil, List.forall₂_nil_left_iff]
      constructor
      · rintro ⟨⟩
        rfl
      · rintro rfl
        rfl
  | cons item rest ih =>
      rw [List.mapM_cons, bind_eq_ok_iff, List.forall₂_cons_left_iff]
      simp only [bind_eq_ok_iff, ih]
      constructor
      · rintro ⟨result, first, results, others, ⟨⟩⟩
        exact ⟨result, results, first, others, rfl⟩
      · rintro ⟨result, results, first, others, rfl⟩
        exact ⟨result, first, results, others, rfl⟩

def Succeeds (outcome : Except ε α) : Prop := ∃ a, outcome = .ok a

@[simp] theorem succeeds_ok (a : α) : Succeeds (.ok a : Except ε α) := ⟨a, rfl⟩

@[simp] theorem not_succeeds_error (cause : ε) : ¬ Succeeds (.error cause : Except ε α) := nofun

theorem succeeds_guard_iff {p : Prop} [Decidable p] {a : α} {cause : ε} :
    Succeeds (if p then .ok a else .error cause) ↔ p := by
  split
  · rename_i holds
    simp [holds]
  · rename_i fails
    simp [fails]

theorem succeeds_refuse_iff {p : Prop} [Decidable p] {cause : ε} {otherwise : Except ε α} :
    Succeeds (if p then .error cause else otherwise) ↔ ¬ p ∧ Succeeds otherwise := by
  split
  · rename_i holds
    simp [holds]
  · rename_i fails
    simp [fails]

theorem succeeds_bind_iff {first : Except ε α} {next : α → Except ε β} :
    Succeeds (first >>= next) ↔ ∃ a, first = .ok a ∧ Succeeds (next a) := by
  cases first with
  | ok a => simp [bind, Except.bind]
  | error cause => simp [bind, Except.bind]

theorem succeeds_bind_and {first : Except ε α} {next : α → Except ε β} {p : Prop}
    (later : ∀ a, first = .ok a → (Succeeds (next a) ↔ p)) :
    Succeeds (first >>= next) ↔ Succeeds first ∧ p := by
  rw [succeeds_bind_iff]
  constructor
  · rintro ⟨a, done, following⟩
    exact ⟨⟨a, done⟩, (later a done).mp following⟩
  · rintro ⟨⟨a, done⟩, holds⟩
    exact ⟨a, done, (later a done).mpr holds⟩

theorem succeeds_bind_ok_iff {first : Except ε α} {f : α → β} :
    Succeeds (do .ok (f (← first))) ↔ Succeeds first := by
  rw [succeeds_bind_and (p := True) fun a _ => iff_of_true ⟨f a, rfl⟩ trivial, and_true]

theorem succeeds_mapError_iff {outcome : Except ε α} {f : ε → ε'} :
    Succeeds (outcome.mapError f) ↔ Succeeds outcome :=
  exists_congr fun _ => mapError_eq_ok_iff

theorem succeeds_map_iff {outcome : Except ε α} {f : α → β} :
    Succeeds (outcome.map f) ↔ Succeeds outcome := by
  cases outcome with
  | ok a => simp [Except.map]
  | error cause => simp [Except.map]

theorem mapM_congr {f g : α → Except ε β} {items : List α}
    (alike : ∀ item ∈ items, f item = g item) : items.mapM f = items.mapM g := by
  induction items with
  | nil => rfl
  | cons first rest ih =>
      obtain ⟨same, alike⟩ := List.forall_mem_cons.mp alike
      rw [List.mapM_cons, List.mapM_cons, same, ih alike]

theorem succeeds_mapM_iff {f : α → Except ε β} {items : List α} :
    Succeeds (items.mapM f) ↔ ∀ item ∈ items, Succeeds (f item) := by
  induction items with
  | nil => simp [pure, Except.pure]
  | cons item rest ih =>
      have following (first : β) :
          Succeeds (do pure (first :: (← rest.mapM f))) ↔ Succeeds (rest.mapM f) :=
        succeeds_bind_ok_iff
      rw [List.mapM_cons, succeeds_bind_and fun first _ => following first, ih,
        List.forall_mem_cons]

end ViewerHost.Outcome
