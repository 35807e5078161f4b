import ViewerHost.Proofs.Outcome
import ViewerHost.Proofs.Toml.Scalars

namespace ViewerHost

open Outcome

variable {α β ε : Type} {s : Settings} {key : String} {value : Toml} {means : Toml → α → Prop}

namespace Settings

def Admits (s : Settings) (key : String) (allowed : Toml → Prop) : Prop :=
  ∀ value, s.get? key = some value → allowed value

/-- What a key comes to: what its value means, or else the default. -/
def Yields (s : Settings) (key : String) (means : Toml → α → Prop) (default a : α) : Prop :=
  match s.get? key with
  | some value => means value a
  | none => a = default

theorem exists_yields_iff {default : α} {p : α → Prop} (fits : p default) :
    (∃ a, s.Yields key means default a ∧ p a) ↔
      s.Admits key fun value => ∃ a, means value a ∧ p a := by
  unfold Yields Admits
  cases found : s.get? key with
  | none => simp [fits]
  | some value => simp

theorem exists_yields {default : α} :
    (∃ a, s.Yields key means default a) ↔ s.Admits key fun value => ∃ a, means value a := by
  simpa using exists_yields_iff (p := fun _ => True) trivial

theorem textOf_eq_ok_iff {text : String} : textOf key value = .ok text ↔ value.Reads text := by
  unfold textOf Toml.Reads
  cases value.scalarText? with
  | none => simp
  | some own => simp

theorem integerOf_eq_ok_iff {i : Int} : integerOf key value = .ok i ↔ value.Denotes i := by
  rw [← Toml.integer64?_eq_some_iff]
  unfold integerOf
  cases value.integer64? with
  | none => simp
  | some own => simp

theorem truthOf_eq_ok_iff {b : Bool} : truthOf key value = .ok b ↔ value.Says b := by
  rw [← Toml.truth?_eq_some_iff]
  unfold truthOf
  cases value.truth? with
  | none => simp
  | some own => simp

theorem textsOf_eq_ok_iff {texts : List String} :
    textsOf key value = .ok texts ↔ value.Lists texts := by
  cases value with
  | array items =>
      rw [textsOf, mapM_eq_ok_iff, Toml.Lists]
      simp only [textOf_eq_ok_iff]
  | string text => simp [textsOf, Toml.Lists, eq_comm]
  | _ => simp [textsOf, Toml.Lists]

theorem readOr_eq_ok_iff {read : String → Toml → Except SettingsError α}
    (reads : ∀ value a, read key value = .ok a ↔ means value a) {default a : α} :
    s.readOr key default read = .ok a ↔ s.Yields key means default a := by
  unfold readOr Yields
  cases s.get? key with
  | none => simp [eq_comm]
  | some value => exact reads value a

theorem getTextOr_eq_ok_iff {default text : String} :
    s.getTextOr key default = .ok text ↔ s.Yields key Toml.Reads default text :=
  readOr_eq_ok_iff fun _ _ => textOf_eq_ok_iff

theorem getIntOr_eq_ok_iff {default i : Int} :
    s.getIntOr key default = .ok i ↔ s.Yields key Toml.Denotes default i :=
  readOr_eq_ok_iff fun _ _ => integerOf_eq_ok_iff

theorem getBoolOr_eq_ok_iff {default b : Bool} :
    s.getBoolOr key default = .ok b ↔ s.Yields key Toml.Says default b :=
  readOr_eq_ok_iff fun _ _ => truthOf_eq_ok_iff

theorem getList_eq_ok_iff {texts : List String} :
    s.getList key = .ok texts ↔ s.Yields key Toml.Lists [] texts :=
  readOr_eq_ok_iff fun _ _ => textsOf_eq_ok_iff

theorem getText_eq_ok_iff {text : String} :
    s.getText key = .ok text ↔ ∃ value, s.get? key = some value ∧ value.Reads text := by
  unfold getText require
  cases s.get? key with
  | none => simp
  | some value => simp [textOf_eq_ok_iff]

theorem getText_succeeds_iff :
    Succeeds (s.getText key) ↔ ∃ value, s.get? key = some value ∧ value.IsScalar := by
  unfold Succeeds
  simp only [getText_eq_ok_iff, Toml.isScalar_iff]
  rw [exists_comm]
  simp only [exists_and_left]

theorem getTextOr_succeeds_iff {default : String} :
    Succeeds (s.getTextOr key default) ↔ s.Admits key Toml.IsScalar := by
  unfold Succeeds
  simp only [getTextOr_eq_ok_iff, exists_yields, ← Toml.isScalar_iff]

theorem getBoolOr_succeeds_iff {default : Bool} :
    Succeeds (s.getBoolOr key default) ↔ s.Admits key fun value => ∃ b, value.Says b := by
  unfold Succeeds
  simp only [getBoolOr_eq_ok_iff, exists_yields]

theorem succeeds_checked_iff {default : Int} {f : SettingsError → ε} {next : Int → Except ε β}
    {p : Int → Prop} (checks : ∀ i, Succeeds (next i) ↔ p i) (fits : p default) :
    Succeeds ((s.getIntOr key default).mapError f >>= next) ↔
      s.Admits key fun value => ∃ i, value.Denotes i ∧ p i := by
  simp only [succeeds_bind_iff, mapError_eq_ok_iff, getIntOr_eq_ok_iff, checks]
  exact exists_yields_iff fits

end Settings

end ViewerHost
