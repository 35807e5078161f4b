import ViewerHost.Proofs.Settings.Values
import ViewerHost.Proofs.Text.Pieces
import ViewerHost.Subsystem.Users

namespace ViewerHost.UserStore

open Outcome Text

variable {entry : String} {account : Account} {accounts result : Dictionary Account}

def nameOf (entry : String) : String :=
  trimBlank (String.ofList (entry.toList.takeWhile (· ≠ ':')))

def passwordOf (entry : String) : String :=
  String.ofList ((behind ':' entry.toList).takeWhile (· ≠ ':'))

def rolesOf (entry : String) : List String :=
  Settings.listed (String.ofList (behind ':' (behind ':' entry.toList)))

def accountOf (entry : String) : Account := ⟨passwordOf entry, nameOf entry, rolesOf entry⟩

/-- The password behind the colon may be empty. -/
structure IsEntry (entry : String) : Prop where
  hasPassword : ':' ∈ entry.toList
  hasName : nameOf entry ≠ ""

theorem parseEntry_of_not_mem (absent : ':' ∉ entry.toList) :
    parseEntry entry = .error (.invalid ("User entry '" ++ entry ++ "' has no password")) := by
  rw [parseEntry, pieces_of_not_mem absent]
  rfl

theorem parseEntry_of_mem (present : ':' ∈ entry.toList) :
    parseEntry entry =
      if (nameOf entry).isEmpty then
        .error (.invalid ("User entry '" ++ entry ++ "' has no name"))
      else .ok (accountOf entry) := by
  obtain ⟨roles, split, rest⟩ : ∃ roles,
      pieces ':' (behind ':' entry.toList) = (passwordOf entry).toList :: roles ∧
      joined ":" (roles.map String.ofList) =
        String.ofList (behind ':' (behind ':' entry.toList)) := by
    rw [passwordOf, String.toList_ofList]
    by_cases second : ':' ∈ behind ':' entry.toList
    · exact ⟨_, pieces_of_mem second, joined_pieces rfl _⟩
    · refine ⟨[], ?_, ?_⟩
      · rw [pieces_of_not_mem second, takeWhile_of_not_mem second]
      · rw [behind_of_not_mem second]
        rfl
  rw [parseEntry, pieces_of_mem present, split]
  simp only [List.map_cons, rest, String.ofList_toList]
  rfl

theorem parseEntry_ok (parsed : parseEntry entry = .ok account) :
    IsEntry entry ∧ account = accountOf entry := by
  by_cases present : ':' ∈ entry.toList
  · rw [parseEntry_of_mem present] at parsed
    split at parsed
    · cases parsed
    · rename_i nonempty
      exact ⟨⟨present, by simpa using nonempty⟩, (Except.ok.inj parsed).symm⟩
  · rw [parseEntry_of_not_mem present] at parsed
    cases parsed

theorem parseEntry_of_isEntry (valid : IsEntry entry) : parseEntry entry = .ok (accountOf entry) := by
  rw [parseEntry_of_mem valid.hasPassword, if_neg (by simpa using valid.hasName)]

theorem parseEntry_succeeds_iff : Succeeds (parseEntry entry) ↔ IsEntry entry := by
  constructor
  · rintro ⟨account, parsed⟩
    exact (parseEntry_ok parsed).1
  · intro valid
    exact ⟨_, parseEntry_of_isEntry valid⟩

theorem addEntry_succeeds_iff :
    Succeeds (addEntry accounts entry) ↔
      IsEntry entry ∧ accounts.contains (nameOf entry) = false := by
  unfold addEntry
  rw [← parseEntry_succeeds_iff]
  apply succeeds_bind_and
  intro account parsed
  rw [(parseEntry_ok parsed).2, succeeds_refuse_iff, Bool.not_eq_true]
  exact and_iff_left ⟨_, rfl⟩

theorem addEntry_ok (added : addEntry accounts entry = .ok result) :
    accounts.contains (nameOf entry) = false ∧
      result = accounts.insert (nameOf entry) (accountOf entry) := by
  obtain ⟨account, parsed, checked⟩ := bind_eq_ok_iff.mp added
  obtain rfl := (parseEntry_ok parsed).2
  split at checked
  · cases checked
  · rename_i fresh
    exact ⟨(Bool.not_eq_true _).mp fresh, (Except.ok.inj checked).symm⟩

theorem addEntry_contains (added : addEntry accounts entry = .ok result) (name : String) :
    result.contains name = (name == nameOf entry || accounts.contains name) := by
  rw [(addEntry_ok added).2, Dictionary.contains, Dictionary.get?_insert]
  split
  · rename_i same
    simp [same]
  · rename_i other
    simp [other, Dictionary.contains]

theorem foldlM_addEntry_succeeds_iff {entries : List String} :
    Succeeds (entries.foldlM addEntry accounts) ↔
      (∀ entry ∈ entries, IsEntry entry) ∧ (entries.map nameOf).Nodup ∧
      ∀ entry ∈ entries, accounts.contains (nameOf entry) = false := by
  induction entries generalizing accounts with
  | nil => simp [pure, Except.pure]
  | cons entry rest ih =>
      constructor
      · rintro ⟨result, run⟩
        rw [List.foldlM_cons, bind_eq_ok_iff] at run
        obtain ⟨next, added, following⟩ := run
        obtain ⟨valid, fresh⟩ := addEntry_succeeds_iff.mp ⟨next, added⟩
        obtain ⟨others, distinct, untaken⟩ := ih.mp ⟨result, following⟩
        simp only [addEntry_contains added, Bool.or_eq_false_iff, beq_eq_false_iff_ne] at untaken
        refine ⟨List.forall_mem_cons.mpr ⟨valid, others⟩, List.nodup_cons.mpr ⟨?_, distinct⟩,
          List.forall_mem_cons.mpr ⟨fresh, fun other member => (untaken other member).2⟩⟩
        intro member
        obtain ⟨other, member, same⟩ := List.mem_map.mp member
        exact (untaken other member).1 same
      · rintro ⟨valid, distinct, untaken⟩
        obtain ⟨valid, others⟩ := List.forall_mem_cons.mp valid
        obtain ⟨new, distinct⟩ := List.nodup_cons.mp distinct
        obtain ⟨fresh, untaken⟩ := List.forall_mem_cons.mp untaken
        obtain ⟨next, added⟩ := addEntry_succeeds_iff.mpr ⟨valid, fresh⟩
        have apart : ∀ other ∈ rest, next.contains (nameOf other) = false := by
          intro other member
          rw [addEntry_contains added, untaken other member, Bool.or_false, beq_eq_false_iff_ne]
          intro same
          exact new (List.mem_map.mpr ⟨other, member, same⟩)
        rw [List.foldlM_cons, succeeds_bind_iff]
        exact ⟨next, added, ih.mpr ⟨others, distinct, apart⟩⟩

theorem ofSettings_succeeds_iff {s : Settings} :
    Succeeds (ofSettings s) ↔
      ∃ entries, s.Yields "user.manager.users" Toml.Lists [] entries ∧
        (∀ entry ∈ entries, IsEntry entry) ∧ (entries.map nameOf).Nodup := by
  unfold ofSettings
  simp only [succeeds_bind_iff, mapError_eq_ok_iff, Settings.getList_eq_ok_iff]
  apply exists_congr
  intro entries
  apply and_congr_right
  intro read
  rw [ofEntries, succeeds_bind_ok_iff, foldlM_addEntry_succeeds_iff]
  simp [Dictionary.contains]

end ViewerHost.UserStore
