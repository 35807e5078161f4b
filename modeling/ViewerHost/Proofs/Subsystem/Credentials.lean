import ViewerHost.Proofs.Settings.Lists
import ViewerHost.Proofs.Subsystem.Directories
import ViewerHost.Proofs.Subsystem.Users

namespace ViewerHost

open Outcome Text

namespace Account

def entry (account : Account) : String :=
  account.user.name ++ ":" ++ account.password ++ ":" ++ joined "," account.user.roles

structure IsPlain (account : Account) : Prop where
  named : account.user.name ≠ ""
  trimmed : trimBlank account.user.name = account.user.name
  nameWhole : ':' ∉ account.user.name.toList
  passwordWhole : ':' ∉ account.password.toList
  roles : ∀ role ∈ account.user.roles, Settings.IsPiece role

end Account

namespace UserStore

variable {account : Account} {entries : List String} {accounts result : Dictionary Account}
  {s : Settings} {store : UserStore} {name password : String} {user : User}

theorem toList_entry (account : Account) :
    account.entry.toList = account.user.name.toList ++ ':' ::
      (account.password.toList ++ ':' :: (joined "," account.user.roles).toList) := by
  simp [Account.entry]

theorem nameOf_entry (plain : account.IsPlain) : nameOf account.entry = account.user.name := by
  rw [nameOf, toList_entry, takeWhile_append_sep plain.nameWhole, String.ofList_toList,
    plain.trimmed]

theorem accountOf_entry (plain : account.IsPlain) : accountOf account.entry = account := by
  rw [accountOf, passwordOf, rolesOf, nameOf_entry plain, toList_entry,
    behind_append_sep plain.nameWhole, takeWhile_append_sep plain.passwordWhole,
    behind_append_sep plain.passwordWhole, String.ofList_toList, String.ofList_toList,
    Settings.listed_joined plain.roles]

theorem isEntry_entry (plain : account.IsPlain) : IsEntry account.entry where
  hasPassword := by simp [toList_entry]
  hasName := by
    rw [nameOf_entry plain]
    exact plain.named

theorem addEntry_get? {entry : String} (added : addEntry accounts entry = .ok result) :
    result.get? name = some account ↔
      accounts.get? name = some account ∨ nameOf entry = name ∧ accountOf entry = account := by
  obtain ⟨fresh, rfl⟩ := addEntry_ok added
  rw [Dictionary.contains, Option.isSome_eq_false_iff, Option.isNone_iff_eq_none] at fresh
  rw [Dictionary.get?_insert]
  split
  · rename_i same
    simp [same, fresh]
  · rename_i other
    simp [Ne.symm other]

theorem foldlM_addEntry_get? (run : entries.foldlM addEntry accounts = .ok result) :
    result.get? name = some account ↔
      accounts.get? name = some account ∨
        ∃ entry ∈ entries, nameOf entry = name ∧ accountOf entry = account := by
  induction entries generalizing accounts with
  | nil =>
      obtain rfl := Except.ok.inj run
      simp
  | cons entry rest ih =>
      rw [List.foldlM_cons, bind_eq_ok_iff] at run
      obtain ⟨next, added, following⟩ := run
      rw [ih following, addEntry_get? added, List.exists_mem_cons_iff, or_assoc]

theorem ofSettings_get? (read : s.getList "user.manager.users" = .ok entries)
    (made : ofSettings s = .ok store) :
    store.accounts.get? name = some account ↔
      ∃ entry ∈ entries, nameOf entry = name ∧ accountOf entry = account := by
  rw [ofSettings, read] at made
  obtain ⟨accounts, run, rfl⟩ := map_eq_ok_iff.mp ((bind_ok_eq_map _ _).symm.trans made)
  simpa using foldlM_addEntry_get? run

theorem ofSettings_running (made : ofSettings s = .ok store) : store.isShutDown = false := by
  obtain ⟨entries, -, read⟩ := bind_eq_ok_iff.mp made
  obtain ⟨accounts, -, rfl⟩ := map_eq_ok_iff.mp ((bind_ok_eq_map _ _).symm.trans read)
  rfl

theorem authenticate_eq_ok_iff (running : store.isShutDown = false) :
    store.authenticate name password = .ok user ↔
      store.accounts.get? name = some ⟨password, user⟩ := by
  rw [authenticate, running, if_neg Bool.false_ne_true]
  cases store.accounts.get? name with
  | none => simp
  | some account =>
      obtain ⟨own, user'⟩ := account
      by_cases same : own = password
      · simp [same]
      · simp [same]

theorem getList_array {items : List Toml} {key : String}
    (given : s.get? key = some (.array items)) :
    s.getList key = .ok entries ↔ List.Forall₂ Toml.Reads items entries := by
  rw [Settings.getList_eq_ok_iff, Settings.Yields, given]
  rfl

theorem ofSettings_succeeds_iff_of_read (read : s.getList "user.manager.users" = .ok entries) :
    Succeeds (ofSettings s) ↔
      (∀ entry ∈ entries, IsEntry entry) ∧ (entries.map nameOf).Nodup := by
  rw [ofSettings_succeeds_iff]
  constructor
  · rintro ⟨entries', read', valid⟩
    obtain rfl := Except.ok.inj (read.symm.trans (Settings.getList_eq_ok_iff.mpr read'))
    exact valid
  · intro valid
    exact ⟨entries, Settings.getList_eq_ok_iff.mp read, valid⟩

theorem authenticate_of_read (read : s.getList "user.manager.users" = .ok entries)
    (made : ofSettings s = .ok store) :
    store.authenticate name password = .ok user ↔
      ∃ entry ∈ entries, nameOf entry = name ∧ passwordOf entry = password ∧
        ⟨nameOf entry, rolesOf entry⟩ = user := by
  rw [authenticate_eq_ok_iff (ofSettings_running made), ofSettings_get? read made]
  simp only [accountOf, Account.mk.injEq]

theorem written_accounts {written : List Account} (plain : ∀ account ∈ written, account.IsPlain)
    (distinct : (written.map (·.user.name)).Nodup)
    (read : s.getList "user.manager.users" = .ok (written.map Account.entry)) :
    ∃ store, ofSettings s = .ok store ∧ ∀ name account,
      store.accounts.get? name = some account ↔
        account ∈ written ∧ account.user.name = name := by
  have names : (written.map Account.entry).map nameOf = written.map (·.user.name) := by
    rw [List.map_map]
    exact List.map_congr_left fun account member => nameOf_entry (plain account member)
  obtain ⟨store, made⟩ : Succeeds (ofSettings s) := by
    rw [ofSettings_succeeds_iff_of_read read, names]
    refine ⟨?_, distinct⟩
    rw [List.forall_mem_map]
    exact fun account member => isEntry_entry (plain account member)
  refine ⟨store, made, ?_⟩
  intro name account
  rw [ofSettings_get? read made]
  constructor
  · rintro ⟨_, listed, named, same⟩
    obtain ⟨own, member, rfl⟩ := List.mem_map.mp listed
    have fits := plain own member
    rw [accountOf_entry fits] at same
    rw [nameOf_entry fits] at named
    exact same ▸ ⟨member, named⟩
  · rintro ⟨member, named⟩
    refine ⟨account.entry, List.mem_map_of_mem member, ?_, accountOf_entry (plain account member)⟩
    rw [nameOf_entry (plain account member), named]

/-- Users are read exactly when every entry has a name and a password and no name comes twice. Then
exactly the names and passwords of the entries let in, each as the user that the entry describes,
until the manager is shut down. Accounts that are written as entries are read back, and no others. -/
theorem credentials_as_configured :
    (∀ (s : Settings) (items : List Toml) (entries : List String),
      s.get? "user.manager.users" = some (.array items) → List.Forall₂ Toml.Reads items entries →
      (Succeeds (ofSettings s) ↔
        (∀ entry ∈ entries, IsEntry entry) ∧ (entries.map nameOf).Nodup) ∧
      ∀ store, ofSettings s = .ok store →
        (∀ name password, Succeeds (store.authenticate name password) ↔
          ∃ entry ∈ entries, nameOf entry = name ∧ passwordOf entry = password) ∧
        (∀ entry ∈ entries, store.authenticate (nameOf entry) (passwordOf entry) =
          .ok ⟨nameOf entry, rolesOf entry⟩) ∧
        ∀ (host : Subsystems) (calls : List Call), host.users.manager = .memory store →
          (.close .users ∉ calls → (host.after calls).users.manager = .memory store) ∧
          (.close .users ∈ calls → ∀ name password,
            (host.after calls).users.manager.authenticate name password =
              .error (.shutDown "user manager"))) ∧
    ∀ (s : Settings) (written : List Account),
      (∀ account ∈ written, account.IsPlain) → (written.map (·.user.name)).Nodup →
      s.get? "user.manager.users" =
        some (.array (written.map fun account => .string account.entry)) →
      ∃ store, ofSettings s = .ok store ∧
        (∀ name account, store.accounts.get? name = some account ↔
          account ∈ written ∧ account.user.name = name) ∧
        ∀ name password user, store.authenticate name password = .ok user ↔
          ⟨password, user⟩ ∈ written ∧ user.name = name := by
  constructor
  · intro s items entries given reads
    have read := (getList_array given).mpr reads
    refine ⟨ofSettings_succeeds_iff_of_read read, ?_⟩
    intro store made
    have lets {name password : String} {user : User} :
        store.authenticate name password = .ok user ↔ _ := authenticate_of_read read made
    refine ⟨?_, ?_, ?_⟩
    · intro name password
      constructor
      · rintro ⟨user, let'⟩
        obtain ⟨entry, member, named, opens, -⟩ := lets.mp let'
        exact ⟨entry, member, named, opens⟩
      · rintro ⟨entry, member, named, opens⟩
        exact ⟨_, lets.mpr ⟨entry, member, named, opens, rfl⟩⟩
    · intro entry member
      exact lets.mpr ⟨entry, member, rfl, rfl, rfl⟩
    · intro host calls hosted
      constructor
      · intro open'
        exact (Subsystems.users_closedBy.unclosed host open').trans hosted
      · intro shut name password
        have closed := Subsystems.users_closedBy.closed host shut
        rw [closed, hosted]
        rfl
  · intro s written plain distinct given
    have read : s.getList "user.manager.users" = .ok (written.map Account.entry) := by
      rw [getList_array given, List.forall₂_map_left_iff, List.forall₂_map_right_iff,
        List.forall₂_same]
      exact fun account member => rfl
    obtain ⟨store, made, held⟩ := written_accounts plain distinct read
    refine ⟨store, made, held, ?_⟩
    intro name password user
    rw [authenticate_eq_ok_iff (ofSettings_running made), held]

theorem credentials_as_configured_blank :
    let s : Settings := ⟨⟨Dictionary.empty.insert "user.manager.users"
      (.array [.string " ada : pass :read,, grant:all ", .string "bob:"]), none⟩, []⟩
    ∃ store, ofSettings s = .ok store ∧
      store.authenticate "ada" " pass " = .ok ⟨"ada", ["read", "grant:all"]⟩ ∧
      store.authenticate "bob" "" = .ok ⟨"bob", []⟩ ∧
      ¬Succeeds (store.authenticate "ada" "pass") := by
  intro s
  let entries := [" ada : pass :read,, grant:all ", "bob:"]
  have reads : List.Forall₂ Toml.Reads (entries.map .string) entries := by
    rw [List.forall₂_map_left_iff, List.forall₂_same]
    exact fun entry member => rfl
  obtain ⟨accepted, lets⟩ := credentials_as_configured.1 s _ entries rfl reads
  have valid : ∀ entry ∈ entries, IsEntry entry := by
    simp only [entries, List.forall_mem_cons, List.not_mem_nil, false_implies, implies_true,
      and_true]
    exact ⟨⟨by decide +kernel, by decide +kernel⟩, ⟨by decide +kernel, by decide +kernel⟩⟩
  obtain ⟨store, made⟩ := accepted.mpr ⟨valid, by decide +kernel⟩
  obtain ⟨succeeds, described, -⟩ := lets store made
  have ada := described " ada : pass :read,, grant:all " (by simp [entries])
  have bob := described "bob:" (by simp [entries])
  have adaRead : accountOf " ada : pass :read,, grant:all " =
      ⟨" pass ", "ada", ["read", "grant:all"]⟩ := by decide +kernel
  have bobRead : accountOf "bob:" = ⟨"", "bob", []⟩ := by decide +kernel
  simp only [accountOf, Account.mk.injEq, User.mk.injEq] at adaRead bobRead
  rw [adaRead.1, adaRead.2.1, adaRead.2.2] at ada
  rw [bobRead.1, bobRead.2.1, bobRead.2.2] at bob
  refine ⟨store, made, ada, bob, ?_⟩
  rw [succeeds]
  decide +kernel

end UserStore

end ViewerHost
