import Mathlib.Data.List.Basic
import Mathlib.Data.List.Nodup
import ViewerHost.Proofs.Time.Order
import ViewerHost.Server.Session

namespace ViewerHost.SessionCache

variable {c : SessionCache} {e e' : SessionEntry} {session : Session} {now : Instant} {id : String}
  {choose : List SessionEntry → Option SessionEntry}

theorem mem_drop : e ∈ (c.drop id).entries ↔ e ∈ c.entries ∧ e.session.id ≠ id := by
  simp [drop]

theorem mem_purge :
    e ∈ (c.purge now).entries ↔ e ∈ c.entries ∧ c.isExpired now e = false := by
  simp [purge]

theorem mem_store : e ∈ (c.store session now).entries ↔
    e = ⟨session, now⟩ ∨ e ∈ c.entries ∧ e.session.id ≠ session.id := by
  simp [store, mem_drop, or_comm]

theorem mem_touch : e ∈ (c.touch id now).entries ↔
    e ∈ c.entries ∧ e.session.id ≠ id ∨
      e.session.id = id ∧ e.lastAccess = now ∧ ∃ last, ⟨e.session, last⟩ ∈ c.entries := by
  simp only [touch, List.mem_map]
  constructor
  · rintro ⟨before, member, rfl⟩
    split
    · rename_i same
      exact Or.inr ⟨same, rfl, before.lastAccess, member⟩
    · rename_i other
      exact Or.inl ⟨member, other⟩
  · rintro (⟨member, other⟩ | ⟨same, rfl, last, member⟩)
    · exact ⟨e, member, if_neg other⟩
    · exact ⟨⟨e.session, last⟩, member, if_pos same⟩

def ids (c : SessionCache) : List String := c.entries.map (·.session.id)

theorem mem_ids : id ∈ c.ids ↔ ∃ e ∈ c.entries, e.session.id = id := by
  simp [ids]

theorem drop_ids_sublist (c : SessionCache) (id : String) : (c.drop id).ids.Sublist c.ids :=
  List.filter_sublist.map _

theorem purge_ids_sublist (c : SessionCache) (now : Instant) : (c.purge now).ids.Sublist c.ids :=
  List.filter_sublist.map _

theorem ids_touch : (c.touch id now).ids = c.ids := by
  rw [ids, ids, touch, List.map_map]
  refine List.map_congr_left fun e _ => ?_
  dsimp only [Function.comp_apply]
  split
  · rfl
  · rfl

theorem nodup_store (distinct : c.ids.Nodup) : (c.store session now).ids.Nodup := by
  have stored : (c.store session now).ids = (c.drop session.id).ids ++ [session.id] := by
    simp [ids, store]
  rw [stored, ← List.concat_eq_append]
  refine (distinct.sublist (c.drop_ids_sublist session.id)).concat ?_
  rw [mem_ids]
  rintro ⟨e, member, same⟩
  exact (mem_drop.mp member).2 same

theorem eq_of_mem (distinct : c.ids.Nodup) (first : e ∈ c.entries) (second : e' ∈ c.entries)
    (same : e.session.id = e'.session.id) : e = e' :=
  List.inj_on_of_nodup_map distinct first second same

theorem not_mem_drop_iff (distinct : c.ids.Nodup) (member : e ∈ c.entries)
    (member' : e' ∈ c.entries) : e' ∉ (c.drop e.session.id).entries ↔ e' = e := by
  constructor
  · intro dropped
    by_contra different
    refine dropped (mem_drop.mpr ⟨member', ?_⟩)
    exact fun same => different (eq_of_mem distinct member' member same)
  · rintro rfl
    simp [mem_drop]

theorem find?_eq_some_iff (distinct : c.ids.Nodup) :
    c.find? id = some e ↔ e ∈ c.entries ∧ e.session.id = id := by
  constructor
  · intro found
    have named := List.find?_some (p := fun e : SessionEntry => e.session.id == id) found
    exact ⟨List.mem_of_find?_eq_some found, by simpa using named⟩
  · rintro ⟨member, rfl⟩
    cases found : c.find? e.session.id with
    | none =>
        have absent := List.find?_eq_none.mp found e member
        simp at absent
    | some first =>
        have named : first.session.id = e.session.id := by
          simpa using List.find?_some found
        rw [eq_of_mem distinct (List.mem_of_find?_eq_some found) member named]

theorem contains_iff : c.contains id = true ↔ id ∈ c.ids := by
  simp [contains, find?, ids]

theorem get_eq_some_iff : (c.get id now).2 = some session ↔
    ∃ e, c.find? id = some e ∧ c.isExpired now e = false ∧ e.session = session := by
  unfold get
  cases found : c.find? id with
  | none => simp
  | some e =>
      cases expired : c.isExpired now e with
      | true => simp [expired]
      | false => simp [expired]

def PicksOldest (choose : List SessionEntry → Option SessionEntry) : Prop :=
  ∀ entries, entries ≠ [] → ∃ e ∈ entries, choose entries = some e ∧
    ∀ other ∈ entries, e.lastAccess.le other.lastAccess = true

def earlier (a b : SessionEntry) : SessionEntry :=
  if b.lastAccess.lt a.lastAccess then b else a

theorem earlier_cases (a b : SessionEntry) :
    earlier a b = a ∧ a.lastAccess.le b.lastAccess = true ∨
      earlier a b = b ∧ b.lastAccess.le a.lastAccess = true := by
  unfold earlier
  split
  · rename_i less
    exact Or.inr ⟨rfl, Instant.le_of_lt less⟩
  · rename_i notLess
    exact Or.inl ⟨rfl, Instant.le_of_not_lt notLess⟩

theorem foldl_earlier (rest : List SessionEntry) (first : SessionEntry) :
    rest.foldl earlier first ∈ first :: rest ∧ ∀ other ∈ first :: rest,
      (rest.foldl earlier first).lastAccess.le other.lastAccess = true := by
  induction rest generalizing first with
  | nil => simp [Instant.le_refl]
  | cons next rest ih =>
      obtain ⟨member, least⟩ := ih (earlier first next)
      simp only [List.foldl_cons, List.mem_cons, forall_eq_or_imp] at member least ⊢
      obtain ⟨best, least⟩ := least
      rcases earlier_cases first next with ⟨same, before⟩ | ⟨same, before⟩
      · rw [same] at member best least ⊢
        exact ⟨member.imp_right Or.inr, best, Instant.le_trans best before, least⟩
      · rw [same] at member best least ⊢
        exact ⟨Or.inr member, Instant.le_trans best before, best, least⟩

theorem oldest?_picksOldest : PicksOldest oldest? := by
  intro entries nonempty
  cases entries with
  | nil => exact absurd rfl nonempty
  | cons first rest =>
      obtain ⟨member, least⟩ := foldl_earlier rest first
      exact ⟨rest.foldl earlier first, member, rfl, least⟩

theorem makeRoom_ids_sublist (choose : List SessionEntry → Option SessionEntry)
    (c : SessionCache) : (c.makeRoom choose).ids.Sublist c.ids := by
  unfold makeRoom
  split
  · exact .refl _
  · split
    · exact c.drop_ids_sublist _
    · exact .refl _

theorem mem_of_mem_makeRoom (member : e ∈ (c.makeRoom choose).entries) : e ∈ c.entries := by
  unfold makeRoom at member
  split at member
  · exact member
  · split at member
    · exact (mem_drop.mp member).1
    · exact member

theorem evicted (picks : PicksOldest choose) (distinct : c.ids.Nodup) (member : e ∈ c.entries)
    (gone : e ∉ (c.makeRoom choose).entries) :
    c.capacity ≤ c.entries.length ∧
      ∀ other ∈ c.entries, e.lastAccess.le other.lastAccess = true := by
  unfold makeRoom at gone
  split at gone
  · exact absurd member gone
  · rename_i full
    refine ⟨Nat.le_of_not_lt full, ?_⟩
    obtain ⟨first, among, chosen, least⟩ := picks c.entries (List.ne_nil_of_mem member)
    simp only [chosen, mem_drop, member, true_and, ne_eq, not_not] at gone
    rw [eq_of_mem distinct member among gone]
    exact least

def readied (choose : List SessionEntry → Option SessionEntry) (c : SessionCache)
    (session : Session) (now : Instant) : SessionCache :=
  if (c.purge now).contains session.id then c.purge now else (c.purge now).makeRoom choose

theorem addWith_eq :
    c.addWith choose session now = (c.readied choose session now).store session now := rfl

theorem readied_ids_sublist : (c.readied choose session now).ids.Sublist c.ids := by
  unfold readied
  split
  · exact c.purge_ids_sublist now
  · exact (makeRoom_ids_sublist choose _).trans (c.purge_ids_sublist now)

theorem mem_of_mem_readied (member : e ∈ (c.readied choose session now).entries) :
    e ∈ c.entries := by
  unfold readied at member
  split at member
  · exact (mem_purge.mp member).1
  · exact (mem_purge.mp (mem_of_mem_makeRoom member)).1

/-- An entry that has not expired makes way only for a new identifier, and only in a cache full of
entries none of which was used before it. -/
theorem crowded_out (picks : PicksOldest choose) (distinct : c.ids.Nodup) (member : e ∈ c.entries)
    (alive : c.isExpired now e = false) (gone : e ∉ (c.readied choose session now).entries) :
    session.id ∉ (c.purge now).ids ∧ c.capacity ≤ (c.purge now).entries.length ∧
      ∀ other ∈ (c.purge now).entries, e.lastAccess.le other.lastAccess = true := by
  have fresh : e ∈ (c.purge now).entries := mem_purge.mpr ⟨member, alive⟩
  unfold readied at gone
  split at gone
  · exact absurd fresh gone
  · rename_i absent
    exact ⟨contains_iff.not.mp absent,
      evicted picks (distinct.sublist (c.purge_ids_sublist now)) fresh gone⟩

def SameLimits (c c' : SessionCache) : Prop := c'.capacity = c.capacity ∧ c'.lifetime = c.lifetime

theorem SameLimits.trans {c' c'' : SessionCache} (first : c.SameLimits c')
    (second : c'.SameLimits c'') : c.SameLimits c'' :=
  ⟨second.1.trans first.1, second.2.trans first.2⟩

theorem sameLimits_makeRoom (choose : List SessionEntry → Option SessionEntry) (c : SessionCache) :
    c.SameLimits (c.makeRoom choose) := by
  unfold makeRoom
  split
  · exact ⟨rfl, rfl⟩
  · split
    · exact ⟨rfl, rfl⟩
    · exact ⟨rfl, rfl⟩

theorem sameLimits_addWith (choose : List SessionEntry → Option SessionEntry) (c : SessionCache)
    (session : Session) (now : Instant) : c.SameLimits (c.addWith choose session now) := by
  rw [addWith_eq]
  unfold readied
  split
  · exact ⟨rfl, rfl⟩
  · exact sameLimits_makeRoom choose (c.purge now)

theorem sameLimits_get (c : SessionCache) (id : String) (now : Instant) :
    c.SameLimits (c.get id now).1 := by
  unfold get
  split
  · exact ⟨rfl, rfl⟩
  · split
    · exact ⟨rfl, rfl⟩
    · exact ⟨rfl, rfl⟩

end ViewerHost.SessionCache
