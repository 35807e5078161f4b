import ViewerHost.Proofs.Outcome
import ViewerHost.Proofs.Server.SessionUse

namespace ViewerHost

open Outcome SessionLog SessionCache

variable {c : SessionCache} {e : SessionEntry} {session : Session} {now : Instant} {id : String}
  {time : Int} {choose : List SessionEntry → Option SessionEntry} {log : List SessionStep}

/-- A choice among the entries of a full cache. No two calls need to choose alike. -/
structure Eviction where
  choose : List SessionEntry → Option SessionEntry
  picks : PicksOldest choose

namespace SessionCache

theorem ofSettings_ok {settings : Settings} (read : ofSettings settings = .ok c) :
    0 < c.capacity ∧ c.entries = [] := by
  obtain ⟨capacity, -, read⟩ := bind_eq_ok_iff.mp read
  split at read
  · cases read
  · obtain ⟨lifetime, -, read⟩ := bind_eq_ok_iff.mp read
    split at read
    · cases read
    · obtain rfl := Except.ok.inj read
      refine ⟨?_, rfl⟩
      dsimp only [empty]
      omega

/-! ## Room -/

theorem length_drop_lt (listed : id ∈ c.ids) : (c.drop id).entries.length < c.entries.length := by
  obtain ⟨e, member, rfl⟩ := mem_ids.mp listed
  exact List.length_filter_lt_length_iff_exists.mpr ⟨e, member, by simp⟩

theorem makeRoom_of_full (picks : PicksOldest choose) (bounded : 0 < c.capacity)
    (full : c.capacity ≤ c.entries.length) :
    ∃ e ∈ c.entries, c.makeRoom choose = c.drop e.session.id ∧
      ∀ other ∈ c.entries, e.lastAccess.le other.lastAccess = true := by
  have nonempty : c.entries ≠ [] := List.ne_nil_of_length_pos (by omega)
  obtain ⟨e, member, chosen, least⟩ := picks c.entries nonempty
  refine ⟨e, member, ?_, least⟩
  rw [makeRoom, if_neg (by omega), chosen]

theorem length_makeRoom_lt (picks : PicksOldest choose) (bounded : 0 < c.capacity)
    (within : c.size ≤ c.capacity) : (c.makeRoom choose).entries.length < c.capacity := by
  by_cases room : c.entries.length < c.capacity
  · rwa [makeRoom, if_pos room]
  · obtain ⟨e, member, made, -⟩ := makeRoom_of_full picks bounded (Nat.le_of_not_lt room)
    rw [made]
    exact (length_drop_lt (mem_ids.mpr ⟨e, member, rfl⟩)).trans_le within

theorem length_drop_readied_lt (picks : PicksOldest choose) (bounded : 0 < c.capacity)
    (within : c.size ≤ c.capacity) :
    ((c.readied choose session now).drop session.id).entries.length < c.capacity := by
  have fresh : (c.purge now).size ≤ c.capacity := (List.length_filter_le _ _).trans within
  unfold readied
  split
  · rename_i listed
    exact (length_drop_lt (contains_iff.mp listed)).trans_le fresh
  · have roomy := length_makeRoom_lt (c := c.purge now) picks bounded fresh
    exact (List.length_filter_le _ _).trans_lt roomy

theorem size_addWith_le (picks : PicksOldest choose) (bounded : 0 < c.capacity)
    (within : c.size ≤ c.capacity) : (c.addWith choose session now).size ≤ c.capacity := by
  rw [addWith_eq, size, store, List.length_append, List.length_singleton]
  exact length_drop_readied_lt picks bounded within

/-! ## What an addition evicts -/

/-- The entries that had not expired and make way for a session, other than the one it replaces. -/
def evictedBy (choose : List SessionEntry → Option SessionEntry) (c : SessionCache)
    (session : Session) (now : Instant) : List SessionEntry :=
  (c.purge now).entries.filter fun e =>
    e.session.id ≠ session.id ∧ e ∉ (c.addWith choose session now).entries

theorem evictedBy_eq (choose : List SessionEntry → Option SessionEntry) (c : SessionCache)
    (session : Session) (now : Instant) :
    c.evictedBy choose session now = (c.purge now).entries.filter fun e =>
      e.session.id ≠ session.id ∧ e ∉ (c.readied choose session now).entries := by
  apply List.filter_congr
  intro e _
  rw [decide_eq_decide, addWith_eq, mem_store]
  constructor
  · rintro ⟨different, gone⟩
    exact ⟨different, fun stays => gone (Or.inr ⟨stays, different⟩)⟩
  · rintro ⟨different, gone⟩
    refine ⟨different, ?_⟩
    rintro (rfl | ⟨stays, -⟩)
    · exact different rfl
    · exact gone stays

theorem evictedBy_of_room
    (room : session.id ∈ (c.purge now).ids ∨ (c.purge now).size < c.capacity) :
    c.evictedBy choose session now = [] := by
  have unmoved : c.readied choose session now = c.purge now := by
    unfold readied
    split
    · rfl
    · rename_i absent
      exact if_pos (room.resolve_left (contains_iff.not.mp absent))
  rw [evictedBy_eq, unmoved, List.filter_eq_nil_iff]
  intro e member
  simp [member]

theorem evictedBy_of_full (picks : PicksOldest choose) (bounded : 0 < c.capacity)
    (distinct : c.ids.Nodup) (absent : session.id ∉ (c.purge now).ids)
    (full : c.capacity ≤ (c.purge now).size) :
    ∃ e, c.evictedBy choose session now = [e] ∧
      ∀ other ∈ (c.purge now).entries, e.lastAccess.le other.lastAccess = true := by
  obtain ⟨e, member, made, least⟩ := makeRoom_of_full (c := c.purge now) picks bounded full
  have distinct' := distinct.sublist (c.purge_ids_sublist now)
  refine ⟨e, ?_, least⟩
  have readied : c.readied choose session now = (c.purge now).drop e.session.id := by
    rw [readied, if_neg (contains_iff.not.mpr absent), made]
  have only : c.evictedBy choose session now = (c.purge now).entries.filter (· = e) := by
    rw [evictedBy_eq, readied]
    apply List.filter_congr
    intro other member'
    rw [decide_eq_decide, not_mem_drop_iff distinct' member member']
    apply and_iff_right_of_imp
    rintro rfl same
    exact absent (mem_ids.mpr ⟨other, member, same⟩)
  rw [only, List.filter_eq, List.count_eq_one_of_mem distinct'.of_map member, List.replicate_one]

/-! ## Runs -/

/-- The cache is not larger than it may be, and has under each identifier at most the session that
was added last. -/
structure Keeps (log : List SessionStep) (c : SessionCache) : Prop where
  bounded : 0 < c.capacity
  within : c.size ≤ c.capacity
  distinct : c.ids.Nodup
  stands : ∀ e ∈ c.entries, standing? e.session.id log = some e.session

theorem Keeps.drop (keeps : Keeps log c) (id : String) : Keeps log (c.drop id) where
  bounded := keeps.bounded
  within := (List.length_filter_le _ _).trans keeps.within
  distinct := keeps.distinct.sublist (c.drop_ids_sublist id)
  stands e member := keeps.stands e (mem_drop.mp member).1

theorem Keeps.touch (keeps : Keeps log c) (id : String) (now : Instant) :
    Keeps log (c.touch id now) where
  bounded := keeps.bounded
  within := (List.length_map _).trans_le keeps.within
  distinct := by
    rw [ids_touch]
    exact keeps.distinct
  stands e member := by
    rcases mem_touch.mp member with ⟨member, -⟩ | ⟨-, -, last, member⟩
    · exact keeps.stands e member
    · exact keeps.stands ⟨e.session, last⟩ member

theorem Keeps.get (keeps : Keeps log c) (id : String) (now : Instant) :
    Keeps log (c.get id now).1 := by
  unfold SessionCache.get
  split
  · exact keeps
  · split
    · exact keeps.drop id
    · exact keeps.touch id now

theorem Keeps.remove (keeps : Keeps log c) (id : String) :
    Keeps (⟨time, .remove id, none⟩ :: log) (c.remove id).1 where
  bounded := keeps.bounded
  within := (keeps.drop id).within
  distinct := (keeps.drop id).distinct
  stands e member := by
    obtain ⟨member, different⟩ := mem_drop.mp member
    rw [standing?_cons_other (by simp) (by simp [different.symm])]
    exact keeps.stands e member

theorem Keeps.add (keeps : Keeps log c) (picks : PicksOldest choose) (session : Session)
    (now : Instant) : Keeps (⟨time, .add session, none⟩ :: log) (c.addWith choose session now) where
  bounded := by
    rw [(sameLimits_addWith choose c session now).1]
    exact keeps.bounded
  within := by
    rw [(sameLimits_addWith choose c session now).1]
    exact size_addWith_le picks keeps.bounded keeps.within
  distinct := nodup_store (keeps.distinct.sublist readied_ids_sublist)
  stands e member := by
    rcases mem_store.mp member with rfl | ⟨member, different⟩
    · simp [standing?]
    · rw [standing?_cons_other (by simp [different.symm]) (by simp)]
      exact keeps.stands e (mem_of_mem_readied member)

end SessionCache

namespace SessionHistory

def runFrom (initial : SessionCache) (steps : List (Eviction × Int × SessionCall)) :
    SessionHistory :=
  steps.foldl (fun h step => h.next step.1.choose step.2) ⟨initial, []⟩

theorem keeps_next {h : SessionHistory} (keeps : Keeps h.log h.cache) (eviction : Eviction)
    (call : Int × SessionCall) :
    Keeps (h.next eviction.choose call).log (h.next eviction.choose call).cache := by
  obtain ⟨time, call⟩ := call
  cases call with
  | add session => exact keeps.add eviction.picks session (.ofNanos time)
  | get id =>
      have same := keeps.get id (.ofNanos time)
      exact ⟨same.bounded, same.within, same.distinct, same.stands⟩
  | remove id => exact keeps.remove id

theorem sameLimits_runFrom (initial : SessionCache) (steps : List (Eviction × Int × SessionCall)) :
    initial.SameLimits (runFrom initial steps).cache := by
  induction steps using List.reverseRecOn with
  | nil => exact ⟨rfl, rfl⟩
  | append_singleton steps step ih =>
      rw [runFrom, List.foldl_append]
      exact ih.trans (sameLimits_perform step.1.choose _ step.2.1 step.2.2)

theorem keeps_runFrom {initial : SessionCache} (bounded : 0 < initial.capacity)
    (empty : initial.entries = []) (steps : List (Eviction × Int × SessionCall)) :
    Keeps (runFrom initial steps).log (runFrom initial steps).cache := by
  induction steps using List.reverseRecOn with
  | nil =>
      refine ⟨bounded, ?_, ?_, ?_⟩
      · simp [runFrom, size, empty]
      · simp [runFrom, ids, empty]
      · simp [runFrom, empty]
  | append_singleton steps step ih =>
      rw [runFrom, List.foldl_append]
      exact keeps_next ih step.1 step.2

/-- In every run the cache stays within the bound of the settings and has under each identifier the
session that was added last. A session is there when it has just been added. Its addition evicts
one entry, of those that were not used for longest, if its identifier is new to a cache that is full
when the expired entries are gone, and otherwise none. -/
theorem stays_within_bounds {settings : Settings} {initial : SessionCache}
    (built : SessionCache.ofSettings settings = .ok initial)
    (steps : List (Eviction × Int × SessionCall)) :
    let h := runFrom initial steps
    h.cache.size ≤ initial.capacity ∧ h.cache.ids.Nodup ∧
      (∀ e ∈ h.cache.entries, standing? e.session.id h.log = some e.session) ∧
      ∀ (eviction : Eviction) (session : Session) (time : Int),
        let now := Instant.ofNanos time
        let fresh := h.cache.purge now
        let evicted := h.cache.evictedBy eviction.choose session now
        (h.cache.addWith eviction.choose session now).find? session.id = some ⟨session, now⟩ ∧
          (session.id ∈ fresh.ids ∨ fresh.size < initial.capacity → evicted = []) ∧
          (session.id ∉ fresh.ids → fresh.size = initial.capacity →
            ∃ e, evicted = [e] ∧
              ∀ other ∈ fresh.entries, e.lastAccess.le other.lastAccess = true) := by
  intro h
  obtain ⟨bounded, empty⟩ := SessionCache.ofSettings_ok built
  have keeps : Keeps h.log h.cache := keeps_runFrom bounded empty steps
  have room : h.cache.capacity = initial.capacity := (sameLimits_runFrom initial steps).1
  refine ⟨room ▸ keeps.within, keeps.distinct, keeps.stands, ?_⟩
  intro eviction session time now fresh evicted
  refine ⟨?_, ?_, ?_⟩
  · have added : Keeps (⟨time, .add session, none⟩ :: h.log) _ :=
      keeps.add eviction.picks session now
    exact (find?_eq_some_iff added.distinct).mpr ⟨mem_store.mpr (Or.inl rfl), rfl⟩
  · intro roomy
    exact evictedBy_of_room (room ▸ roomy)
  · intro absent full
    have full' : h.cache.capacity ≤ fresh.size := by rw [room, full]
    exact evictedBy_of_full eviction.picks keeps.bounded keeps.distinct absent full'

theorem stays_within_bounds_turned_back :
    let settings : Settings :=
      ⟨⟨Dictionary.empty.insert "max.num.sessions" (.integer 2), none⟩, []⟩
    let initial : SessionCache := .empty 2 (.ofMillis 86400000)
    let first : Eviction := ⟨oldest?, oldest?_picksOldest⟩
    let h := runFrom initial
      [(first, 5, .add (Sample.visitor "a")), (first, 5, .add (Sample.visitor "b"))]
    SessionCache.ofSettings settings = .ok initial ∧ h.cache.size = 2 ∧
      ∃ e, h.cache.evictedBy oldest? (Sample.visitor "c") (.ofNanos 3) = [e] := by
  intro settings initial first h
  have built : SessionCache.ofSettings settings = .ok initial := by rfl
  refine ⟨built, by decide +kernel, ?_⟩
  obtain ⟨-, -, -, adds⟩ := stays_within_bounds built
    [(first, 5, .add (Sample.visitor "a")), (first, 5, .add (Sample.visitor "b"))]
  obtain ⟨-, -, evicts⟩ := adds first (Sample.visitor "c") 3
  obtain ⟨e, evicted, -⟩ := evicts (by decide +kernel) (by decide +kernel)
  exact ⟨e, evicted⟩

end SessionHistory

end ViewerHost
