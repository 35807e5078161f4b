import Mathlib.Data.List.Induction
import ViewerHost.Proofs.Server.SessionCache
import ViewerHost.Proofs.Server.SessionLog

/-!
Runs of calls on a session cache. A session is found only while it stands and has not expired, and
it is lost before that only when as many others were used since as the cache has room for.
-/

namespace ViewerHost

open SessionLog SessionCache

variable {capacity : Nat} {lifetime : Duration} {log : List SessionStep} {step : SessionStep}
  {c : SessionCache} {e : SessionEntry} {s session : Session} {id : String} {t time : Int}
  {choose : List SessionEntry → Option SessionEntry}

namespace SessionLog

structure Records (log : List SessionStep) (e : SessionEntry) : Prop where
  stands : standing? e.session.id log = some e.session
  last : ∃ t, lastUse? e.session.id log = some t ∧ e.lastAccess = .ofNanos t

structure Owes (capacity : Nat) (lifetime : Duration) (log : List SessionStep) (s : Session)
    (t : Int) : Prop where
  stands : standing? s.id log = some s
  last : lastUse? s.id log = some t
  alive : ∀ step ∈ log, step.time - t ≤ lifetime.nanos
  few : (usedSince s.id log).card < capacity

theorem Records.cons (records : Records log e) (unused : step.used? ≠ some e.session.id)
    (unremoved : step.call ≠ .remove e.session.id) : Records (step :: log) e where
  stands := by rw [standing?_cons_other unused unremoved, records.stands]
  last := by rw [lastUse?_cons_other unused]; exact records.last

theorem Owes.of_cons (owes : Owes capacity lifetime (step :: log) s t)
    (unused : step.used? ≠ some s.id) (unremoved : step.call ≠ .remove s.id) :
    Owes capacity lifetime log s t where
  stands := by rw [← standing?_cons_other unused unremoved, owes.stands]
  last := by rw [← lastUse?_cons_other unused, owes.last]
  alive earlier member := owes.alive earlier (List.mem_cons_of_mem step member)
  few := by
    have few := owes.few
    rw [usedSince_cons_other unused] at few
    exact (Finset.card_le_card Finset.subset_union_right).trans_lt few

end SessionLog

/-- The cache has what the log owes, and nothing that the log does not record. -/
structure SessionCache.Tracks (log : List SessionStep) (c : SessionCache) : Prop where
  distinct : c.ids.Nodup
  recorded : ∀ e ∈ c.entries, Records log e
  kept : ∀ s t, Owes c.capacity c.lifetime log s t → ⟨s, .ofNanos t⟩ ∈ c.entries

namespace SessionCache

theorem isExpired_eq_false_iff (used : e.lastAccess = .ofNanos t) :
    c.isExpired (.ofNanos time) e = false ↔ time - t ≤ c.lifetime.nanos := by
  simp [isExpired, used, Instant.sub_ofNanos]

theorem Tracks.drop (tracks : Tracks log c) (id : String)
    (unused : step.used? = none) (called : ∀ other, step.call = .remove other → other = id)
    (lost : ∀ s t, Owes c.capacity c.lifetime (step :: log) s t → s.id ≠ id) :
    Tracks (step :: log) (c.drop id) where
  distinct := tracks.distinct.sublist (c.drop_ids_sublist id)
  recorded e member := by
    obtain ⟨member, different⟩ := mem_drop.mp member
    refine (tracks.recorded e member).cons (by simp [unused]) ?_
    intro removed
    exact different (called _ removed)
  kept s t owes := by
    have different := lost s t owes
    refine mem_drop.mpr ⟨tracks.kept s t (owes.of_cons (by simp [unused]) ?_), different⟩
    intro removed
    exact different (called _ removed)

theorem Tracks.remove (tracks : Tracks log c) (id : String) (time : Int) :
    Tracks (⟨time, .remove id, none⟩ :: log) (c.drop id) := by
  refine tracks.drop id rfl ?_ ?_
  · rintro other ⟨⟩
    rfl
  · rintro s t owes rfl
    have stands := owes.stands
    simp [standing?] at stands

theorem Tracks.get_missing (tracks : Tracks log c) (id : String) (time : Int) :
    Tracks (⟨time, .get id, none⟩ :: log) c where
  distinct := tracks.distinct
  recorded e member := (tracks.recorded e member).cons (by simp) (by simp)
  kept s t owes := tracks.kept s t (owes.of_cons (by simp) (by simp))

theorem Tracks.get_expired (tracks : Tracks log c) (member : e ∈ c.entries)
    (expired : c.isExpired (.ofNanos time) e = true) :
    Tracks (⟨time, .get e.session.id, none⟩ :: log) (c.drop e.session.id) := by
  refine tracks.drop e.session.id rfl (by simp) ?_
  intro s t owes same
  have kept := tracks.kept s t (owes.of_cons (by simp) (by simp))
  obtain rfl := eq_of_mem tracks.distinct kept member same
  rw [(isExpired_eq_false_iff rfl).mpr (owes.alive _ List.mem_cons_self)] at expired
  cases expired

theorem Tracks.get_found (tracks : Tracks log c) (member : e ∈ c.entries) (time : Int) :
    Tracks (⟨time, .get e.session.id, some e.session⟩ :: log)
      (c.touch e.session.id (.ofNanos time)) where
  distinct := by
    rw [ids_touch]
    exact tracks.distinct
  recorded e' member' := by
    rcases mem_touch.mp member' with ⟨member', different⟩ | ⟨same, used, last, member'⟩
    · refine (tracks.recorded e' member').cons ?_ (by simp)
      simp [different.symm]
    · have stands := (tracks.recorded _ member').stands
      refine ⟨by simpa [standing?] using stands, time, ?_, used⟩
      exact lastUse?_cons_same (by simp [same])
  kept s t owes := by
    rw [mem_touch]
    by_cases same : s.id = e.session.id
    · have stands := owes.stands
      have last := owes.last
      rw [lastUse?_cons_same (by simp [same]), Option.some.injEq] at last
      rw [same, standing?, (tracks.recorded e member).stands, Option.some.injEq] at stands
      obtain rfl := stands
      exact Or.inr ⟨rfl, by rw [← last], e.lastAccess, member⟩
    · exact Or.inl ⟨tracks.kept s t
        (owes.of_cons (by simp [Ne.symm same]) (by simp)), same⟩

theorem Tracks.get (tracks : Tracks log c) (id : String) (time : Int) :
    Tracks (⟨time, .get id, (c.get id (.ofNanos time)).2⟩ :: log) (c.get id (.ofNanos time)).1 := by
  unfold SessionCache.get
  cases found : c.find? id with
  | none => exact tracks.get_missing id time
  | some e =>
      obtain ⟨member, rfl⟩ := (find?_eq_some_iff tracks.distinct).mp found
      dsimp only
      split
      · rename_i expired
        exact tracks.get_expired member expired
      · exact tracks.get_found member time

theorem Tracks.ids_subset (tracks : Tracks log c) (ascending : Ascending log)
    (last : lastUse? id log = some t) {among : SessionCache}
    (members : ∀ e ∈ among.entries, e ∈ c.entries)
    (least : ∀ e ∈ among.entries, (Instant.ofNanos t).le e.lastAccess = true) :
    among.ids.toFinset ⊆ insert id (usedSince id log) := by
  intro other listed
  obtain ⟨e, member, rfl⟩ := mem_ids.mp (List.mem_toFinset.mp listed)
  rw [Finset.mem_insert, or_iff_not_imp_left]
  intro different
  obtain ⟨u, last', used⟩ := (tracks.recorded e (members e member)).last
  have later := least e member
  rw [used, Instant.le_ofNanos] at later
  exact mem_usedSince ascending last last' later different

/-- A session that is owed makes way for no other: the one that is added and the ones that are left
were used since, and they are as many as the cache has room for. -/
theorem Tracks.mem_readied (tracks : Tracks log c) (ascending : Ascending log)
    (picks : PicksOldest choose) (different : session.id ≠ s.id)
    (owes : Owes c.capacity c.lifetime (⟨time, .add session, none⟩ :: log) s t) :
    ⟨s, .ofNanos t⟩ ∈ (c.readied choose session (.ofNanos time)).entries := by
  have unused : (⟨time, .add session, none⟩ : SessionStep).used? ≠ some s.id := by
    simp [different]
  have before := owes.of_cons unused (by simp)
  have alive : c.isExpired (.ofNanos time) ⟨s, .ofNanos t⟩ = false :=
    (isExpired_eq_false_iff rfl).mpr (owes.alive _ List.mem_cons_self)
  by_contra gone
  obtain ⟨absent, full, least⟩ :=
    crowded_out picks tracks.distinct (tracks.kept s t before) alive gone
  have distinct : (session.id :: (c.purge (.ofNanos time)).ids).Nodup :=
    List.nodup_cons.mpr ⟨absent, tracks.distinct.sublist (c.purge_ids_sublist _)⟩
  have few := owes.few
  rw [usedSince_cons_other unused] at few
  -- Those left are at least as many as there is room for. With the new one they are one more, and
  -- all but `s` itself were used since.
  have used : (session.id :: (c.purge (.ofNanos time)).ids).toFinset ⊆
      insert s.id ({session.id} ∪ usedSince s.id log) := by
    rw [List.toFinset_cons, ← Finset.insert_eq, Finset.insert_comm]
    refine Finset.insert_subset_insert session.id (tracks.ids_subset ascending before.last ?_ least)
    exact fun e member => (mem_purge.mp member).1
  have count := (Finset.card_le_card used).trans (Finset.card_insert_le _ _)
  rw [List.toFinset_card_of_nodup distinct, List.length_cons, ids, List.length_map] at count
  exact absurd few (Nat.not_lt.mpr (full.trans (Nat.le_of_succ_le_succ count)))

theorem Tracks.add (tracks : Tracks log c) (ascending : Ascending log) (picks : PicksOldest choose)
    (session : Session) (time : Int) :
    Tracks (⟨time, .add session, none⟩ :: log) (c.addWith choose session (.ofNanos time)) where
  distinct := nodup_store (tracks.distinct.sublist readied_ids_sublist)
  recorded e member := by
    rcases mem_store.mp member with rfl | ⟨member, different⟩
    · refine ⟨by simp [standing?], time, ?_, rfl⟩
      exact lastUse?_cons_same (by simp)
    · refine (tracks.recorded e (mem_of_mem_readied member)).cons ?_ (by simp)
      simp [different.symm]
  kept s t owes := by
    obtain ⟨room, lasting⟩ := sameLimits_addWith choose c session (.ofNanos time)
    rw [room, lasting] at owes
    refine mem_store.mpr ?_
    by_cases same : session.id = s.id
    · have stands := owes.stands
      have last := owes.last
      rw [lastUse?_cons_same (by simp [same]), Option.some.injEq] at last
      simp only [standing?, if_pos same, Option.some.injEq] at stands
      exact Or.inl (by rw [stands, ← last])
    · exact Or.inr ⟨tracks.mem_readied ascending picks same owes, Ne.symm same⟩

def perform (choose : List SessionEntry → Option SessionEntry) (c : SessionCache) (time : Int) :
    SessionCall → SessionCache × Option Session
  | .add session => (c.addWith choose session (.ofNanos time), none)
  | .get id => c.get id (.ofNanos time)
  | .remove id => ((c.remove id).1, none)

theorem sameLimits_perform (choose : List SessionEntry → Option SessionEntry) (c : SessionCache)
    (time : Int) (call : SessionCall) : c.SameLimits (c.perform choose time call).1 := by
  cases call with
  | add session => exact sameLimits_addWith choose c session _
  | get id => exact sameLimits_get c id _
  | remove id => exact ⟨rfl, rfl⟩

theorem Tracks.perform (tracks : Tracks log c) (ascending : Ascending log)
    (picks : PicksOldest choose) (time : Int) (call : SessionCall) :
    Tracks (⟨time, call, (c.perform choose time call).2⟩ :: log)
      (c.perform choose time call).1 := by
  cases call with
  | add session => exact tracks.add ascending picks session time
  | get id => exact tracks.get id time
  | remove id => exact tracks.remove id time

end SessionCache

structure SessionHistory where
  cache : SessionCache
  log : List SessionStep

namespace SessionHistory

variable {calls : List (Int × SessionCall)}

def next (choose : List SessionEntry → Option SessionEntry) (h : SessionHistory)
    (call : Int × SessionCall) : SessionHistory :=
  let (cache, answer?) := h.cache.perform choose call.1 call.2
  ⟨cache, ⟨call.1, call.2, answer?⟩ :: h.log⟩

def run (choose : List SessionEntry → Option SessionEntry) (capacity : Nat) (lifetime : Duration)
    (calls : List (Int × SessionCall)) : SessionHistory :=
  calls.foldl (next choose) ⟨.empty capacity lifetime, []⟩

theorem run_append (call : Int × SessionCall) :
    run choose capacity lifetime (calls ++ [call]) =
      (run choose capacity lifetime calls).next choose call := by
  rw [run, List.foldl_append]
  rfl

theorem times_run :
    (run choose capacity lifetime calls).log.map (·.time) = (calls.map Prod.fst).reverse := by
  induction calls using List.reverseRecOn with
  | nil => rfl
  | append_singleton calls call ih => simp [run_append, next, ih]

theorem ascending_run (readings : (calls.map Prod.fst).Pairwise (· < ·)) :
    Ascending (run choose capacity lifetime calls).log := by
  have times : ((run choose capacity lifetime calls).log.map (·.time)).Pairwise (· > ·) := by
    rw [times_run, List.pairwise_reverse]
    exact readings
  exact List.pairwise_map.mp times

theorem sameLimits_run : (SessionCache.empty capacity lifetime).SameLimits
    (run choose capacity lifetime calls).cache := by
  induction calls using List.reverseRecOn with
  | nil => exact ⟨rfl, rfl⟩
  | append_singleton calls call ih =>
      rw [run_append]
      exact ih.trans (sameLimits_perform choose _ call.1 call.2)

theorem tracks_run (picks : PicksOldest choose)
    (readings : (calls.map Prod.fst).Pairwise (· < ·)) :
    Tracks (run choose capacity lifetime calls).log (run choose capacity lifetime calls).cache := by
  induction calls using List.reverseRecOn with
  | nil =>
      refine ⟨.nil, by simp [run, SessionCache.empty], ?_⟩
      intro s t owes
      cases owes.last
  | append_singleton calls call ih =>
      rw [List.map_append] at readings
      have before := (List.pairwise_append.mp readings).1
      rw [run_append]
      exact (ih before).perform (ascending_run before) picks call.1 call.2

/-- Only the session that stands is found, within its lifetime from the last use of its identifier;
and it is found then if fewer others were used since than there is room for. -/
theorem get_answers (picks : PicksOldest choose) (capacity : Nat) (lifetime : Duration)
    (calls : List (Int × SessionCall)) (id : String) (now : Int)
    (readings : (calls.map Prod.fst ++ [now]).Pairwise (· < ·)) :
    let h := run choose capacity lifetime calls
    (∀ s, (h.cache.get id (.ofNanos now)).2 = some s →
      standing? id h.log = some s ∧
        ∃ t, lastUse? id h.log = some t ∧ now - t ≤ lifetime.nanos) ∧
    ∀ s t, standing? id h.log = some s → lastUse? id h.log = some t → now - t ≤ lifetime.nanos →
      (usedSince id h.log).card < capacity → (h.cache.get id (.ofNanos now)).2 = some s := by
  intro h
  obtain ⟨before, -, last⟩ := List.pairwise_append.mp readings
  have tracks : Tracks h.log h.cache := tracks_run picks before
  obtain ⟨room, lasting⟩ : SameLimits (.empty capacity lifetime) h.cache := sameLimits_run
  constructor
  · intro s answered
    obtain ⟨e, found, alive, rfl⟩ := get_eq_some_iff.mp answered
    obtain ⟨member, rfl⟩ := (find?_eq_some_iff tracks.distinct).mp found
    obtain ⟨stands, t, used, same⟩ := tracks.recorded e member
    refine ⟨stands, t, used, ?_⟩
    rw [isExpired_eq_false_iff same, lasting] at alive
    exact alive
  · intro s t stands used alive few
    obtain rfl := id_of_standing? stands
    have fresh : ∀ step ∈ h.log, step.time - t ≤ h.cache.lifetime.nanos := by
      intro step member
      have listed : step.time ∈ (calls.map Prod.fst).reverse := by
        rw [← times_run]
        exact List.mem_map_of_mem member
      have earlier := last step.time (List.mem_reverse.mp listed) now List.mem_cons_self
      rw [lasting]
      dsimp only [SessionCache.empty]
      omega
    have kept := tracks.kept s t ⟨stands, used, fresh, by rwa [room]⟩
    refine get_eq_some_iff.mpr ⟨_, (find?_eq_some_iff tracks.distinct).mpr ⟨kept, rfl⟩, ?_, rfl⟩
    rw [isExpired_eq_false_iff rfl, lasting]
    exact alive

end SessionHistory

/-! Room for two sessions: the third makes the one go that was used before the other. -/

namespace Sample

def visitor (id : String) : Session := ⟨id, ⟨"azure", ["admin"]⟩, "127.0.0.1", ⟨0, 0⟩⟩

def visits : List (Int × SessionCall) := [
  (0, .add (visitor "a")), (1, .add (visitor "b")), (2, .get "a"), (3, .add (visitor "c"))]

end Sample

theorem SessionHistory.get_answers_evicting :
    let h := run oldest? 2 ⟨5⟩ Sample.visits
    (h.cache.get "a" (.ofNanos 4)).2 = some (Sample.visitor "a") ∧
      (h.cache.get "b" (.ofNanos 4)).2 = none ∧
      standing? "b" h.log = some (Sample.visitor "b") := by
  intro h
  have readings : (Sample.visits.map Prod.fst ++ [4]).Pairwise (· < ·) := by decide
  obtain ⟨-, found⟩ := get_answers oldest?_picksOldest 2 ⟨5⟩ Sample.visits "a" 4 readings
  refine ⟨found _ 2 ?_ ?_ ?_ ?_, ?_, ?_⟩
  · decide +kernel
  · decide +kernel
  · decide
  · decide +kernel
  · decide +kernel
  · decide +kernel

end ViewerHost
