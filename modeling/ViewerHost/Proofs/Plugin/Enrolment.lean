import ViewerHost.Proofs.Plugin.Registration

namespace ViewerHost.Registry

variable {r after : Registry} {p q : Plugin} {calls : List Plugin} {path : String} {i : Nat}
  {e : LoadError}

def enrol (r : Registry) (calls : List Plugin) : Registry := calls.foldl offer r

def accepted (r : Registry) : List Plugin → List Plugin
  | [] => []
  | p :: calls =>
      match r.register p with
      | .ok after => p :: after.accepted calls
      | .error _ => r.accepted calls

def extend (r : Registry) (plugins : List Plugin) : Registry :=
  { r with
    plugins := r.plugins ++ plugins
    byMount := r.byMount ++
      (plugins.zipIdx r.plugins.length).map fun (p, i) => (p.mountPath, i) }

/-! ## One call -/

theorem Sound.register_cases (sound : r.Sound) (p : Plugin) :
    (r.isReserved p.mountPath = true ∧ r.register p = .error (.reservedMount p.mountPath)) ∨
    (r.isReserved p.mountPath = false ∧ ∃ q ∈ r.plugins, q.mountPath = p.mountPath ∧
      r.register p = .error (.duplicateMount p.mountPath q.name)) ∨
    (r.isReserved p.mountPath = false ∧ (∀ q ∈ r.plugins, q.mountPath ≠ p.mountPath) ∧
      ∃ after, r.register p = .ok after) := by
  cases reserved : r.isReserved p.mountPath with
  | true => exact Or.inl ⟨rfl, by simp [Registry.register, reserved]⟩
  | false =>
      refine Or.inr ?_
      cases found : r.byMount.lookup p.mountPath with
      | none =>
          refine Or.inr ⟨rfl, sound.unused_iff.mp found, ?_⟩
          simp [Registry.register, reserved, found]
      | some i =>
          obtain ⟨q, located, same⟩ := sound.lookup_byMount_eq_some_iff.mp found
          refine Or.inl ⟨rfl, q, List.mem_of_getElem? located, same, ?_⟩
          simp [Registry.register, reserved, found, located]

def Refuses (r : Registry) (p : Plugin) (e : LoadError) : Prop :=
  (r.isReserved p.mountPath = true ∧ e = .reservedMount p.mountPath) ∨
  (r.isReserved p.mountPath = false ∧ ∃ q ∈ r.plugins, q.mountPath = p.mountPath ∧
    e = .duplicateMount p.mountPath q.name)

def IsFree (r : Registry) (path : String) : Prop :=
  r.isReserved path = false ∧ ∀ q ∈ r.plugins, q.mountPath ≠ path

theorem Sound.register_eq_error_iff (sound : r.Sound) :
    r.register p = .error e ↔ r.Refuses p e := by
  unfold Refuses
  rcases sound.register_cases p with ⟨reserved, refused⟩ | ⟨free, q, member, same, refused⟩ |
    ⟨free, unused, after, taken⟩
  · simp [reserved, refused, eq_comm]
  · rw [refused, Except.error.injEq]
    constructor
    · rintro rfl
      exact Or.inr ⟨free, q, member, same, rfl⟩
    · rintro (⟨reserved, -⟩ | ⟨-, q', member', same', rfl⟩)
      · rw [free] at reserved
        cases reserved
      · rw [sound.eq_of_mountPath_eq member member' (same.trans same'.symm)]
  · rw [taken]
    constructor
    · rintro ⟨⟩
    · rintro (⟨reserved, -⟩ | ⟨-, q, member, same, -⟩)
      · rw [free] at reserved
        cases reserved
      · exact absurd same (unused q member)

theorem Sound.register_isOk_iff (sound : r.Sound) :
    (∃ after, r.register p = .ok after) ↔ r.IsFree p.mountPath := by
  unfold IsFree
  rcases sound.register_cases p with ⟨reserved, refused⟩ | ⟨free, q, member, same, refused⟩ |
    ⟨free, unused, taken⟩
  · simp [reserved, refused]
  · rw [refused]
    constructor
    · rintro ⟨after, ⟨⟩⟩
    · rintro ⟨-, unused⟩
      exact absurd same (unused q member)
  · exact iff_of_true taken ⟨free, unused⟩

/-! ## A run -/

theorem enrol_append (more : List Plugin) : r.enrol (calls ++ more) = (r.enrol calls).enrol more :=
  List.foldl_append

theorem offer_of_error (refused : r.register p = .error e) : r.offer p = r := by
  rw [offer, refused]

theorem Sound.enrol (sound : r.Sound) (calls : List Plugin) : (r.enrol calls).Sound := by
  induction calls generalizing r with
  | nil => exact sound
  | cons p calls ih => exact ih (sound.offer p)

theorem extend_cons : (r.extend [p]).extend calls = r.extend (p :: calls) := by
  simp [extend]

theorem enrol_eq_extend (r : Registry) (calls : List Plugin) :
    r.enrol calls = r.extend (r.accepted calls) := by
  induction calls generalizing r with
  | nil => simp [enrol, accepted, extend]
  | cons p calls ih =>
      rw [enrol, List.foldl_cons, ← enrol, ih, accepted]
      cases outcome : r.register p with
      | error e => rw [offer_of_error outcome]
      | ok after =>
          rw [offer_of_ok outcome, (register_ok outcome).2.2]
          exact extend_cons

theorem plugins_enrol (r : Registry) (calls : List Plugin) :
    (r.enrol calls).plugins = r.plugins ++ r.accepted calls := by
  rw [enrol_eq_extend]
  rfl

theorem isReserved_enrol : (r.enrol calls).isReserved path = r.isReserved path := by
  rw [enrol_eq_extend]
  rfl

theorem sound_reserving (routes : List String) : (reserving routes).Sound :=
  (Reachable.reserving routes).sound

theorem Sound.taken_offer (sound : r.Sound) (free : r.isReserved p.mountPath = false) :
    ∃ q ∈ (r.offer p).plugins, q.mountPath = p.mountPath := by
  rcases sound.register_cases p with ⟨reserved, -⟩ | ⟨-, q, member, same, refused⟩ |
    ⟨-, -, after, taken⟩
  · rw [free] at reserved
    cases reserved
  · rw [offer_of_error refused]
    exact ⟨q, member, same⟩
  · rw [offer_of_ok taken, (register_ok taken).2.2]
    exact ⟨p, List.mem_concat_self, rfl⟩

theorem mem_offer (member : q ∈ r.plugins) : q ∈ (r.offer p).plugins := by
  cases outcome : r.register p with
  | error e => rwa [offer_of_error outcome]
  | ok after =>
      rw [offer_of_ok outcome, (register_ok outcome).2.2]
      exact List.mem_append_left _ member

theorem mem_of_mem_offer (member : q ∈ (r.offer p).plugins) :
    q ∈ r.plugins ∨ q = p ∧ ∃ after, r.register p = .ok after := by
  cases outcome : r.register p with
  | error e =>
      rw [offer_of_error outcome] at member
      exact Or.inl member
  | ok after =>
      rw [offer_of_ok outcome, (register_ok outcome).2.2] at member
      rcases List.mem_append.mp member with old | new
      · exact Or.inl old
      · exact Or.inr ⟨List.mem_singleton.mp new, after, rfl⟩

theorem taken_enrol (routes : List String) (member : p ∈ calls)
    (free : (reserving routes).isReserved p.mountPath = false) :
    ∃ q ∈ ((reserving routes).enrol calls).plugins, q.mountPath = p.mountPath := by
  induction calls using List.reverseRecOn with
  | nil => cases member
  | append_singleton calls last ih =>
      have sound := (sound_reserving routes).enrol calls
      rw [enrol_append]
      rcases List.mem_append.mp member with before | new
      · obtain ⟨q, taken, same⟩ := ih before
        exact ⟨q, mem_offer taken, same⟩
      · obtain rfl := List.mem_singleton.mp new
        exact sound.taken_offer (isReserved_enrol.trans free)

/-- The plugin on a mount path is the first that was offered for it. -/
theorem find?_calls_of_mem_enrol (routes : List String)
    (member : q ∈ ((reserving routes).enrol calls).plugins) :
    calls.find? (fun p => p.mountPath == q.mountPath) = some q := by
  induction calls using List.reverseRecOn with
  | nil => simp [enrol, (reserving_entries routes).1] at member
  | append_singleton calls last ih =>
      have sound := (sound_reserving routes).enrol calls
      rw [enrol_append] at member
      rw [List.find?_append]
      rcases mem_of_mem_offer member with old | ⟨rfl, accepted⟩
      · rw [ih old, Option.some_or]
      · obtain ⟨free, unused⟩ := sound.register_isOk_iff.mp accepted
        have first : calls.find? (fun p => p.mountPath == q.mountPath) = none := by
          rw [List.find?_eq_none]
          intro p earlier same
          rw [beq_iff_eq] at same
          rw [isReserved_enrol, ← same] at free
          obtain ⟨holder, taken, held⟩ := taken_enrol routes earlier free
          exact unused holder taken (held.trans same)
        rw [first, Option.none_or]
        simp

theorem register_enrol_eq_error_iff (routes : List String) :
    ((reserving routes).enrol calls).register p = .error e ↔
      (((reserving routes).enrol calls).isReserved p.mountPath = true ∧
        e = .reservedMount p.mountPath) ∨
      (((reserving routes).enrol calls).isReserved p.mountPath = false ∧
        ∃ q ∈ ((reserving routes).enrol calls).plugins, q.mountPath = p.mountPath ∧
          calls.find? (fun c => c.mountPath == p.mountPath) = some q ∧
          e = .duplicateMount p.mountPath q.name) := by
  rw [((sound_reserving routes).enrol calls).register_eq_error_iff, Refuses]
  refine or_congr_right (and_congr_right fun _ => exists_congr fun q => and_congr_right ?_)
  intro member
  refine and_congr_right ?_
  intro same
  -- The plugin on a path is the one of the first call on it, whichever others were refused.
  have first := find?_calls_of_mem_enrol routes member
  rw [same] at first
  simp [first]

/-- After any calls, each plugin has one entry, which is its position. Those that were accepted are
listed in the order of the calls, on different paths of which none is reserved. A further call is
refused because of the host, or else in the name of the plugin that came first on its path, and
then changes nothing. -/
theorem enrol_consistent (routes : List String) (calls : List Plugin) :
    let r := (reserving routes).enrol calls
    (r.byMount.length = r.plugins.length ∧ (r.byMount.map Prod.fst).Nodup ∧
      ∀ path i, r.byMount.lookup path = some i ↔
        ∃ p, r.plugins[i]? = some p ∧ p.mountPath = path) ∧
    (r.plugins.map (·.mountPath)).Nodup ∧
    ((∀ path, r.isReserved path = (reserving routes).isReserved path) ∧
      ∀ p ∈ r.plugins, r.isReserved p.mountPath = false) ∧
    r.plugins = (reserving routes).accepted calls ∧
    ∀ p e,
      (r.register p = .error e ↔
        (r.isReserved p.mountPath = true ∧ e = .reservedMount p.mountPath) ∨
        (r.isReserved p.mountPath = false ∧ ∃ q ∈ r.plugins, q.mountPath = p.mountPath ∧
          calls.find? (fun c => c.mountPath == p.mountPath) = some q ∧
          e = .duplicateMount p.mountPath q.name)) ∧
      (r.register p = .error e → (reserving routes).enrol (calls ++ [p]) = r) := by
  intro r
  have sound : r.Sound := (sound_reserving routes).enrol calls
  refine ⟨⟨?_, ?_, ?_⟩, sound.distinct, ⟨fun path => isReserved_enrol, sound.free⟩, ?_, ?_⟩
  · simp [sound.positions]
  · rw [sound.map_fst_byMount]
    exact sound.distinct
  · exact fun path i => sound.lookup_byMount_eq_some_iff
  · have listed := plugins_enrol (reserving routes) calls
    rwa [(reserving_entries routes).1, List.nil_append] at listed
  · intro p e
    refine ⟨register_enrol_eq_error_iff routes, ?_⟩
    intro refused
    rw [enrol_append]
    exact offer_of_error refused

end ViewerHost.Registry

namespace ViewerHost

namespace Sample

def offered (name path : String) : Plugin where
  bundle := {
    dir := ⟨"/plugins/" ++ name⟩
    settings := ⟨⟨.empty, none⟩, []⟩
    name
    mountPath := path
    handlerClass := "Echo"
    order := 0
    hidden := false
    external := []
    libraryDir := ⟨"/plugins/" ++ name ++ "/lib"⟩ }
  handler := ⟨name, fun _ request => .html request.path⟩
  scope := ⟨[], .empty "host"⟩
  origin := none
  index := 0

end Sample

namespace Registry

theorem enrol_consistent_contested :
    let calls := [Sample.offered "a" "css", Sample.offered "b" "logs", Sample.offered "c" "logs"]
    ((reserving ["/css/*"]).enrol calls).register (Sample.offered "d" "logs") =
        .error (.duplicateMount "logs" "b") ∧
      (reserving ["/css/*"]).enrol (calls ++ [Sample.offered "d" "logs"]) =
        (reserving ["/css/*"]).enrol calls := by
  intro calls
  obtain ⟨-, -, -, -, answered⟩ := enrol_consistent ["/css/*"] calls
  have free : ((reserving ["/css/*"]).enrol calls).isReserved "logs" = false := by decide +kernel
  have refused := (answered (Sample.offered "d" "logs") (.duplicateMount "logs" "b")).1.mpr
    (Or.inr ⟨free, Sample.offered "b" "logs", List.mem_singleton.mpr rfl, rfl, rfl, rfl⟩)
  exact ⟨refused, (answered _ _).2 refused⟩

end Registry

end ViewerHost
