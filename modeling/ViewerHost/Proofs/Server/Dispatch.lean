import ViewerHost.Proofs.Plugin.Routing

namespace ViewerHost.Route
open MountPath Text Registry

variable {r : Registry} {p q : Plugin} {route mount path suffix rest : String}

def nameOf (route : String) : String := trimSlashes ((treeOf? route).getD route)

theorem reserved_named : ∀ route ∈ reserved,
    IsName (nameOf route) ∧ (treeOf? route).getD route = "/" ++ nameOf route ∧
      ((treeOf? route).isSome → nameOf route ≠ "") := by
  decide +kernel

/-- A route of the host that takes a path below a mount withholds the mount itself. -/
theorem withholds_of_accepts (kept : route ∈ reserved)
    (accepted : accepts route ("/" ++ path) = true) (inside : Within mount path)
    (nonempty : mount ≠ "") : Withholds route (normalize mount) := by
  obtain ⟨named, shape, wide⟩ := reserved_named route kept
  unfold accepts at accepted
  unfold Withholds
  cases form : treeOf? route with
  | none =>
      simp only [form, Option.getD_none, beq_iff_eq] at accepted shape ⊢
      rw [shape, ← String.toList_inj, String.toList_append, String.toList_append] at accepted
      have same : path = nameOf route := String.toList_inj.mp (List.append_cancel_left accepted)
      rw [same] at inside
      have whole : mount = nameOf route := named.eq_of_within inside
      have named' : IsName mount := whole ▸ named
      rw [shape, ← whole, named'.normalize_eq, named'.normalize_slash_append]
      exact ⟨rfl, nonempty⟩
  | some tree =>
      simp only [form, Option.getD_some] at accepted shape ⊢
      rw [shape] at accepted ⊢
      rw [named.normalize_slash_append]
      obtain ⟨below, split, ok⟩ := within_iff.mp (covers_iff.mp accepted)
      have split' : path.toList = (nameOf route).toList ++ below := by simpa using split
      have above := named.within_of_within (within_iff.mpr ⟨below, split', ok⟩) inside
      exact named.within_normalize (wide (by rw [form]; rfl)) above

theorem toList_trimSlashes_below (nonempty : mount ≠ "")
    (bare : opensWith isSlash mount.toList = false ∧ closesWith isSlash mount.toList = false) :
    (trimSlashes ("/" ++ mount ++ suffix)).toList =
      mount.toList ++ trimEnd isSlash suffix.toList := by
  have shown : mount.toList ≠ [] := by simpa using nonempty
  have opens : opensWith isSlash (mount.toList ++ suffix.toList) = false := by
    rw [opensWith_append shown]
    exact bare.1
  have dropped : ('/' :: (mount.toList ++ suffix.toList)).dropWhile isSlash =
      mount.toList ++ suffix.toList := by
    rw [List.dropWhile_cons_of_pos (by decide), dropWhile_of_not_opensWith opens]
  rw [toList_trimSlashes, String.toList_append, String.toList_append,
    show "/".toList = ['/'] from rfl, List.append_assoc, List.singleton_append, trimBoth, dropped]
  exact trimEnd_append shown bare.2

theorem within_trimSlashes_below (named : p.IsNamed) (starts : AtSlash suffix.toList) :
    Within p.mountPath (trimSlashes ("/" ++ p.mountPath ++ suffix)) := by
  rw [within_iff]
  exact ⟨_, toList_trimSlashes_below named.1 named.bare, starts.of_prefix isPrefix_trimEnd⟩

theorem not_accepts_below (hosted : r.Hosted) (member : p ∈ r.plugins)
    (starts : AtSlash suffix.toList) (kept : route ∈ reserved) :
    accepts route (trimmed ("/" ++ p.mountPath ++ suffix)) = false := by
  have named := hosted.named p member
  rw [← Bool.not_eq_true]
  intro accepted
  have inside := within_trimSlashes_below named starts
  exact hosted.not_withheld member route kept (withholds_of_accepts kept accepted inside named.1)

theorem pages_flat : ∀ entry ∈ pages, treeOf? entry.1 = none := by
  decide +kernel

theorem lookup_pages_eq_none (untaken : ∀ route ∈ reserved, accepts route path = false) :
    pages.lookup path = none := by
  rw [List.lookup_eq_none_iff]
  intro entry member
  have kept : entry.1 ∈ reserved := List.mem_append_left _ (List.mem_map_of_mem member)
  have other := untaken entry.1 kept
  rw [accepts, pages_flat entry member] at other
  simpa using other

def passOn (plugins : Registry) (path : String) : Destination :=
  match plugins.route path with
  | some (plugin, rest) => .plugin plugin rest
  | none => .nowhere

theorem select_of_untaken (untaken : ∀ route ∈ reserved, accepts route (trimmed path) = false) :
    select r path = passOn r path := by
  have unfiled : (resources.any fun route => accepts route (trimmed path)) = false := by
    rw [List.any_eq_false]
    intro route member
    rw [untaken route (List.mem_append_right _ member)]
    exact Bool.false_ne_true
  rw [select, lookup_pages_eq_none untaken]
  simp only [unfiled, Bool.false_eq_true, if_false]
  rfl

theorem select_below (hosted : r.Hosted) (member : p ∈ r.plugins)
    (starts : AtSlash suffix.toList) :
    select r ("/" ++ p.mountPath ++ suffix) = passOn r ("/" ++ p.mountPath ++ suffix) :=
  select_of_untaken fun _ kept => not_accepts_below hosted member starts kept

theorem dispatch_of_passOn {c : Context} (passed : select c.plugins path = passOn c.plugins path)
    (tree : FileTree) (request : Request) :
    dispatch c tree path request =
      match c.plugins.route path with
      | some (plugin, rest) => plugin.handler.handle tree { request with path := rest }
      | none => .notFound path := by
  rw [dispatch, passed, passOn]
  cases c.plugins.route path with
  | none => rfl
  | some owner => rfl

/-- No page and no file of the server answers what lies below a plugin: the plugins do. -/
theorem plugin_not_shadowed (discovered : Discovered r) (mounted : p ∈ r.plugins)
    (starts : suffix = "" ∨ ∃ rest, suffix = "/" ++ rest) :
    (∀ page, select r ("/" ++ p.mountPath ++ suffix) ≠ .page page) ∧
    (∀ file, select r ("/" ++ p.mountPath ++ suffix) ≠ .resource file) ∧
    ∀ (c : Context) (tree : FileTree) (request : Request), c.plugins = r →
      dispatch c tree ("/" ++ p.mountPath ++ suffix) request =
        match r.route ("/" ++ p.mountPath ++ suffix) with
        | some (plugin, rest) => plugin.handler.handle tree { request with path := rest }
        | none => .notFound ("/" ++ p.mountPath ++ suffix) := by
  have starts' : AtSlash suffix.toList := by
    rcases starts with rfl | ⟨rest, rfl⟩
    · exact Or.inl rfl
    · exact Or.inr (by simp)
  have passed := select_below discovered.hosted mounted starts'
  rw [passed, passOn]
  refine ⟨?_, ?_, ?_⟩
  · intro page
    split <;> rintro ⟨⟩
  · intro file
    split <;> rintro ⟨⟩
  · rintro c tree request rfl
    exact dispatch_of_passOn passed tree request

theorem plugin_not_shadowed_nested : ∃ p ∈ Sample.registry.plugins,
    ("/x" = "" ∨ ∃ rest, "/x" = "/" ++ rest) ∧ p.mountPath = "é/ü" ∧
      ∀ page, select Sample.registry ("/" ++ p.mountPath ++ "/x") ≠ .page page := by
  have starts : "/x" = "" ∨ ∃ rest, "/x" = "/" ++ rest := Or.inr ⟨"x", rfl⟩
  obtain ⟨p, mounted, named⟩ := Sample.mounted "é/ü" (by decide)
  exact ⟨p, mounted, starts, named, (plugin_not_shadowed Sample.discovered mounted starts).1⟩

theorem lookup_own_iff (hosted : r.Hosted) (mounted : p ∈ r.plugins) :
    r.lookup p.mountPath = some p ↔
      opensWith isBlank p.mountPath.toList = false ∧
        closesWith isBlank p.mountPath.toList = false := by
  have bare := (hosted.named p mounted).bare
  rw [hosted.reachable.sound.lookup_eq_some_iff, eq_comm, normalize_eq_self_iff,
    and_iff_right mounted, and_iff_left bare]

theorem route_own (hosted : r.Hosted) (routed : r.route ("/" ++ p.mountPath) = some (p, rest)) :
    rest = "" ∧ normalize ("/" ++ p.mountPath) = p.mountPath := by
  obtain ⟨-, below, split, rfl⟩ :=
    (routeAmong_eq_some_iff hosted.reachable.sound (.refl _)).mp routed
  have short : (normalize ("/" ++ p.mountPath)).length ≤ p.mountPath.length :=
    length_normalize_slash_append
  rw [split, String.length_append] at short
  have nothing : below = "" := by
    rw [← String.length_eq_zero_iff]
    omega
  subst nothing
  rw [String.append_empty] at split
  exact ⟨rfl, split⟩

theorem route_of_normalize (hosted : r.Hosted) (mounted : p ∈ r.plugins)
    (normal : normalize path = p.mountPath) : r.route path = some (p, "") := by
  apply (routeAmong_eq_some_iff hosted.reachable.sound (.refl _)).mpr
  rw [normal]
  refine ⟨⟨mounted, Or.inl rfl, ?_⟩, "", by simp, rfl⟩
  intro q _ inside
  rw [← String.length_toList, ← String.length_toList]
  exact (toList_prefix_of_within inside).length_le

theorem route_own_iff (hosted : r.Hosted) (mounted : p ∈ r.plugins) :
    r.route ("/" ++ p.mountPath) = some (p, "") ↔
      closesWith isBlank p.mountPath.toList = false := by
  have bare := (hosted.named p mounted).bare
  rw [← normalize_slash_append_eq_iff bare.1 bare.2]
  constructor
  · intro routed
    exact (route_own hosted routed).2
  · intro normal
    exact route_of_normalize hosted mounted normal

theorem passOn_eq_plugin_iff :
    passOn r path = .plugin p rest ↔ r.route path = some (p, rest) := by
  unfold passOn
  cases r.route path with
  | none => simp
  | some owner => simp [Prod.ext_iff]

/-- Looking a plugin up under its own mount path normalises that path once more, and so does asking
for it, with a slash in front. Both find the plugin exactly when that drops no blank: normalising
drops blanks before slashes, so a blank inside the slashes of the settings stays the first time and
goes the second. -/
theorem finds_own_mount_iff (discovered : Discovered r) (mounted : p ∈ r.plugins) :
    (r.lookup p.mountPath = some p ↔
      opensWith isBlank p.mountPath.toList = false ∧
        closesWith isBlank p.mountPath.toList = false) ∧
    (select r ("/" ++ p.mountPath) = .plugin p "" ↔
      closesWith isBlank p.mountPath.toList = false) ∧
    (∀ rest, select r ("/" ++ p.mountPath) = .plugin p rest → rest = "") ∧
    ∀ (c : Context) (tree : FileTree) (request : Request), c.plugins = r →
      closesWith isBlank p.mountPath.toList = false →
      dispatch c tree ("/" ++ p.mountPath) request =
        p.handler.handle tree { request with path := "" } := by
  have hosted := discovered.hosted
  have passed := select_below hosted mounted (show AtSlash "".toList from Or.inl rfl)
  rw [String.append_empty] at passed
  rw [passed]
  simp only [passOn_eq_plugin_iff]
  refine ⟨lookup_own_iff hosted mounted, route_own_iff hosted mounted, ?_, ?_⟩
  · intro rest routed
    exact (route_own hosted routed).1
  · rintro c tree request rfl closes
    rw [dispatch_of_passOn passed, (route_own_iff hosted mounted).mpr closes]

theorem finds_own_mount_flat : ∃ p ∈ Sample.registry.plugins, p.mountPath = "é" ∧
    Sample.registry.lookup p.mountPath = some p ∧
    select Sample.registry ("/" ++ p.mountPath) = .plugin p "" := by
  obtain ⟨p, mounted, named⟩ := Sample.mounted "é" (by decide)
  obtain ⟨looked, selected, -, -⟩ := finds_own_mount_iff Sample.discovered mounted
  refine ⟨p, mounted, named, looked.mpr ?_, selected.mpr ?_⟩
  · rw [named]
    decide
  · rw [named]
    decide

theorem own_mount_missed : ∃ p ∈ Sample.registry.plugins, p.mountPath = " a " ∧
    Sample.registry.lookup p.mountPath ≠ some p ∧
    select Sample.registry ("/" ++ p.mountPath) ≠ .plugin p "" := by
  obtain ⟨p, mounted, named⟩ := Sample.mounted " a " (by decide)
  have hosted := Sample.discovered.hosted
  have passed := select_below hosted mounted (show AtSlash "".toList from Or.inl rfl)
  rw [String.append_empty] at passed
  refine ⟨p, mounted, named, ?_, ?_⟩
  · rw [Ne, lookup_own_iff hosted mounted, named]
    decide
  · rw [passed, Ne, passOn_eq_plugin_iff, route_own_iff hosted mounted, named]
    decide

end ViewerHost.Route
