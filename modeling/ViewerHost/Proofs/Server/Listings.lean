import ViewerHost.Proofs.Server.Composition
import ViewerHost.Proofs.Server.Dispatch
import ViewerHost.Proofs.Server.IndexPage
import ViewerHost.Server.Rpc

namespace ViewerHost

namespace Registry

variable {r : Registry} {a b c p q : Plugin}

/-- A listing of plugins by order, then by position in the discovery, then as they were registered. -/
structure InOrder (registered listing : List Plugin) : Prop where
  perm : listing.Perm registered
  sorted : listing.Pairwise fun a b => a.order < b.order ∨ a.order = b.order ∧ a.index ≤ b.index
  stable : ∀ order index,
    listing.filter (fun p => p.order = order ∧ p.index = index) =
      registered.filter fun p => p.order = order ∧ p.index = index

theorem precedes_iff :
    precedes a b = true ↔ a.order < b.order ∨ a.order = b.order ∧ a.index ≤ b.index := by
  simp [precedes]

theorem precedes_trans (a b c : Plugin) (first : precedes a b = true) (second : precedes b c = true) :
    precedes a c = true := by
  rw [precedes_iff] at first second ⊢
  omega

theorem precedes_total (a b : Plugin) : (precedes a b || precedes b a) = true := by
  rw [Bool.or_eq_true, precedes_iff, precedes_iff]
  omega

theorem all_inOrder (r : Registry) : InOrder r.plugins r.all := by
  have perm : r.all.Perm r.plugins := List.mergeSort_perm r.plugins precedes
  refine ⟨perm, ?_, ?_⟩
  · have sorted := List.pairwise_mergeSort precedes_trans precedes_total r.plugins
    exact sorted.imp precedes_iff.mp
  · intro order index
    -- Plugins that tie are in order as they were registered, and sorting keeps what is in order.
    have tied : (r.plugins.filter fun p => p.order = order ∧ p.index = index).Pairwise
        (precedes · ·) := by
      apply List.pairwise_of_forall_mem_list
      intro a first b second
      simp only [List.mem_filter, decide_eq_true_eq] at first second
      rw [precedes_iff]
      omega
    have kept := (List.sublist_mergeSort precedes_trans precedes_total tied
      List.filter_sublist).filter fun p => p.order = order ∧ p.index = index
    rw [List.filter_filter] at kept
    simp only [Bool.and_self] at kept
    exact (kept.eq_of_length (perm.filter _).length_eq.symm).symm

theorem Sound.not_visible (sound : r.Sound) (mounted : p ∈ r.plugins) (concealed : p.hidden = true)
    (listed : q ∈ r.visible) : q.mountPath ≠ p.mountPath := by
  obtain ⟨member, shown⟩ := List.mem_filter.mp listed
  intro same
  have registered : q ∈ r.plugins := List.mem_mergeSort.mp member
  rw [sound.eq_of_mountPath_eq registered mounted same, concealed] at shown
  cases shown

theorem mem_mounts (mounted : p ∈ r.plugins) : ⟨p.route, p.handler⟩ ∈ r.mounts :=
  List.mem_map.mpr ⟨p, List.mem_mergeSort.mpr mounted, rfl⟩

end Registry

namespace Route

open MountPath

variable {p : Plugin}

theorem dispatch_mounted {c : Context} (hosted : c.plugins.Hosted) (mounted : p ∈ c.plugins.plugins)
    (tree : FileTree) (request : Request) :
    dispatch c tree ("/" ++ p.mountPath ++ "/") request =
      p.handler.handle tree { request with path := "" } := by
  have named := hosted.named p mounted
  have normal := normalize_slashes named.1 named.bare.1 named.bare.2
  rw [dispatch_of_passOn (select_below hosted mounted (Or.inr rfl)),
    route_of_normalize hosted mounted normal]

theorem routes_mounts (c : Context) :
    (mounts c).map (·.route) = reserved ++ c.plugins.mounts.map (·.route) := by
  simp only [mounts, reserved, List.map_append, List.map_map, Function.comp_def, List.map_id']

end Route

namespace Server

open Registry

variable {c : Context}

def answer (call : Rpc.Call) (result : Json) : Json :=
  .object [("jsonrpc", .string "2.0"), ("id", call.id.toJson), ("result", result)]

/-- Every place shows the plugins in one order. The viewers and the navigation leave the hidden ones
out, while the routes have all of them, behind those of the server. -/
theorem presents_in_order :
    (∀ r : Registry,
      InOrder r.plugins r.all ∧ r.visible = r.all.filter (fun p => !p.hidden) ∧
        r.mounts = r.all.map fun p => ⟨"/" ++ p.mountPath ++ "/*", p.handler⟩) ∧
    ∀ c, Composed c →
      (∀ tree call, call.method = "viewers.list" →
        Rpc.respond c tree call = answer call (.array (c.plugins.visible.map fun p => .object [
          ("name", .string p.name), ("path", .string p.mountPath), ("order", .int p.order)]))) ∧
      (∀ tree request, ∀ path ∈ ["/", "/index"], ∀ projects links,
        Route.dispatch c tree path request = .html (Page.indexText projects links) ↔
          projects = c.subsystems.projects.manager.names ∧
            links = c.plugins.visible.map fun p => (p.mountPath, p.name)) ∧
      (∀ tree call, call.method = "routes.list" →
        Rpc.respond c tree call =
          answer call (.ofStrings (Route.reserved ++ c.plugins.mounts.map (·.route)))) ∧
      ∀ p ∈ c.plugins.plugins, p.hidden = true →
        ⟨"/" ++ p.mountPath ++ "/*", p.handler⟩ ∈ c.plugins.mounts ∧
        (∀ tree request, Route.dispatch c tree ("/" ++ p.mountPath ++ "/") request =
          p.handler.handle tree { request with path := "" }) ∧
        ∀ q ∈ c.plugins.visible, q.mountPath ≠ p.mountPath := by
  refine ⟨fun r => ⟨all_inOrder r, rfl, rfl⟩, ?_⟩
  intro c composed
  have hosted := composed.discovered.hosted
  refine ⟨?_, ?_, ?_, ?_⟩
  · intro tree call named
    simp only [Rpc.respond, Rpc.result, named]
    rfl
  · intro tree request path core projects links
    rw [Page.dispatch_index c tree request core]
    constructor
    · intro same
      obtain ⟨listed, linked⟩ := Page.indexText_inj.mp (congrArg Response.body same)
      exact ⟨listed.symm, linked.symm⟩
    · rintro ⟨rfl, rfl⟩
      rfl
  · intro tree call named
    simp only [Rpc.respond, Rpc.result, named, Route.routes_mounts]
    rfl
  · intro p mounted concealed
    refine ⟨mem_mounts mounted, ?_, ?_⟩
    · intro tree request
      exact Route.dispatch_mounted hosted mounted tree request
    · intro q listed
      exact hosted.reachable.sound.not_visible mounted concealed listed

theorem presents_in_order_hidden : ∃ c, Composed c ∧ ∃ p ∈ c.plugins.plugins,
    p.mountPath = "stats" ∧ p.hidden = true ∧
      ⟨"/" ++ p.mountPath ++ "/*", p.handler⟩ ∈ c.plugins.mounts ∧
      ∀ q ∈ c.plugins.visible, q.mountPath ≠ p.mountPath := by
  obtain ⟨c, composed, -, plugins, -⟩ := Sample.hosted
  have member : ("stats", (-1 : Int), true) ∈
      c.plugins.plugins.map fun p => (p.mountPath, p.order, p.hidden) := by
    rw [plugins]
    decide
  obtain ⟨p, mounted, same⟩ := List.mem_map.mp member
  obtain ⟨named, -, concealed⟩ : p.mountPath = "stats" ∧ p.order = -1 ∧ p.hidden = true := by
    simpa using same
  obtain ⟨-, -, -, hidden⟩ := presents_in_order.2 c composed
  obtain ⟨shown, -, absent⟩ := hidden p mounted concealed
  exact ⟨c, composed, p, mounted, named, concealed, shown, absent⟩

end Server

end ViewerHost
