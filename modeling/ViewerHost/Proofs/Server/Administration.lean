import ViewerHost.Proofs.Json.Texts
import ViewerHost.Proofs.Server.Listings

namespace ViewerHost

open Outcome

/-! ## Parameters of calls -/

namespace Rpc

variable {mark : Char}

theorem next_quoted (marks : mark = '[' ∨ mark = ',') (s : String) (rest : List Char) :
    next Json.string? (mark :: ((Json.quoted s).toList ++ rest)) = .value s rest := by
  have kept : ∀ cs, Json.skipSpace (mark :: cs) = mark :: cs := by
    rcases marks with rfl | rfl <;> exact fun _ => rfl
  have further : mark ≠ ']' := by
    rcases marks with rfl | rfl <;> decide
  unfold next
  rw [kept]
  split
  · contradiction
  · rename_i same
    exact absurd (List.cons.inj same).1 further
  · rename_i same
    obtain ⟨rfl, rfl⟩ := List.cons.inj same
    rw [if_pos marks, Json.value?_quoted]
    rfl

theorem required_quoted (marks : mark = '[' ∨ mark = ',') (s : String) (rest : List Char) :
    required Json.string? (mark :: ((Json.quoted s).toList ++ rest)) = .ok (s, rest) := by
  rw [required, next_quoted marks]

theorem named?_list (cs : List Char) : named? ('[' :: cs) = none := rfl

theorem oneText_ofStrings (key s : String) :
    oneText key (Json.ofStrings [s]).render.toList = .ok s := by
  have written : (Json.ofStrings [s]).render.toList =
      '[' :: ((Json.quoted s).toList ++ "]".toList) := by
    simp [Json.render_ofStrings, Text.joined]
  rw [written, oneText, named?_list]
  simp only [required_quoted (Or.inl rfl)]
  rfl

theorem twoTexts_ofStrings (first second s t : String) :
    twoTexts first second (Json.ofStrings [s, t]).render.toList = .ok (s, t) := by
  have written : (Json.ofStrings [s, t]).render.toList =
      '[' :: ((Json.quoted s).toList ++ ',' :: ((Json.quoted t).toList ++ "]".toList)) := by
    simp [Json.render_ofStrings, Text.joined]
  have front := required_quoted (Or.inl rfl) s (',' :: ((Json.quoted t).toList ++ "]".toList))
  have back := required_quoted (Or.inr rfl) t "]".toList
  rw [written, twoTexts, named?_list]
  exact bind_eq_ok_iff.mpr ⟨_, front, bind_eq_ok_iff.mpr ⟨_, back, rfl⟩⟩

end Rpc

namespace Server

variable {α : Type} {call : Rpc.Call} {encode : α → Json} {around : Json → Json} {page : Response}
  {reply : Json}

def refusal (call : Rpc.Call) (code : Int) (reason : String) : Json :=
  .object [("jsonrpc", .string "2.0"), ("id", call.id.toJson),
    ("error", .object [("code", .int code), ("message", .string reason)])]

/-- A page and the reply to a call that come to the same. The page has the result in a body of its
own, and only the reply gives a failure a code. -/
inductive Agree (call : Rpc.Call) (encode : α → Json) (around : Json → Json) :
    Response → Json → Prop where
  | found (a : α) :
      Agree call encode around (.json (around (encode a)).render) (answer call (encode a))
  | failed (code : Int) (reason : String) :
      Agree call encode around (.failure 404 reason) (refusal call code reason)

theorem answer_inj {value other : Json} :
    answer call value = answer call other ↔ value = other := by
  simp [answer]

theorem answer_ne_refusal {value : Json} {code : Int} {reason : String} :
    answer call value ≠ refusal call code reason := by
  simp [answer, refusal]

theorem json_ne_failure {body reason : String} : Response.json body ≠ .failure 404 reason := by
  simp [Response.json, Response.failure]

theorem Agree.json_iff (agree : Agree call encode around page reply)
    (shown : ∀ {value other}, (around value).render = (around other).render ↔
      value.render = other.render) (value : Json) :
    page = .json (around value).render ↔
      ∃ result, reply = answer call result ∧ result.render = value.render := by
  cases agree with
  | found a =>
      constructor
      · intro same
        exact ⟨encode a, rfl, shown.mp (congrArg Response.body same)⟩
      · rintro ⟨result, same, rendered⟩
        obtain rfl := answer_inj.mp same
        rw [shown.mpr rendered]
  | failed code reason =>
      apply iff_of_false
      · exact fun same => json_ne_failure same.symm
      · rintro ⟨result, same, -⟩
        exact answer_ne_refusal same.symm

theorem Agree.texts_iff (agree : Agree call Json.ofStrings around page reply)
    (shown : ∀ {value other}, (around value).render = (around other).render ↔
      value.render = other.render) (texts : List String) :
    page = .json (around (.ofStrings texts)).render ↔ reply = answer call (.ofStrings texts) := by
  rw [agree.json_iff shown]
  constructor
  · rintro ⟨result, same, rendered⟩
    cases agree with
    | found listed =>
        obtain rfl := answer_inj.mp same
        rw [Json.render_ofStrings_inj.mp rendered]
    | failed code reason => exact absurd same.symm answer_ne_refusal
  · intro same
    exact ⟨_, same, rfl⟩

theorem Agree.failure_iff (agree : Agree call encode around page reply) (reason : String) :
    page = .failure 404 reason ↔ ∃ code, reply = refusal call code reason := by
  cases agree with
  | found a =>
      apply iff_of_false
      · exact json_ne_failure
      · rintro ⟨code, same⟩
        exact answer_ne_refusal same
  | failed code other =>
      constructor
      · intro same
        obtain rfl : other = reason := congrArg Response.body same
        exact ⟨code, rfl⟩
      · rintro ⟨code', same⟩
        obtain ⟨-, rfl⟩ : code = code' ∧ other = reason := by simpa [refusal] using same
        rfl

theorem Agree.page_cases (agree : Agree call encode around page reply) :
    (∃ a, page = .json (around (encode a)).render) ∨ ∃ reason, page = .failure 404 reason := by
  cases agree with
  | found a => exact Or.inl ⟨a, rfl⟩
  | failed code reason => exact Or.inr ⟨reason, rfl⟩

/-! ## The page and the calls -/

variable {c : Context} {tree : FileTree} {request : Request} {id name : String}

theorem dispatch_management (c : Context) (tree : FileTree) (request : Request) :
    Route.dispatch c tree "/jmx" request = Page.managementPage c request := by
  have served : Route.pages.lookup (Route.trimmed "/jmx") = some .management := by decide +kernel
  unfold Route.dispatch Route.select
  rw [served]
  rfl

theorem agree_of_result (outcome : Except ManagementError α)
    (result : Rpc.result c tree call = (outcome.mapError .management).map encode)
    (body : Page.managementJson c (request.param? "component") (request.param? "attribute") =
      outcome.map fun a => around (encode a)) :
    Agree call encode around (Route.dispatch c tree "/jmx" request) (Rpc.respond c tree call) := by
  rw [dispatch_management, Page.managementPage, body, Rpc.respond, result]
  cases outcome with
  | ok a => exact .found a
  | error cause => exact .failed (Rpc.CallError.management cause).code cause.message

theorem query_agrees (asked : request.param? "component" = some id)
    (named : request.param? "attribute" = some name) (method : call.method = "mgmt.query")
    (params : Rpc.twoTexts "component" "attribute" call.params = .ok (id, name)) :
    Agree call Attribute.toJson
      (fun value => .object
        [("attribute", .string name), ("component", .string id), ("value", value)])
      (Route.dispatch c tree "/jmx" request) (Rpc.respond c tree call) := by
  apply agree_of_result (c.management.query c.subsystems ⟨id⟩ name)
  · simp only [Rpc.result, method, params]
    exact bind_ok_eq_map _ Attribute.toJson
  · rw [asked, named, Page.managementJson]

theorem info_agrees (asked : request.param? "component" = some id)
    (unnamed : request.param? "attribute" = none) (method : call.method = "mgmt.info")
    (params : Rpc.oneText "component" call.params = .ok id) :
    Agree call Json.ofStrings
      (fun names => .object [("attributes", names), ("component", .string id)])
      (Route.dispatch c tree "/jmx" request) (Rpc.respond c tree call) := by
  apply agree_of_result (c.management.info ⟨id⟩)
  · simp only [Rpc.result, method, params]
    exact bind_ok_eq_map _ Json.ofStrings
  · rw [asked, unnamed, Page.managementJson]

theorem list_agrees (unasked : request.param? "component" = none)
    (method : call.method = "mgmt.list") :
    Agree call Json.ofStrings (fun ids => .object [("components", ids)])
      (Route.dispatch c tree "/jmx" request) (Rpc.respond c tree call) := by
  apply agree_of_result (.ok (c.management.list.map (·.text)))
  · simp only [Rpc.result, method]
    rfl
  · rw [unasked, Page.managementJson]
    rfl

/-! ## Requests among operations -/

inductive Arrival where
  | operation (call : ServerCall)
  | request (tree : FileTree) (path : String) (request : Request)
  | remote (tree : FileTree) (call : Rpc.Call)

inductive Reply where
  | response (response : Response)
  | json (json : Json)

def Arrival.operation? : Arrival → Option ServerCall
  | .operation call => some call
  | .request .. => none
  | .remote .. => none

def receive (s : Server) : Arrival → Server × Option Reply
  | .operation call => (s.perform call, none)
  | .request tree path request =>
    (s, s.context.map fun c => .response (Route.dispatch c tree path request))
  | .remote tree call => (s, s.context.map fun c => .json (Rpc.respond c tree call))

theorem foldl_receive (s : Server) (arrivals : List Arrival) :
    arrivals.foldl (fun s arrival => (s.receive arrival).1) s =
      s.after (arrivals.filterMap Arrival.operation?) := by
  induction arrivals generalizing s with
  | nil => rfl
  | cons arrival arrivals ih =>
      cases arrival with
      | operation call => exact ih (s.perform call)
      | request tree path request => exact ih s
      | remote tree call => exact ih s

/-- Whatever a server is made of, its page of the management and the calls by name come to the same:
to the value of an attribute, to the names of the attributes of a component, to the components in
order, or to one reason why not. There is a call for all texts that the page can be asked for.
Neither kind of request has a part in what becomes of the server. -/
theorem administration_agrees :
    (∀ (c : Context) (tree : FileTree) (request : Request) (call : Rpc.Call),
      let page := Route.dispatch c tree "/jmx" request
      let reply := Rpc.respond c tree call
      (∀ id name, request.param? "component" = some id → request.param? "attribute" = some name →
        call.method = "mgmt.query" →
        Rpc.twoTexts "component" "attribute" call.params = .ok (id, name) →
        let shows (value : Json) := page = .json (Json.object [("attribute", .string name),
          ("component", .string id), ("value", value)]).render
        (∀ value, shows value ↔
          ∃ result, reply = answer call result ∧ result.render = value.render) ∧
        (∀ reason, page = .failure 404 reason ↔ ∃ code, reply = refusal call code reason) ∧
        ((∃ value : Attribute, shows value.toJson) ∨ ∃ reason, page = .failure 404 reason)) ∧
      (∀ id, request.param? "component" = some id → request.param? "attribute" = none →
        call.method = "mgmt.info" → Rpc.oneText "component" call.params = .ok id →
        let shows (names : List String) := page = .json (Json.object [
          ("attributes", .ofStrings names), ("component", .string id)]).render
        (∀ names, shows names ↔ reply = answer call (.ofStrings names)) ∧
        (∀ reason, page = .failure 404 reason ↔ ∃ code, reply = refusal call code reason) ∧
        ((∃ names, shows names) ∨ ∃ reason, page = .failure 404 reason)) ∧
      (request.param? "component" = none → call.method = "mgmt.list" →
        let shows (ids : List String) :=
          page = .json (Json.object [("components", .ofStrings ids)]).render
        (∀ ids, shows ids ↔ reply = answer call (.ofStrings ids)) ∧
        shows (c.management.list.map (·.text)))) ∧
    (∀ id name, ∃ params, Rpc.twoTexts "component" "attribute" params = .ok (id, name)) ∧
    (∀ id, ∃ params, Rpc.oneText "component" params = .ok id) ∧
    ∀ (s : Server) (arrivals : List Arrival),
      arrivals.foldl (fun s arrival => (s.receive arrival).1) s =
        s.after (arrivals.filterMap Arrival.operation?) := by
  refine ⟨?_, fun id name => ⟨_, Rpc.twoTexts_ofStrings "component" "attribute" id name⟩,
    fun id => ⟨_, Rpc.oneText_ofStrings "component" id⟩, foldl_receive⟩
  intro c tree request call page reply
  refine ⟨?_, ?_, ?_⟩
  · intro id name asked named method params
    have agree : Agree call _ _ page reply := query_agrees asked named method params
    have shown := @Json.render_member_inj
      [("attribute", .string name), ("component", .string id)] "value" []
    exact ⟨agree.json_iff shown, agree.failure_iff, agree.page_cases⟩
  · intro id asked unnamed method params
    have agree : Agree call _ _ page reply := info_agrees asked unnamed method params
    have shown := @Json.render_member_inj [] "attributes" [("component", .string id)]
    exact ⟨agree.texts_iff shown, agree.failure_iff, agree.page_cases⟩
  · intro unasked method shows
    have agree : Agree call _ _ page reply := list_agrees unasked method
    have iff := agree.texts_iff (@Json.render_member_inj [] "components" [])
    refine ⟨iff, (iff _).mpr ?_⟩
    simp only [reply, Rpc.respond, Rpc.result, method]
    rfl

theorem administration_agrees_idle :
    let id := "flowgate.executor:name=executorManager"
    let name := "NumRunningFlows"
    ∃ c tree call, Composed c ∧
      Rpc.twoTexts "component" "attribute" call.params = .ok (id, name) ∧
      ∃ result, Rpc.respond c tree call = answer call result ∧
        result.render = (Attribute.int 0).toJson.render := by
  intro id name
  let tree : FileTree := ⟨[(["plugins"], .directory)], []⟩
  let request : Request :=
    ⟨"", (Dictionary.empty.insert "component" id).insert "attribute" name, none⟩
  let host := (ofSettings ⟨⟨.empty, none⟩, []⟩).after [.start tree]
  have seen : host.context.map (Route.dispatch · tree "/jmx" request) =
      some (.json (Json.object [("attribute", .string name), ("component", .string id),
        ("value", (Attribute.int 0).toJson)]).render) := by
    decide +kernel
  obtain ⟨c, composed, shown⟩ := Option.map_eq_some_iff.mp seen
  have asked : request.param? "component" = some id := by decide +kernel
  have named : request.param? "attribute" = some name := by decide +kernel
  obtain ⟨agree, writable, -⟩ := administration_agrees
  obtain ⟨params, given⟩ := writable id name
  obtain ⟨found, -⟩ :=
    (agree c tree request ⟨.number 1, "mgmt.query", params⟩).1 id name asked named rfl given
  exact ⟨c, tree, _, ⟨_, _, _, [.start tree], composed⟩, given, (found _).mp shown⟩

end Server

end ViewerHost
