import Mathlib.Data.List.Induction
import Mathlib.Data.List.Nodup
import ViewerHost.Management.Bridge
import ViewerHost.Proofs.Outcome

/-!
Runs of registrations and removals. What is registered after a run is what its steps entered and no
later step took out, in the order in which it was entered. The identifier of a component tells its
kind and its name apart, because no name holds a character of the separator that ends in `=`.
-/

namespace ViewerHost

namespace ComponentId

variable {kind kind' name name' : String}

theorem takeWhile_reverse_of (kind : String) (plain : '=' ∉ name.toList) :
    (of kind name).text.toList.reverse.takeWhile (· != '=') = name.toList.reverse := by
  have whole : ∀ c ∈ name.toList.reverse, (c != '=') = true := by
    intro c member
    have other : c ≠ '=' := fun same => plain (same ▸ List.mem_reverse.mp member)
    simpa using other
  have split : (of kind name).text.toList.reverse =
      name.toList.reverse ++ '=' :: (kind ++ ":name").toList.reverse := by
    simp [of, separator]
  rw [split, List.takeWhile_append_of_pos whole]
  simp

/-- Whatever the kinds hold, the name is what follows the last `=`. -/
theorem of_inj (plain : '=' ∉ name.toList) (plain' : '=' ∉ name'.toList) :
    of kind name = of kind' name' ↔ kind = kind' ∧ name = name' := by
  constructor
  · intro same
    have reversed : name.toList.reverse = name'.toList.reverse := by
      rw [← takeWhile_reverse_of kind plain, same, takeWhile_reverse_of kind' plain']
    have names : name = name' := String.toList_inj.mp (List.reverse_injective reversed)
    subst names
    have texts := congrArg (fun id => id.text.toList) same
    simp only [of, String.toList_append, List.append_assoc] at texts
    exact ⟨String.toList_inj.mp (List.append_cancel_right texts), rfl⟩
  · intro same
    rw [same.1, same.2]

end ComponentId

inductive BridgeCall (σ : Type) where
  | register (name : String) (component : Component σ)
  | tryRegister (name : String) (component : Component σ)
  | unregister (id : ComponentId)
  | unregisterAll

inductive BridgeAnswer where
  | registered (id? : Option ComponentId)
  | tried (outcome : Except ManagementError ComponentId)
  | unregistered (outcome : Except ManagementError Unit)
  | cleared (failures : List ManagementError)

structure BridgeStep (σ : Type) where
  call : BridgeCall σ
  answer : BridgeAnswer

structure Entered (σ : Type) where
  name : String
  component : Component σ

namespace Entered

variable {σ : Type}

def id (e : Entered σ) : ComponentId := .of e.component.kind e.name

def registration (e : Entered σ) : Registration σ := ⟨e.id, e.component⟩

end Entered

inductive BridgeAnswer.Fails : BridgeAnswer → Prop where
  | registered : Fails (.registered none)
  | tried (cause : ManagementError) : Fails (.tried (.error cause))
  | unregistered (cause : ManagementError) : Fails (.unregistered (.error cause))

namespace BridgeStep

variable {σ : Type}

def entered? (step : BridgeStep σ) : Option (Entered σ) :=
  match step.call, step.answer with
  | .register name component, .registered (some _) => some ⟨name, component⟩
  | .tryRegister name component, .tried (.ok _) => some ⟨name, component⟩
  | _, _ => none

def removes (step : BridgeStep σ) (id : ComponentId) : Bool :=
  match step.call, step.answer with
  | .unregister other, .unregistered (.ok ()) => id == other
  | .unregister other, .unregistered (.error (.releaseFailed _ _)) => id == other
  | .unregisterAll, .cleared _ => true
  | _, _ => false

variable {step : BridgeStep σ}

theorem entered?_of_fails (failed : step.answer.Fails) : step.entered? = none := by
  obtain ⟨call, answer⟩ := step
  cases failed with
  | registered => cases call <;> rfl
  | tried cause => cases call <;> rfl
  | unregistered cause => cases call <;> rfl

theorem removes_of_fails (failed : step.answer.Fails)
    (released : ∀ id reason, step.answer ≠ .unregistered (.error (.releaseFailed id reason)))
    (id : ComponentId) : step.removes id = false := by
  obtain ⟨call, answer⟩ := step
  cases failed with
  | registered => cases call <;> rfl
  | tried cause => cases call <;> rfl
  | unregistered cause =>
      cases cause with
      | releaseFailed other reason => exact absurd rfl (released other reason)
      | _ => cases call <;> rfl

end BridgeStep

namespace BridgeLog

variable {σ : Type}

/-- What the steps entered and none of the later ones removed, the first one in front. -/
def standing : List (BridgeStep σ) → List (Entered σ)
  | [] => []
  | step :: later =>
    (step.entered?.filter fun e => !later.any fun next => next.removes e.id).toList ++
      standing later

theorem standing_append (log : List (BridgeStep σ)) (step : BridgeStep σ) :
    standing (log ++ [step]) =
      (standing log).filter (fun e => !step.removes e.id) ++ step.entered?.toList := by
  induction log with
  | nil =>
      cases last : step.entered? with
      | none => simp [standing, last]
      | some e => simp [standing, last, Option.filter]
  | cons first log ih =>
      rw [List.cons_append, standing, ih, standing, List.filter_append, List.append_assoc]
      congr 1
      cases first.entered? with
      | none => rfl
      | some e =>
          by_cases gone : log.any (fun next => next.removes e.id) = true
          · simp [gone, Option.filter]
          · by_cases taken : step.removes e.id = true
            · simp [gone, taken, Option.filter]
            · simp [gone, taken, Option.filter]

end BridgeLog

namespace Bridge

open BridgeLog

variable {σ : Type} {b : Bridge σ} {log : List (BridgeStep σ)} {r : Registration σ}
  {id : ComponentId} {name shown : String} {component : Component σ} {cause : ManagementError}

/-! ## One operation -/

def Malformed (name : String) : Prop :=
  name = "" ∨ ':' ∈ name.toList ∨ ',' ∈ name.toList ∨ '=' ∈ name.toList

theorem isValidName_eq_true_iff : isValidName name = true ↔ ¬Malformed name := by
  simp only [isValidName, Malformed, Bool.and_eq_true, List.all_eq_true, Bool.not_eq_true',
    bne_iff_ne, ne_eq, not_or]
  constructor
  · intro valid
    have plain := valid.2
    refine ⟨?_, ?_, ?_, ?_⟩
    · intro empty
      simp [empty] at valid
    · intro member
      exact (plain _ member).1.1 rfl
    · intro member
      exact (plain _ member).1.2 rfl
    · intro member
      exact (plain _ member).2 rfl
  · intro plain
    obtain ⟨nonempty, colon, comma, equals⟩ := plain
    constructor
    · simpa using nonempty
    · intro c member
      refine ⟨⟨?_, ?_⟩, ?_⟩
      · intro same
        exact colon (same ▸ member)
      · intro same
        exact comma (same ▸ member)
      · intro same
        exact equals (same ▸ member)

theorem mem_list_iff : id ∈ b.list ↔ ∃ component, ⟨id, component⟩ ∈ b.registrations := by
  constructor
  · intro listed
    obtain ⟨r, member, same⟩ := List.mem_map.mp listed
    subst same
    exact ⟨r.component, member⟩
  · intro registered
    obtain ⟨component, member⟩ := registered
    exact List.mem_map.mpr ⟨_, member, rfl⟩

theorem find?_eq_none_iff : b.find? id = none ↔ id ∉ b.list := by
  simp [find?, list]

theorem find?_eq_some_iff (distinct : b.list.Nodup) :
    b.find? id = some r ↔ r ∈ b.registrations ∧ r.id = id := by
  constructor
  · intro found
    exact ⟨List.mem_of_find?_eq_some found, by simpa using List.find?_some found⟩
  · intro registered
    obtain ⟨member, same⟩ := registered
    subst same
    cases found : b.find? r.id with
    | none =>
        have listed : r.id ∈ b.list := List.mem_map.mpr ⟨r, member, rfl⟩
        exact absurd listed (find?_eq_none_iff.mp found)
    | some r' =>
        have member' := List.mem_of_find?_eq_some found
        have same : r'.id = r.id := by simpa using List.find?_some found
        rw [List.inj_on_of_nodup_map distinct member' member same]

theorem contains_iff : b.contains id = true ↔ id ∈ b.list := by
  rw [contains, ← Bool.not_eq_false, Option.isSome_eq_false_iff, Option.isNone_iff_eq_none,
    find?_eq_none_iff, not_not]

theorem remove_eq_filter (distinct : b.list.Nodup) :
    b.remove id = ⟨b.registrations.filter (·.id != id)⟩ := by
  obtain ⟨registrations⟩ := b
  rw [remove]
  congr 1
  induction registrations with
  | nil => rfl
  | cons r rest ih =>
      obtain ⟨unused, distinct⟩ := List.nodup_cons.mp distinct
      by_cases same : r.id = id
      · have others : ∀ r' ∈ rest, (r'.id != id) = true := by
          intro r' member
          rw [bne_iff_ne]
          intro same'
          exact unused (List.mem_map.mpr ⟨r', member, same'.trans same.symm⟩)
        rw [List.eraseP_cons_of_pos (by simp [same]), List.filter_cons_of_neg (by simp [same])]
        exact (List.filter_eq_self.mpr others).symm
      · rw [List.eraseP_cons_of_neg (by simp [same]), List.filter_cons_of_pos (by simp [same]),
          ih distinct]

theorem unregister_unknown (absent : id ∉ b.list) :
    b.unregister id = (b, .error (.unknownComponent id)) := by
  rw [unregister, find?_eq_none_iff.mpr absent]

theorem unregister_known (distinct : b.list.Nodup) (member : ⟨id, component⟩ ∈ b.registrations) :
    b.unregister id = (⟨b.registrations.filter (·.id != id)⟩,
      component.release.mapError (.releaseFailed id)) := by
  rw [unregister, (find?_eq_some_iff distinct).mpr ⟨member, rfl⟩]
  dsimp only
  rw [remove_eq_filter distinct, releaseError?]
  cases component.release with
  | ok done => rfl
  | error reason => rfl

theorem find?_head (r : Registration σ) (rest : List (Registration σ)) :
    (⟨r :: rest⟩ : Bridge σ).find? r.id = some r := by
  simp [find?]

theorem remove_head (r : Registration σ) (rest : List (Registration σ)) :
    (⟨r :: rest⟩ : Bridge σ).remove r.id = ⟨rest⟩ := by
  simp [remove]

theorem step_head (r : Registration σ) (rest : List (Registration σ)) (released : List ComponentId)
    (failures : List ManagementError) :
    Clearing.step ⟨⟨r :: rest⟩, released, failures⟩ r.id =
      ⟨⟨rest⟩, released ++ [r.id], failures ++ (releaseError? r).toList⟩ := by
  simp only [Clearing.step, unregister, contains, find?_head, remove_head, Option.isSome_some,
    if_true]
  cases releaseError? r with
  | none => simp
  | some e => simp

theorem foldl_step (registrations : List (Registration σ)) (released : List ComponentId)
    (failures : List ManagementError) :
    (registrations.map (·.id)).foldl Clearing.step ⟨⟨registrations⟩, released, failures⟩ =
      ⟨empty, released ++ registrations.map (·.id),
        failures ++ registrations.filterMap releaseError?⟩ := by
  induction registrations generalizing released failures with
  | nil => simp [empty]
  | cons r rest ih =>
      rw [List.map_cons, List.foldl_cons, step_head, ih, List.append_assoc, List.append_assoc,
        List.singleton_append, List.filterMap_cons]
      cases releaseError? r with
      | none => rfl
      | some e => rfl

theorem unregisterAll_eq (b : Bridge σ) :
    b.unregisterAll = ⟨empty, b.list, b.registrations.filterMap releaseError?⟩ :=
  foldl_step b.registrations [] []

theorem unregisterAll_bridge (b : Bridge σ) : b.unregisterAll.bridge = empty := by
  rw [unregisterAll_eq]

theorem unregisterAll_list (b : Bridge σ) : b.unregisterAll.bridge.list = [] := by
  rw [unregisterAll_bridge, list_empty]

theorem tryRegister_malformed (malformed : Malformed name) :
    b.tryRegister name component = .error (.invalidName name) := by
  have invalid : isValidName name = false := by
    rw [← Bool.not_eq_true, isValidName_eq_true_iff, not_not]
    exact malformed
  simp [tryRegister, invalid]

theorem tryRegister_taken (valid : ¬Malformed name)
    (taken : ComponentId.of component.kind name ∈ b.list) :
    b.tryRegister name component =
      .error (.alreadyRegistered (.of component.kind name)) := by
  simp [tryRegister, isValidName_eq_true_iff.mpr valid, contains_iff.mpr taken]

theorem tryRegister_free (valid : ¬Malformed name)
    (free : ComponentId.of component.kind name ∉ b.list) :
    b.tryRegister name component =
      .ok (.of component.kind name,
        ⟨b.registrations ++ [Entered.registration ⟨name, component⟩]⟩) := by
  have uncontained : b.contains (.of component.kind name) = false := by
    rw [← Bool.not_eq_true, contains_iff]
    exact free
  simp [tryRegister, isValidName_eq_true_iff.mpr valid, uncontained, Entered.registration,
    Entered.id]

theorem tryRegister_eq_error_iff :
    b.tryRegister name component = .error cause ↔
      Malformed name ∧ cause = .invalidName name ∨
      ¬Malformed name ∧ ComponentId.of component.kind name ∈ b.list ∧
        cause = .alreadyRegistered (.of component.kind name) := by
  by_cases malformed : Malformed name
  · rw [tryRegister_malformed malformed]
    simp [malformed, eq_comm]
  · by_cases taken : ComponentId.of component.kind name ∈ b.list
    · rw [tryRegister_taken malformed taken]
      simp [malformed, taken, eq_comm]
    · rw [tryRegister_free malformed taken]
      simp [malformed, taken]

theorem tryRegister_cases (b : Bridge σ) (name : String) (component : Component σ) :
    (∃ cause, b.tryRegister name component = .error cause) ∨
    (¬Malformed name ∧ ComponentId.of component.kind name ∉ b.list ∧
      b.tryRegister name component =
        .ok (.of component.kind name,
          ⟨b.registrations ++ [Entered.registration ⟨name, component⟩]⟩)) := by
  by_cases malformed : Malformed name
  · exact Or.inl ⟨_, tryRegister_malformed malformed⟩
  · by_cases taken : ComponentId.of component.kind name ∈ b.list
    · exact Or.inl ⟨_, tryRegister_taken malformed taken⟩
    · exact Or.inr ⟨malformed, taken, tryRegister_free malformed taken⟩

theorem component?_eq_ok_iff (distinct : b.list.Nodup) :
    b.component? id = .ok component ↔ ⟨id, component⟩ ∈ b.registrations := by
  unfold component?
  cases found : b.find? id with
  | none =>
      have absent := find?_eq_none_iff.mp found
      constructor
      · intro impossible
        cases impossible
      · intro member
        exact absurd (mem_list_iff.mpr ⟨component, member⟩) absent
  | some r =>
      obtain ⟨member, same⟩ := (find?_eq_some_iff distinct).mp found
      subst same
      constructor
      · intro answered
        cases answered
        exact member
      · intro member'
        have other := (find?_eq_some_iff distinct).mpr ⟨member', rfl⟩
        rw [found, Option.some_inj] at other
        rw [other]

theorem query_eq_ok_iff (distinct : b.list.Nodup) {state : σ} {value : Attribute} :
    b.query state id shown = .ok value ↔
      ∃ component, ⟨id, component⟩ ∈ b.registrations ∧ shown ∈ component.names ∧
        component.read state shown = some value := by
  rw [query, Outcome.bind_eq_ok_iff]
  apply exists_congr
  intro component
  rw [component?_eq_ok_iff distinct]
  apply and_congr_right
  intro member
  by_cases named : shown ∈ component.names
  · rw [if_pos (List.contains_iff_mem.mpr named)]
    cases component.read state shown with
    | none => simp
    | some read => simp [named]
  · rw [if_neg (mt List.contains_iff_mem.mp named)]
    simp [named]

/-! ## One call -/

def perform (b : Bridge σ) : BridgeCall σ → Bridge σ × BridgeAnswer
  | .register name component =>
    let (id?, after) := b.register name component
    (after, .registered id?)
  | .tryRegister name component =>
    match b.tryRegister name component with
    | .ok (id, after) => (after, .tried (.ok id))
    | .error cause => (b, .tried (.error cause))
  | .unregister id =>
    let (after, outcome) := b.unregister id
    (after, .unregistered outcome)
  | .unregisterAll =>
    let clearing := b.unregisterAll
    (clearing.bridge, .cleared clearing.failures)

def step (b : Bridge σ) (call : BridgeCall σ) : BridgeStep σ := ⟨call, (b.perform call).2⟩

theorem filter_unremoved {step : BridgeStep σ} (unremoved : ∀ id, step.removes id = false) :
    (⟨b.registrations.filter fun r => !step.removes r.id⟩ : Bridge σ) = b := by
  have all : ∀ r ∈ b.registrations, (!step.removes r.id) = true := by
    intro r member
    rw [unremoved, Bool.not_false]
  rw [List.filter_eq_self.mpr all]

theorem perform_register (b : Bridge σ) (name : String) (component : Component σ) :
    (b.step (.register name component)).entered? =
      (b.step (.tryRegister name component)).entered? ∧
    (b.perform (.register name component)).1 = (b.perform (.tryRegister name component)).1 := by
  cases outcome : b.tryRegister name component with
  | error cause => simp [step, perform, register, outcome, BridgeStep.entered?]
  | ok taken => simp [step, perform, register, outcome, BridgeStep.entered?]

theorem perform_tryRegister (b : Bridge σ) (name : String) (component : Component σ) :
    (∃ e, (b.step (.tryRegister name component)).entered? = some e ∧ ¬Malformed e.name ∧
      e.id ∉ b.list ∧
      (b.perform (.tryRegister name component)).1 = ⟨b.registrations ++ [e.registration]⟩) ∨
    ((b.step (.tryRegister name component)).entered? = none ∧
      (b.perform (.tryRegister name component)).1 = b) := by
  rcases b.tryRegister_cases name component with refused | ⟨valid, free, taken⟩
  · obtain ⟨cause, refused⟩ := refused
    apply Or.inr
    simp [step, perform, refused, BridgeStep.entered?]
  · refine Or.inl ⟨⟨name, component⟩, ?_, valid, free, ?_⟩
    · simp [step, perform, taken, BridgeStep.entered?]
    · simp [perform, taken]

/-- A call enters one component, whose identifier is new, or else it enters none. It keeps all that
it does not remove. -/
theorem perform_cases (distinct : b.list.Nodup) (call : BridgeCall σ) :
    (∃ e, (b.step call).entered? = some e ∧ (∀ id, (b.step call).removes id = false) ∧
      ¬Malformed e.name ∧ e.id ∉ b.list ∧
      (b.perform call).1 = ⟨b.registrations ++ [e.registration]⟩) ∨
    ((b.step call).entered? = none ∧
      (b.perform call).1 = ⟨b.registrations.filter fun r => !(b.step call).removes r.id⟩) := by
  cases call with
  | register name component =>
      have unremoved : ∀ id, (b.step (.register name component)).removes id = false := by
        intro id
        simp [step, BridgeStep.removes]
      obtain ⟨entered, after⟩ := b.perform_register name component
      rw [entered, after, filter_unremoved unremoved]
      rcases b.perform_tryRegister name component with ⟨e, entered, taken⟩ | same
      · exact Or.inl ⟨e, entered, unremoved, taken⟩
      · exact Or.inr same
  | tryRegister name component =>
      have unremoved : ∀ id, (b.step (.tryRegister name component)).removes id = false := by
        intro id
        simp [step, BridgeStep.removes]
      rw [filter_unremoved unremoved]
      rcases b.perform_tryRegister name component with ⟨e, entered, taken⟩ | same
      · exact Or.inl ⟨e, entered, unremoved, taken⟩
      · exact Or.inr same
  | unregister id =>
      refine Or.inr ⟨by simp [step, BridgeStep.entered?], ?_⟩
      by_cases listed : id ∈ b.list
      · obtain ⟨component, member⟩ := mem_list_iff.mp listed
        have removed := unregister_known distinct member
        have removes : ∀ other, (b.step (.unregister id)).removes other = (other == id) := by
          intro other
          rw [step, BridgeStep.removes, perform, removed]
          cases component.release with
          | ok done => rfl
          | error reason => rfl
        simp [perform, removed, removes, bne]
      · have refused := unregister_unknown listed
        have unremoved : ∀ other, (b.step (.unregister id)).removes other = false := by
          intro other
          simp [step, perform, refused, BridgeStep.removes]
        rw [filter_unremoved unremoved]
        simp [perform, refused]
  | unregisterAll =>
      refine Or.inr ⟨by simp [step, BridgeStep.entered?], ?_⟩
      simp [perform, unregisterAll_bridge, step, BridgeStep.removes, empty]

theorem perform_failed (distinct : b.list.Nodup) {call : BridgeCall σ}
    (failed : (b.perform call).2.Fails)
    (released : ∀ id reason,
      (b.perform call).2 ≠ .unregistered (.error (.releaseFailed id reason))) :
    (b.perform call).1 = b := by
  have failed' : (b.step call).answer.Fails := failed
  rcases b.perform_cases distinct call with ⟨e, entered, -⟩ | ⟨-, kept⟩
  · rw [BridgeStep.entered?_of_fails failed'] at entered
    cases entered
  · rw [kept]
    exact filter_unremoved (BridgeStep.removes_of_fails failed' released)

/-- The bridge holds what stands in the log, under distinct identifiers. -/
structure Agrees (log : List (BridgeStep σ)) (b : Bridge σ) : Prop where
  registrations : b.registrations = (standing log).map Entered.registration
  distinct : b.list.Nodup
  named : ∀ e ∈ standing log, ¬Malformed e.name

theorem Agrees.list_eq (agrees : Agrees log b) : b.list = (standing log).map Entered.id := by
  rw [list, agrees.registrations, List.map_map]
  rfl

theorem Agrees.mem_registrations (agrees : Agrees log b) :
    ⟨id, component⟩ ∈ b.registrations ↔
      ∃ e ∈ standing log, e.id = id ∧ e.component = component := by
  rw [agrees.registrations, List.mem_map]
  apply exists_congr
  intro e
  apply and_congr_right
  intro member
  rw [Entered.registration, Registration.mk.injEq]

theorem Agrees.taken_iff (agrees : Agrees log b) (valid : ¬Malformed name) :
    ComponentId.of component.kind name ∈ b.list ↔
      ∃ e ∈ standing log, e.component.kind = component.kind ∧ e.name = name := by
  have plain : ∀ {name}, ¬Malformed name → '=' ∉ name.toList := by
    intro name valid member
    exact valid (Or.inr (Or.inr (Or.inr member)))
  rw [agrees.list_eq, List.mem_map]
  apply exists_congr
  intro e
  apply and_congr_right
  intro member
  exact ComponentId.of_inj (plain (agrees.named e member)) (plain valid)

theorem Agrees.perform (agrees : Agrees log b) (call : BridgeCall σ) :
    Agrees (log ++ [b.step call]) (b.perform call).1 := by
  rcases b.perform_cases agrees.distinct call with
    ⟨e, entered, unremoved, valid, free, after⟩ | ⟨entered, after⟩
  · have stands : standing (log ++ [b.step call]) = standing log ++ [e] := by
      have all : ∀ e ∈ standing log, (!(b.step call).removes e.id) = true := by
        intro e member
        rw [unremoved, Bool.not_false]
      rw [standing_append, entered, List.filter_eq_self.mpr all]
      rfl
    constructor
    · rw [after, stands, agrees.registrations, List.map_append]
      rfl
    · have listed : (b.perform call).1.list = b.list ++ [e.id] := by
        rw [after, list, List.map_append]
        rfl
      rw [listed, ← List.concat_eq_append]
      exact agrees.distinct.concat free
    · intro e' member
      rw [stands] at member
      rcases List.mem_append.mp member with old | new
      · exact agrees.named e' old
      · rw [List.mem_singleton.mp new]
        exact valid
  · have stands : standing (log ++ [b.step call]) =
        (standing log).filter fun e => !(b.step call).removes e.id := by
      rw [standing_append, entered, Option.toList_none, List.append_nil]
    constructor
    · rw [after, stands, agrees.registrations, List.filter_map]
      rfl
    · rw [after]
      exact agrees.distinct.sublist (List.filter_sublist.map _)
    · intro e member
      rw [stands] at member
      exact agrees.named e (List.mem_of_mem_filter member)

end Bridge

/-! ## A run of calls -/

structure BridgeHistory (σ : Type) where
  bridge : Bridge σ
  log : List (BridgeStep σ)

namespace BridgeHistory

open BridgeLog Bridge

variable {σ : Type}

def next (h : BridgeHistory σ) (call : BridgeCall σ) : BridgeHistory σ :=
  ⟨(h.bridge.perform call).1, h.log ++ [h.bridge.step call]⟩

def run (calls : List (BridgeCall σ)) : BridgeHistory σ := calls.foldl next ⟨.empty, []⟩

theorem agrees_run (calls : List (BridgeCall σ)) : Agrees (run calls).log (run calls).bridge := by
  induction calls using List.reverseRecOn with
  | nil => exact ⟨rfl, List.nodup_nil, by simp [run, standing]⟩
  | append_singleton calls call ih =>
      rw [run, List.foldl_append]
      exact ih.perform call

/-- After any calls the bridge lists what was registered and not taken out since, each component once
and in the order of the registrations. Names are refused for the characters that they hold, and then
for a component of the same kind and name. A call that fails changes nothing, but a component that
is taken out is out however its release ends. An attribute is read of the component that stands under
the identifier, and only where the component names it. -/
theorem registrations_accounted (calls : List (BridgeCall σ)) :
    let h := run calls
    (h.bridge.list = (standing h.log).map Entered.id ∧ h.bridge.list.Nodup) ∧
    (∀ name component cause, h.bridge.tryRegister name component = .error cause ↔
      Malformed name ∧ cause = .invalidName name ∨
      ¬Malformed name ∧
        (∃ e ∈ standing h.log, e.component.kind = component.kind ∧ e.name = name) ∧
        cause = .alreadyRegistered (.of component.kind name)) ∧
    (∀ call, (h.bridge.perform call).2.Fails →
      (∀ id reason, (h.bridge.perform call).2 ≠ .unregistered (.error (.releaseFailed id reason))) →
      (h.bridge.perform call).1 = h.bridge) ∧
    (∀ id, id ∉ h.bridge.list →
      h.bridge.unregister id = (h.bridge, .error (.unknownComponent id))) ∧
    (∀ e ∈ standing h.log,
      h.bridge.unregister e.id = (⟨h.bridge.registrations.filter (·.id != e.id)⟩,
        e.component.release.mapError (.releaseFailed e.id))) ∧
    ∀ state id shown value, h.bridge.query state id shown = .ok value ↔
      ∃ e ∈ standing h.log, e.id = id ∧ shown ∈ e.component.names ∧
        e.component.read state shown = some value := by
  intro h
  have agrees : Agrees h.log h.bridge := agrees_run calls
  refine ⟨⟨agrees.list_eq, agrees.distinct⟩, ?_, ?_, ?_, ?_, ?_⟩
  · intro name component cause
    rw [tryRegister_eq_error_iff]
    apply or_congr_right
    apply and_congr_right
    intro valid
    rw [agrees.taken_iff valid]
  · intro call failed released
    exact perform_failed agrees.distinct failed released
  · intro id absent
    exact unregister_unknown absent
  · intro e member
    exact unregister_known agrees.distinct (agrees.mem_registrations.mpr ⟨e, member, rfl, rfl⟩)
  · intro state id shown value
    rw [query_eq_ok_iff agrees.distinct]
    constructor
    · intro answered
      obtain ⟨component, member, named, read⟩ := answered
      obtain ⟨e, stands, same, same'⟩ := agrees.mem_registrations.mp member
      subst same'
      exact ⟨e, stands, same, named, read⟩
    · intro answered
      obtain ⟨e, stands, same, named, read⟩ := answered
      exact ⟨e.component, agrees.mem_registrations.mpr ⟨e, stands, same, rfl⟩, named, read⟩

end BridgeHistory

end ViewerHost
