import ViewerHost.Proofs.Management.Registrations
import ViewerHost.Proofs.Text.Pieces

namespace ViewerHost

open Text

namespace ComponentId

variable {kind name before behind : String}

theorem toList_of (kind name : String) :
    (of kind name).text.toList = kind.toList ++ (separator.toList ++ name.toList) := by
  simp [of, List.append_assoc]

theorem name_of (absent : ¬separator.toList <:+: kind.toList) : (of kind name).name = name := by
  have first : cutAt? separator.toList (of kind name).text.toList =
      some (kind.toList, name.toList) := by
    rw [toList_of]
    exact cutAt?_first (by decide) absent
  unfold ComponentId.name
  rw [first]
  exact String.ofList_toList

theorem of_cut (before behind name : String) :
    of (before ++ separator ++ behind) name = of before (behind ++ separator ++ name) := by
  simp only [of, String.append_assoc]

theorem name_of_cut (absent : ¬separator.toList <:+: before.toList) :
    (of (before ++ separator ++ behind) name).name = behind ++ separator ++ name := by
  rw [of_cut, name_of absent]

theorem exists_cut (inside : separator.toList <:+: kind.toList) :
    ∃ before behind, kind = before ++ separator ++ behind ∧
      ¬separator.toList <:+: before.toList := by
  obtain ⟨front, back, split, first⟩ := exists_first inside (by decide)
  refine ⟨String.ofList front, String.ofList back, ?_, by rwa [String.toList_ofList]⟩
  rw [← String.toList_inj, split]
  simp

theorem name_of_iff : (of kind name).name = name ↔ ¬separator.toList <:+: kind.toList := by
  refine ⟨?_, name_of⟩
  intro same inside
  obtain ⟨before, behind, rfl, absent⟩ := exists_cut inside
  rw [name_of_cut absent] at same
  have lengths := congrArg String.length same
  have marked : separator.length = 6 := rfl
  simp only [String.length_append] at lengths
  omega

end ComponentId

namespace Bridge

open ComponentId

variable {σ : Type}

theorem id_of_tryRegister {b after : Bridge σ} {name : String} {component : Component σ}
    {id : ComponentId} (accepted : b.tryRegister name component = .ok (id, after)) :
    id = .of component.kind name := by
  rcases tryRegister_cases b name component with ⟨cause, refused⟩ | ⟨-, -, free⟩
  · rw [refused] at accepted
    cases accepted
  · rw [free] at accepted
    cases accepted
    rfl

/-- The identifier of a component gives back the name that it was registered with exactly when its
kind holds no separator. Otherwise it gives what follows the first separator of the kind, the
separator behind the kind and the name. -/
theorem registered_name_given_back (b : Bridge σ) (name : String) (component : Component σ)
    (id : ComponentId) (after : Bridge σ)
    (accepted : b.tryRegister name component = .ok (id, after)) :
    (id.name = name ↔ ¬separator.toList <:+: component.kind.toList) ∧
    ∀ before behind, component.kind = before ++ separator ++ behind →
      ¬separator.toList <:+: before.toList → id.name = behind ++ separator ++ name := by
  obtain rfl := id_of_tryRegister accepted
  refine ⟨name_of_iff, ?_⟩
  intro before behind split absent
  rw [split, name_of_cut absent]

def silent (kind : String) : Component Unit := ⟨kind, [], fun _ _ => none, .ok ()⟩

def counters : Bridge Unit := ⟨[⟨.of "test.counter" "a", silent "test.counter"⟩]⟩

theorem registered_name_given_back_colon :
    ∃ after, counters.tryRegister "b" (silent "test:name") =
      .ok (.of "test:name" "b", after) ∧ (ComponentId.of "test:name" "b").name = "b" := by
  have valid : ¬Malformed "b" := isValidName_eq_true_iff.mp (by decide +kernel)
  have free : ComponentId.of "test:name" "b" ∉ counters.list := by decide +kernel
  obtain ⟨after, accepted⟩ : ∃ after, counters.tryRegister "b" (silent "test:name") =
      .ok (.of "test:name" "b", after) := ⟨_, tryRegister_free valid free⟩
  have plain : ¬ComponentId.separator.toList <:+: (silent "test:name").kind.toList := by
    decide +kernel
  refine ⟨after, accepted, ?_⟩
  exact (registered_name_given_back _ _ _ _ _ accepted).1.mpr plain

theorem registered_name_changed :
    ∃ after, (empty : Bridge Unit).tryRegister "c" (silent "a:name=b") =
      .ok (.of "a:name=b" "c", after) ∧ (ComponentId.of "a:name=b" "c").name = "b:name=c" ∧
      (ComponentId.of "a:name=b" "c").name ≠ "c" := by
  have valid : ¬Malformed "c" := isValidName_eq_true_iff.mp (by decide +kernel)
  have free : ComponentId.of "a:name=b" "c" ∉ (empty : Bridge Unit).list := List.not_mem_nil
  refine ⟨_, tryRegister_free valid free, ?_, ?_⟩
  · decide +kernel
  · decide +kernel

end Bridge

end ViewerHost
