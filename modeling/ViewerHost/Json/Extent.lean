import ViewerHost.Json.Reader

namespace ViewerHost.Json

theorem length_skipSpace_le (cs : List Char) : (skipSpace cs).length ≤ cs.length :=
  (List.dropWhile_suffix isSpace).length_le

def afterDigits? (cs : List Char) : Option (List Char) :=
  if startsWithDigit cs then some (cs.dropWhile Char.isDigit) else none

theorem length_of_afterDigits? {cs rest : List Char} (h : afterDigits? cs = some rest) :
    rest.length < cs.length := by
  match cs with
  | [] => simp [afterDigits?, startsWithDigit] at h
  | c :: cs =>
    by_cases digit : c.isDigit = true
    · rw [afterDigits?, startsWithDigit, if_pos digit, List.dropWhile_cons_of_pos digit] at h
      obtain rfl := Option.some.inj h
      exact Nat.lt_succ_of_le (List.dropWhile_suffix Char.isDigit).length_le
    · rw [afterDigits?, startsWithDigit, if_neg digit] at h
      cases h

def afterFraction? : List Char → Option (List Char)
  | '.' :: rest => afterDigits? rest
  | rest => some rest

def withoutSign : List Char → List Char
  | '+' :: rest => rest
  | '-' :: rest => rest
  | rest => rest

def afterExponent? : List Char → Option (List Char)
  | 'e' :: rest => afterDigits? (withoutSign rest)
  | 'E' :: rest => afterDigits? (withoutSign rest)
  | rest => some rest

def afterWhole? : List Char → Option (List Char)
  | '0' :: rest => if startsWithDigit rest then none else some rest
  | rest => afterDigits? rest

def afterUnsigned? (cs : List Char) : Option (List Char) :=
  ((afterWhole? cs).bind afterFraction?).bind afterExponent?

def afterNumber? : List Char → Option (List Char)
  | '-' :: rest => afterUnsigned? rest
  | rest => afterUnsigned? rest

theorem length_of_afterFraction? {cs rest : List Char} (h : afterFraction? cs = some rest) :
    rest.length ≤ cs.length := by
  unfold afterFraction? at h
  split at h
  · have := length_of_afterDigits? h
    simp only [List.length_cons]
    omega
  · simp_all

theorem length_withoutSign_le (cs : List Char) : (withoutSign cs).length ≤ cs.length := by
  unfold withoutSign
  split <;> simp

theorem length_of_afterExponent? {cs rest : List Char} (h : afterExponent? cs = some rest) :
    rest.length ≤ cs.length := by
  unfold afterExponent? at h
  split at h
  · rename_i inner
    have := length_of_afterDigits? h
    have := length_withoutSign_le inner
    simp only [List.length_cons]
    omega
  · rename_i inner
    have := length_of_afterDigits? h
    have := length_withoutSign_le inner
    simp only [List.length_cons]
    omega
  · simp_all

theorem length_of_afterWhole? {cs rest : List Char} (h : afterWhole? cs = some rest) :
    rest.length < cs.length := by
  unfold afterWhole? at h
  split at h
  · split at h <;> simp_all
  · exact length_of_afterDigits? h

theorem length_of_afterUnsigned? {cs rest : List Char} (h : afterUnsigned? cs = some rest) :
    rest.length < cs.length := by
  obtain ⟨mid, h, last⟩ := Option.bind_eq_some_iff.1 h
  obtain ⟨first, h, next⟩ := Option.bind_eq_some_iff.1 h
  have := length_of_afterWhole? h
  have := length_of_afterFraction? next
  have := length_of_afterExponent? last
  omega

theorem length_of_afterNumber? {cs rest : List Char} (h : afterNumber? cs = some rest) :
    rest.length < cs.length := by
  unfold afterNumber? at h
  split at h
  · have := length_of_afterUnsigned? h
    simp only [List.length_cons]
    omega
  · exact length_of_afterUnsigned? h

def isEscapable (c : Char) : Bool :=
  c == '"' || c == '\\' || c == '/' || c == 'b' || c == 'f' || c == 'n' || c == 'r' || c == 't'

def afterText? : List Char → Option (List Char)
  | [] => none
  | '"' :: rest => some rest
  | '\\' :: 'u' :: a :: b :: c :: d :: rest =>
    if [a, b, c, d].all fun c => (hexDigit? c).isSome then afterText? rest else none
  | '\\' :: c :: rest => if isEscapable c then afterText? rest else none
  | c :: rest => if c.val < 0x20 then none else afterText? rest

theorem length_of_afterText? {cs rest : List Char} (h : afterText? cs = some rest) :
    rest.length < cs.length := by
  fun_induction afterText? cs with
  | case1 => simp at h
  | case2 => simp_all
  | case3 _ _ _ _ _ _ ih => have := ih h; simp only [List.length_cons]; omega
  | case4 => simp at h
  | case5 _ _ _ _ ih => have := ih h; simp only [List.length_cons]; omega
  | case6 => simp at h
  | case7 => simp at h
  | case8 _ _ _ _ _ _ ih => have := ih h; simp only [List.length_cons]; omega

def afterScalar? : List Char → Option (List Char)
  | 'n' :: 'u' :: 'l' :: 'l' :: rest => some rest
  | 't' :: 'r' :: 'u' :: 'e' :: rest => some rest
  | 'f' :: 'a' :: 'l' :: 's' :: 'e' :: rest => some rest
  | '"' :: rest => afterText? rest
  | rest => afterNumber? rest

theorem length_of_afterScalar? {cs rest : List Char} (h : afterScalar? cs = some rest) :
    rest.length < cs.length := by
  unfold afterScalar? at h
  split at h
  · obtain rfl := Option.some.inj h; simp only [List.length_cons]; omega
  · obtain rfl := Option.some.inj h; simp only [List.length_cons]; omega
  · obtain rfl := Option.some.inj h; simp only [List.length_cons]; omega
  · have := length_of_afterText? h; simp only [List.length_cons]; omega
  · exact length_of_afterNumber? h

inductive Container where
  | list
  | object
deriving DecidableEq, Repr

namespace Container

def closing : Container → Char
  | list => ']'
  | object => '\x7d'

end Container

inductive Expected where
  | value
  | member
  | separator
deriving DecidableEq, Repr

structure Walk where
  expected : Expected
  inside : List Container
  rest : List Char
deriving DecidableEq, Repr

namespace Walk

def enter (container : Container) (first : Expected) (w : Walk) (rest : List Char) : Walk :=
  match skipSpace rest with
  | c :: after =>
    if c = container.closing then ⟨.separator, w.inside, after⟩
    else ⟨first, container :: w.inside, c :: after⟩
  | [] => ⟨first, container :: w.inside, []⟩

theorem length_enter_le (container : Container) (first : Expected) (w : Walk) (rest : List Char) :
    (w.enter container first rest).rest.length ≤ rest.length := by
  have := length_skipSpace_le rest
  unfold enter
  split
  · rename_i h
    rw [h, List.length_cons] at this
    split
    · simp only; omega
    · simp only [List.length_cons]; omega
  · simp

def stepValue (w : Walk) : Option Walk :=
  match skipSpace w.rest with
  | '[' :: rest => some (w.enter .list .value rest)
  | '\x7b' :: rest => some (w.enter .object .member rest)
  | rest => (afterScalar? rest).map fun after => ⟨.separator, w.inside, after⟩

def stepMember (w : Walk) : Option Walk :=
  match skipSpace w.rest with
  | '"' :: rest =>
    match (afterText? rest).map skipSpace with
    | some (':' :: rest) => some ⟨.value, w.inside, rest⟩
    | _ => none
  | _ => none

def stepSeparator (w : Walk) (container : Container) (outer : List Container) : Option Walk :=
  match skipSpace w.rest with
  | c :: rest =>
    if c = ',' then
      some ⟨if container = .list then .value else .member, container :: outer, rest⟩
    else if c = container.closing then some ⟨.separator, outer, rest⟩
    else none
  | [] => none

theorem length_stepValue {w next : Walk} (h : w.stepValue = some next) :
    next.rest.length < w.rest.length := by
  have le := length_skipSpace_le w.rest
  unfold stepValue at h
  split at h
  · rename_i rest eq
    obtain rfl := Option.some.inj h
    have := w.length_enter_le .list .value rest
    rw [eq, List.length_cons] at le
    omega
  · rename_i rest eq
    obtain rfl := Option.some.inj h
    have := w.length_enter_le .object .member rest
    rw [eq, List.length_cons] at le
    omega
  · obtain ⟨after, scalar, rfl⟩ := Option.map_eq_some_iff.1 h
    have := length_of_afterScalar? scalar
    simp only
    omega

theorem length_stepMember {w next : Walk} (h : w.stepMember = some next) :
    next.rest.length < w.rest.length := by
  have le := length_skipSpace_le w.rest
  unfold stepMember at h
  split at h
  · rename_i rest eq
    rw [eq, List.length_cons] at le
    split at h
    · rename_i inner eq
      obtain ⟨after, text, eq⟩ := Option.map_eq_some_iff.1 eq
      have := length_of_afterText? text
      have le := length_skipSpace_le after
      rw [eq, List.length_cons] at le
      obtain rfl := Option.some.inj h
      simp only
      omega
    · simp at h
  · simp at h

theorem length_stepSeparator {w next : Walk} {container : Container} {outer : List Container}
    (h : w.stepSeparator container outer = some next) : next.rest.length < w.rest.length := by
  have le := length_skipSpace_le w.rest
  unfold stepSeparator at h
  split at h
  · rename_i eq
    rw [eq, List.length_cons] at le
    split at h
    · obtain rfl := Option.some.inj h; simp only; omega
    · split at h
      · obtain rfl := Option.some.inj h; simp only; omega
      · simp at h
  · simp at h

def finish? (w : Walk) : Option (List Char) :=
  match w.expected, w.inside with
  | .value, _ =>
    match _h : w.stepValue with
    | none => none
    | some next => next.finish?
  | .member, _ =>
    match _h : w.stepMember with
    | none => none
    | some next => next.finish?
  | .separator, [] => some w.rest
  | .separator, container :: outer =>
    match _h : w.stepSeparator container outer with
    | none => none
    | some next => next.finish?
termination_by w.rest.length
decreasing_by
  · exact length_stepValue _h
  · exact length_stepMember _h
  · exact length_stepSeparator _h

end Walk

def afterValue? (cs : List Char) : Option (List Char) := Walk.finish? ⟨.value, [], cs⟩

def source? (cs : List Char) : Option (List Char × List Char) :=
  let cs := skipSpace cs
  (afterValue? cs).map fun rest => (cs.take (cs.length - rest.length), rest)

end ViewerHost.Json
