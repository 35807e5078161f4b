import ViewerHost.Json.Reader
import ViewerHost.Json.Writer
import ViewerHost.Proofs.Text.Pieces

namespace ViewerHost.Json

variable {c : Char} {cs after : List Char}

theorem hexDigit?_hexChar : ∀ n < 16, hexDigit? (hexChar n) = some n := by
  decide

theorem unicode?_control (control : c.toNat < 0x20) (rest : List Char) :
    unicode? ('0' :: '0' :: hexChar (c.toNat / 16) :: hexChar (c.toNat % 16) :: rest) =
      some (c, rest) := by
  have zero : hexDigit? '0' = some 0 := rfl
  have high := hexDigit?_hexChar (c.toNat / 16) (by omega)
  have low := hexDigit?_hexChar (c.toNat % 16) (by omega)
  have number : ((0 * 16 + 0) * 16 + c.toNat / 16) * 16 + c.toNat % 16 = c.toNat := by omega
  have unit : hexUnit? ('0' :: '0' :: hexChar (c.toNat / 16) :: hexChar (c.toNat % 16) :: rest) =
      some (c.toNat, rest) := by
    simp only [hexUnit?, zero, high, low, Option.bind_eq_bind, Option.bind_some, number]
  have single : isLowSurrogate c.toNat = false ∧ isHighSurrogate c.toNat = false := by
    simp only [isLowSurrogate, isHighSurrogate, Bool.and_eq_false_iff, decide_eq_false_iff_not]
    omega
  simp [unicode?, unit, single]

theorem characters?_escape (read : escape? cs = some (c, after))
    (shorter : after.length < cs.length) :
    characters? ('\\' :: cs) = (characters? after).map fun (body, final) => (c :: body, final) := by
  rw [characters?, read]
  simp only [shorter, dif_pos]

theorem characters?_plain (quote : c ≠ '"') (backslash : c ≠ '\\') (plain : ¬c.toNat < 0x20)
    (rest : List Char) :
    characters? (c :: rest) = (characters? rest).map fun (body, final) => (c :: body, final) := by
  have visible : ¬c.val < 0x20 := plain
  rw [characters?]
  · rw [if_neg visible]
  · exact quote
  · exact backslash

theorem characters?_escaped (c : Char) (rest : List Char) :
    characters? (escaped c ++ rest) =
      (characters? rest).map fun (body, final) => (c :: body, final) := by
  unfold escaped
  -- Seven characters have an escape of their own.
  iterate 7
    split
    · rename_i same
      subst same
      exact characters?_escape rfl (by simp)
  split
  · rename_i control
    exact characters?_escape (unicode?_control control rest) (by simp; omega)
  · rename_i quote backslash _ _ _ _ _ plain
    exact characters?_plain quote backslash plain rest

theorem characters?_flatMap (cs rest : List Char) :
    characters? (cs.flatMap escaped ++ '"' :: rest) = some (cs, rest) := by
  induction cs with
  | nil => rw [List.flatMap_nil, List.nil_append, characters?]
  | cons c cs ih =>
      rw [List.flatMap_cons, List.append_assoc, characters?_escaped, ih, Option.map_some]

theorem toList_quoted (s : String) :
    (quoted s).toList = '"' :: (s.toList.flatMap escaped ++ ['"']) := by
  simp [quoted]

theorem text?_quoted (s : String) (rest : List Char) :
    text? ((quoted s).toList ++ rest) = some (s, rest) := by
  rw [toList_quoted, List.cons_append, List.append_assoc, text?]
  simp [characters?_flatMap]

theorem skipSpace_quote (cs : List Char) : skipSpace ('"' :: cs) = '"' :: cs := rfl

theorem value?_quoted (nesting : Nat) (s : String) (rest : List Char) :
    value? nesting ((quoted s).toList ++ rest) = some (.string s, rest) := by
  have read := text?_quoted s rest
  rw [toList_quoted, List.cons_append] at read ⊢
  unfold value?
  simp only [skipSpace_quote, read, Option.map_some]

theorem renderItems_eq_map (items : List Json) : renderItems items = items.map render := by
  induction items with
  | nil => rfl
  | cons item items ih => rw [renderItems, ih, List.map_cons]

theorem render_ofStrings (texts : List String) :
    (ofStrings texts).render = "[" ++ Text.joined "," (texts.map quoted) ++ "]" := by
  rw [ofStrings, render, renderItems_eq_map, List.map_map]
  rfl

theorem toList_joined_cons (s t : String) (texts : List String) :
    (Text.joined "," ((s :: t :: texts).map quoted)).toList =
      (quoted s).toList ++ ',' :: (Text.joined "," ((t :: texts).map quoted)).toList := by
  simp [Text.joined]

theorem elements?_joined (nesting : Nat) (s : String) (texts : List String) (rest : List Char) :
    elements? (value? nesting)
        ((Text.joined "," ((s :: texts).map quoted)).toList ++ ']' :: rest) =
      some ((s :: texts).map .string, rest) := by
  induction texts generalizing s with
  | nil =>
      rw [elements?]
      simp only [List.map_cons, List.map_nil, Text.joined, value?_quoted]
      rfl
  | cons t texts ih =>
      rw [toList_joined_cons, List.append_assoc, List.cons_append, elements?, value?_quoted]
      have shorter : ((Text.joined "," ((t :: texts).map quoted)).toList ++ ']' :: rest).length <
          ((quoted s).toList ++
            ',' :: ((Text.joined "," ((t :: texts).map quoted)).toList ++ ']' :: rest)).length := by
        simp only [List.length_append, List.length_cons]
        omega
      have comma : ∀ cs, skipSpace (',' :: cs) = ',' :: cs := fun _ => rfl
      simp only [comma]
      rw [dif_pos shorter, ih]
      rfl

theorem exists_joined_eq (s : String) (texts : List String) :
    ∃ tail, (Text.joined "," ((s :: texts).map quoted)).toList = '"' :: tail := by
  cases texts with
  | nil => exact ⟨_, toList_quoted s⟩
  | cons t texts => exact ⟨_, by rw [toList_joined_cons, toList_quoted]; rfl⟩

theorem value?_ofStrings (nesting : Nat) (texts : List String) (rest : List Char) :
    value? (nesting + 1) ((ofStrings texts).render.toList ++ rest) =
      some (ofStrings texts, rest) := by
  cases texts with
  | nil => rfl
  | cons s texts =>
      obtain ⟨tail, opened⟩ := exists_joined_eq s texts
      have read := elements?_joined nesting s texts rest
      have bracket : ∀ cs, skipSpace ('[' :: cs) = '[' :: cs := fun _ => rfl
      have written : (ofStrings (s :: texts)).render.toList ++ rest =
          '[' :: ((Text.joined "," ((s :: texts).map quoted)).toList ++ ']' :: rest) := by
        simp [render_ofStrings]
      rw [opened] at read
      rw [written, opened]
      unfold value?
      simp only [bracket, List.cons_append, skipSpace_quote]
      rw [List.cons_append] at read
      exact congrArg (Option.map fun found => (array found.1, found.2)) read

theorem render_ofStrings_inj {texts texts' : List String} :
    (ofStrings texts).render = (ofStrings texts').render ↔ texts = texts' := by
  constructor
  · intro same
    have read := value?_ofStrings 0 texts []
    rw [same, value?_ofStrings, Option.some.injEq] at read
    have listed := array.inj (congrArg Prod.fst read)
    exact (List.map_inj_right fun _ _ => string.inj).mp listed.symm
  · rintro rfl
    rfl

theorem renderMembers_ne_nil {members : List (String × Json)} (nonempty : members ≠ []) :
    renderMembers members ≠ [] := by
  cases members with
  | nil => exact absurd rfl nonempty
  | cons member members => exact List.cons_ne_nil _ _

theorem exists_frame (front : List (String × Json)) (key : String) (back : List (String × Json)) :
    ∃ before after, ∀ value,
      Text.joined "," (renderMembers (front ++ (key, value) :: back)) =
        before ++ render value ++ after := by
  induction front with
  | nil =>
      cases back with
      | nil =>
          refine ⟨quoted key ++ ":", "", ?_⟩
          intro value
          simp [renderMembers, Text.joined]
      | cons member back =>
          refine ⟨quoted key ++ ":", "," ++ Text.joined "," (renderMembers (member :: back)), ?_⟩
          intro value
          rw [List.nil_append, renderMembers, Text.joined_cons (renderMembers_ne_nil (by simp))]
          simp [String.append_assoc]
  | cons member front ih =>
      obtain ⟨before, after, framed⟩ := ih
      refine ⟨quoted member.1 ++ ":" ++ render member.2 ++ "," ++ before, after, ?_⟩
      intro value
      rw [List.cons_append, renderMembers, Text.joined_cons (renderMembers_ne_nil (by simp)), framed]
      simp [String.append_assoc]

theorem render_member_inj (front : List (String × Json)) (key : String)
    (back : List (String × Json)) {value other : Json} :
    (object (front ++ (key, value) :: back)).render =
        (object (front ++ (key, other) :: back)).render ↔
      value.render = other.render := by
  obtain ⟨before, after, framed⟩ := exists_frame front key back
  rw [render, render, framed, framed, ← String.toList_inj, ← String.toList_inj]
  simp

section

variable {α : Type} {read? : List Char → Option (α × List Char)} {text rest : List Char} {item : α}

theorem text?_key (key : String) (cs : List Char) :
    text? (skipSpace ((quoted key).toList ++ cs)) = some (key, cs) := by
  have start := text?_quoted key cs
  rwa [toList_quoted, List.cons_append] at start ⊢

theorem pairs?_last (key : String) (found : Option α)
    (read : read? (text ++ '\x7d' :: rest) = found.map fun item => (item, '\x7d' :: rest)) :
    pairs? read? ((quoted key).toList ++ ':' :: (text ++ '\x7d' :: rest)) =
      found.map fun item => ([(key, item)], rest) := by
  have colon : ∀ cs, skipSpace (':' :: cs) = ':' :: cs := fun _ => rfl
  have brace : ∀ cs, skipSpace ('\x7d' :: cs) = '\x7d' :: cs := fun _ => rfl
  rw [pairs?, text?_key]
  simp only [colon, read]
  cases found with
  | none => rfl
  | some item => simp only [Option.map_some, brace]

theorem pairs?_next (key : String)
    (read : read? (text ++ ',' :: rest) = some (item, ',' :: rest)) :
    pairs? read? ((quoted key).toList ++ ':' :: (text ++ ',' :: rest)) =
      (pairs? read? rest).map fun found => ((key, item) :: found.1, found.2) := by
  have colon : ∀ cs, skipSpace (':' :: cs) = ':' :: cs := fun _ => rfl
  have comma : ∀ cs, skipSpace (',' :: cs) = ',' :: cs := fun _ => rfl
  have shorter : rest.length < ((quoted key).toList ++ ':' :: (text ++ ',' :: rest)).length := by
    simp only [List.length_append, List.length_cons]
    omega
  conv_lhs => rw [pairs?, text?_key]
  simp only [colon, read, comma]
  rw [dif_pos shorter]

theorem value?_object (nesting : Nat) (key : String) (text : List Char) :
    value? (nesting + 1) ('\x7b' :: ((quoted key).toList ++ text)) =
      (pairs? (value? nesting) ((quoted key).toList ++ text)).map
        fun found => (object found.1, found.2) := by
  have brace : ∀ cs, skipSpace ('\x7b' :: cs) = '\x7b' :: cs := fun _ => rfl
  rw [toList_quoted, List.cons_append]
  conv_lhs => unfold value?
  simp only [brace, skipSpace_quote]
  rfl

end

end ViewerHost.Json
