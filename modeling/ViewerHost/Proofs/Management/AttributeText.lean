import ViewerHost.Management.AttributeJson
import ViewerHost.Proofs.Json.Numbers
import ViewerHost.Proofs.Json.Texts
import ViewerHost.Proofs.Time.Rfc3339

/-!
Attribute values that are sent as JSON and are read again. All but two kinds of value come back: a
floating-point number has to be finite, and a leap second has to end a minute. As text, a
floating-point number comes back only if scaling the digits that it is written with leads to it.
-/

namespace ViewerHost

namespace Json

variable {name : String} {value : Json}

theorem read?_tagged (found : Option Json)
    (read : value? 126 (value.render.toList ++ ['\x7d']) =
      found.map fun value => (value, ['\x7d'])) :
    read? (object [("type", .string name), ("value", value)]).render =
      found.map fun value => object [("type", .string name), ("value", value)] := by
  have text : (object [("type", .string name), ("value", value)]).render.toList =
      '\x7b' :: ((quoted "type").toList ++ ':' :: ((quoted name).toList ++
        ',' :: ((quoted "value").toList ++ ':' :: (value.render.toList ++ ['\x7d'])))) := by
    simp [render, renderMembers, Text.joined]
  unfold Json.read? nestingLimit
  rw [text, value?_object, pairs?_next "type" (value?_quoted 126 name _),
    pairs?_last "value" found read]
  cases found with
  | none => rfl
  | some value => rfl

theorem read?_bare (name : String) :
    read? (object [("type", .string name)]).render = some (object [("type", .string name)]) := by
  have text : (object [("type", .string name)]).render.toList =
      '\x7b' :: ((quoted "type").toList ++ ':' :: ((quoted name).toList ++ ['\x7d'])) := by
    simp [render, renderMembers, Text.joined]
  unfold Json.read? nestingLimit
  rw [text, value?_object, pairs?_last "type" (some (.string name)) (value?_quoted 126 name _)]
  rfl

end Json

namespace Attribute

open Json

variable {a : Attribute} {value : Json}

def toText (a : Attribute) : String := a.toJson.render

def ofText? (text : String) : Option Attribute := (Json.read? text).bind ofJson?

/-- Whole numbers have 64 bits, and times are those that can be named. -/
def IsHeld : Attribute → Prop
  | int i => -0x8000000000000000 ≤ i ∧ i < 0x8000000000000000
  | time t => t.inRange = true ∧ t.nanos < 2 * Instant.nanosPerSecond
  | _ => True

/-- A leap second in the middle of a minute has no text of its own. -/
def Keeps : Attribute → Prop
  | float x => x.isFinite = true
  | time t => t.endsMinute
  | _ => True

def rescaled? (x : Binary64) : Option Binary64 :=
  scaled? x.isNegative (written x).digits (written x).power

/-- As text, a number has to survive the scaling of its digits as well. -/
def Returns : Attribute → Prop
  | float x => x.isFinite = true ∧ rescaled? x = some x
  | a => a.Keeps

def kept? : Attribute → Option Attribute
  | float x => if x.isFinite then some (float x) else none
  | time t => some (time t.named)
  | a => some a

def returned? : Attribute → Option Attribute
  | float x => if x.isFinite then (rescaled? x).map float else none
  | a => a.kept?

theorem toJson_eq (content : a.content? = some value) :
    a.toJson = object [("type", .string a.typeName), ("value", value)] := by
  rw [toJson, content]
  rfl

theorem content?_eq_none_iff : a.content? = none ↔ a = absent := by
  cases a <;> simp [content?]

theorem field?_toJson (a : Attribute) : a.toJson.field? "value" = a.content? := by
  cases content : a.content? with
  | none =>
      rw [toJson, content]
      rfl
  | some value =>
      rw [toJson_eq content]
      rfl

/-! ## Values -/

theorem ofJson?_of_content (content : a.content? = some value) :
    ofJson? a.toJson = ofContent? a.typeName (some value) := by
  rw [toJson_eq content]
  rfl

theorem strings?_ofStrings (items : List String) : (ofStrings items).strings? = some items := by
  have each : (items.map Json.string).mapM string? = some items := by
    induction items with
    | nil => rfl
    | cons item items ih => simp [ih, string?]
  exact each

theorem ofJson?_toJson (held : a.IsHeld) : ofJson? a.toJson = a.kept? := by
  cases a with
  | bool b =>
      rw [ofJson?_of_content (a := .bool b) rfl]
      simp only [typeName, ofContent?]
      rfl
  | int i =>
      rw [ofJson?_of_content (a := .int i) rfl]
      simp only [typeName, ofContent?]
      exact congrArg (Option.map int) (if_pos held)
  | float x =>
      rw [ofJson?_of_content (a := .float x) rfl, kept?]
      simp only [typeName, ofContent?]
      cases x.isFinite with
      | true => rfl
      | false => rfl
  | text s =>
      rw [ofJson?_of_content (a := .text s) rfl]
      simp only [typeName, ofContent?]
      rfl
  | time t =>
      rw [ofJson?_of_content (a := .time t) rfl]
      simp only [typeName, ofContent?, string?, Option.bind_some,
        Instant.read?_toText held.1 held.2]
      rfl
  | list items =>
      rw [ofJson?_of_content (a := .list items) rfl]
      simp only [typeName, ofContent?, strings?_ofStrings]
      rfl
  | absent => rfl

theorem kept?_eq_some_iff : a.kept? = some a ↔ a.Keeps := by
  cases a with
  | float x => cases finite : x.isFinite <;> simp [kept?, Keeps, finite]
  | time t =>
      rw [kept?, Option.some.injEq, time.injEq, Instant.named_eq_self_iff]
      rfl
  | bool | int | text | list | absent => exact ⟨fun _ => trivial, fun _ => rfl⟩

/-! ## Texts -/

theorem ofText?_of_content (content : a.content? = some value) (found : Option Json)
    (read : value? 126 (value.render.toList ++ ['\x7d']) =
      found.map fun value => (value, ['\x7d'])) :
    ofText? a.toText = found.bind fun value => ofContent? a.typeName (some value) := by
  rw [ofText?, toText, toJson_eq content, read?_tagged found read]
  cases found with
  | none => rfl
  | some value => rfl

theorem ofText?_eq_ofJson? (content : a.content? = some value)
    (read : value? 126 (value.render.toList ++ ['\x7d']) = some (value, ['\x7d'])) :
    ofText? a.toText = ofJson? a.toJson := by
  rw [ofText?_of_content content (some value) read, ofJson?_of_content content, Option.bind_some]

theorem ofText?_toText (held : a.IsHeld) : ofText? a.toText = a.returned? := by
  have closes : Closes ['\x7d'] := ⟨rfl, rfl⟩
  cases a with
  | bool b =>
      rw [ofText?_eq_ofJson? (a := .bool b) rfl, ofJson?_toJson held]
      · rfl
      · cases b with
        | true => rfl
        | false => rfl
  | int i =>
      rw [ofText?_eq_ofJson? (a := .int i) rfl (value?_int held.1 held.2 closes),
        ofJson?_toJson held]
      rfl
  | float x =>
      cases finite : x.isFinite with
      | true =>
          have content : (Attribute.float x).content? = some (.float x) := by
            rw [content?, finite, if_pos rfl]
          have read : value? 126 ((Json.float x).render.toList ++ ['\x7d']) =
              ((rescaled? x).map Json.float).map fun value => (value, ['\x7d']) := by
            rw [value?_float finite closes, Option.map_map]
            rfl
          rw [ofText?_of_content content _ read, returned?, finite, if_pos rfl]
          cases rescaled? x with
          | none => rfl
          | some y => simp [typeName, ofContent?, number?]
      | false =>
          have content : (Attribute.float x).content? = some .null := by
            rw [content?, finite]
            rfl
          rw [ofText?_of_content content (some .null) rfl, returned?, finite]
          simp [typeName, ofContent?, number?]
  | text s =>
      rw [ofText?_eq_ofJson? (a := .text s) rfl (value?_quoted 126 s _), ofJson?_toJson held]
      rfl
  | time t =>
      rw [ofText?_eq_ofJson? (a := .time t) rfl (value?_quoted 126 t.toText _),
        ofJson?_toJson held]
      rfl
  | list items =>
      rw [ofText?_eq_ofJson? (a := .list items) rfl (value?_ofStrings 125 items _),
        ofJson?_toJson held]
      rfl
  | absent =>
      rw [ofText?, toText]
      exact congrArg (Option.bind · ofJson?) (read?_bare "absent")

theorem returned?_eq_some_iff : a.returned? = some a ↔ a.Returns := by
  cases a with
  | float x =>
      cases finite : x.isFinite with
      | true => cases found : rescaled? x <;> simp [returned?, Returns, finite, found]
      | false => simp [returned?, Returns, finite]
  | bool b => exact kept?_eq_some_iff (a := .bool b)
  | int i => exact kept?_eq_some_iff (a := .int i)
  | text s => exact kept?_eq_some_iff (a := .text s)
  | time t => exact kept?_eq_some_iff (a := .time t)
  | list items => exact kept?_eq_some_iff (a := .list items)
  | absent => exact kept?_eq_some_iff (a := .absent)

/-- Which values come back from their JSON, and which come back from its text. -/
theorem comes_back_iff (a : Attribute) (held : a.IsHeld) :
    (ofJson? a.toJson = some a ↔ a.Keeps) ∧
      (ofText? a.toText = some a ↔ a.Returns) ∧
      (∀ x, a = float x → x.isFinite = true → (written x).digits < 2 ^ 53 →
        (written x).power.natAbs ≤ 22 → ofText? a.toText = some a) ∧
      (∀ x, a = float x → x.isFinite = true → ofText? a.toText = (rescaled? x).map float) ∧
      (∀ x, a = float x → x.isFinite = false →
        a.toJson.field? "value" = some .null ∧ ofJson? a.toJson = none ∧
          ofText? a.toText = none) ∧
      (∀ t, a = time t → ofJson? a.toJson = some (time t.named) ∧
        ofText? a.toText = some (time t.named)) ∧
      (a.toJson.field? "value" = none ↔ a = absent) := by
  have value := ofJson?_toJson held
  have text := ofText?_toText held
  refine ⟨?_, ?_, ?_, ?_, ?_, ?_, ?_⟩
  · rw [value, kept?_eq_some_iff]
  · rw [text, returned?_eq_some_iff]
  · rintro x rfl finite short small
    rw [text, returned?, if_pos finite, rescaled?, scaled?_written finite short small]
    rfl
  · rintro x rfl finite
    rw [text, returned?, if_pos finite]
  · rintro x rfl other
    rw [field?_toJson, value, text, content?, returned?, kept?, other]
    exact ⟨rfl, rfl, rfl⟩
  · rintro t rfl
    exact ⟨value, text⟩
  · rw [field?_toJson, content?_eq_none_iff]

theorem comes_back_before_epoch :
    (time ⟨-1, 999999999⟩).IsHeld ∧
      ofText? (time ⟨-1, 999999999⟩).toText = some (time ⟨-1, 999999999⟩) := by
  have held : (time ⟨-1, 999999999⟩).IsHeld := by
    constructor <;> decide
  refine ⟨held, (comes_back_iff _ held).2.1.mpr ?_⟩
  intro leap
  cases leap

/-- The power of ten is rounded before the product is. A leap second within a minute is written as
the second after it. -/
theorem finite_number_changed :
    (float (.ofDecimal false 3 23)).IsHeld ∧ (Binary64.ofDecimal false 3 23).isFinite = true ∧
      ofText? (float (.ofDecimal false 3 23)).toText =
        some (float (.ofDecimal false 29999999999999997 7)) ∧
      Binary64.ofDecimal false 3 23 ≠ .ofDecimal false 29999999999999997 7 ∧
      (time ⟨0, 1000000000⟩).IsHeld ∧
      ofJson? (time ⟨0, 1000000000⟩).toJson = some (time ⟨1, 0⟩) := by
  have held : (time ⟨0, 1000000000⟩).IsHeld := by
    constructor <;> decide
  refine ⟨trivial, by decide +kernel, ?_, by decide +kernel, held, ?_⟩
  · rw [ofText?_toText (a := .float _) trivial]
    decide +kernel
  · rw [ofJson?_toJson held]
    decide

end Attribute

end ViewerHost
