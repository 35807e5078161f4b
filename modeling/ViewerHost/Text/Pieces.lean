namespace ViewerHost.Text

/-- The pieces between the separators, empty ones included: one more than there are separators. -/
def pieces (sep : Char) : List Char → List (List Char)
  | [] => [[]]
  | c :: cs =>
    if c = sep then [] :: pieces sep cs
    else match pieces sep cs with
      | [] => [[c]]
      | piece :: rest => (c :: piece) :: rest

def cutAt? (mark : List Char) : List Char → Option (List Char × List Char)
  | [] => if mark.isEmpty then some ([], []) else none
  | c :: cs =>
    match mark.isPrefixOf? (c :: cs) with
    | some rest => some ([], rest)
    | none => (cutAt? mark cs).map fun (before, rest) => (c :: before, rest)

def after? (start text : String) : Option String :=
  (start.toList.isPrefixOf? text.toList).map String.ofList

def before? (finish text : String) : Option String :=
  (finish.toList.reverse.isPrefixOf? text.toList.reverse).map fun rest =>
    String.ofList rest.reverse

/-- What follows the first `n` bytes of the text in UTF-8; nothing is cut off beyond its end or
inside a character. -/
def fromByte? : Nat → List Char → Option (List Char)
  | 0, cs => some cs
  | _ + 1, [] => none
  | n + 1, c :: cs =>
    if c.utf8Size ≤ n + 1 then fromByte? (n + 1 - c.utf8Size) cs else none

def joined (sep : String) : List String → String
  | [] => ""
  | [part] => part
  | part :: rest => part ++ sep ++ joined sep rest

def concat : List String → String
  | [] => ""
  | part :: rest => part ++ concat rest

theorem utf8ByteSize_ofList_cons (c : Char) (cs : List Char) :
    (String.ofList (c :: cs)).utf8ByteSize = c.utf8Size + (String.ofList cs).utf8ByteSize := by
  rw [String.ofList_cons, String.utf8ByteSize_append, String.utf8ByteSize_singleton]

theorem fromByte?_append (front back : List Char) :
    fromByte? (String.ofList front).utf8ByteSize (front ++ back) = some back := by
  induction front with
  | nil => simp [fromByte?]
  | cons c front ih =>
    rw [utf8ByteSize_ofList_cons, List.cons_append]
    have size := c.utf8Size_pos
    obtain ⟨n, size⟩ : ∃ n, c.utf8Size + (String.ofList front).utf8ByteSize = n + 1 :=
      ⟨_, (Nat.sub_add_cancel (by omega)).symm⟩
    have fits : c.utf8Size ≤ n + 1 := by omega
    have rest : n + 1 - c.utf8Size = (String.ofList front).utf8ByteSize := by omega
    rw [size, fromByte?, if_pos fits, rest, ih]

theorem pieces_ne_nil (sep : Char) (cs : List Char) : pieces sep cs ≠ [] := by
  cases cs with
  | nil => simp [pieces]
  | cons c cs =>
    unfold pieces
    split
    · simp
    · cases pieces sep cs <;> simp

theorem not_mem_of_mem_pieces (sep : Char) (cs : List Char) :
    ∀ piece ∈ pieces sep cs, sep ∉ piece := by
  induction cs with
  | nil => simp [pieces]
  | cons c cs ih =>
    unfold pieces
    split
    · intro piece h
      rcases List.mem_cons.1 h with rfl | h
      · simp
      · exact ih piece h
    · rename_i ne
      cases split : pieces sep cs with
      | nil => exact absurd split (pieces_ne_nil sep cs)
      | cons first rest =>
        intro piece h
        rw [split] at ih
        rcases List.mem_cons.1 h with rfl | h
        · simp only [List.mem_cons, not_or]
          exact ⟨fun e => ne e.symm, ih first (by simp)⟩
        · exact ih piece (by simp [h])

end ViewerHost.Text
