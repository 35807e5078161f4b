import ViewerHost.Proofs.Text.Trimming
import ViewerHost.Proofs.Toml.Scalars

namespace ViewerHost

namespace Text

def isNumeric (c : Char) : Bool :=
  c.isDigit || ['+', '-', '.', ':', 'T', 'Z', 'N', 'a', 'n', 'i', 'f'].contains c

def IsNumeric (s : String) : Prop := ∀ c ∈ s.toList, isNumeric c = true

instance (s : String) : Decidable (IsNumeric s) :=
  decidable_of_iff (s.toList.all isNumeric = true) List.all_eq_true

namespace IsNumeric

variable {a b : String} {cs ds : List Char}

theorem append (first : IsNumeric a) (second : IsNumeric b) : IsNumeric (a ++ b) := by
  intro c member
  rw [String.toList_append, List.mem_append] at member
  cases member with
  | inl member => exact first c member
  | inr member => exact second c member

theorem of_subset (numeric : IsNumeric (String.ofList ds)) (subset : cs ⊆ ds) :
    IsNumeric (String.ofList cs) := by
  intro c member
  rw [String.toList_ofList] at member
  exact numeric c (by rw [String.toList_ofList]; exact subset member)

theorem either {p : Prop} [Decidable p] (first : IsNumeric a) (second : IsNumeric b) :
    IsNumeric (if p then a else b) := by
  split
  · exact first
  · exact second

theorem optional {α : Type} {write : α → String} (numeric : ∀ a, IsNumeric (write a))
    (part : Option α) : IsNumeric ((part.map write).getD "") := by
  cases part with
  | none => exact (by decide : IsNumeric "")
  | some a => exact numeric a

theorem toDigits (n : Nat) : IsNumeric (String.ofList (Nat.toDigits 10 n)) := by
  intro c member
  rw [String.toList_ofList] at member
  have digit : c.isDigit = true := Nat.isDigit_of_mem_toDigits (by decide) (by decide) member
  simp [isNumeric, digit]

theorem zeros (n : Nat) : IsNumeric (String.ofList (List.replicate n '0')) := by
  intro c member
  rw [String.toList_ofList] at member
  rw [List.eq_of_mem_replicate member]
  rfl

theorem padded (width n : Nat) : IsNumeric (Rfc3339.padded width n) := by
  rw [Rfc3339.padded, String.ofList_append]
  exact (zeros _).append (toDigits n)

theorem int (i : Int) : IsNumeric (toString i) := by
  rw [Int.toString_eq_repr]
  cases i with
  | ofNat n =>
      rw [Int.repr, Nat.repr_eq_ofList_toDigits]
      exact toDigits n
  | negSucc n =>
      rw [Int.repr, Nat.repr_eq_ofList_toDigits]
      exact append (by decide) (toDigits _)

theorem positional {digits : List Char} (point : Int) (numeric : IsNumeric (String.ofList digits)) :
    IsNumeric (FloatLayout.plain.positional digits point) := by
  unfold FloatLayout.positional
  split
  · exact (append (by decide) (zeros _)).append numeric
  split
  · exact (numeric.append (zeros _)).append (by decide)
  · have whole := numeric.of_subset (List.take_subset point.toNat digits)
    have fraction := numeric.of_subset (List.drop_subset point.toNat digits)
    exact (whole.append (by decide)).append fraction

theorem float (x : Binary64) : IsNumeric x.toPlainText := by
  unfold Binary64.toPlainText FloatLayout.render
  have sign : IsNumeric (if x.isNegative then "-" else "") := either (by decide) (by decide)
  split
  · decide
  split
  · exact either (by decide) (by decide)
  dsimp only
  split
  · exact (sign.append (by decide)).append (by decide)
  · exact sign.append (positional _ (toDigits _))

theorem part (front : IsNumeric a) (mark : IsNumeric b) (width n : Nat) :
    IsNumeric (a ++ b ++ Rfc3339.padded width n) :=
  (front.append mark).append (padded width n)

theorem date (d : CalendarDay) : IsNumeric (Toml.Moment.dateText d) := by
  have year := padded 4 d.year.toNat
  have month := year.part (b := "-") (by decide) 2 d.month
  exact month.part (by decide) 2 d.day

theorem fraction (nanos : Nat) : IsNumeric (Toml.Moment.fractionText nanos) := by
  apply either
  · decide
  · apply append (by decide)
    have kept : trimEnd (· == '0') (Rfc3339.padded 9 nanos).toList <+: _ := isPrefix_trimEnd
    apply of_subset _ kept.subset
    rw [String.ofList_toList]
    exact padded 9 nanos

theorem time (t : Toml.ClockTime) : IsNumeric (Toml.Moment.timeText t) := by
  have hour := padded 2 t.hour
  have minute := hour.part (b := ":") (by decide) 2 t.minute
  have second := minute.part (b := ":") (by decide) 2 t.second
  exact second.append (fraction t.nanos)

theorem offset (o : Toml.Offset) : IsNumeric (Toml.Moment.offsetText o) := by
  cases o with
  | utc => decide
  | minutes n =>
      have sign : IsNumeric (if n < 0 then "-" else "+") := either (by decide) (by decide)
      have hour := sign.append (padded 2 (n.natAbs / 60))
      exact hour.part (by decide) 2 (n.natAbs % 60)

theorem moment (m : Toml.Moment) : IsNumeric m.render := by
  have separator : IsNumeric (if m.date.isSome ∧ m.time.isSome then "T" else "") :=
    either (by decide) (by decide)
  have day := (optional date m.date).append separator
  have clock := day.append (optional time m.time)
  exact clock.append (optional offset m.offset)

end IsNumeric

end Text

theorem Toml.reads_word_iff {value : Toml} {word : String}
    (letters : ¬ Text.IsNumeric word) (notTruth : word ≠ "true" ∧ word ≠ "false") :
    value.Reads word ↔ value = .string word := by
  have other {text : String} (numeric : Text.IsNumeric text) : text ≠ word := by
    rintro rfl
    exact letters numeric
  cases value with
  | string s => simp [Reads, scalarText?]
  | integer i => simpa [Reads, scalarText?] using other (.int i)
  | float x => simp [Reads, scalarText?, other (.float x)]
  | boolean b =>
      cases b with
      | true => simp [Reads, scalarText?, notTruth.1.symm]
      | false => simp [Reads, scalarText?, notTruth.2.symm]
  | moment m => simp [Reads, scalarText?, other (.moment m)]
  | array items => simp [Reads, scalarText?]
  | table entries => simp [Reads, scalarText?]

end ViewerHost
