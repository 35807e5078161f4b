import ViewerHost.Time.Instant

namespace ViewerHost.Instant

variable {a b c : Instant} {m n : Int}

theorem le_iff :
    a.le b = true ↔ a.seconds < b.seconds ∨ a.seconds = b.seconds ∧ a.nanos ≤ b.nanos := by
  simp [le]

theorem le_refl (a : Instant) : a.le a = true := by
  simp [le_iff]

theorem le_trans (first : a.le b = true) (second : b.le c = true) : a.le c = true := by
  rw [le_iff] at *
  omega

theorem le_of_lt (less : a.lt b = true) : a.le b = true := by
  simp only [lt, Bool.not_eq_true', ← Bool.not_eq_true, le_iff] at less
  rw [le_iff]
  omega

theorem le_of_not_lt (notLess : ¬a.lt b = true) : b.le a = true := by
  simpa [lt] using notLess

theorem le_ofNanos : (ofNanos m).le (ofNanos n) = true ↔ m ≤ n := by
  simp only [le_iff, ofNanos, nanosPerSecond]
  omega

theorem sub_ofNanos : (ofNanos m).sub (ofNanos n) = m - n := by
  rw [sub, toNanos_ofNanos, toNanos_ofNanos]

theorem isLeap_ofNanos (n : Int) : (ofNanos n).isLeap = false := by
  apply decide_eq_false
  simp only [ofNanos, nanosPerSecond]
  omega

theorem settled_ofNanos (n : Int) : (ofNanos n).settled = n := by
  rw [settled, isLeap_ofNanos, if_neg Bool.false_ne_true, toNanos_ofNanos]

/-- The leap second is still running `n` nanoseconds later. -/
def Lingers (t : Instant) (n : Int) : Prop :=
  t.isLeap = true ∧ t.nanos + n < 2 * nanosPerSecond

theorem advance?_lingers (lingers : a.Lingers n) :
    a.advance? n = some ⟨a.seconds, (a.nanos + n).toNat⟩ := by
  rw [advance?, if_pos (by simpa [Lingers] using lingers)]

theorem advance?_passes (passes : ¬a.Lingers n) :
    a.advance? n =
      if (ofNanos (a.settled + n)).inRange then some (ofNanos (a.settled + n)) else none := by
  rw [advance?, if_neg (by simpa [Lingers] using passes)]

theorem advance?_ofNanos (m n : Int) :
    (ofNanos m).advance? n =
      if (ofNanos (m + n)).inRange then some (ofNanos (m + n)) else none := by
  have passes : ¬(ofNanos m).Lingers n := by simp [Lingers, isLeap_ofNanos]
  rw [advance?_passes passes, settled_ofNanos]

theorem Lingers.advance? (lingers : a.Lingers m) (hm : 0 ≤ m) :
    Instant.advance? ⟨a.seconds, (a.nanos + m).toNat⟩ n = a.advance? (m + n) := by
  obtain ⟨leap, -⟩ := lingers
  have nanos : (((a.nanos + m).toNat : Nat) : Int) = a.nanos + m := Int.toNat_of_nonneg (by omega)
  have leap' : isLeap ⟨a.seconds, (a.nanos + m).toNat⟩ = true := by
    simp only [isLeap, decide_eq_true_eq] at leap ⊢
    omega
  have same : Lingers ⟨a.seconds, (a.nanos + m).toNat⟩ n ↔ a.Lingers (m + n) := by
    simp only [Lingers, leap, leap', nanos, Int.add_assoc]
  have settled' : settled ⟨a.seconds, (a.nanos + m).toNat⟩ = a.settled + m := by
    simp only [settled, leap, leap', if_true, toNanos, nanos]
    omega
  by_cases lingers : a.Lingers (m + n)
  · rw [advance?_lingers lingers, advance?_lingers (same.mpr lingers)]
    simp only [nanos, Int.add_assoc]
  · rw [advance?_passes lingers, advance?_passes (mt same.mp lingers), settled', Int.add_assoc]

theorem advance?_advance? (later : a.advance? m = some b) (hm : 0 ≤ m) (hn : 0 ≤ n) :
    b.advance? n = a.advance? (m + n) := by
  by_cases lingers : a.Lingers m
  · rw [advance?_lingers lingers] at later
    obtain rfl := Option.some.inj later
    exact lingers.advance? hm
  · have passes : ¬a.Lingers (m + n) := by
      rintro ⟨leap, within⟩
      exact lingers ⟨leap, by omega⟩
    rw [advance?_passes lingers] at later
    split at later
    · obtain rfl := Option.some.inj later
      rw [advance?_ofNanos, advance?_passes passes, Int.add_assoc]
    · cases later

end ViewerHost.Instant
