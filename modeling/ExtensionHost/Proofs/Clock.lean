import ExtensionHost.Clock

/-!
# Intervals and instants as numbers

An interval is a pair of words, and what matters about it is the number of nanoseconds that the two
add up to.  This number determines the interval, and fits in 128 bits.

An instant an interval later is a sum, as long as the clock can show it.

## Main definitions

* `Interval.nanosWord`, the length of an interval as it is computed in words of 128 bits

## Main results

* `Interval.ofNanos?_eq_some_iff`
* `Interval.toNat_nanosWord`
* `Instant.add?_eq_some_iff`
-/

namespace ExtensionHost

namespace Interval

theorem totalNanos_lt (d : Interval) : d.totalNanos < UInt64.size * nanosPerSecond := by
  have hseconds := d.seconds.toNat_lt
  have hnanos := d.nanos_lt
  simp only [totalNanos, nanosPerSecond, UInt64.size] at *
  omega

/-- An interval is determined by its length. -/
theorem ofNanos?_eq_some_iff {n : Nat} {d : Interval} : ofNanos? n = some d ↔ d.totalNanos = n := by
  have hsize : n % nanosPerSecond < UInt32.size :=
    Nat.lt_trans (Nat.mod_lt n (by decide)) (by decide)
  rw [ofNanos?]
  split
  · rename_i hfits
    obtain ⟨seconds, nanos, hnanos⟩ := d
    simp only [Option.some.injEq, Interval.mk.injEq, totalNanos]
    constructor
    · rintro ⟨rfl, rfl⟩
      rw [UInt64.toNat_ofNat_of_lt' hfits, UInt32.toNat_ofNat_of_lt' hsize]
      exact Nat.div_add_mod' n nanosPerSecond
    · rintro rfl
      rw [Nat.add_comm, Nat.add_mul_div_right _ _ (by decide), Nat.add_mul_mod_self_right,
        Nat.div_eq_of_lt hnanos, Nat.zero_add, Nat.mod_eq_of_lt hnanos, UInt64.ofNat_toNat,
        UInt32.ofNat_toNat]
      exact ⟨rfl, rfl⟩
  · rename_i hlarge
    simp only [reduceCtorEq, false_iff]
    rintro rfl
    exact hlarge (Nat.div_lt_of_lt_mul (Nat.mul_comm _ _ ▸ d.totalNanos_lt))

/-- Every length of fewer than `2 ^ 64` seconds is that of an interval. -/
theorem exists_ofNanos? {n : Nat} (h : n < UInt64.size * nanosPerSecond) :
    ∃ d, ofNanos? n = some d := by
  rw [ofNanos?, if_pos (Nat.div_lt_of_lt_mul (Nat.mul_comm _ _ ▸ h))]
  exact ⟨_, rfl⟩

theorem isZero_iff {d : Interval} : d.isZero = true ↔ d.totalNanos = 0 := by
  rw [isZero, Bool.and_eq_true, beq_iff_eq, beq_iff_eq, totalNanos, nanosPerSecond,
    ← UInt64.toNat_inj, ← UInt32.toNat_inj, UInt64.toNat_zero, UInt32.toNat_zero]
  omega

theorem isZero_eq_false_iff {d : Interval} : d.isZero = false ↔ 0 < d.totalNanos := by
  rw [← Bool.not_eq_true, isZero_iff, Nat.pos_iff_ne_zero]

/-- Any number of milliseconds is an interval. -/
theorem totalNanos_ofMillis (n : UInt64) : (ofMillis n).totalNanos = n.toNat * 1000000 := by
  have hn := n.toNat_lt
  obtain ⟨d, hd⟩ := exists_ofNanos? (n := n.toNat * 1000000)
    (by rw [UInt64.size, nanosPerSecond]; omega)
  rw [ofMillis, hd]
  exact ofNanos?_eq_some_iff.mp hd

/-- The length of an interval in nanoseconds, in words of 128 bits. -/
def nanosWord (d : Interval) : BitVec 128 :=
  .ofNat 128 d.seconds.toNat * .ofNat 128 nanosPerSecond + .ofNat 128 d.nanos.toNat

/-- The words are wide enough. -/
theorem toNat_nanosWord (d : Interval) : d.nanosWord.toNat = d.totalNanos := by
  have hseconds : d.seconds.toNat < 2 ^ 64 := d.seconds.toNat_lt
  have hnanos : d.nanos.toNat < 1000000000 := d.nanos_lt
  rw [nanosWord, totalNanos, nanosPerSecond, BitVec.toNat_add, BitVec.toNat_mul,
    BitVec.toNat_ofNat, BitVec.toNat_ofNat, BitVec.toNat_ofNat]
  omega

end Interval

namespace Instant

theorem le_iff {a b : Instant} : a ≤ b ↔ a.nanos ≤ b.nanos := Iff.rfl

/-- An instant an interval later. -/
theorem add?_eq_some_iff {t later : Instant} {d : Interval} :
    t.add? d = some later ↔ later.nanos = t.nanos + d.totalNanos ∧ later.nanos < clockEnd := by
  obtain ⟨n⟩ := later
  rw [add?, Option.ite_none_right_eq_some, Option.some.injEq, mk.injEq]
  constructor
  · rintro ⟨hlt, rfl⟩
    exact ⟨rfl, hlt⟩
  · rintro ⟨rfl, hlt⟩
    exact ⟨hlt, rfl⟩

theorem add?_eq_none_iff {t : Instant} {d : Interval} :
    t.add? d = none ↔ clockEnd ≤ t.nanos + d.totalNanos := by
  rw [add?, ite_eq_right_iff, ← Nat.not_lt]
  simp

/-- The earlier of two instants is not later than either. -/
theorem earlier_le (a b : Instant) : a.earlier b ≤ a ∧ a.earlier b ≤ b := by
  rw [earlier]
  split
  · rename_i h
    exact ⟨Nat.le_refl _, h⟩
  · rename_i h
    exact ⟨Nat.le_of_not_le h, Nat.le_refl _⟩

/-- The time between two instants of the clock is an interval. -/
theorem exists_since {t now : Instant} (h : t.nanos < clockEnd) :
    ∃ d, Interval.ofNanos? (t.since now) = some d := by
  refine Interval.exists_ofNanos? (Nat.lt_of_le_of_lt (Nat.sub_le ..) (Nat.lt_trans h ?_))
  decide

end Instant

end ExtensionHost
