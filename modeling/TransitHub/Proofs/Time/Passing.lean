/-
# Time between operations

Clocks stand still during an operation and move between two of them. The monotonic clock only
advances, and the wall clock advances with it; beyond that the wall clock may be set at will.

Two moments are in step if the same time passed between them on both clocks. That takes a wall clock
that is not set and does not show leap seconds: one of those lies on top of the second before it, and
distances to and from it are a second off.
-/

import TransitHub.Time.Timestamp
import TransitHub.Time.Span

namespace TransitHub

namespace Timestamp

/-- A timestamp with a positive distance from another one lies after it, unless it is in a leap
second: its distance from the start of the next day may be positive too. -/
theorem not_le_of_since_pos {t earlier : Timestamp} (hleap : t.isLeap = false)
    (h : 0 < t.since earlier) : ¬ t ≤ earlier := by
  intro hle
  have hnano : t.nano < 1000000000 := by simpa [isLeap] using hleap
  have hsecond := t.second_lt
  rw [le_iff] at hle
  unfold since nanos leapBetween at h
  split at h
  · split at h
    · next hearlier =>
      have hpast : 1000000000 ≤ earlier.nano := by simpa [isLeap] using hearlier
      omega
    · omega
  · have hnone : (if t.isLeap then -1 else 0 : Int) = 0 := by rw [hleap]; rfl
    rw [hnone, ite_self] at h
    omega

theorem nano_lt_of_not_leap {t : Timestamp} (hleap : t.isLeap = false) : t.nano < 1000000000 := by
  simpa [isLeap] using hleap

/-- Away from leap seconds timestamps are ordered like numbers. -/
theorem le_iff_nanos_le {t t' : Timestamp} (hleap : t.isLeap = false) (hleap' : t'.isLeap = false) :
    t ≤ t' ↔ t.nanos ≤ t'.nanos := by
  have hnano := nano_lt_of_not_leap hleap
  have hnano' := nano_lt_of_not_leap hleap'
  have hsecond := t.second_lt
  have hsecond' := t'.second_lt
  rw [le_iff, nanos, nanos]
  omega

theorem nanos_lt (t : Timestamp) : t.nanos < 95026237 * 86400000000000 + 1000000000 := by
  have hday := t.le_last
  have hsecond := t.second_lt
  have hnano := t.nano_lt
  rw [nanos]
  omega

theorem le_nanos (t : Timestamp) : -96465292 * 86400000000000 ≤ t.nanos := by
  have hday := t.first_le
  rw [nanos]
  omega

theorem nanos_ofNanos? {n : Int} {t : Timestamp} (h : ofNanos? n = some t) :
    t.isLeap = false ∧ t.nanos = n := by
  unfold ofNanos? at h
  dsimp only at h
  split at h
  · rw [← Option.some.inj h]
    refine ⟨?_, ?_⟩
    · simp only [isLeap, decide_eq_false_iff_not]
      omega
    · simp only [nanos]
      omega
  · exact nomatch h

/-- Away from leap seconds a timestamp is the one with its number. -/
theorem ofNanos?_nanos {t : Timestamp} (hleap : t.isLeap = false) : ofNanos? t.nanos = some t := by
  have hnano := nano_lt_of_not_leap hleap
  have hsecond := t.second_lt
  have hday : t.nanos / 86400000000000 = t.day := by
    rw [nanos]
    omega
  have hrest : t.nanos % 86400000000000 = t.second * 1000000000 + t.nano := by
    rw [nanos]
    omega
  unfold ofNanos?
  simp only [hday, hrest]
  rw [dif_pos ⟨t.first_le, t.le_last⟩]
  congr 1
  ext
  · rfl
  · show ((t.second * 1000000000 + t.nano : Int) / 1000000000).toNat = t.second
    omega
  · show ((t.second * 1000000000 + t.nano : Int) % 1000000000).toNat = t.nano
    omega

/-- Away from leap seconds the distance of two timestamps is that of their numbers. -/
theorem since_of_not_leap {t earlier : Timestamp} (hleap : t.isLeap = false)
    (hleap' : earlier.isLeap = false) : t.since earlier = t.nanos - earlier.nanos := by
  rw [since, leapBetween, hleap, hleap']
  simp

/-- Whether `earlier`, in the leap second at the end of a day and counted on from the second before
it, is as far as `t` in the first second of the next day. -/
def Overtakes (earlier t : Timestamp) : Prop :=
  earlier.second = 86399 ∧ t.day = earlier.day + 1 ∧ t.second = 0 ∧ t.nano + 1000000000 ≤ earlier.nano

/-- A timestamp away from leap seconds lies after another one exactly if its distance from that is
positive, unless it is overtaken: a leap second is not counted in the distance to another day. -/
theorem since_pos_iff {t earlier : Timestamp} (hleap : t.isLeap = false) :
    0 < t.since earlier ↔ earlier < t ∧ ¬ earlier.Overtakes t := by
  have hnano := nano_lt_of_not_leap hleap
  have hearlier := earlier.nano_lt
  have hlast := earlier.second_lt
  constructor
  · intro hpos
    refine ⟨not_le_of_since_pos hleap hpos, fun hovertakes => ?_⟩
    obtain ⟨hsecond, hday, hzero, hreaches⟩ := hovertakes
    have hnone : t.leapBetween earlier = 0 := by
      rw [leapBetween, hsecond, hzero, hleap]
      rfl
    rw [since, hnone, nanos, nanos, hsecond, hday, hzero] at hpos
    omega
  · intro ⟨hlater, hreaches⟩
    rw [lt_iff_not_le, le_iff] at hlater
    unfold Overtakes at hreaches
    unfold since nanos leapBetween
    split
    · split
      · omega
      · next hshort =>
        have hshort' := nano_lt_of_not_leap (Bool.eq_false_iff.2 hshort)
        omega
    · have hnone : (if t.isLeap then -1 else 0 : Int) = 0 := by rw [hleap]; rfl
      rw [hnone, ite_self]
      omega

/-- Moving a timestamp away from leap seconds adds to its number. -/
theorem nanos_plus? {t t' : Timestamp} {d : Int} (hleap : t.isLeap = false)
    (h : t.plus? d = some t') : t'.isLeap = false ∧ t'.nanos = t.nanos + d := by
  rw [plus?, dif_pos hleap] at h
  exact nanos_ofNanos? h

/-- The timestamp with a leap second counted as the second before it. -/
def unleaped (t : Timestamp) : Timestamp where
  day := t.day
  second := t.second
  nano := t.nano % 1000000000
  first_le := t.first_le
  le_last := t.le_last
  second_lt := t.second_lt

theorem isLeap_unleaped (t : Timestamp) : t.unleaped.isLeap = false := by
  have hnano : t.unleaped.nano < 1000000000 := Nat.mod_lt _ (by decide)
  simpa [isLeap] using hnano

theorem unleaped_le (t : Timestamp) : t.unleaped ≤ t := by
  have hnano : t.unleaped.nano ≤ t.nano := Nat.mod_le _ _
  exact Or.inr ⟨rfl, Or.inr ⟨rfl, hnano⟩⟩

/-- A distance from a timestamp away from leap seconds is no less than without the leap second. -/
theorem le_since (t : Timestamp) {earlier : Timestamp} (hleap : earlier.isLeap = false) :
    t.unleaped.nanos - earlier.nanos ≤ t.since earlier := by
  have hnano := t.nano_lt
  rw [since, nanos, nanos, nanos, leapBetween]
  simp only [unleaped]
  split
  · rw [hleap]
    simp only [Bool.false_eq_true, if_false]
    omega
  · split
    · split
      · next hpast =>
        have hpast' : 1000000000 ≤ t.nano := by simpa [isLeap] using hpast
        omega
      · omega
    · omega

theorem since_lt (t earlier : Timestamp) :
    t.since earlier < t.nanos - earlier.nanos + 2000000000 := by
  have hleap : t.leapBetween earlier ≤ 1 := by
    unfold leapBetween
    split
    · split <;> decide
    · split
      · split <;> decide
      · decide
  rw [since]
  omega

end Timestamp

/-- Whether as much time passed on the wall clock between two moments as on the other one. -/
structure Clock.InStep (c c' : Clock) : Prop where
  from_leap : c.wall.isLeap = false
  to_leap : c'.wall.isLeap = false
  nanos : c'.wall.nanos - c.wall.nanos = c'.now - c.now

theorem Clock.InStep.refl {c : Clock} (h : c.wall.isLeap = false) : c.InStep c where
  from_leap := h
  to_leap := h
  nanos := by rw [Int.sub_self, Int.sub_self]

theorem Clock.InStep.trans {c c' c'' : Clock} (h : c.InStep c') (h' : c'.InStep c'') :
    c.InStep c'' where
  from_leap := h.from_leap
  to_leap := h'.to_leap
  nanos := by
    have hfirst := h.nanos
    have hsecond := h'.nanos
    omega

/-- In step with each other, moments come in the same order on both clocks. -/
theorem Clock.InStep.wall_le {c c' : Clock} (h : c.InStep c') (hle : c.now ≤ c'.now) :
    c.wall ≤ c'.wall := by
  rw [Timestamp.le_iff_nanos_le h.from_leap h.to_leap, ← Int.sub_nonneg, h.nanos, Int.sub_nonneg]
  exact hle

/-- What happens to the clocks between two operations. -/
inductive TimeStep
  /-- Both clocks advance. -/
  | advance (d : Duration)
  /-- The wall clock alone is set, forwards or backwards. -/
  | setWall (d : Int)

namespace TimeStep

/-- The clocks after a step. -/
def apply (c : Clock) : TimeStep → Clock
  | .advance d => c.advance d
  | .setWall d => { c with wall := c.wall.advance d }

/-- The monotonic clock never goes back. -/
theorem now_le_apply (c : Clock) (t : TimeStep) : c.now ≤ (t.apply c).now := by
  cases t with
  | advance d => exact Int.le_add_of_nonneg_right (Int.natCast_nonneg d)
  | setWall d => exact Int.le_refl c.now

/-- Whether the wall clock goes along and can show where it gets to. -/
def Together (c : Clock) : TimeStep → Prop
  | .advance d => (c.wall.plus? d).isSome
  | .setWall _ => False

theorem Together.inStep {c : Clock} {t : TimeStep} (h : t.Together c)
    (hleap : c.wall.isLeap = false) : c.InStep (t.apply c) := by
  cases t with
  | advance d =>
    obtain ⟨wall, hwall⟩ := Option.isSome_iff_exists.1 h
    obtain ⟨hleap', hnanos⟩ := Timestamp.nanos_plus? hleap hwall
    have hadvance : (TimeStep.advance d).apply c = ⟨wall, c.now + d⟩ := by
      rw [apply, Clock.advance, Timestamp.advance, hwall]
      rfl
    rw [hadvance]
    refine ⟨hleap, hleap', ?_⟩
    rw [hnanos]
    show c.wall.nanos + d - c.wall.nanos = c.now + d - c.now
    omega
  | setWall d => exact h.elim

end TimeStep

end TransitHub
