/-
# Times to live grow with validity and grace

Away from leap seconds a policy adds the grace period to what is left of the validity. Both are exact
to the nanosecond, and an entity is expired exactly if its validity with the grace period is over by
now; for this it does not matter that a longer grace counts as `Expiration.longestSpan`, since no two
timestamps are that far apart.

For the time to live it does. Added to a validity that is not over, such a grace gives an overlong
span, and an overlong span is replaced by the horizon, which has nothing to do with the validity. So
times to live grow with validity and grace, except where a sum becomes overlong and the horizon is
shorter than what was there before. Graces that long are within what a configuration may ask for.
-/

import TransitHub.Config.Hub
import TransitHub.Proofs.Store.Validity

namespace TransitHub

/-- The time to live that a policy gives, none of it to what is expired. -/
def Expiration.life : Expiration → Duration
  | .expired => 0
  | .after ttl => ttl

namespace ExpirationPolicy

open Expiration (longestSpan life)

variable {p p' : ExpirationPolicy} {stop stop' now : Timestamp}

/-- The validity left with the grace period as far as it counts, negative once both are over. -/
def span (p : ExpirationPolicy) (stop now : Timestamp) : Int :=
  stop.nanos - now.nanos + (min p.grace longestSpan : Nat)

/-- Whether a policy cannot compute with the validity left and the grace period together. -/
def Overlong (p : ExpirationPolicy) (stop now : Timestamp) : Prop :=
  (longestSpan : Int) < p.span stop now

instance (p : ExpirationPolicy) (stop now : Timestamp) : Decidable (p.Overlong stop now) :=
  inferInstanceAs (Decidable (_ < _))

theorem evaluate_some (hleap : stop.isLeap = false) (hnow : now.isLeap = false) :
    p.evaluate (some stop) now =
      if p.Overlong stop now then .after p.horizon
      else if p.span stop now ≤ 0 then .expired
      else .after (p.span stop now).toNat := by
  rw [evaluate, Timestamp.since_of_not_leap hleap hnow]
  rfl

/-- What is overlong is kept for the horizon. -/
theorem life_of_overlong (hleap : stop.isLeap = false) (hnow : now.isLeap = false)
    (h : p.Overlong stop now) : (p.evaluate (some stop) now).life = p.horizon := by
  rw [evaluate_some hleap hnow, if_pos h]
  rfl

/-- Anything else is kept for its span. -/
theorem life_of_not_overlong (hleap : stop.isLeap = false) (hnow : now.isLeap = false)
    (h : ¬ p.Overlong stop now) :
    (p.evaluate (some stop) now).life = (p.span stop now).toNat := by
  rw [evaluate_some hleap hnow, if_neg h]
  split
  · next hover => exact (Int.toNat_of_nonpos hover).symm
  · rfl

/-- Up to 285 million years of grace nothing is overlong. -/
theorem not_overlong_of_grace_le (stop now : Timestamp)
    (h : p.grace ≤ 285000000 * (365 * Duration.day)) : ¬ p.Overlong stop now := by
  have hgrace : (p.grace : Int) ≤ 8987760000000000000000000 := Int.ofNat_le.2 h
  have hlongest : (longestSpan : Int) = 9223372036854775807000000 := by decide
  have hcounted : ((min p.grace longestSpan : Nat) : Int) ≤ p.grace :=
    Int.ofNat_le.2 (Nat.min_le_left ..)
  have hlast := stop.nanos_lt
  have hfirst := now.le_nanos
  rw [Overlong, span]
  omega

/-- Spans grow with validity and grace. -/
theorem span_le_span (hgrace : p.grace ≤ p'.grace) (hstop : stop.nanos ≤ stop'.nanos) :
    p.span stop now ≤ p'.span stop' now := by
  have hcounted : min p.grace longestSpan ≤ min p'.grace longestSpan :=
    Nat.le_min.2 ⟨Nat.le_trans (Nat.min_le_left ..) hgrace, Nat.min_le_right ..⟩
  exact Int.add_le_add (Int.sub_le_sub_right hstop now.nanos) (Int.ofNat_le.2 hcounted)

/-- A span is over exactly if the validity and the whole of the grace period are. -/
theorem span_le_zero_iff : p.span stop now ≤ 0 ↔ stop.nanos + (p.grace : Int) ≤ now.nanos := by
  have hnear := abs_nanos_lt now stop
  rw [span]
  rcases Nat.le_total p.grace longestSpan with hshort | hlong
  · rw [Nat.min_eq_left hshort]
    omega
  · rw [Nat.min_eq_right hlong]
    omega

/-- An entity is expired exactly if its validity and the grace period are over. -/
theorem evaluate_eq_expired_iff (hleap : stop.isLeap = false) (hnow : now.isLeap = false) :
    p.evaluate (some stop) now = .expired ↔ stop.nanos + (p.grace : Int) ≤ now.nanos := by
  rw [evaluate_some hleap hnow, ← span_le_zero_iff]
  have hpositive : (0 : Int) ≤ longestSpan := Int.natCast_nonneg _
  split
  · next hoverlong =>
    refine iff_of_false (fun h => nomatch h) ?_
    rw [Overlong] at hoverlong
    omega
  · split
    · next hover => exact iff_of_true rfl hover
    · next hrest => exact iff_of_false (fun h => nomatch h) hrest

/-- More validity and more grace never shorten a life, unless they add up to an overlong span while
less of them did not, and the horizon is shorter than the life that came of that. Of two policies
with one horizon let the second have at least the grace of the first, and compare the lives they
give to entities the second of which is valid no less long. Under either policy an entity is
expired exactly if the end of its validity and the grace period, added up without any bound, do not
lie after now. -/
theorem life_le_life_iff (hhorizon : p.horizon = p'.horizon) (hgrace : p.grace ≤ p'.grace)
    (hstop : stop ≤ stop') (hleap : stop.isLeap = false) (hleap' : stop'.isLeap = false)
    (hnow : now.isLeap = false) :
    ((p.evaluate (some stop) now).life ≤ (p'.evaluate (some stop') now).life ↔
        ¬ (¬ p.Overlong stop now ∧ p'.Overlong stop' now ∧
          p.horizon < (p.evaluate (some stop) now).life)) ∧
      (p.evaluate (some stop) now = .expired ↔ stop.nanos + (p.grace : Int) ≤ now.nanos) ∧
      (p'.evaluate (some stop') now = .expired ↔ stop'.nanos + (p'.grace : Int) ≤ now.nanos) := by
  refine ⟨?_, evaluate_eq_expired_iff hleap hnow, evaluate_eq_expired_iff hleap' hnow⟩
  have hspan : p.span stop now ≤ p'.span stop' now :=
    span_le_span hgrace ((Timestamp.le_iff_nanos_le hleap hleap').1 hstop)
  by_cases hoverlong' : p'.Overlong stop' now
  · rw [life_of_overlong hleap' hnow hoverlong', ← hhorizon]
    by_cases hoverlong : p.Overlong stop now
    · rw [life_of_overlong hleap hnow hoverlong]
      exact iff_of_true (Nat.le_refl _) fun h => h.1 hoverlong
    · rw [and_iff_right hoverlong, and_iff_right hoverlong', Nat.not_lt]
  · have hoverlong : ¬ p.Overlong stop now := fun h => hoverlong' (Int.lt_of_lt_of_le h hspan)
    rw [life_of_not_overlong hleap hnow hoverlong, life_of_not_overlong hleap' hnow hoverlong']
    exact iff_of_true (Int.toNat_le_toNat hspan) fun h => hoverlong' h.2.1

/-- An entity that is valid for another minute lives for two minutes under a configured grace of one,
and for six under a grace of five. -/
theorem life_le_life_of_minutes :
    let p : ExpirationPolicy := ExpirationOverride.apply ⟨some 60, none⟩ (.standard .generalMessage)
    let p' : ExpirationPolicy :=
      ExpirationOverride.apply ⟨some 300, none⟩ (.standard .generalMessage)
    let stop := Timestamp.epoch.advance Duration.minute
    (p.horizon = p'.horizon ∧ p.grace ≤ p'.grace ∧ stop ≤ stop ∧ stop.isLeap = false ∧
        Timestamp.epoch.isLeap = false) ∧
      (p.evaluate (some stop) .epoch).life = 2 * Duration.minute ∧
      (p'.evaluate (some stop) .epoch).life = 6 * Duration.minute ∧
      (p.evaluate (some stop) .epoch).life ≤ (p'.evaluate (some stop) .epoch).life := by
  intro p p' stop
  have hhorizon : p.horizon = p'.horizon := rfl
  have hgrace : p.grace ≤ p'.grace := by decide
  have hleap : stop.isLeap = false := by decide +kernel
  have hstop : stop ≤ stop := stop.le_refl
  refine ⟨⟨hhorizon, hgrace, hstop, hleap, rfl⟩, by decide +kernel, by decide +kernel, ?_⟩
  refine (life_le_life_iff hhorizon hgrace hstop hleap hleap rfl).1.2 fun h => ?_
  exact not_overlong_of_grace_le stop .epoch (by decide) h.2.1

/-- The longest grace that a configuration may ask for is too long to compute with, once there is any
validity left. A message that is valid for another second is kept for the horizon, here a second as
well, while one that is valid until now is kept for the longest span. -/
theorem life_shorter_for_longer_validity :
    let p : ExpirationPolicy := ExpirationOverride.apply ⟨some 18446744073709551615, some 1⟩
      (.standard .generalMessage)
    let now := Timestamp.epoch
    let later := Timestamp.epoch.advance Duration.second
    (p.evaluate (some now) now).life = longestSpan ∧
      (p.evaluate (some later) now).life = Duration.second ∧
      ¬ (now ≤ later → (p.evaluate (some now) now).life ≤ (p.evaluate (some later) now).life) := by
  decide +kernel

end ExpirationPolicy

end TransitHub
