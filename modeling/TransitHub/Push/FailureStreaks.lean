/-
# Failure streaks

When each subscription began to fail without a success in between. A streak starts with the first
failure, further failures do not move its start, and a success ends it. A subscription whose streak
is strictly longer than its grace period is to be cancelled.
-/

import TransitHub.RecordKey
import TransitHub.Time.Span

namespace TransitHub

/-- The start of the failure streak of each subscription that has one. -/
structure FailureStreaks where
  starts : Std.ExtTreeMap String Instant compare := ∅

namespace FailureStreaks

/-- How long a subscription may keep failing: three heartbeats, and five minutes at least. -/
def gracePeriod (heartbeatInterval : Duration) : Duration :=
  max (heartbeatInterval.times 3) (5 * Duration.minute)

/-- The start of the streak of a subscription. -/
def start? (s : FailureStreaks) (id : String) : Option Instant := s.starts[id]?

/-- Note a failure; it starts a streak if there is none. -/
def record (s : FailureStreaks) (id : String) (now : Instant) : FailureStreaks :=
  match s.start? id with
  | some _ => s
  | none => ⟨s.starts.insert id now⟩

def clear (s : FailureStreaks) (id : String) : FailureStreaks := ⟨s.starts.erase id⟩

/-- How long a subscription has been failing. -/
def failingFor? (s : FailureStreaks) (id : String) (now : Instant) : Option Duration :=
  (s.start? id).map now.since

/-- Whether a subscription has been failing for strictly longer than a grace period. -/
def exceeds (s : FailureStreaks) (id : String) (grace : Duration) (now : Instant) : Bool :=
  (s.failingFor? id now).any fun d => grace < d

/-- Keep the streaks of some subscriptions. -/
def retain (s : FailureStreaks) (keep : String → Bool) : FailureStreaks :=
  ⟨s.starts.filter fun id _ => keep id⟩

def size (s : FailureStreaks) : Nat := s.starts.size

def contains (s : FailureStreaks) (id : String) : Bool := (s.start? id).isSome

/-- How many streaks `retain` drops. -/
def dropped (s : FailureStreaks) (keep : String → Bool) : Nat := s.size - (s.retain keep).size

@[simp] theorem start?_record (s : FailureStreaks) (id id' : String) (now : Instant) :
    (s.record id now).start? id' =
      if id = id' then some ((s.start? id).getD now) else s.start? id' := by
  unfold record
  by_cases h : id = id'
  · subst h; cases hs : s.start? id <;> simp_all [start?]
  · rw [if_neg h]
    cases hs : s.start? id
    · simp only [start?, Std.ExtTreeMap.getElem?_insert]
      rw [if_neg (by simpa using h)]
    · rfl

@[simp] theorem start?_clear (s : FailureStreaks) (id id' : String) :
    (s.clear id).start? id' = if id = id' then none else s.start? id' := by
  simp only [clear, start?, Std.ExtTreeMap.getElem?_erase]
  simp

@[simp] theorem start?_retain (s : FailureStreaks) (keep : String → Bool) (id : String) :
    (s.retain keep).start? id = (s.start? id).filter fun _ => keep id := by
  simp only [retain, start?, Std.ExtTreeMap.getElem?_filter']

end FailureStreaks

end TransitHub
