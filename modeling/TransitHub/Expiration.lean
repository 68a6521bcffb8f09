/-
# Expiration policies

An entity with an end of validity lives until that end plus a grace period; one without lives for a
fixed horizon. The arithmetic on signed spans holds at most `Expiration.longestSpan`, 2^63 - 1
milliseconds: a longer grace counts as that much, and a sum beyond it falls back on the horizon.
-/

import TransitHub.DataKind

namespace TransitHub

/-- What a policy says about an entity. -/
inductive Expiration
  /-- It is no longer valid and must not be stored. -/
  | expired
  /-- It is kept for this long. -/
  | after (ttl : Duration)
deriving DecidableEq

def Expiration.longestSpan : Duration := 9223372036854775807 * Duration.millisecond

/-- How long entities are kept. -/
structure ExpirationPolicy where
  /-- Kept after the end of validity. -/
  grace : Duration
  /-- Kept without an end of validity. -/
  horizon : Duration
deriving DecidableEq

namespace ExpirationPolicy

open Expiration (longestSpan)

/-- The policy of a kind, unless it is configured otherwise. -/
def standard : DataKind → ExpirationPolicy
  | .vehicleMonitoring => ⟨0, Duration.hour⟩
  | .stopMonitoring => ⟨5 * Duration.minute, 6 * Duration.hour⟩
  | .estimatedTimetable => ⟨10 * Duration.minute, 12 * Duration.hour⟩
  | .situationExchange => ⟨6 * Duration.hour, 365 * Duration.day⟩
  | .generalMessage => ⟨0, 7 * Duration.day⟩
  | .facilityMonitoring => ⟨0, 30 * Duration.day⟩

/-- What the policy says at `now` about an entity with the given end of validity. -/
def evaluate (p : ExpirationPolicy) (validityEnd : Option Timestamp) (now : Timestamp) :
    Expiration :=
  match validityEnd with
  | none => .after p.horizon
  | some stop =>
    let ttl := stop.since now + (min p.grace longestSpan : Nat)
    if (longestSpan : Int) < ttl then .after p.horizon
    else if ttl ≤ 0 then .expired
    else .after ttl.toNat

/-- When an entity stored at `now` expires, if that is a timestamp. -/
def expiresAt (e : Expiration) (now : Timestamp) : Option Timestamp :=
  match e with
  | .expired => none
  | .after ttl => if ttl ≤ longestSpan then now.plus? ttl else none

end ExpirationPolicy

end TransitHub
