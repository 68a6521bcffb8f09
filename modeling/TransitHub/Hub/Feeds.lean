/-
# The feeds of a hub

One feed for each kind of data. `get` and `set` address a feed by its kind, so that what a hub does
with a feed is written once.
-/

import TransitHub.Config.Hub
import TransitHub.Entity.Kinds
import TransitHub.Feed

namespace TransitHub

/-- One feed for each kind. -/
structure Feeds where
  situations : Feed Situation
  vehicles : Feed VehicleActivity
  journeys : Feed EstimatedJourney
  stopVisits : Feed StopVisit
  messages : Feed InfoMessage
  facilities : Feed FacilityCondition

namespace Feeds

/-- An empty feed of a kind with the policy and the tracking period of a configuration, which
fingerprints by a hash. -/
def emptyFeed (c : HubConfig) (hash : String → Fingerprint) (k : DataKind) : Feed k.Entity :=
  .empty (k.profileBy hash) (c.policy k) c.trackingPeriod

def empty (c : HubConfig) (hash : String → Fingerprint := Fingerprint.ofText) : Feeds where
  situations := emptyFeed c hash .situationExchange
  vehicles := emptyFeed c hash .vehicleMonitoring
  journeys := emptyFeed c hash .estimatedTimetable
  stopVisits := emptyFeed c hash .stopMonitoring
  messages := emptyFeed c hash .generalMessage
  facilities := emptyFeed c hash .facilityMonitoring

def get (fs : Feeds) : (k : DataKind) → Feed k.Entity
  | .situationExchange => fs.situations
  | .vehicleMonitoring => fs.vehicles
  | .estimatedTimetable => fs.journeys
  | .stopMonitoring => fs.stopVisits
  | .generalMessage => fs.messages
  | .facilityMonitoring => fs.facilities

def set (fs : Feeds) : (k : DataKind) → Feed k.Entity → Feeds
  | .situationExchange, f => { fs with situations := f }
  | .vehicleMonitoring, f => { fs with vehicles := f }
  | .estimatedTimetable, f => { fs with journeys := f }
  | .stopMonitoring, f => { fs with stopVisits := f }
  | .generalMessage, f => { fs with messages := f }
  | .facilityMonitoring, f => { fs with facilities := f }

@[simp] theorem get_set (fs : Feeds) (k : DataKind) (f : Feed k.Entity) :
    (fs.set k f).get k = f := by
  cases k <;> rfl

theorem get_set_of_ne (fs : Feeds) {k k' : DataKind} (f : Feed k.Entity) (h : k ≠ k') :
    (fs.set k f).get k' = fs.get k' := by
  cases k <;> cases k' <;> simp_all [set, get]

end Feeds

end TransitHub
