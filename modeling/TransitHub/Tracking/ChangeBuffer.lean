/-
# Changed keys between commits

Every recording of changes gets the next sequence number, also one without any keys, and stamps its
keys with it. A key that is recorded again carries its latest stamp. So whoever remembers a sequence
number can later tell which of the drained keys were recorded after it.
-/

import TransitHub.RecordKey

namespace TransitHub

/-- Stamps of keys. -/
abbrev KeyStamps := Std.ExtTreeMap RecordKey Nat compare

/-- Changed keys that wait for the next commit. -/
structure ChangeBuffer where
  /-- The last sequence number that was given out. -/
  sequence : Nat := 0
  stamps : KeyStamps := ∅

namespace ChangeBuffer

/-- Stamp keys with the next sequence number. -/
def record (b : ChangeBuffer) (ks : KeySet) : ChangeBuffer where
  sequence := b.sequence + 1
  stamps := ks.toList.foldl (fun m k => m.insert k (b.sequence + 1)) b.stamps

/-- Take out what was recorded; the sequence goes on. -/
def drain (b : ChangeBuffer) : KeyStamps × ChangeBuffer := (b.stamps, { b with stamps := ∅ })

def size (b : ChangeBuffer) : Nat := b.stamps.size

/-- Whether no key waits. -/
def isEmpty (b : ChangeBuffer) : Bool := b.stamps.isEmpty

end ChangeBuffer

/-- The keys whose stamp is greater than a baseline. -/
def KeyStamps.after (stamps : KeyStamps) (baseline : Nat) : KeySet :=
  .ofList ((stamps.toList.filter fun e => baseline < e.2).map (·.1)) compare

end TransitHub
