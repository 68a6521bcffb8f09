/-
# The transport of pushes

What becomes of a post is decided outside of the hub. A script says it for each address: the replies
that posts get in turn, of which the last one is repeated. A post may also be held; it then waits
for a permit of its address and succeeds. Without a script every post succeeds.
-/

import TransitHub.RecordKey

namespace TransitHub

/-- Why a post failed. -/
inductive PushError
  | unreachable (reason : String)
  /-- The consumer answered with a status that means failure. -/
  | rejected (status : Nat)
  | timeout
  | other (reason : String)

def PushError.message : PushError → String
  | unreachable reason => "consumer unreachable: " ++ reason
  | rejected status => "consumer rejected push with status " ++ Decimal.text status
  | timeout => "push timed out"
  | other reason => "push failed: " ++ reason

/-- What a script says about a post. -/
inductive Reply
  | accept
  | fail (e : PushError)
  /-- The transport breaks down. -/
  | crash
  /-- The post waits for a permit. -/
  | hold

/-- The scripts of all addresses and their unused permits. -/
structure Transport where
  scripts : Std.ExtTreeMap String (List Reply) compare := ∅
  permits : Std.ExtTreeMap String Nat compare := ∅

namespace Transport

/-- Replace the script of an address. -/
def setScript (t : Transport) (address : String) (replies : List Reply) : Transport :=
  { t with scripts := t.scripts.insert address replies }

/-- What the next post to an address gets, and the script afterwards. -/
def next (t : Transport) (address : String) : Reply × Transport :=
  match t.scripts[address]? with
  | some [reply] => (reply, t)
  | some (reply :: rest) => (reply, t.setScript address rest)
  | _ => (.accept, t)

/-- The unused permits of an address. -/
def permitCount (t : Transport) (address : String) : Nat := t.permits[address]?.getD 0

/-- Keep permits for later posts. -/
def addPermits (t : Transport) (address : String) (n : Nat) : Transport :=
  { t with permits := t.permits.insert address (t.permitCount address + n) }

/-- Use a permit of an address, if there is one. -/
def takePermit? (t : Transport) (address : String) : Option Transport :=
  match t.permitCount address with
  | 0 => none
  | n + 1 => some { t with permits := t.permits.insert address n }

end Transport

end TransitHub
