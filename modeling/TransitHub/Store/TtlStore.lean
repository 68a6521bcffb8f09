/-
# Stores with a time to live

A store maps keys to values, each with a deadline. An entry whose deadline has come is invisible to
every read; it is dropped when a single read touches it, when it is overwritten, or by a sweep. The
entries are spread over shards, and a key always lies in the shard that its placement names, so
`slot?` is one map over all shards. Each operation is described by what it does to `slot?`; what
readers see is `lookup`, the live part of it.
-/

import Std.Data.ExtTreeMap
import Std.Data.ExtTreeSet
import TransitHub.Time.Span

namespace TransitHub

/-- A stored value with its deadline. -/
@[ext] structure Slot (α : Type) where
  value : α
  deadline : Instant

/-- A slot is live strictly before its deadline. -/
def Slot.isLive {α : Type} (s : Slot α) (now : Instant) : Bool := now < s.deadline

abbrev Shard (κ α : Type) [Ord κ] := Std.ExtTreeMap κ (Slot α) compare

/-- A store whose entries have a time to live. -/
structure TtlStore (κ α : Type) [Ord κ] [Std.TransOrd κ] where
  /-- Where a key belongs, before it is cut down to the number of shards. -/
  place : κ → Nat
  shards : List (Shard κ α)
  nonempty : 0 < shards.length
  /-- A key lies only in the shard it belongs to. -/
  placed : ∀ (i : Nat) (h : i < shards.length) (k : κ),
    k ∈ shards[i] → place k % shards.length = i

/-- What to do with an entry after having seen its live value. -/
inductive Update (α : Type)
  | keep
  | put (value : α) (ttl : Duration)
  | delete

namespace TtlStore

variable {κ α : Type} [Ord κ] [Std.TransOrd κ]

/-- Empty shards, as many as are asked for and at least one. -/
def emptyShards (κ α : Type) [Ord κ] (n : Nat) : List (Shard κ α) := List.replicate (max n 1) ∅

omit [Std.TransOrd κ] in
theorem length_emptyShards (n : Nat) : 0 < (emptyShards κ α n).length := by
  rw [emptyShards, List.length_replicate]; omega

theorem placed_emptyShards (place : κ → Nat) (n i : Nat) (h : i < (emptyShards κ α n).length)
    (k : κ) (hk : k ∈ (emptyShards κ α n)[i]) : place k % (emptyShards κ α n).length = i := by
  simp only [emptyShards, List.getElem_replicate] at hk
  exact absurd hk Std.ExtTreeMap.not_mem_empty

/-- An empty store with the given number of shards, at least one. -/
def empty (shards : Nat) (place : κ → Nat) : TtlStore κ α where
  place
  shards := emptyShards κ α shards
  nonempty := length_emptyShards shards
  placed := placed_emptyShards place shards

/-- The number of the shard of a key. -/
def index (s : TtlStore κ α) (k : κ) : Nat := s.place k % s.shards.length

theorem index_lt (s : TtlStore κ α) (k : κ) : s.index k < s.shards.length :=
  Nat.mod_lt _ s.nonempty

def shard (s : TtlStore κ α) (k : κ) : Shard κ α := s.shards.get ⟨s.index k, s.index_lt k⟩

/-- The slot of a key, live or not. -/
def slot? (s : TtlStore κ α) (k : κ) : Option (Slot α) := (s.shard k)[k]?

/-- Change the shard of a key without putting any other key into it. -/
def alter (s : TtlStore κ α) (k : κ) (f : Shard κ α → Shard κ α)
    (hf : ∀ (m : Shard κ α) (k' : κ), k' ∈ f m → k' ∈ m ∨ compare k k' = .eq)
    (hplace : ∀ k', compare k k' = .eq → s.place k' = s.place k) : TtlStore κ α where
  place := s.place
  shards := s.shards.modify (s.index k) f
  nonempty := by simpa using s.nonempty
  placed i h k' hk' := by
    have hi : i < s.shards.length := by simpa using h
    rw [List.getElem_modify] at hk'
    rw [List.length_modify]
    split at hk'
    · rename_i hindex
      rcases hf _ _ hk' with hm | hm
      · exact s.placed i hi k' hm
      · rw [hplace k' hm, ← hindex]; rfl
    · exact s.placed i hi k' hk'

variable [Std.LawfulEqOrd κ]

/-- Put a slot for a key. -/
def insertSlot (s : TtlStore κ α) (k : κ) (slot : Slot α) : TtlStore κ α :=
  s.alter k (fun m => m.insert k slot)
    (fun m k' h => by
      rcases Std.ExtTreeMap.mem_insert.1 h with h | h
      · exact .inr h
      · exact .inl h)
    (fun k' h => by rw [Std.LawfulEqOrd.eq_of_compare h])

/-- Drop the slot of a key. -/
def erase (s : TtlStore κ α) (k : κ) : TtlStore κ α :=
  s.alter k (fun m => m.erase k) (fun m k' h => .inl (Std.ExtTreeMap.mem_of_mem_erase h))
    (fun k' h => by rw [Std.LawfulEqOrd.eq_of_compare h])

omit [Std.LawfulEqOrd κ] in
/-- Keep the slots that pass a test. -/
def filter (s : TtlStore κ α) (p : κ → Slot α → Bool) : TtlStore κ α where
  place := s.place
  shards := s.shards.map fun m => m.filter p
  nonempty := by simpa using s.nonempty
  placed i h k hk := by
    have hi : i < s.shards.length := by simpa using h
    rw [List.getElem_map] at hk
    rw [List.length_map]
    exact s.placed i hi k (Std.ExtTreeMap.mem_of_mem_filter hk)

/-- The live slot of a key. -/
def live? (s : TtlStore κ α) (now : Instant) (k : κ) : Option (Slot α) :=
  (s.slot? k).filter fun slot => slot.isLive now

/-- The live value of a key. -/
def lookup (s : TtlStore κ α) (now : Instant) (k : κ) : Option α :=
  (s.live? now k).map Slot.value

/-- Whether a key has a live value. -/
def contains (s : TtlStore κ α) (now : Instant) (k : κ) : Bool := (s.live? now k).isSome

/-- The keys of the slots that pass a test, shard by shard. -/
def slotKeys (s : TtlStore κ α) (p : κ → Slot α → Bool) : List κ :=
  s.shards.flatMap fun m => (m.filter p).keys

def size (s : TtlStore κ α) (now : Instant) : Nat :=
  (s.slotKeys fun _ slot => slot.isLive now).length

/-- The keys that have a live value and pass a test. -/
def keys (s : TtlStore κ α) (now : Instant) (p : κ → Bool) : Std.ExtTreeSet κ compare :=
  .ofList (s.slotKeys fun k slot => slot.isLive now && p k) compare

def values (s : TtlStore κ α) (now : Instant) (ks : Std.ExtTreeSet κ compare) : List (κ × α) :=
  ks.toList.filterMap fun k => (s.lookup now k).map fun v => (k, v)

/-- What a single read leaves: a slot whose deadline has come is dropped. -/
def touch (s : TtlStore κ α) (now : Instant) (k : κ) : TtlStore κ α :=
  match s.slot? k with
  | some slot => if slot.isLive now then s else s.erase k
  | none => s

/-- What reading some keys one by one leaves. -/
def touchAll (s : TtlStore κ α) (now : Instant) (ks : Std.ExtTreeSet κ compare) : TtlStore κ α :=
  ks.toList.foldl (fun s k => s.touch now k) s

/-- Put a value. Without any time to live the key is dropped instead. -/
def put (s : TtlStore κ α) (now : Instant) (k : κ) (value : α) (ttl : Duration) : TtlStore κ α :=
  if ttl = 0 then s.erase k else s.insertSlot k ⟨value, now.deadline ttl⟩

/-- Carry out a decision about a key. -/
def apply (s : TtlStore κ α) (now : Instant) (k : κ) : Update α → TtlStore κ α
  | .keep => s
  | .put value ttl => s.put now k value ttl
  | .delete => s.erase k

/-- Decide about a key after having seen its live value. -/
def compute (s : TtlStore κ α) (now : Instant) (k : κ) (decide : Option α → Update α) :
    TtlStore κ α :=
  s.apply now k (decide (s.lookup now k))

/-- How many slots a sweep would drop. -/
def expired (s : TtlStore κ α) (now : Instant) : Nat :=
  (s.slotKeys fun _ slot => !slot.isLive now).length

/-- Drop every slot whose deadline has come. -/
def sweep (s : TtlStore κ α) (now : Instant) : TtlStore κ α :=
  s.filter fun _ slot => slot.isLive now

section Lemmas

omit [Std.LawfulEqOrd κ]

/-! What the operations do to the slots. -/

theorem shard_alter (s : TtlStore κ α) (k k' : κ) (f : Shard κ α → Shard κ α) (hf) (hplace) :
    (s.alter k f hf hplace).shard k' =
      if s.index k = s.index k' then f (s.shard k') else s.shard k' := by
  unfold shard
  simp only [alter, index, List.length_modify, List.get_eq_getElem, List.getElem_modify]
  split <;> rename_i h <;> simp [h]

theorem shard_filter (s : TtlStore κ α) (p : κ → Slot α → Bool) (k : κ) :
    (s.filter p).shard k = (s.shard k).filter p := by
  unfold shard
  simp only [filter, index, List.length_map, List.get_eq_getElem, List.getElem_map]

@[simp] theorem slot?_empty (n : Nat) (place : κ → Nat) (k : κ) :
    (empty n place : TtlStore κ α).slot? k = none := by
  simp [slot?, shard, empty, emptyShards]

variable [Std.LawfulEqOrd κ] [DecidableEq κ]

@[simp] theorem slot?_insertSlot (s : TtlStore κ α) (k k' : κ) (slot : Slot α) :
    (s.insertSlot k slot).slot? k' = if k = k' then some slot else s.slot? k' := by
  unfold slot? insertSlot
  rw [shard_alter]
  by_cases h : k = k'
  · subst h; simp
  · have hne : ¬ compare k k' = .eq := fun h' => h (Std.LawfulEqOrd.eq_of_compare h')
    rw [if_neg h]
    split
    · rw [Std.ExtTreeMap.getElem?_insert, if_neg hne]
    · rfl

@[simp] theorem slot?_erase (s : TtlStore κ α) (k k' : κ) :
    (s.erase k).slot? k' = if k = k' then none else s.slot? k' := by
  unfold slot? erase
  rw [shard_alter]
  by_cases h : k = k'
  · subst h; simp
  · have hne : ¬ compare k k' = .eq := fun h' => h (Std.LawfulEqOrd.eq_of_compare h')
    rw [if_neg h]
    split
    · rw [Std.ExtTreeMap.getElem?_erase, if_neg hne]
    · rfl

omit [DecidableEq κ] in
@[simp] theorem slot?_filter (s : TtlStore κ α) (p : κ → Slot α → Bool) (k : κ) :
    (s.filter p).slot? k = (s.slot? k).filter (p k) := by
  unfold slot?
  rw [shard_filter, Std.ExtTreeMap.getElem?_filter']

end Lemmas

end TtlStore

end TransitHub
