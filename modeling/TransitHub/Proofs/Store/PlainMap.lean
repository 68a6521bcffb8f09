/-
# A store is one map with deadlines

However many shards a store has, wherever it places its keys and however long it keeps slots whose
deadline has come: its callers cannot tell it from a single map from keys to values with deadlines,
in which an entry exists exactly as long as its deadline lies ahead. The map knows neither shards
nor sweeps nor reads that drop slots. It forgets what has expired before it answers a call, and
answers from what is left. Sweeps of the store are not among the calls, so it does not matter how
many there are nor when they come; nothing is claimed about how many slots a sweep drops.

A store and a map go together if the live slots of the store are the entries that exist in the map.
Each call keeps them together, and so does a sweep of the store, which the map does not notice.
-/

import TransitHub.Proofs.Store.Liveness

namespace TransitHub

variable {κ α : Type} [Ord κ]

/-- A call of a store. -/
inductive TtlCall (κ α : Type) [Ord κ]
  | get (k : κ)
  | put (k : κ) (value : α) (ttl : Duration)
  | delete (k : κ)
  | contains (k : κ)
  | size
  | keys (p : κ → Bool)
  | getAll (ks : Std.ExtTreeSet κ compare)
  | compute (k : κ) (decide : Option α → Update α)

/-- What a caller gets to know. For `compute` this is the value that the decision was told. -/
inductive TtlAnswer (κ α : Type) [Ord κ] [Std.TransOrd κ] [Std.LawfulEqOrd κ]
  | done
  | value (v? : Option α)
  | present (b : Bool)
  | count (n : Nat)
  | keySet (ks : Std.ExtTreeSet κ compare)
  | entries (es : List (κ × α))
deriving DecidableEq

/-- What happens to a store: a call, or a sweep that nobody asked for. -/
inductive TtlEvent (κ α : Type) [Ord κ]
  | call (c : TtlCall κ α)
  | sweep

/-- The calls among some events, each with its instant. -/
def TtlEvent.calls : List (Instant × TtlEvent κ α) → List (Instant × TtlCall κ α)
  | [] => []
  | (now, .call c) :: rest => (now, c) :: calls rest
  | (_, .sweep) :: rest => calls rest

namespace TtlStore

variable [Std.TransOrd κ] [Std.LawfulEqOrd κ]

/-- Answer one call. -/
def perform (s : TtlStore κ α) (now : Instant) : TtlCall κ α → TtlAnswer κ α × TtlStore κ α
  | .get k => (.value (s.lookup now k), s.touch now k)
  | .put k v ttl => (.done, s.put now k v ttl)
  | .delete k => (.value (s.lookup now k), s.erase k)
  | .contains k => (.present (s.contains now k), s)
  | .size => (.count (s.size now), s)
  | .keys p => (.keySet (s.keys now p), s)
  | .getAll ks => (.entries (s.values now ks), s.touchAll now ks)
  | .compute k decide => (.value (s.lookup now k), s.compute now k decide)

/-- The answers to the calls among some events, one after another. -/
def answers (s : TtlStore κ α) : List (Instant × TtlEvent κ α) → List (TtlAnswer κ α)
  | [] => []
  | (now, .call c) :: rest => (s.perform now c).1 :: (s.perform now c).2.answers rest
  | (now, .sweep) :: rest => (s.sweep now).answers rest

end TtlStore

/-! ## The map -/

/-- One map from keys to values with deadlines. -/
abbrev PlainMap (κ α : Type) [Ord κ] := Std.ExtTreeMap κ (Slot α) compare

namespace PlainMap

variable [Std.TransOrd κ]

/-- How long a time to live counts: one hundred years if its end is not representable. -/
def counted (now : Instant) (ttl : Duration) : Duration :=
  if now + (ttl : Int) < Instant.limit then ttl else Instant.farAhead

/-- The entries that exist: those whose deadline lies ahead. -/
def existing (m : PlainMap κ α) (now : Instant) : PlainMap κ α :=
  m.filter fun _ entry => now < entry.deadline

/-- Replace the entry of a key, or remove it if there is no time to live. -/
def replace (m : PlainMap κ α) (now : Instant) (k : κ) (v : α) (ttl : Duration) : PlainMap κ α :=
  if ttl = 0 then m.erase k else m.insert k ⟨v, now + (counted now ttl : Int)⟩

/-- Carry out a decision about a key. -/
def carryOut (m : PlainMap κ α) (now : Instant) (k : κ) : Update α → PlainMap κ α
  | .keep => m
  | .put v ttl => m.replace now k v ttl
  | .delete => m.erase k

/-- The value of a key. -/
def value? (m : PlainMap κ α) (k : κ) : Option α := m[k]?.map Slot.value

/-- Answer a call from entries that all exist. -/
def answer [Std.LawfulEqOrd κ] (m : PlainMap κ α) (now : Instant) :
    TtlCall κ α → TtlAnswer κ α × PlainMap κ α
  | .get k => (.value (m.value? k), m)
  | .put k v ttl => (.done, m.replace now k v ttl)
  | .delete k => (.value (m.value? k), m.erase k)
  | .contains k => (.present (m.contains k), m)
  | .size => (.count m.size, m)
  | .keys p => (.keySet (.ofList (m.keys.filter p) compare), m)
  | .getAll ks => (.entries (ks.toList.filterMap fun k => (m.value? k).map fun v => (k, v)), m)
  | .compute k decide => (.value (m.value? k), m.carryOut now k (decide (m.value? k)))

/-- The answers to some calls, one after another. -/
def answers [Std.LawfulEqOrd κ] (m : PlainMap κ α) :
    List (Instant × TtlCall κ α) → List (TtlAnswer κ α)
  | [] => []
  | (now, c) :: rest =>
    let answered := (m.existing now).answer now c
    answered.1 :: answers answered.2 rest

/-- A time to live ends where the deadline is put. -/
theorem add_counted (now : Instant) (ttl : Duration) :
    now + (counted now ttl : Int) = now.deadline ttl := by
  unfold counted Instant.deadline
  split <;> rfl

/-- The entry of a key, if it exists. -/
def present? (m : PlainMap κ α) (now : Instant) (k : κ) : Option (Slot α) :=
  m[k]?.filter fun entry => entry.isLive now

/-- Time alone only takes entries away. -/
theorem present?_later (m : PlainMap κ α) {now later : Instant} (h : now ≤ later) (k : κ) :
    m.present? later k = (m.present? now k).filter fun entry => entry.isLive later :=
  (Slot.filter_isLive_later m[k]? h).symm

variable [Std.LawfulEqOrd κ]

theorem getElem?_existing (m : PlainMap κ α) (now : Instant) (k : κ) :
    (m.existing now)[k]? = m.present? now k :=
  Std.ExtTreeMap.getElem?_filter'

/-- Forgetting what has expired takes no entry away that exists. -/
theorem present?_existing (m : PlainMap κ α) (now : Instant) (k : κ) :
    (m.existing now).present? now k = m.present? now k := by
  rw [present?, getElem?_existing, present?, Option.filter_filter]
  simp

theorem present?_erase [DecidableEq κ] (m : PlainMap κ α) (now : Instant) (k k' : κ) :
    present? (m.erase k) now k' = if k = k' then none else m.present? now k' := by
  rw [present?, Std.ExtTreeMap.getElem?_erase]
  simp only [Std.LawfulEqCmp.compare_eq_iff_eq]
  split <;> rfl

theorem present?_replace [DecidableEq κ] (m : PlainMap κ α) (now : Instant) (k k' : κ) (v : α)
    (ttl : Duration) :
    (m.replace now k v ttl).present? now k' =
      if k = k' then (if ttl = 0 then none else some ⟨v, now.deadline ttl⟩)
      else m.present? now k' := by
  unfold replace
  by_cases hzero : ttl = 0
  · simp only [hzero, if_true, present?_erase]
  · have hlive : (⟨v, now.deadline ttl⟩ : Slot α).isLive now = true :=
      Slot.isLive_iff.2 (Instant.lt_deadline now hzero)
    rw [if_neg hzero, add_counted, present?, Std.ExtTreeMap.getElem?_insert]
    simp only [Std.LawfulEqCmp.compare_eq_iff_eq]
    split
    · simp [Option.filter, hlive]
    · rfl

end PlainMap

/-! ## A store and a map that go together -/

namespace TtlStore

variable [Std.TransOrd κ] {s : TtlStore κ α} {m : PlainMap κ α} {now : Instant}

/-- Whether the live slots of a store are the entries that exist in a map. -/
def Matches (s : TtlStore κ α) (m : PlainMap κ α) (now : Instant) : Prop :=
  ∀ k, s.live? now k = m.present? now k

/-- A store without slots and a map without entries go together at any time. -/
theorem matches_empty (n : Nat) (place : κ → Nat) (now : Instant) :
    (empty n place : TtlStore κ α).Matches ∅ now := by
  intro k
  rw [live?_empty, PlainMap.present?, Std.ExtTreeMap.getElem?_empty]
  rfl

namespace Matches

theorem later (h : s.Matches m now) {later : Instant} (hle : now ≤ later) :
    s.Matches m later := by
  intro k
  rw [live?_later s hle, m.present?_later hle, h k]

variable [Std.LawfulEqOrd κ]

/-- A map that forgets what has expired still matches, and all its entries exist. -/
theorem live?_eq (h : s.Matches m now) (k : κ) : s.live? now k = (m.existing now)[k]? := by
  rw [m.getElem?_existing, h k]

theorem lookup_eq (h : s.Matches m now) (k : κ) :
    s.lookup now k = (m.existing now).value? k := by
  rw [lookup, h.live?_eq, PlainMap.value?]

theorem mem_existing_iff (h : s.Matches m now) (k : κ) :
    k ∈ m.existing now ↔ (s.live? now k).isSome = true := by
  rw [Std.ExtTreeMap.mem_iff_isSome_getElem?, h.live?_eq]

theorem size_eq (h : s.Matches m now) : s.size now = (m.existing now).size := by
  rw [← Std.ExtTreeMap.length_keys]
  apply size_eq_length Std.ExtTreeMap.nodup_keys
  intro k
  rw [Std.ExtTreeMap.mem_keys, h.mem_existing_iff]

/-- A sweep of the store goes unnoticed. -/
theorem sweep (h : s.Matches m now) : (s.sweep now).Matches m now := by
  intro k
  rw [live?_sweep, h k]

variable [DecidableEq κ]

theorem keys_eq (h : s.Matches m now) (p : κ → Bool) :
    s.keys now p = .ofList ((m.existing now).keys.filter p) compare := by
  apply Std.ExtTreeSet.ext_mem
  intro k
  have hlooked : (∃ v, s.lookup now k = some v) ↔ (s.live? now k).isSome = true := by
    rw [← Option.isSome_iff_exists, lookup, Option.isSome_map]
  rw [mem_keys, hlooked, Std.ExtTreeSet.mem_ofList, List.contains_iff_mem, List.mem_filter,
    Std.ExtTreeMap.mem_keys, h.mem_existing_iff]

/-- Both answer a call alike. -/
theorem answer_eq (h : s.Matches m now) (c : TtlCall κ α) :
    (s.perform now c).1 = ((m.existing now).answer now c).1 := by
  cases c with
  | get k => exact congrArg TtlAnswer.value (h.lookup_eq k)
  | put k v ttl => rfl
  | delete k => exact congrArg TtlAnswer.value (h.lookup_eq k)
  | contains k =>
    show TtlAnswer.present (s.contains now k) = .present ((m.existing now).contains k)
    rw [contains, h.live?_eq, Std.ExtTreeMap.contains_eq_isSome_getElem?]
  | size => exact congrArg TtlAnswer.count h.size_eq
  | keys p => exact congrArg TtlAnswer.keySet (h.keys_eq p)
  | getAll ks =>
    show TtlAnswer.entries (s.values now ks) = .entries _
    simp only [values, h.lookup_eq]
  | compute k decide => exact congrArg TtlAnswer.value (h.lookup_eq k)

/-- A call keeps them together. -/
theorem perform (h : s.Matches m now) (c : TtlCall κ α) :
    (s.perform now c).2.Matches ((m.existing now).answer now c).2 now := by
  have hkept : s.Matches (m.existing now) now := fun k => by rw [m.present?_existing, h k]
  intro k'
  cases c with
  | get k => exact (live?_touch s now k k').trans (hkept k')
  | put k v ttl =>
    show (s.put now k v ttl).live? now k' = ((m.existing now).replace now k v ttl).present? now k'
    rw [live?_put, PlainMap.present?_replace, hkept k']
  | delete k =>
    show (s.erase k).live? now k' = PlainMap.present? ((m.existing now).erase k) now k'
    rw [live?_erase, PlainMap.present?_erase, hkept k']
  | contains k => exact hkept k'
  | size => exact hkept k'
  | keys p => exact hkept k'
  | getAll ks => exact (live?_touchAll s now ks k').trans (hkept k')
  | compute k decide =>
    show (s.compute now k decide).live? now k' =
      ((m.existing now).carryOut now k (decide ((m.existing now).value? k))).present? now k'
    rw [compute, h.lookup_eq]
    cases decide ((m.existing now).value? k) with
    | keep => exact hkept k'
    | put v ttl => rw [apply, live?_put, PlainMap.carryOut, PlainMap.present?_replace, hkept k']
    | delete => rw [apply, live?_erase, PlainMap.carryOut, PlainMap.present?_erase, hkept k']

/-- What the two answer to all calls to come. -/
theorem answers_eq {events : List (Instant × TtlEvent κ α)}
    (horder : events.Pairwise fun e e' => e.1 ≤ e'.1)
    (h : ∀ e ∈ events, s.Matches m e.1) : s.answers events = m.answers (TtlEvent.calls events) := by
  induction events generalizing s m with
  | nil => rfl
  | cons e rest ih =>
    obtain ⟨now, e⟩ := e
    obtain ⟨hnow, hrest⟩ := List.pairwise_cons.1 horder
    have hhead : s.Matches m now := h (now, e) List.mem_cons_self
    cases e with
    | call c =>
      rw [answers, TtlEvent.calls, PlainMap.answers, hhead.answer_eq c,
        ih hrest fun e he => (hhead.perform c).later (hnow e he)]
    | sweep =>
      rw [answers, TtlEvent.calls, ih hrest fun e he => hhead.sweep.later (hnow e he)]

end Matches

variable [Std.LawfulEqOrd κ] [DecidableEq κ]

/-- Callers of a store are told what one map with deadlines would tell them. Hence nothing that
they are told depends on the number of the shards, on where keys are placed, or on when and how
often the store is swept. -/
theorem answers_plainMap {n : Nat} {place : κ → Nat} {events : List (Instant × TtlEvent κ α)}
    (horder : events.Pairwise fun e e' => e.1 ≤ e'.1) :
    (empty n place : TtlStore κ α).answers events =
        PlainMap.answers ∅ (TtlEvent.calls events) ∧
      ∀ (n' : Nat) (place' : κ → Nat) (events' : List (Instant × TtlEvent κ α)),
        (events'.Pairwise fun e e' => e.1 ≤ e'.1) →
        TtlEvent.calls events' = TtlEvent.calls events →
          (empty n' place' : TtlStore κ α).answers events' =
            (empty n place : TtlStore κ α).answers events := by
  have hmap (n : Nat) (place : κ → Nat) {events : List (Instant × TtlEvent κ α)}
      (horder : events.Pairwise fun e e' => e.1 ≤ e'.1) :
      (empty n place : TtlStore κ α).answers events =
        PlainMap.answers ∅ (TtlEvent.calls events) :=
    Matches.answers_eq horder fun e _ => matches_empty n place e.1
  constructor
  · exact hmap n place horder
  · intro n' place' events' horder' hcalls
    rw [hmap n' place' horder', hmap n place horder, hcalls]

/-- Two keys in one of three shards, read at the very instant of a deadline before and after a
sweep, and a value that is put without any time to live. -/
theorem answers_at_deadline :
    (empty 3 (· * 3) : TtlStore Nat String).answers
      [(0, .call (.put 1 "early" 5)), (0, .call (.put 2 "late" 9)), (5, .call .size),
       (5, .call (.compute 1 fun _ => .keep)), (5, .sweep), (5, .call (.get 2)),
       (7, .call (.compute 2 fun _ => .put "later" 9)), (9, .call (.get 2)),
       (9, .call (.put 2 "gone" 0)), (9, .call (.contains 2))] =
      [.done, .done, .count 1, .value none, .value (some "late"), .value (some "late"),
       .value (some "later"), .done, .present false] :=
  (answers_plainMap (by decide)).1.trans (by decide +kernel)

end TtlStore

end TransitHub
