/-
# What was stored last

A ledger holds for each key the item that was stored last under it, with the clocks at that moment.
Both a change and an unchanged refresh are entered; an item that is outdated or dropped is not. The
entry goes when its record is withdrawn by an expired item and when its dataset is cleared. Entries
do not go by themselves: the ledger does not know how long anything is kept.

What a store shows is decided by the ledger. At any moment of any run the live slot of a key is the
one in which the item of its entry was put, as long as the deadline of this slot lies ahead. No
other history matters, and nothing is asked of the clocks.
-/

import TransitHub.Proofs.Store.Run
import TransitHub.Proofs.Store.Slot
import TransitHub.Proofs.Store.Uncached

namespace TransitHub

variable {α : Type}

/-- An item that was stored, with the clocks at that moment. -/
structure Deposit (α : Type) where
  item : α
  clock : Clock

/-- What was stored last under each key. -/
abbrev Ledger (α : Type) := RecordKey → Option (Deposit α)

namespace Ledger

/-- The entry of a key after a verdict on it. -/
def entry (c : Clock) (old : Option (Deposit α)) (item : α) : Outcome → Option (Deposit α)
  | .changed | .unchanged => some ⟨item, c⟩
  | .expired => none
  | .outdated | .dropped => old

/-- Enter what became of an item. -/
def note (c : Clock) (l : Ledger α) (v : Verdict α) : Ledger α := fun k =>
  if v.key = k then entry c (l k) v.item v.outcome else l k

/-- Enter what an operation on a store does. -/
def enter (s : EntityStore α) (c : Clock) (l : Ledger α) : StoreOp α → Ledger α
  | .upsertAll dataset items => (s.verdicts c dataset items).foldl (note c) l
  | .clearDataset dataset => fun k => if k.belongsTo dataset then none else l k
  | _ => l

/-- The ledger after some operations more. -/
def after (r : StoreRun α (EntityStore α)) (l : Ledger α) : List (StoreOp α) → Ledger α
  | [] => l
  | op :: rest => after (r.next EntityStore.perform op) (l.enter r.store r.clock op) rest

/-- The ledger of a run of a new store. -/
def ofRun (profile : Profile α) (policy : ExpirationPolicy) (c : Clock) (ops : List (StoreOp α)) :
    Ledger α :=
  after { clock := c, store := EntityStore.empty profile policy } (fun _ => none) ops

theorem note_self (c : Clock) (l : Ledger α) (v : Verdict α) :
    l.note c v v.key = entry c (l v.key) v.item v.outcome := if_pos rfl

theorem note_of_ne (c : Clock) (l : Ledger α) {v : Verdict α} {k : RecordKey} (hne : v.key ≠ k) :
    l.note c v k = l k := if_neg hne

/-- What an entry says that is new after an item. -/
theorem of_note {c : Clock} {l : Ledger α} {v : Verdict α} {k : RecordKey} {d : Deposit α}
    (h : l.note c v k = some d) : l k = some d ∨ d = ⟨v.item, c⟩ := by
  by_cases hkey : v.key = k
  · subst hkey
    rw [note_self] at h
    cases houtcome : v.outcome with
    | changed | unchanged =>
      rw [houtcome] at h
      exact Or.inr (Option.some.inj h).symm
    | expired =>
      rw [houtcome] at h
      exact nomatch h
    | outdated | dropped =>
      rw [houtcome] at h
      exact Or.inl h
  · rw [note_of_ne c l hkey] at h
    exact Or.inl h

end Ledger

namespace EntityStore

variable {s s' : EntityStore α} {c : Clock} {now : Instant} {l : Ledger α}

/-- The verdicts of a batch are about its items. -/
theorem item_of_mem_verdicts {v : Verdict α} {dataset : String} {items : List α}
    (h : v ∈ s.verdicts c dataset items) : v.item ∈ items := by
  induction items generalizing s with
  | nil => exact absurd h List.not_mem_nil
  | cons item rest ih =>
    unfold verdicts at h
    split at h
    · exact List.mem_cons_of_mem _ (ih h)
    · rcases List.mem_cons.1 h with rfl | hrest
      · exact List.mem_cons_self
      · exact List.mem_cons_of_mem _ (ih hrest)

/-- The slot of a deposit, while it is live. -/
def liveSlot (s : EntityStore α) (now : Instant) (d : Deposit α) : Option (Slot (Envelope α)) :=
  (s.freshSlot d.clock d.item).filter fun slot => slot.isLive now

/-- How a deposit is kept depends on the profile and the policy only. -/
theorem liveSlot_congr (hprofile : s'.profile = s.profile) (hpolicy : s'.policy = s.policy) :
    s'.liveSlot now = s.liveSlot now := by
  funext d
  simp only [liveSlot, freshSlot, expiration, hprofile, hpolicy]

/-- A slot is live when an item is put in it. -/
theorem liveSlot_now (s : EntityStore α) (c : Clock) (item : α) :
    s.liveSlot c.now ⟨item, c⟩ = s.freshSlot c item := by
  unfold liveSlot freshSlot
  cases s.expiration c item with
  | expired => rfl
  | after ttl =>
    by_cases hzero : ttl = 0
    · simp [hzero]
    · have hlive : c.now < c.now.deadline ttl := Instant.lt_deadline c.now hzero
      simp [hzero, Option.filter, Slot.isLive, hlive]

/-- Whether the live slots of a store are those of the deposits in a ledger. -/
def Shows (s : EntityStore α) (now : Instant) (l : Ledger α) : Prop :=
  ∀ k, s.records.live? now k = (l k).bind (s.liveSlot now)

namespace Shows

theorem congr (h : s.Shows now l) (hprofile : s'.profile = s.profile)
    (hpolicy : s'.policy = s.policy)
    (hrecords : ∀ k, s'.records.live? now k = s.records.live? now k) : s'.Shows now l := by
  intro k
  rw [hrecords k, h k, liveSlot_congr hprofile hpolicy]

theorem later (h : s.Shows now l) {later : Instant} (hle : now ≤ later) : s.Shows later l := by
  intro k
  rw [TtlStore.live?_later s.records hle, h k]
  cases l k with
  | none => rfl
  | some d => exact Slot.filter_isLive_later (s.freshSlot d.clock d.item) hle

/-- An item is entered as it goes. -/
theorem upserted (h : s.Shows c.now l) {key : RecordKey} {item : α} {outcome : Outcome}
    (hup : Upserted s c key item outcome s') : s'.Shows c.now (l.note c ⟨key, item, outcome⟩) := by
  intro k
  rw [liveSlot_congr hup.profile_eq hup.policy_eq]
  by_cases hkey : key = k
  · subst hkey
    rw [l.note_self c ⟨key, item, outcome⟩]
    cases hup with
    | dropped => exact h key
    | outdated =>
      rw [records_asked]
      exact h key
    | expired => exact (TtlStore.live?_erase ..).trans (if_pos rfl)
    | added _ ttl hafter =>
      exact (live?_putRecord hafter s key _).trans (s.liveSlot_now c item).symm
    | refreshed _ _ _ _ ttl hafter =>
      exact (live?_putRecord hafter _ key _).trans (s.liveSlot_now c item).symm
    | replaced _ _ _ _ ttl hafter =>
      exact (live?_putRecord hafter _ key _).trans (s.liveSlot_now c item).symm
  · rw [hup.live?_records_of_ne hkey, l.note_of_ne c hkey, h k]

theorem upsertAll (h : s.Shows c.now l) (dataset : String) (items : List α) :
    (s.upsertAll c dataset items).2.Shows c.now
      ((s.verdicts c dataset items).foldl (Ledger.note c) l) := by
  induction items generalizing s l with
  | nil => exact h
  | cons item rest ih =>
    rw [store_upsertAll_cons, verdicts]
    cases s.profile.key? dataset item with
    | none => exact ih h
    | some key => exact ih (h.upserted (upsertOne_upserted s c key item))

theorem clearDataset (h : s.Shows now l) (dataset : String) :
    (s.clearDataset now dataset).2.Shows now
      fun k => if k.belongsTo dataset then none else l k := by
  intro k
  rw [live?_records_clearDataset, h k, liveSlot_congr (s.profile_clearDataset now dataset)
    (s.policy_clearDataset now dataset)]
  by_cases hk : k.belongsTo dataset = true
  · simp only [hk, if_true, Option.bind_none]
  · simp only [hk]
    rfl

/-- Every operation is entered as it goes, and time only takes slots away. -/
theorem perform (h : s.Shows c.now l) (op : StoreOp α) :
    (s.perform c op).2.Shows (op.clock c).now (l.enter s c op) := by
  apply later ?_ (op.now_le_clock c)
  cases op with
  | upsertAll dataset items => exact h.upsertAll dataset items
  | clearDataset dataset => exact h.clearDataset dataset
  | get key => exact h.congr rfl rfl (s.records.live?_touch c.now key)
  | getMany keys => exact h.congr rfl rfl (s.records.live?_touchAll c.now keys)
  | sweep => exact h.congr rfl rfl (s.records.live?_sweep c.now)
  | getAll | query | size | pass => exact h

theorem run {r : StoreRun α (EntityStore α)} (h : r.store.Shows r.clock.now l)
    (ops : List (StoreOp α)) :
    (r.run EntityStore.perform ops).store.Shows (r.run EntityStore.perform ops).clock.now
      (l.after r ops) := by
  induction ops generalizing r l with
  | nil => exact h
  | cons op rest ih => exact ih (h.perform op)

end Shows

/-- What a store shows is decided by what was stored last under each key. -/
theorem shows_ofRun (profile : Profile α) (policy : ExpirationPolicy) (c : Clock)
    (ops : List (StoreOp α)) :
    (runFrom profile policy c ops).store.Shows (runFrom profile policy c ops).clock.now
      (Ledger.ofRun profile policy c ops) := by
  apply Shows.run
  intro k
  exact TtlStore.live?_empty ..

end EntityStore

end TransitHub
