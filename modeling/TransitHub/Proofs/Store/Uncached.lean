/-
# The store without a cache

`UncachedStore` keeps records only. Where the store compares an item with a remembered fingerprint,
it computes the fingerprint of the stored entity anew. Everything else is the same, so any
difference between the two would be the doing of the cache.

There is none: forgetting the fingerprints turns each step of the store into the step of the store
without them, with the same answer, as long as the fingerprints are exact, and they always are.
What the two are compared by is every answer of a run, batch results with the reported entities
included.
-/

import TransitHub.Proofs.Store.Checksums
import TransitHub.Proofs.Store.Run

namespace TransitHub

/-- The records of one kind, without their fingerprints. -/
structure UncachedStore (α : Type) where
  profile : Profile α
  policy : ExpirationPolicy
  records : TtlStore RecordKey (Envelope α)

namespace UncachedStore

variable {α : Type}

def empty (profile : Profile α) (policy : ExpirationPolicy) : UncachedStore α where
  profile
  policy
  records := (EntityStore.empty profile policy).records

def put (s : UncachedStore α) (c : Clock) (key : RecordKey) (item : α) (ttl : Duration) :
    UncachedStore α :=
  { s with records := s.records.put c.now key ⟨item, EntityStore.expiryStamp c ttl⟩ ttl }

def remove (s : UncachedStore α) (key : RecordKey) : UncachedStore α :=
  { s with records := s.records.erase key }

/-- Ingest one item under its key, comparing it with the stored entity itself. -/
def upsertOne (s : UncachedStore α) (c : Clock) (key : RecordKey) (item : α) :
    Outcome × UncachedStore α :=
  let expiration := s.policy.evaluate (s.profile.validityEnd item) c.wall
  match s.records.lookup c.now key with
  | none =>
    match expiration with
    | .expired => (.dropped, s)
    | .after ttl => (.changed, s.put c key item ttl)
  | some stored =>
    let unchanged := s.profile.agree item stored.value
    if EntityStore.isOutdated (s.profile.recordedAt item) (s.profile.recordedAt stored.value)
        unchanged then
      (.outdated, s)
    else
      match expiration with
      | .expired => (.expired, s.remove key)
      | .after ttl => (if unchanged then .unchanged else .changed, s.put c key item ttl)

/-- Ingest one item of a batch, with what the batch has come to so far. -/
def upsertNext (c : Clock) (dataset : String) (acc : UpsertResult α × UncachedStore α) (item : α) :
    UpsertResult α × UncachedStore α :=
  let (r, s) := acc
  match s.profile.key? dataset item with
  | none => ({ r with summary := { r.summary with ignored := r.summary.ignored + 1 } }, s)
  | some key =>
    let r := match s.profile.fingerprint item with
      | .ok _ => r
      | .error reason => { r with unprinted := r.unprinted ++ [(key, reason)] }
    let (outcome, s) := s.upsertOne c key item
    (EntityStore.noteOutcome r key item outcome, s)

def upsertAll (s : UncachedStore α) (c : Clock) (dataset : String) (items : List α) :
    UpsertResult α × UncachedStore α :=
  items.foldl (upsertNext c dataset) (⟨{ total := items.length }, [], []⟩, s)

def keys (s : UncachedStore α) (now : Instant) (p : RecordKey → Bool) : KeySet :=
  s.records.keys now p

def getMany (s : UncachedStore α) (now : Instant) (ks : KeySet) : List (RecordKey × α) :=
  (s.records.values now ks).map fun (k, e) => (k, e.value)

def getAll (s : UncachedStore α) (now : Instant) (dataset : Option String) : List α :=
  (s.getMany now (s.keys now fun k => dataset.all k.belongsTo)).map (·.2)

def query (s : UncachedStore α) (now : Instant) (f : EntityFilter) : List α :=
  ((s.getMany now (s.keys now f.acceptsKey)).filter fun e => s.profile.selects f e.2).map (·.2)

def clearDataset (s : UncachedStore α) (now : Instant) (dataset : String) :
    Nat × UncachedStore α :=
  let ks := s.keys now fun k => k.belongsTo dataset
  (ks.size, ks.toList.foldl remove s)

/-- Perform one operation. -/
def perform (s : UncachedStore α) (c : Clock) : StoreOp α → StoreAnswer α × UncachedStore α
  | .upsertAll dataset items =>
    (.upserted (s.upsertAll c dataset items).1, (s.upsertAll c dataset items).2)
  | .clearDataset dataset =>
    (.cleared (s.clearDataset c.now dataset).1, (s.clearDataset c.now dataset).2)
  | .get key =>
    (.found ((s.records.lookup c.now key).map Envelope.value),
      { s with records := s.records.touch c.now key })
  | .getMany keys =>
    (.entries (s.getMany c.now keys), { s with records := s.records.touchAll c.now keys })
  | .getAll dataset => (.entities (s.getAll c.now dataset), s)
  | .query filter => (.entities (s.query c.now filter), s)
  | .size => (.counted (s.records.size c.now), s)
  | .sweep => (.done, { s with records := s.records.sweep c.now })
  | .pass _ => (.done, s)

/-- A run of a new store. -/
def runFrom (profile : Profile α) (policy : ExpirationPolicy) (c : Clock)
    (ops : List (StoreOp α)) : StoreRun α (UncachedStore α) :=
  StoreRun.run perform { clock := c, store := .empty profile policy } ops

end UncachedStore

namespace EntityStore

variable {α : Type}

/-- A store without its fingerprints. -/
def uncached (s : EntityStore α) : UncachedStore α := ⟨s.profile, s.policy, s.records⟩

@[simp]
theorem uncached_asked (s : EntityStore α) (now : Instant) (key : RecordKey) (item : α) :
    (s.asked now key item).uncached = s.uncached := by
  unfold asked
  split <;> rfl

@[simp]
theorem uncached_putRecord (s : EntityStore α) (c : Clock) (key : RecordKey) (item : α)
    (print : Option Fingerprint) (ttl : Duration) :
    (s.putRecord c key item print ttl).uncached = s.uncached.put c key item ttl := by
  cases print <;> rfl

theorem uncached_remove (s : EntityStore α) (key : RecordKey) :
    (s.remove key).uncached = s.uncached.remove key := rfl

/-- An exact cache makes no difference to an item. -/
theorem ChecksumsExact.uncached_upsertOne {s : EntityStore α} {c : Clock}
    (h : s.ChecksumsExact c.now) (key : RecordKey) (item : α) :
    s.uncached.upsertOne c key item =
      ((s.upsertOne c key item).1, (s.upsertOne c key item).2.uncached) := by
  cases hrecord : s.records.lookup c.now key with
  | none =>
    have hplain : s.uncached.upsertOne c key item = match s.expiration c item with
        | .expired => (.dropped, s.uncached)
        | .after ttl => (.changed, s.uncached.put c key item ttl) := by
      simp only [UncachedStore.upsertOne, uncached, hrecord]
      rfl
    rw [hplain, upsertOne_of_absent item hrecord]
    cases s.expiration c item <;> simp
  | some stored =>
    have hplain : s.uncached.upsertOne c key item =
        if s.outdatedBy c.now key item stored.value then (.outdated, s.uncached)
        else match s.expiration c item with
          | .expired => (.expired, s.uncached.remove key)
          | .after ttl => (if s.repeats c.now key item then .unchanged else .changed,
              s.uncached.put c key item ttl) := by
      simp only [UncachedStore.upsertOne, uncached, hrecord, outdatedBy, h.repeats_eq hrecord item]
      rfl
    rw [hplain, upsertOne_of_present item hrecord]
    split
    · simp
    · cases s.expiration c item with
      | expired =>
        have hremoved : ((s.asked c.now key item).remove key).uncached = s.uncached.remove key := by
          rw [uncached_remove, uncached_asked]
        exact congrArg (Prod.mk Outcome.expired) hremoved.symm
      | after ttl => simp

theorem ChecksumsExact.uncached_upsertNext {s : EntityStore α} {c : Clock}
    (h : s.ChecksumsExact c.now) (dataset : String) (r : UpsertResult α) (item : α) :
    UncachedStore.upsertNext c dataset (r, s.uncached) item =
      ((EntityStore.upsertNext c dataset (r, s) item).1,
        (EntityStore.upsertNext c dataset (r, s) item).2.uncached) := by
  cases hkey : s.profile.key? dataset item with
  | none =>
    have hplain : s.uncached.profile.key? dataset item = none := hkey
    simp only [UncachedStore.upsertNext, hplain, upsertNext_of_ignored hkey]
  | some key =>
    have hplain : s.uncached.profile.key? dataset item = some key := hkey
    simp only [UncachedStore.upsertNext, EntityStore.upsertNext, hplain, hkey,
      h.uncached_upsertOne key item]
    rfl

/-- Nor to a batch. -/
theorem ChecksumsExact.uncached_upsertAll {s : EntityStore α} {c : Clock}
    (h : s.ChecksumsExact c.now) (dataset : String) (items : List α) :
    s.uncached.upsertAll c dataset items =
      ((s.upsertAll c dataset items).1, (s.upsertAll c dataset items).2.uncached) := by
  unfold UncachedStore.upsertAll EntityStore.upsertAll
  generalize (⟨{ total := items.length }, [], []⟩ : UpsertResult α) = r
  induction items generalizing r s with
  | nil => rfl
  | cons item rest ih =>
    rw [List.foldl_cons, List.foldl_cons, h.uncached_upsertNext]
    exact ih (h.upsertNext dataset r item) _

theorem uncached_foldl_remove (s : EntityStore α) (ks : List RecordKey) :
    ks.foldl UncachedStore.remove s.uncached = (ks.foldl remove s).uncached := by
  induction ks generalizing s with
  | nil => rfl
  | cons key rest ih => exact ih (s.remove key)

/-- Every operation gives the same answer with an exact cache as without one. -/
theorem ChecksumsExact.uncached_perform {s : EntityStore α} {c : Clock}
    (h : s.ChecksumsExact c.now) (op : StoreOp α) :
    s.uncached.perform c op = ((s.perform c op).1, (s.perform c op).2.uncached) := by
  cases op with
  | upsertAll dataset items =>
    simp only [UncachedStore.perform, perform, h.uncached_upsertAll dataset items]
  | clearDataset dataset =>
    exact Prod.ext rfl (s.uncached_foldl_remove _)
  | _ => rfl

/-- Every operation keeps the cache exact, also until the next one. -/
theorem ChecksumsExact.perform {s : EntityStore α} {c : Clock} (h : s.ChecksumsExact c.now)
    (op : StoreOp α) : (s.perform c op).2.ChecksumsExact (op.clock c).now := by
  refine ChecksumsExact.later ?_ (op.now_le_clock c)
  cases op with
  | upsertAll dataset items => exact h.upsertAll dataset items
  | clearDataset dataset => exact h.clearDataset dataset
  | get key => exact h.congr rfl (s.records.live?_touch c.now key) fun _ => rfl
  | getMany keys => exact h.touchAll keys
  | sweep => exact h.sweep
  | _ => exact h

@[simp]
theorem profile_perform (s : EntityStore α) (c : Clock) (op : StoreOp α) :
    (s.perform c op).2.profile = s.profile := by
  cases op with
  | upsertAll dataset items => exact profile_upsertAll s c dataset items
  | clearDataset dataset => exact profile_clearDataset s c.now dataset
  | _ => rfl

@[simp]
theorem policy_perform (s : EntityStore α) (c : Clock) (op : StoreOp α) :
    (s.perform c op).2.policy = s.policy := by
  cases op with
  | upsertAll dataset items => exact policy_upsertAll s c dataset items
  | clearDataset dataset => exact policy_clearDataset s c.now dataset
  | _ => rfl

/-- A run of the store and the run of the store without a cache, seen together: the fingerprints
are exact, and forgetting them leads from one run to the other. -/
structure RunsAlike (profile : Profile α) (cached : StoreRun α (EntityStore α))
    (plain : StoreRun α (UncachedStore α)) : Prop where
  exact : cached.store.ChecksumsExact cached.clock.now
  profile : cached.store.profile = profile
  answers : plain.answers = cached.answers
  clock : plain.clock = cached.clock
  store : plain.store = cached.store.uncached

variable {profile : Profile α} {cached : StoreRun α (EntityStore α)}
  {plain : StoreRun α (UncachedStore α)}

theorem RunsAlike.next (h : RunsAlike profile cached plain) (op : StoreOp α) :
    RunsAlike profile (cached.next perform op) (plain.next UncachedStore.perform op) := by
  have hstep := h.exact.uncached_perform op
  rw [← h.store] at hstep
  constructor
  · exact h.exact.perform op
  · exact (profile_perform ..).trans h.profile
  · simp only [StoreRun.next, h.answers, hstep, h.clock]
  · simp only [StoreRun.next, h.clock]
  · simp only [StoreRun.next, hstep, h.clock]

theorem RunsAlike.run (h : RunsAlike profile cached plain) (ops : List (StoreOp α)) :
    RunsAlike profile (cached.run perform ops) (plain.run UncachedStore.perform ops) := by
  induction ops generalizing cached plain with
  | nil => exact h
  | cons op rest ih => exact ih (h.next op)

theorem runsAlike_runFrom (profile : Profile α) (policy : ExpirationPolicy) (c : Clock)
    (ops : List (StoreOp α)) :
    RunsAlike profile (runFrom profile policy c ops)
      (UncachedStore.runFrom profile policy c ops) := by
  have hstart : RunsAlike profile { clock := c, store := EntityStore.empty profile policy }
      { clock := c, store := UncachedStore.empty profile policy } :=
    { exact := checksumsExact_empty profile policy c.now
      profile := rfl
      answers := rfl
      clock := rfl
      store := rfl }
  exact hstart.run ops

theorem policy_runFrom (profile : Profile α) (policy : ExpirationPolicy) (c : Clock)
    (ops : List (StoreOp α)) : (runFrom profile policy c ops).store.policy = policy :=
  List.foldlRecOn (motive := fun r : StoreRun α (EntityStore α) => r.store.policy = policy) ops _ rfl
    fun r hr op _ => (policy_perform r.store r.clock op).trans hr

/-- In every state of every run a fingerprint is live for a key exactly when a record is live for it
whose entity has a fingerprint; it is that fingerprint, and it runs out at the same instant as the
record. Hence every batch result and every read of the run is the same as without a cache. -/
theorem checksums_exact_and_answers_uncached (profile : Profile α) (policy : ExpirationPolicy)
    (c : Clock) (ops : List (StoreOp α)) :
    (∀ k print deadline,
      (runFrom profile policy c ops).store.checksums.live? (runFrom profile policy c ops).clock.now
          k = some ⟨print, deadline⟩ ↔
        ∃ e, (runFrom profile policy c ops).store.records.live?
            (runFrom profile policy c ops).clock.now k = some ⟨e, deadline⟩ ∧
          profile.fingerprint e.value = .ok print) ∧
    (runFrom profile policy c ops).answers = (UncachedStore.runFrom profile policy c ops).answers := by
  have h := runsAlike_runFrom profile policy c ops
  refine ⟨fun k print deadline => ?_, h.answers.symm⟩
  rw [h.exact k, h.profile, Option.bind_eq_some_iff]
  constructor
  · intro h
    obtain ⟨⟨e, expiry⟩, hlive, hslot⟩ := h
    obtain ⟨rfl, hprint⟩ := Profile.printSlot_eq_some_iff.1 hslot
    exact ⟨e, hlive, hprint⟩
  · intro h
    obtain ⟨e, hlive, hprint⟩ := h
    exact ⟨⟨e, deadline⟩, hlive, Profile.printSlot_eq_some_iff.2 ⟨rfl, hprint⟩⟩

end EntityStore

end TransitHub
