/-
# The ways an item can go

An item that is ingested under its key goes one of six ways. `Upserted` lists them with everything
that decides between them and with the store that each leaves behind, and `upsertOne_upserted` says
that there is no other. What a batch does follows item by item; only `upsertOne` itself is opened
here.

Asking the cache for a fingerprint may drop an entry whose deadline has come. `asked` is the store
after that; its readers see no difference.
-/

import TransitHub.Proofs.Store.Reads

namespace TransitHub

/-- Whether an outcome decides what is stored. -/
def Outcome.settles : Outcome → Bool
  | .changed | .unchanged | .expired => true
  | .outdated | .dropped => false

namespace EntityStore

variable {α : Type}

/-- The fingerprint of an item, if it has one. -/
def print? (s : EntityStore α) (item : α) : Option Fingerprint :=
  (s.profile.fingerprint item).toOption

/-- Whether the cache holds the fingerprint of an item for its key. -/
def repeats (s : EntityStore α) (now : Instant) (key : RecordKey) (item : α) : Bool :=
  (s.print? item).isSome && s.checksums.lookup now key == s.print? item

/-- What asking the cache for the fingerprint of a key leaves. -/
def asked (s : EntityStore α) (now : Instant) (key : RecordKey) (item : α) : EntityStore α :=
  if (s.print? item).isSome then { s with checksums := s.checksums.touch now key } else s

/-- How long an item is to be kept. -/
def expiration (s : EntityStore α) (c : Clock) (item : α) : Expiration :=
  s.policy.evaluate (s.profile.validityEnd item) c.wall

/-- Whether an item is kept for some time. -/
def keeps (s : EntityStore α) (c : Clock) (item : α) : Bool :=
  match s.expiration c item with
  | .expired => false
  | .after ttl => ttl ≠ 0

/-- Whether an item is outdated by the entity that is stored for its key. -/
def outdatedBy (s : EntityStore α) (now : Instant) (key : RecordKey) (item stored : α) : Bool :=
  isOutdated (s.profile.recordedAt item) (s.profile.recordedAt stored) (s.repeats now key item)

/-- The six ways an item can go, each with its outcome and the store it leaves. -/
inductive Upserted (s : EntityStore α) (c : Clock) (key : RecordKey) (item : α) :
    Outcome → EntityStore α → Prop
  | dropped (habsent : s.records.lookup c.now key = none)
      (hexpired : s.expiration c item = .expired) : Upserted s c key item .dropped s
  | added (habsent : s.records.lookup c.now key = none) (ttl : Duration)
      (hafter : s.expiration c item = .after ttl) :
      Upserted s c key item .changed (s.putRecord c key item (s.print? item) ttl)
  | outdated (stored : Envelope α) (hpresent : s.records.lookup c.now key = some stored)
      (houtdated : s.outdatedBy c.now key item stored.value = true) :
      Upserted s c key item .outdated (s.asked c.now key item)
  | expired (stored : Envelope α) (hpresent : s.records.lookup c.now key = some stored)
      (hcurrent : s.outdatedBy c.now key item stored.value = false)
      (hexpired : s.expiration c item = .expired) :
      Upserted s c key item .expired ((s.asked c.now key item).remove key)
  | refreshed (stored : Envelope α) (hpresent : s.records.lookup c.now key = some stored)
      (hcurrent : s.outdatedBy c.now key item stored.value = false)
      (hrepeats : s.repeats c.now key item = true) (ttl : Duration)
      (hafter : s.expiration c item = .after ttl) :
      Upserted s c key item .unchanged
        ((s.asked c.now key item).putRecord c key item (s.print? item) ttl)
  | replaced (stored : Envelope α) (hpresent : s.records.lookup c.now key = some stored)
      (hcurrent : s.outdatedBy c.now key item stored.value = false)
      (hdiffers : s.repeats c.now key item = false) (ttl : Duration)
      (hafter : s.expiration c item = .after ttl) :
      Upserted s c key item .changed
        ((s.asked c.now key item).putRecord c key item (s.print? item) ttl)

/-- Without a live record an item is stored unless it is expired. -/
theorem upsertOne_of_absent {s : EntityStore α} {c : Clock} {key : RecordKey} (item : α)
    (habsent : s.records.lookup c.now key = none) :
    s.upsertOne c key item =
      match s.expiration c item with
      | .expired => (.dropped, s)
      | .after ttl => (.changed, s.putRecord c key item (s.print? item) ttl) := by
  simp only [upsertOne, habsent]
  rfl

/-- With a live record the recency decides first, then the expiration. -/
theorem upsertOne_of_present {s : EntityStore α} {c : Clock} {key : RecordKey} (item : α)
    {stored : Envelope α} (hpresent : s.records.lookup c.now key = some stored) :
    s.upsertOne c key item =
      if s.outdatedBy c.now key item stored.value then (.outdated, s.asked c.now key item)
      else match s.expiration c item with
        | .expired => (.expired, (s.asked c.now key item).remove key)
        | .after ttl => (if s.repeats c.now key item then .unchanged else .changed,
            (s.asked c.now key item).putRecord c key item (s.print? item) ttl) := by
  simp only [upsertOne, hpresent]
  unfold asked outdatedBy repeats expiration print?
  cases (s.profile.fingerprint item).toOption <;> rfl

/-- Every item goes one of the six ways. -/
theorem upsertOne_upserted (s : EntityStore α) (c : Clock) (key : RecordKey) (item : α) :
    Upserted s c key item (s.upsertOne c key item).1 (s.upsertOne c key item).2 := by
  cases hrecord : s.records.lookup c.now key with
  | none =>
    rw [upsertOne_of_absent item hrecord]
    cases hexpiration : s.expiration c item with
    | expired => exact .dropped hrecord hexpiration
    | after ttl => exact .added hrecord ttl hexpiration
  | some stored =>
    rw [upsertOne_of_present item hrecord]
    cases houtdated : s.outdatedBy c.now key item stored.value with
    | true => exact .outdated stored hrecord houtdated
    | false =>
      cases hexpiration : s.expiration c item with
      | expired => exact .expired stored hrecord houtdated hexpiration
      | after ttl =>
        cases hrepeats : s.repeats c.now key item with
        | true => exact .refreshed stored hrecord houtdated hrepeats ttl hexpiration
        | false => exact .replaced stored hrecord houtdated hrepeats ttl hexpiration

/-! ## What the pieces leave -/

@[simp]
theorem profile_asked (s : EntityStore α) (now : Instant) (key : RecordKey) (item : α) :
    (s.asked now key item).profile = s.profile := by
  unfold asked; split <;> rfl

@[simp]
theorem policy_asked (s : EntityStore α) (now : Instant) (key : RecordKey) (item : α) :
    (s.asked now key item).policy = s.policy := by
  unfold asked; split <;> rfl

@[simp]
theorem print?_asked (s : EntityStore α) (now : Instant) (key : RecordKey) (item : α) :
    (s.asked now key item).print? = s.print? := by
  unfold asked; split <;> rfl

@[simp]
theorem expiration_asked (s : EntityStore α) (now : Instant) (key : RecordKey) (item : α) :
    (s.asked now key item).expiration = s.expiration := by
  unfold asked; split <;> rfl

@[simp]
theorem records_asked (s : EntityStore α) (now : Instant) (key : RecordKey) (item : α) :
    (s.asked now key item).records = s.records := by
  unfold asked; split <;> rfl

@[simp]
theorem live?_checksums_asked (s : EntityStore α) (now : Instant) (key k : RecordKey) (item : α) :
    (s.asked now key item).checksums.live? now k = s.checksums.live? now k := by
  unfold asked
  split
  · exact TtlStore.live?_touch s.checksums now key k
  · rfl

@[simp]
theorem profile_putRecord (s : EntityStore α) (c : Clock) (key : RecordKey) (item : α)
    (print : Option Fingerprint) (ttl : Duration) :
    (s.putRecord c key item print ttl).profile = s.profile := by
  cases print <;> rfl

@[simp]
theorem policy_putRecord (s : EntityStore α) (c : Clock) (key : RecordKey) (item : α)
    (print : Option Fingerprint) (ttl : Duration) :
    (s.putRecord c key item print ttl).policy = s.policy := by
  cases print <;> rfl

@[simp]
theorem print?_putRecord (s : EntityStore α) (c : Clock) (key : RecordKey) (item : α)
    (print : Option Fingerprint) (ttl : Duration) :
    (s.putRecord c key item print ttl).print? = s.print? := by
  cases print <;> rfl

@[simp]
theorem expiration_putRecord (s : EntityStore α) (c : Clock) (key : RecordKey) (item : α)
    (print : Option Fingerprint) (ttl : Duration) :
    (s.putRecord c key item print ttl).expiration = s.expiration := by
  cases print <;> rfl

/-- When an item that is kept for `ttl` expires on the wall clock, as far as it can tell. -/
def expiryStamp (c : Clock) (ttl : Duration) : Timestamp :=
  (ExpirationPolicy.expiresAt (.after ttl) c.wall).getD Timestamp.last

@[simp]
theorem records_putRecord (s : EntityStore α) (c : Clock) (key : RecordKey) (item : α)
    (print : Option Fingerprint) (ttl : Duration) :
    (s.putRecord c key item print ttl).records =
      s.records.put c.now key ⟨item, expiryStamp c ttl⟩ ttl := by
  cases print <;> rfl

/-- A fingerprint is put for as long as its record; an item without one leaves none. -/
@[simp]
theorem live?_checksums_putRecord (s : EntityStore α) (c : Clock) (key k : RecordKey) (item : α)
    (print : Option Fingerprint) (ttl : Duration) :
    (s.putRecord c key item print ttl).checksums.live? c.now k =
      if key = k then
        (if ttl = 0 then none else print.map fun print => ⟨print, c.now.deadline ttl⟩)
      else s.checksums.live? c.now k := by
  cases print with
  | none =>
    show (s.checksums.erase key).live? c.now k = _
    simp
  | some print =>
    show (s.checksums.put c.now key print ttl).live? c.now k = _
    simp

theorem Upserted.profile_eq {s s' : EntityStore α} {c : Clock} {key : RecordKey} {item : α}
    {outcome : Outcome} (h : Upserted s c key item outcome s') : s'.profile = s.profile := by
  cases h <;> simp [remove]

theorem Upserted.policy_eq {s s' : EntityStore α} {c : Clock} {key : RecordKey} {item : α}
    {outcome : Outcome} (h : Upserted s c key item outcome s') : s'.policy = s.policy := by
  cases h <;> simp [remove]

/-- How long items are kept does not depend on what is stored. -/
theorem Upserted.expiration_eq {s s' : EntityStore α} {c : Clock} {key : RecordKey} {item : α}
    {outcome : Outcome} (h : Upserted s c key item outcome s') :
    s'.expiration = s.expiration := by
  cases h with
  | expired => exact s.expiration_asked c.now key item
  | _ => simp

/-- Ingesting an item disturbs the records of no other key. -/
theorem Upserted.live?_records_of_ne {s s' : EntityStore α} {c : Clock} {key k : RecordKey}
    {item : α} {outcome : Outcome} (h : Upserted s c key item outcome s') (hne : key ≠ k) :
    s'.records.live? c.now k = s.records.live? c.now k := by
  cases h <;> simp [remove, hne]

/-- Nor the fingerprint of another key. -/
theorem Upserted.live?_checksums_of_ne {s s' : EntityStore α} {c : Clock} {key k : RecordKey}
    {item : α} {outcome : Outcome} (h : Upserted s c key item outcome s') (hne : key ≠ k) :
    s'.checksums.live? c.now k = s.checksums.live? c.now k := by
  cases h <;> simp [remove, hne]

/-! ## What is read afterwards -/

theorem get?_putRecord {s : EntityStore α} {c : Clock} {item : α} {ttl : Duration}
    (hafter : s.expiration c item = .after ttl) (t : EntityStore α) (key : RecordKey)
    (print : Option Fingerprint) :
    (t.putRecord c key item print ttl).get? c.now key =
      if s.keeps c item then some item else none := by
  rw [get?, TtlStore.lookup, records_putRecord, TtlStore.live?_put, if_pos rfl, keeps, hafter]
  by_cases hzero : ttl = 0 <;> simp [hzero]

/-- An item that settles what is stored under its key is there afterwards if it is kept. -/
theorem Upserted.get?_eq {s s' : EntityStore α} {c : Clock} {key : RecordKey} {item : α}
    {outcome : Outcome} (h : Upserted s c key item outcome s') (k : RecordKey) :
    s'.get? c.now k =
      if key = k ∧ outcome.settles = true then (if s.keeps c item then some item else none)
      else s.get? c.now k := by
  by_cases hkey : key = k
  · subst hkey
    cases h with
    | dropped => simp [Outcome.settles]
    | outdated =>
      have hsame := congrArg (·.live? c.now key) (s.records_asked c.now key item)
      simp [Outcome.settles, get?_congr hsame]
    | expired _ _ _ hexpired =>
      have hnot : s.keeps c item = false := by rw [keeps, hexpired]
      simp [Outcome.settles, hnot]
    | added _ ttl hafter => simp [Outcome.settles, get?_putRecord hafter]
    | refreshed _ _ _ _ ttl hafter => simp [Outcome.settles, get?_putRecord hafter]
    | replaced _ _ _ _ ttl hafter => simp [Outcome.settles, get?_putRecord hafter]
  · rw [if_neg fun hboth => hkey hboth.1]
    exact get?_congr (h.live?_records_of_ne hkey)

/-! ## Batches -/

/-- An item without an identity is only counted. -/
theorem upsertNext_of_ignored {c : Clock} {dataset : String} {r : UpsertResult α}
    {s : EntityStore α} {item : α} (h : s.profile.key? dataset item = none) :
    upsertNext c dataset (r, s) item =
      ({ r with summary := { r.summary with ignored := r.summary.ignored + 1 } }, s) := by
  simp only [upsertNext, h]

/-- Any other item is ingested under its key. -/
theorem store_upsertNext {c : Clock} {dataset : String} {r : UpsertResult α}
    {s : EntityStore α} {item : α} {key : RecordKey} (h : s.profile.key? dataset item = some key) :
    (upsertNext c dataset (r, s) item).2 = (s.upsertOne c key item).2 := by
  simp only [upsertNext, h]

/-- The store that a batch leaves is that of its items one after the other. -/
theorem store_upsertAll_cons (s : EntityStore α) (c : Clock) (dataset : String) (item : α)
    (rest : List α) :
    (s.upsertAll c dataset (item :: rest)).2 =
      match s.profile.key? dataset item with
      | none => (s.upsertAll c dataset rest).2
      | some key => ((s.upsertOne c key item).2.upsertAll c dataset rest).2 := by
  -- What has been counted so far does not matter for the store.
  have hcounts (items : List α) (r r' : UpsertResult α) (s : EntityStore α) :
      (items.foldl (upsertNext c dataset) (r, s)).2 =
        (items.foldl (upsertNext c dataset) (r', s)).2 := by
    induction items generalizing r r' s with
    | nil => rfl
    | cons item rest ih =>
      have hstore : (upsertNext c dataset (r, s) item).2 =
          (upsertNext c dataset (r', s) item).2 := by
        cases hkey : s.profile.key? dataset item with
        | none => rw [upsertNext_of_ignored hkey, upsertNext_of_ignored hkey]
        | some key => rw [store_upsertNext hkey, store_upsertNext hkey]
      rw [List.foldl_cons, List.foldl_cons, ih, hstore]
  rw [upsertAll, List.foldl_cons]
  cases hkey : s.profile.key? dataset item with
  | none =>
    rw [upsertNext_of_ignored hkey]
    exact hcounts rest _ _ s
  | some key =>
    have hstore := store_upsertNext (r := ⟨{ total := (item :: rest).length }, [], []⟩) (c := c) hkey
    exact (hcounts rest _ _ _).trans (congrArg (fun t => (t.upsertAll c dataset rest).2) hstore)

/-- What changed is reported under its key. -/
theorem changed_upsertNext {c : Clock} {dataset : String} {r : UpsertResult α}
    {s : EntityStore α} {item : α} {key : RecordKey} (h : s.profile.key? dataset item = some key) :
    (upsertNext c dataset (r, s) item).1.changed =
      if (s.upsertOne c key item).1 = .changed then noteChange r.changed key item
      else r.changed := by
  simp only [upsertNext, h]
  cases (s.upsertOne c key item).1 <;> cases s.profile.fingerprint item <;> rfl

/-- Reporting a change adds its key to those that were reported. -/
theorem mem_keys_noteChange {changed : List (RecordKey × α)} {key k : RecordKey} {item : α} :
    k ∈ (noteChange changed key item).map (·.1) ↔ k = key ∨ k ∈ changed.map (·.1) := by
  induction changed with
  | nil => simp [noteChange]
  | cons entry rest ih =>
    obtain ⟨k', v⟩ := entry
    unfold noteChange
    split
    · next h => subst h; simp
    · simp only [List.map_cons, List.mem_cons, ih]
      exact or_left_comm

theorem mem_changedKeys {r : UpsertResult α} {k : RecordKey} :
    k ∈ r.changedKeys ↔ k ∈ r.changed.map (·.1) := by
  rw [UpsertResult.changedKeys, Std.ExtTreeSet.mem_ofList, List.contains_iff_mem]

/-- A batch reports the keys whose items changed something. -/
theorem mem_changedKeys_upsertNext {c : Clock} {dataset : String} {r : UpsertResult α}
    {s : EntityStore α} {item : α} {key k : RecordKey}
    (h : s.profile.key? dataset item = some key) :
    k ∈ (upsertNext c dataset (r, s) item).1.changedKeys ↔
      (s.upsertOne c key item).1 = .changed ∧ key = k ∨ k ∈ r.changedKeys := by
  rw [mem_changedKeys, changed_upsertNext h]
  split
  · next hchanged => rw [mem_keys_noteChange, ← mem_changedKeys]; simp [hchanged, eq_comm]
  · next hquiet => rw [← mem_changedKeys]; simp [hquiet]

/-- Whatever a step for one item keeps is kept by a batch. -/
theorem upsertAll_induction {motive : UpsertResult α → EntityStore α → Prop} (s : EntityStore α)
    (c : Clock) (dataset : String) (items : List α)
    (start : motive ⟨{ total := items.length }, [], []⟩ s)
    (step : ∀ r s item, motive r s →
      motive (upsertNext c dataset (r, s) item).1 (upsertNext c dataset (r, s) item).2) :
    motive (s.upsertAll c dataset items).1 (s.upsertAll c dataset items).2 :=
  List.foldlRecOn (motive := fun acc => motive acc.1 acc.2) items (upsertNext c dataset) start
    fun acc h item _ => step acc.1 acc.2 item h

@[simp]
theorem profile_upsertAll (s : EntityStore α) (c : Clock) (dataset : String) (items : List α) :
    (s.upsertAll c dataset items).2.profile = s.profile := by
  refine upsertAll_induction (motive := fun _ t => t.profile = s.profile) s c dataset items rfl
    fun r t item ht => ?_
  cases hkey : t.profile.key? dataset item with
  | none => rw [upsertNext_of_ignored hkey]; exact ht
  | some key =>
    rw [store_upsertNext hkey]
    exact (upsertOne_upserted t c key item).profile_eq.trans ht

@[simp]
theorem policy_upsertAll (s : EntityStore α) (c : Clock) (dataset : String) (items : List α) :
    (s.upsertAll c dataset items).2.policy = s.policy := by
  refine upsertAll_induction (motive := fun _ t => t.policy = s.policy) s c dataset items rfl
    fun r t item ht => ?_
  cases hkey : t.profile.key? dataset item with
  | none => rw [upsertNext_of_ignored hkey]; exact ht
  | some key =>
    rw [store_upsertNext hkey]
    exact (upsertOne_upserted t c key item).policy_eq.trans ht

end EntityStore

end TransitHub
