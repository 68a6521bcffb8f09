/-
# One slot at a time

What a batch does to the record of one key is decided by the items of that key alone: items of other
keys neither see its slot nor change it. `meet` is the decision about one item as a function of the
slot that it finds, and `meetAll` lets items meet a slot one after the other. As long as the
fingerprints are exact, the items of a key meet its live slot in a batch just as if there were no
others (`ChecksumsExact.meetAll_eq`). An argument about a whole batch may then be carried out for
each key by itself, on a list of items and without the store.
-/

import TransitHub.Proofs.Store.Report

namespace TransitHub

/-- Whether an entity makes an item outdated: the item was recorded before it, or at the same time
and does not say the same. -/
def Profile.outdates {α : Type} (p : Profile α) (stored item : α) : Bool :=
  EntityStore.isOutdated (p.recordedAt item) (p.recordedAt stored) (p.agree item stored)

namespace EntityStore

variable {α : Type}

/-- The slot in which an item is stored now, unless it is not kept for any time. -/
def freshSlot (s : EntityStore α) (c : Clock) (item : α) : Option (Slot (Envelope α)) :=
  match s.expiration c item with
  | .expired => none
  | .after ttl => if ttl = 0 then none else some ⟨⟨item, expiryStamp c ttl⟩, c.now.deadline ttl⟩

/-- What becomes of an item that finds the given live slot under its key, and of the slot. -/
def meet (s : EntityStore α) (c : Clock) (slot : Option (Slot (Envelope α))) (item : α) :
    Outcome × Option (Slot (Envelope α)) :=
  match slot with
  | none => (if s.expiration c item = .expired then .dropped else .changed, s.freshSlot c item)
  | some stored =>
    if s.profile.outdates stored.value.value item then (.outdated, slot)
    else if s.expiration c item = .expired then (.expired, none)
    else (if s.profile.agree item stored.value.value then .unchanged else .changed,
      s.freshSlot c item)

/-- What becomes of items that meet a slot one after the other, and of the slot. -/
def meetAll (s : EntityStore α) (c : Clock) (slot : Option (Slot (Envelope α))) :
    List α → List Outcome × Option (Slot (Envelope α))
  | [] => ([], slot)
  | item :: rest =>
    let (outcome, slot) := s.meet c slot item
    let (outcomes, slot) := s.meetAll c slot rest
    (outcome :: outcomes, slot)

@[simp]
theorem meetAll_nil (s : EntityStore α) (c : Clock) (slot : Option (Slot (Envelope α))) :
    s.meetAll c slot [] = ([], slot) := rfl

@[simp]
theorem meetAll_cons (s : EntityStore α) (c : Clock) (slot : Option (Slot (Envelope α))) (item : α)
    (rest : List α) :
    s.meetAll c slot (item :: rest) =
      ((s.meet c slot item).1 :: (s.meetAll c (s.meet c slot item).2 rest).1,
        (s.meetAll c (s.meet c slot item).2 rest).2) := rfl

theorem meetAll_append (s : EntityStore α) (c : Clock) (slot : Option (Slot (Envelope α)))
    (items items' : List α) :
    s.meetAll c slot (items ++ items') =
      ((s.meetAll c slot items).1 ++ (s.meetAll c (s.meetAll c slot items).2 items').1,
        (s.meetAll c (s.meetAll c slot items).2 items').2) := by
  induction items generalizing slot with
  | nil => rfl
  | cons item rest ih => simp [ih]

theorem meet_none (s : EntityStore α) (c : Clock) (item : α) :
    s.meet c none item =
      (if s.expiration c item = .expired then .dropped else .changed, s.freshSlot c item) := rfl

/-- An item that is outdated leaves the slot as it is. -/
theorem meet_of_outdates {s : EntityStore α} {c : Clock} {stored : Slot (Envelope α)} {item : α}
    (h : s.profile.outdates stored.value.value item = true) :
    s.meet c (some stored) item = (.outdated, some stored) := if_pos h

/-- Any other item takes the place of what it finds, or removes it. -/
theorem meet_of_current {s : EntityStore α} {c : Clock} {stored : Slot (Envelope α)} {item : α}
    (h : s.profile.outdates stored.value.value item = false) :
    s.meet c (some stored) item =
      if s.expiration c item = .expired then (.expired, none)
      else (if s.profile.agree item stored.value.value then .unchanged else .changed,
        s.freshSlot c item) :=
  if_neg (Bool.not_eq_true _ ▸ h)

/-- What the meeting depends on never changes. -/
theorem meet_congr {s t : EntityStore α} (hprofile : t.profile = s.profile)
    (hexpiration : t.expiration = s.expiration) : t.meet = s.meet := by
  funext c slot item
  cases slot <;> simp only [meet, freshSlot, hprofile, hexpiration]

theorem meetAll_congr {s t : EntityStore α} (h : t.meet = s.meet) : t.meetAll = s.meetAll := by
  funext c slot items
  induction items generalizing slot with
  | nil => rfl
  | cons item rest ih => rw [meetAll_cons, meetAll_cons, h, ih]

/-- A record that is put for an item is live in the slot that is fresh for it. -/
theorem live?_putRecord {s : EntityStore α} {c : Clock} {item : α} {ttl : Duration}
    (hafter : s.expiration c item = .after ttl) (t : EntityStore α) (key : RecordKey)
    (print : Option Fingerprint) :
    (t.putRecord c key item print ttl).records.live? c.now key = s.freshSlot c item := by
  rw [records_putRecord, TtlStore.live?_put, if_pos rfl, freshSlot, hafter]

/-- Ingesting an item is letting it meet the live slot of its key. -/
theorem ChecksumsExact.meet_eq {s : EntityStore α} {c : Clock} (h : s.ChecksumsExact c.now)
    (key : RecordKey) (item : α) :
    s.meet c (s.records.live? c.now key) item =
      ((s.upsertOne c key item).1, (s.upsertOne c key item).2.records.live? c.now key) := by
  have hup := upsertOne_upserted s c key item
  generalize (s.upsertOne c key item).1 = outcome, (s.upsertOne c key item).2 = s' at hup
  have houtdates {stored : Envelope α} (hpresent : s.records.lookup c.now key = some stored) :
      s.outdatedBy c.now key item stored.value = s.profile.outdates stored.value item := by
    rw [outdatedBy, h.repeats_eq hpresent, Profile.outdates]
  cases hup with
  | dropped habsent hexpired =>
    rw [TtlStore.lookup_eq_none_iff.1 habsent, meet_none, if_pos hexpired, freshSlot, hexpired]
  | added habsent ttl hafter =>
    rw [TtlStore.lookup_eq_none_iff.1 habsent, meet_none, hafter, if_neg (nomatch ·),
      live?_putRecord hafter]
  | outdated stored hpresent houtdated =>
    obtain ⟨slot, hslot, rfl⟩ := TtlStore.lookup_eq_some_iff.1 hpresent
    rw [records_asked, hslot, meet_of_outdates (houtdates hpresent ▸ houtdated)]
  | expired stored hpresent hcurrent hexpired =>
    obtain ⟨slot, hslot, rfl⟩ := TtlStore.lookup_eq_some_iff.1 hpresent
    rw [hslot, meet_of_current (houtdates hpresent ▸ hcurrent), if_pos hexpired]
    simp [EntityStore.remove]
  | refreshed stored hpresent hcurrent hrepeats ttl hafter =>
    obtain ⟨slot, hslot, rfl⟩ := TtlStore.lookup_eq_some_iff.1 hpresent
    rw [hslot, meet_of_current (houtdates hpresent ▸ hcurrent), hafter, if_neg (nomatch ·),
      ← h.repeats_eq hpresent, hrepeats, if_pos rfl, live?_putRecord hafter]
  | replaced stored hpresent hcurrent hdiffers ttl hafter =>
    obtain ⟨slot, hslot, rfl⟩ := TtlStore.lookup_eq_some_iff.1 hpresent
    rw [hslot, meet_of_current (houtdates hpresent ▸ hcurrent), hafter, if_neg (nomatch ·),
      ← h.repeats_eq hpresent, hdiffers, if_neg Bool.false_ne_true, live?_putRecord hafter]

/-- In a batch the items of a key meet its live slot as if there were no other items. -/
theorem ChecksumsExact.meetAll_eq {s : EntityStore α} {c : Clock} (h : s.ChecksumsExact c.now)
    (dataset : String) (items : List α) (k : RecordKey) :
    s.meetAll c (s.records.live? c.now k)
        (items.filter fun item => s.profile.key? dataset item = some k) =
      (((s.verdicts c dataset items).filter (·.key = k)).map Verdict.outcome,
        (s.upsertAll c dataset items).2.records.live? c.now k) := by
  induction items generalizing s with
  | nil => rfl
  | cons item rest ih =>
    rw [store_upsertAll_cons, verdicts]
    cases hkey : s.profile.key? dataset item with
    | none =>
      rw [List.filter_cons_of_neg (by simp [hkey])]
      exact ih h
    | some key =>
      have hup := upsertOne_upserted s c key item
      have hrest := ih (h.upserted hup)
      rw [hup.profile_eq, meetAll_congr (meet_congr hup.profile_eq hup.expiration_eq)] at hrest
      by_cases hk : key = k
      · subst hk
        rw [List.filter_cons_of_pos (by simp [hkey]), List.filter_cons_of_pos (by simp),
          meetAll_cons, h.meet_eq key item, hrest]
        rfl
      · rw [List.filter_cons_of_neg (by simp [hkey, hk]), List.filter_cons_of_neg (by simp [hk]),
          ← hup.live?_records_of_ne hk]
        exact hrest

end EntityStore

end TransitHub
