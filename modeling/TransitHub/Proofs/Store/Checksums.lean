/-
# The fingerprints that a store keeps

Beside its records a store keeps their fingerprints, in a second store with a time to live of its
own. The invariant is that the second is a function of the first: what is live in it is the
fingerprint of the live record, up to the same deadline, and there is none where there is no record
or where the record has no fingerprint. Five branches write the two stores; each writes them alike.

The invariant speaks of live slots. The slots themselves do not agree: a read drops a record whose
deadline has come and leaves its fingerprint, of which nobody hears again.
-/

import TransitHub.Proofs.Store.Upsert

namespace TransitHub

/-- What the cache should hold for a record. -/
def Profile.printSlot {α : Type} (p : Profile α) (slot : Slot (Envelope α)) :
    Option (Slot Fingerprint) :=
  (p.fingerprint slot.value.value).toOption.map fun print => ⟨print, slot.deadline⟩

theorem Profile.printSlot_eq_some_iff {α : Type} {p : Profile α} {slot : Slot (Envelope α)}
    {print : Fingerprint} {deadline : Instant} :
    p.printSlot slot = some ⟨print, deadline⟩ ↔
      slot.deadline = deadline ∧ p.fingerprint slot.value.value = .ok print := by
  unfold Profile.printSlot
  cases p.fingerprint slot.value.value <;> simp [Except.toOption, and_comm]

/-- Two entities say the same if both have a fingerprint and it is the same one. -/
def Profile.agree {α : Type} (p : Profile α) (e e' : α) : Bool :=
  (p.fingerprint e).toOption.isSome && (p.fingerprint e').toOption == (p.fingerprint e).toOption

theorem Profile.fingerprint_eq_of_agree {α : Type} {p : Profile α} {e e' : α}
    (h : p.agree e e' = true) : p.fingerprint e = p.fingerprint e' := by
  unfold agree at h
  cases he : p.fingerprint e with
  | error reason => simp [he, Except.toOption] at h
  | ok print =>
    cases he' : p.fingerprint e' with
    | error reason => simp [he, he', Except.toOption] at h
    | ok print' =>
      have hprint : print' = print := by simpa [he, he', Except.toOption] using h
      rw [hprint]

namespace EntityStore

variable {α : Type}

/-- The live fingerprints are those of the live records, with the same deadlines. -/
def ChecksumsExact (s : EntityStore α) (now : Instant) : Prop :=
  ∀ k, s.checksums.live? now k = (s.records.live? now k).bind s.profile.printSlot

theorem checksumsExact_empty (profile : Profile α) (policy : ExpirationPolicy) (now : Instant) :
    (empty profile policy).ChecksumsExact now := by
  intro k
  simp [empty]

/-- Records and fingerprints run out together. -/
theorem ChecksumsExact.later {s : EntityStore α} {now later : Instant} (h : s.ChecksumsExact now)
    (hle : now ≤ later) : s.ChecksumsExact later := by
  intro k
  rw [s.checksums.live?_later hle, s.records.live?_later hle, h k]
  cases s.records.live? now k with
  | none => rfl
  | some slot =>
    have hsame (print : Fingerprint) :
        (⟨print, slot.deadline⟩ : Slot Fingerprint).isLive later = slot.isLive later := rfl
    cases hprint : (s.profile.fingerprint slot.value.value).toOption <;>
      cases hlive : slot.isLive later <;>
      simp [Profile.printSlot, hprint, hlive, hsame, Option.filter]

/-- Two stores that look the same to their readers are exact together. -/
theorem ChecksumsExact.congr {s s' : EntityStore α} {now : Instant} (h : s.ChecksumsExact now)
    (hprofile : s'.profile = s.profile)
    (hrecords : ∀ k, s'.records.live? now k = s.records.live? now k)
    (hchecksums : ∀ k, s'.checksums.live? now k = s.checksums.live? now k) :
    s'.ChecksumsExact now := by
  intro k
  rw [hchecksums, hrecords, hprofile, h k]

theorem ChecksumsExact.asked {s : EntityStore α} {now : Instant} (h : s.ChecksumsExact now)
    (key : RecordKey) (item : α) : (s.asked now key item).ChecksumsExact now :=
  h.congr (profile_asked ..) (by simp) (by simp)

theorem ChecksumsExact.putRecord {s : EntityStore α} {c : Clock} (h : s.ChecksumsExact c.now)
    (key : RecordKey) (item : α) {print : Option Fingerprint}
    (hprint : print = (s.profile.fingerprint item).toOption) (ttl : Duration) :
    (s.putRecord c key item print ttl).ChecksumsExact c.now := by
  intro k
  rw [live?_checksums_putRecord, records_putRecord, profile_putRecord, TtlStore.live?_put, hprint]
  by_cases hkey : key = k
  · by_cases hzero : ttl = 0
    · simp [hkey, hzero]
    · simp [hkey, hzero, Profile.printSlot]
  · simp [hkey, h k]

theorem ChecksumsExact.remove {s : EntityStore α} {now : Instant} (h : s.ChecksumsExact now)
    (key : RecordKey) : (s.remove key).ChecksumsExact now := by
  intro k
  show (s.checksums.erase key).live? now k =
    ((s.records.erase key).live? now k).bind s.profile.printSlot
  rw [TtlStore.live?_erase, TtlStore.live?_erase, h k]
  split <;> rfl

/-- Each of the six ways an item can go keeps the invariant. -/
theorem ChecksumsExact.upserted {s s' : EntityStore α} {c : Clock} {key : RecordKey} {item : α}
    {outcome : Outcome} (h : s.ChecksumsExact c.now) (hup : Upserted s c key item outcome s') :
    s'.ChecksumsExact c.now := by
  have hasked := h.asked key item
  cases hup with
  | dropped => exact h
  | added _ ttl _ => exact h.putRecord key item rfl ttl
  | outdated => exact hasked
  | expired => exact hasked.remove key
  | refreshed _ _ _ _ ttl _ => exact hasked.putRecord key item (by simp [print?]) ttl
  | replaced _ _ _ _ ttl _ => exact hasked.putRecord key item (by simp [print?]) ttl

theorem ChecksumsExact.upsertNext {s : EntityStore α} {c : Clock} (h : s.ChecksumsExact c.now)
    (dataset : String) (r : UpsertResult α) (item : α) :
    (EntityStore.upsertNext c dataset (r, s) item).2.ChecksumsExact c.now := by
  cases hkey : s.profile.key? dataset item with
  | none => rw [upsertNext_of_ignored hkey]; exact h
  | some key => rw [store_upsertNext hkey]; exact h.upserted (upsertOne_upserted ..)

theorem ChecksumsExact.upsertAll {s : EntityStore α} {c : Clock} (h : s.ChecksumsExact c.now)
    (dataset : String) (items : List α) :
    (s.upsertAll c dataset items).2.ChecksumsExact c.now :=
  upsertAll_induction (motive := fun _ s => s.ChecksumsExact c.now) s c dataset items h
    fun r _ item h => h.upsertNext dataset r item

theorem ChecksumsExact.clearDataset {s : EntityStore α} {now : Instant}
    (h : s.ChecksumsExact now) (dataset : String) :
    (s.clearDataset now dataset).2.ChecksumsExact now :=
  List.foldlRecOn (motive := fun s : EntityStore α => s.ChecksumsExact now) _ _ h
    fun _ h key _ => h.remove key

theorem ChecksumsExact.touchAll {s : EntityStore α} {now : Instant} (h : s.ChecksumsExact now)
    (ks : KeySet) : (s.touchAll now ks).ChecksumsExact now :=
  h.congr rfl (s.records.live?_touchAll now ks) fun _ => rfl

theorem ChecksumsExact.sweep {s : EntityStore α} {now : Instant} (h : s.ChecksumsExact now) :
    (s.sweep now).ChecksumsExact now :=
  h.congr rfl (s.records.live?_sweep now) (s.checksums.live?_sweep now)

/-! ## What the cache is good for -/

/-- Where the cache is exact, asking it is comparing with the stored entity. -/
theorem ChecksumsExact.repeats_eq {s : EntityStore α} {now : Instant} (h : s.ChecksumsExact now)
    {key : RecordKey} {stored : Envelope α} (hpresent : s.records.lookup now key = some stored)
    (item : α) : s.repeats now key item = s.profile.agree item stored.value := by
  obtain ⟨slot, hslot, rfl⟩ := TtlStore.lookup_eq_some_iff.1 hpresent
  have hlookup : s.checksums.lookup now key =
      (s.profile.fingerprint slot.value.value).toOption := by
    rw [TtlStore.lookup, h key, hslot]
    show (s.profile.printSlot slot).map Slot.value = _
    cases hprint : (s.profile.fingerprint slot.value.value).toOption <;>
      simp [Profile.printSlot, hprint]
  rw [repeats, Profile.agree, hlookup]
  rfl

/-- An item that is not reported as a change leaves under its key what says the same. -/
theorem ChecksumsExact.agrees_of_upserted {s s' : EntityStore α} {c : Clock} {key : RecordKey}
    {item e' : α} {outcome : Outcome} (h : s.ChecksumsExact c.now)
    (hup : Upserted s c key item outcome s') (hquiet : outcome ≠ .changed)
    (he' : s'.get? c.now key = some e') :
    ∃ e, s.get? c.now key = some e ∧ s.profile.fingerprint e = s.profile.fingerprint e' := by
  cases hup with
  | dropped => exact ⟨e', he', rfl⟩
  | added => exact absurd rfl hquiet
  | outdated =>
    have hsame := get?_congr (k := key) (congrArg (·.live? c.now key) (s.records_asked c.now key item))
    exact ⟨e', hsame.symm.trans he', rfl⟩
  | expired =>
    rw [get?_remove] at he'
    exact absurd he' (Option.some_ne_none e').symm
  | refreshed stored hpresent _ hrepeats ttl hafter =>
    rw [h.repeats_eq hpresent] at hrepeats
    refine ⟨stored.value, by rw [get?, hpresent]; rfl, ?_⟩
    rw [get?_putRecord hafter, Option.ite_none_right_eq_some] at he'
    rw [← Option.some.inj he'.2, Profile.fingerprint_eq_of_agree hrepeats]
  | replaced => exact absurd rfl hquiet

/-- The records of a key that a batch does not report say what they said before. -/
theorem ChecksumsExact.agrees_of_unreported {s : EntityStore α} {c : Clock}
    (h : s.ChecksumsExact c.now) (dataset : String) (items : List α) {k : RecordKey} :
    k ∉ (s.upsertAll c dataset items).1.changedKeys →
    ∀ e', (s.upsertAll c dataset items).2.get? c.now k = some e' →
    ∃ e, s.get? c.now k = some e ∧ s.profile.fingerprint e = s.profile.fingerprint e' := by
  -- The items before the present one have kept the store exact and its profile the same.
  have hbatch := upsertAll_induction
    (motive := fun r t => t.ChecksumsExact c.now ∧ t.profile = s.profile ∧
      (k ∉ r.changedKeys → ∀ e', t.get? c.now k = some e' →
        ∃ e, s.get? c.now k = some e ∧ s.profile.fingerprint e = s.profile.fingerprint e'))
    s c dataset items ⟨h, rfl, fun _ e' he' => ⟨e', he', rfl⟩⟩ ?_
  · exact hbatch.2.2
  rintro r t item ⟨hexact, hprofile, hagrees⟩
  refine ⟨hexact.upsertNext dataset r item, ?_⟩
  cases hkey : t.profile.key? dataset item with
  | none =>
    rw [upsertNext_of_ignored hkey]
    exact ⟨hprofile, hagrees⟩
  | some key =>
    have hup := upsertOne_upserted t c key item
    rw [mem_changedKeys_upsertNext hkey, store_upsertNext hkey]
    refine ⟨hup.profile_eq.trans hprofile, fun hnot e' he' => ?_⟩
    obtain ⟨hquiet, hearlier⟩ := not_or.1 hnot
    by_cases hk : key = k
    · subst hk
      obtain ⟨e₁, he₁, hsame₁⟩ := hexact.agrees_of_upserted hup (fun ho => hquiet ⟨ho, rfl⟩) he'
      obtain ⟨e, he, hsame⟩ := hagrees hearlier e₁ he₁
      exact ⟨e, he, hsame.trans (by rw [← hprofile, hsame₁])⟩
    · rw [get?_congr (hup.live?_records_of_ne hk)] at he'
      exact hagrees hearlier e' he'

end EntityStore

end TransitHub
