/-
# The same batch again

Producers send a batch again when they are not sure that it arrived. If it did, the second time
changes nothing: no key is reported, no record goes, and every record and fingerprint stays with its
deadlines. This needs that items whose key comes more than once in the batch carry the time at which
they were recorded and are kept for some time; an item without such a time overrides whatever it
meets, and two of them would take turns.

The argument is about one key. Dated items leave its slot either as it was, all of them being
outdated by it, or with one of them, after items that are not recorded later and before items that
are outdated by it. Meeting the slot again, an item of the first sort is outdated or a twin of what
is stored, and the one that was stored last is stored last again.
-/

import TransitHub.Entity.Kinds
import TransitHub.Proofs.Store.Convergence
import TransitHub.Proofs.Store.Slot
import TransitHub.Proofs.Store.Uncached

namespace TransitHub

/-- Whether an outcome neither adds, changes nor removes anything. -/
def Outcome.isQuiet : Outcome → Bool
  | .changed | .expired => false
  | .unchanged | .outdated | .dropped => true

/-- A policy with a horizon keeps nothing for no time. -/
theorem ExpirationPolicy.ttl_ne_zero {p : ExpirationPolicy} (hhorizon : p.horizon ≠ 0)
    {stop? : Option Timestamp} {now : Timestamp} {ttl : Duration}
    (hafter : p.evaluate stop? now = .after ttl) : ttl ≠ 0 := by
  cases stop? with
  | none => exact Expiration.after.inj hafter ▸ hhorizon
  | some stop =>
    simp only [evaluate] at hafter
    split at hafter
    · exact Expiration.after.inj hafter ▸ hhorizon
    · split at hafter
      · exact nomatch hafter
      · next hpositive =>
        rw [← Expiration.after.inj hafter]
        exact fun hzero => hpositive (Int.toNat_eq_zero.1 hzero)

namespace Profile

variable {α : Type} {p : Profile α}

/-- Every entity has a fingerprint. -/
def Prints (p : Profile α) : Prop := ∀ e, ∃ print, p.fingerprint e = .ok print

/-- Two entities that were recorded at the same time and say the same. -/
structure Twins (p : Profile α) (e e' : α) : Prop where
  recordedAt_eq : p.recordedAt e = p.recordedAt e'
  fingerprint_eq : p.fingerprint e = p.fingerprint e'

theorem Twins.refl (e : α) : p.Twins e e := ⟨rfl, rfl⟩

theorem Twins.symm {e e' : α} (h : p.Twins e e') : p.Twins e' e :=
  ⟨h.recordedAt_eq.symm, h.fingerprint_eq.symm⟩

theorem Twins.trans {e e' e'' : α} (h : p.Twins e e') (h' : p.Twins e' e'') : p.Twins e e'' :=
  ⟨h.recordedAt_eq.trans h'.recordedAt_eq, h.fingerprint_eq.trans h'.fingerprint_eq⟩

theorem Prints.agree_iff (hp : p.Prints) {e e' : α} :
    p.agree e e' = true ↔ p.fingerprint e = p.fingerprint e' := by
  refine ⟨fingerprint_eq_of_agree, fun h => ?_⟩
  obtain ⟨print, hprint⟩ := hp e
  simp [agree, ← h, hprint, Except.toOption]

/-- Nothing tells twins apart, neither as what is stored nor as what arrives. -/
theorem Twins.agree_eq {e e' : α} (h : p.Twins e e') (item : α) :
    p.agree item e = p.agree item e' := by
  rw [agree, agree, h.fingerprint_eq]

theorem Twins.outdates_eq {e e' : α} (h : p.Twins e e') (item : α) :
    p.outdates e item = p.outdates e' item := by
  rw [outdates, outdates, h.recordedAt_eq, h.agree_eq]

/-- A twin does not make an item outdated. -/
theorem Twins.not_outdates (hp : p.Prints) {e item : α} (h : p.Twins item e) :
    p.outdates e item = false := by
  rw [outdates, hp.agree_iff.2 h.fingerprint_eq, h.recordedAt_eq]
  cases p.recordedAt e with
  | none => rfl
  | some t => exact decide_eq_false fun hlt => hlt (Timestamp.le_refl t)

/-- Of what is not recorded later, only a twin is not outdated. -/
theorem twins_of_current {e item : α} (hle : p.NotAfter item e)
    (hcurrent : p.outdates e item = false) : p.Twins item e := by
  obtain ⟨t, t', ht, ht', htimes⟩ := hle
  rw [outdates, ht, ht', EntityStore.isOutdated] at hcurrent
  cases hagree : p.agree item e with
  | false => simp [hagree, htimes] at hcurrent
  | true =>
    have hnot : ¬ t < t' := by simpa [hagree] using hcurrent
    have hback : t' ≤ t := Decidable.not_not.1 hnot
    exact ⟨by rw [ht, ht', Timestamp.le_antisymm htimes hback], fingerprint_eq_of_agree hagree⟩

/-- A list cut at an item: those before were not recorded later, those after are outdated by it. -/
structure CutAt (p : Profile α) (before : List α) (e : α) (after : List α) : Prop where
  notAfter : ∀ item ∈ before, p.NotAfter item e
  outdated : ∀ item ∈ after, p.outdates e item = true

theorem CutAt.cons {before after : List α} {e item : α} (h : p.CutAt before e after)
    (hle : p.NotAfter item e) : p.CutAt (item :: before) e after :=
  ⟨List.forall_mem_cons.2 ⟨hle, h.notAfter⟩, h.outdated⟩

end Profile

namespace EntityStore

variable {α : Type} {s : EntityStore α} {c : Clock}

/-- Whether an item carries the time at which it was recorded and is kept for some time. -/
structure Dated (s : EntityStore α) (c : Clock) (item : α) : Prop where
  recorded : (s.profile.recordedAt item).isSome = true
  kept : s.keeps c item = true

instance (s : EntityStore α) (c : Clock) (item : α) : Decidable (s.Dated c item) :=
  decidable_of_iff ((s.profile.recordedAt item).isSome = true ∧ s.keeps c item = true)
    ⟨fun h => ⟨h.1, h.2⟩, fun h => ⟨h.recorded, h.kept⟩⟩

/-- Whether items meet a slot without any effect. -/
structure Idle (s : EntityStore α) (c : Clock) (slot : Option (Slot (Envelope α)))
    (items : List α) : Prop where
  quiet : ∀ o ∈ (s.meetAll c slot items).1, o.isQuiet = true
  slot_eq : (s.meetAll c slot items).2 = slot

/-! ## One item -/

/-- An item that is kept is stored as it is, in a slot of its own. -/
theorem freshSlot_of_keeps {item : α} (hkept : s.keeps c item = true) :
    s.expiration c item ≠ .expired ∧
      ∃ slot, s.freshSlot c item = some slot ∧ slot.value.value = item := by
  unfold keeps at hkept
  split at hkept
  · exact absurd hkept Bool.false_ne_true
  · next ttl hafter =>
    refine ⟨by rw [hafter]; exact nofun, ⟨⟨item, expiryStamp c ttl⟩, c.now.deadline ttl⟩, ?_, rfl⟩
    rw [freshSlot, hafter]
    exact if_neg (of_decide_eq_true hkept)

/-- An item that is kept and meets a twin of itself takes its place, which is no change. -/
theorem meet_twin (hp : s.profile.Prints) {stored : Slot (Envelope α)} {item : α}
    (htwins : s.profile.Twins item stored.value.value) (hkept : s.keeps c item = true) :
    s.meet c (some stored) item = (.unchanged, s.freshSlot c item) := by
  rw [meet_of_current (htwins.not_outdates hp), if_neg (freshSlot_of_keeps hkept).1,
    if_pos (hp.agree_iff.2 htwins.fingerprint_eq)]

/-- An item that is kept and meets the slot that is fresh for it changes nothing. -/
theorem meet_freshSlot (hp : s.profile.Prints) {item : α} (hkept : s.keeps c item = true) :
    s.meet c (s.freshSlot c item) item = (.unchanged, s.freshSlot c item) := by
  obtain ⟨-, slot, hfresh, hvalue⟩ := freshSlot_of_keeps hkept
  rw [hfresh, meet_twin hp (by rw [hvalue]; exact .refl item) hkept, hfresh]

/-- Whatever an item found, it finds nothing to do the second time. -/
theorem idle_single (hp : s.profile.Prints)
    (hkeeps : ∀ item, s.expiration c item ≠ .expired → s.keeps c item = true)
    (slot : Option (Slot (Envelope α))) (item : α) :
    s.Idle c (s.meet c slot item).2 [item] := by
  suffices hagain : ∃ o, o.isQuiet = true ∧
      s.meet c (s.meet c slot item).2 item = (o, (s.meet c slot item).2) by
    obtain ⟨o, hquiet, hmeet⟩ := hagain
    exact ⟨by simpa [hmeet] using hquiet, by simp [hmeet]⟩
  -- An item without a record stays without one if it is expired, else it meets itself.
  have hdropped (hexpired : s.expiration c item = .expired) :
      s.meet c none item = (.dropped, none) := by
    rw [meet_none, if_pos hexpired, freshSlot, hexpired]
  have hstored (hnot : s.expiration c item ≠ .expired) :
      s.meet c (s.freshSlot c item) item = (.unchanged, s.freshSlot c item) :=
    meet_freshSlot hp (hkeeps item hnot)
  cases slot with
  | none =>
    by_cases hexpired : s.expiration c item = .expired
    · exact ⟨.dropped, rfl, by rw [hdropped hexpired, hdropped hexpired]⟩
    · exact ⟨.unchanged, rfl, by rw [meet_none, hstored hexpired]⟩
  | some stored =>
    cases houtdates : s.profile.outdates stored.value.value item with
    | true =>
      have hmeet := meet_of_outdates (c := c) houtdates
      exact ⟨.outdated, rfl, by rw [hmeet, hmeet]⟩
    | false =>
      rw [meet_of_current houtdates]
      by_cases hexpired : s.expiration c item = .expired
      · exact ⟨.dropped, rfl, by rw [if_pos hexpired, hdropped hexpired]⟩
      · exact ⟨.unchanged, rfl, by rw [if_neg hexpired, hstored hexpired]⟩

/-! ## Dated items -/

/-- Items that are outdated by what is stored have no effect. -/
theorem idle_of_outdates {stored : Slot (Envelope α)} {items : List α}
    (h : ∀ item ∈ items, s.profile.outdates stored.value.value item = true) :
    s.Idle c (some stored) items := by
  induction items with
  | nil => exact ⟨nofun, rfl⟩
  | cons item rest ih =>
    obtain ⟨hhead, hrest⟩ := List.forall_mem_cons.1 h
    have hidle := ih hrest
    refine ⟨?_, ?_⟩
    · rw [meetAll_cons, meet_of_outdates hhead]
      exact List.forall_mem_cons.2 ⟨rfl, hidle.quiet⟩
    · rw [meetAll_cons, meet_of_outdates hhead]
      exact hidle.slot_eq

/-- An item that is kept takes the place of what it finds, unless it is outdated. -/
theorem slot_meet {item : α} (hkept : s.keeps c item = true) (slot : Option (Slot (Envelope α))) :
    (s.meet c slot item).2 = s.freshSlot c item ∧
        (∀ stored, slot = some stored → s.profile.outdates stored.value.value item = false) ∨
      ∃ stored, slot = some stored ∧ s.profile.outdates stored.value.value item = true := by
  cases slot with
  | none => exact .inl ⟨rfl, fun _ h => absurd h.symm (Option.some_ne_none _)⟩
  | some stored =>
    cases houtdates : s.profile.outdates stored.value.value item with
    | true => exact .inr ⟨stored, rfl, houtdates⟩
    | false =>
      refine .inl ⟨?_, fun _ h => Option.some.inj h ▸ houtdates⟩
      rw [meet_of_current houtdates, if_neg (freshSlot_of_keeps hkept).1]

/-- What dated items leave of a slot: the slot as it was, if each is outdated by it, or the slot of
one of them at which they are cut. That one was not recorded before what was stored at first. -/
theorem meetAll_dated {items : List α} (hdated : ∀ item ∈ items, s.Dated c item)
    (slot : Option (Slot (Envelope α))) :
    (s.meetAll c slot items).2 = slot ∧
        (∀ item ∈ items, ∃ stored, slot = some stored ∧
          s.profile.outdates stored.value.value item = true) ∨
      ∃ before e after, items = before ++ e :: after ∧ s.profile.CutAt before e after ∧
        (s.meetAll c slot items).2 = s.freshSlot c e ∧
        ∀ stored, slot = some stored → (s.profile.recordedAt stored.value.value).isSome = true →
          s.profile.NotAfter stored.value.value e := by
  induction items generalizing slot with
  | nil => exact .inl ⟨rfl, nofun⟩
  | cons item rest ih =>
    obtain ⟨hitem, hrest⟩ := List.forall_mem_cons.1 hdated
    rw [meetAll_cons]
    rcases slot_meet hitem.kept slot with ⟨hslot, hcurrent⟩ | ⟨stored, rfl, houtdates⟩
    · -- The item is stored, and the rest finds it.
      have hlater (stored : Slot (Envelope α)) (hstored : slot = some stored)
          (hsome : (s.profile.recordedAt stored.value.value).isSome = true) :
          s.profile.NotAfter stored.value.value item :=
        notAfter_of_current hitem.recorded hsome (hcurrent stored hstored)
      obtain ⟨-, fresh, hfresh, hvalue⟩ := freshSlot_of_keeps hitem.kept
      rw [hslot, hfresh]
      rcases ih hrest (some fresh) with ⟨hsame, hall⟩ | ⟨before, e, after, rfl, hcut, hend, hle⟩
      · refine .inr ⟨[], item, rest, rfl, ⟨nofun, fun other hother => ?_⟩, hsame.trans hfresh.symm,
          hlater⟩
        obtain ⟨_, heq, houtdates⟩ := hall other hother
        rwa [← Option.some.inj heq, hvalue] at houtdates
      · have hitemle : s.profile.NotAfter item e := by
          rw [← hvalue]
          exact hle fresh rfl (hvalue ▸ hitem.recorded)
        exact .inr ⟨item :: before, e, after, rfl, hcut.cons hitemle, hend,
          fun stored hstored hsome => (hlater stored hstored hsome).trans hitemle⟩
    · -- The item is outdated, and the rest finds what it found.
      rw [meet_of_outdates houtdates]
      rcases ih hrest (some stored) with ⟨hsame, hall⟩ | ⟨before, e, after, rfl, hcut, hend, hle⟩
      · exact .inl ⟨hsame, List.forall_mem_cons.2 ⟨⟨stored, rfl, houtdates⟩, hall⟩⟩
      · obtain ⟨t, t', ht, ht', htimes⟩ := notAfter_of_isOutdated houtdates
        have hstored := hle stored rfl (by rw [ht']; rfl)
        exact .inr ⟨item :: before, e, after, rfl,
          hcut.cons (.trans ⟨t, t', ht, ht', htimes⟩ hstored), hend, hle⟩

/-- Items that were not recorded after the twin of theirs that is stored leave a twin of it. -/
theorem meetAll_notAfter (hp : s.profile.Prints) {items : List α} {e : α}
    (hkept : ∀ item ∈ items, s.keeps c item = true)
    (hle : ∀ item ∈ items, s.profile.NotAfter item e) {stored : Slot (Envelope α)}
    (htwins : s.profile.Twins stored.value.value e) :
    (∀ o ∈ (s.meetAll c (some stored) items).1, o.isQuiet = true) ∧
      ∃ left, (s.meetAll c (some stored) items).2 = some left ∧
        s.profile.Twins left.value.value e := by
  induction items generalizing stored with
  | nil => exact ⟨nofun, stored, rfl, htwins⟩
  | cons item rest ih =>
    obtain ⟨hitemkept, hrestkept⟩ := List.forall_mem_cons.1 hkept
    obtain ⟨hitemle, hrestle⟩ := List.forall_mem_cons.1 hle
    rw [meetAll_cons]
    cases houtdates : s.profile.outdates stored.value.value item with
    | true =>
      rw [meet_of_outdates houtdates]
      obtain ⟨hquiet, hleft⟩ := ih hrestkept hrestle htwins
      exact ⟨List.forall_mem_cons.2 ⟨rfl, hquiet⟩, hleft⟩
    | false =>
      have hitem : s.profile.Twins item e :=
        Profile.twins_of_current hitemle (htwins.outdates_eq item ▸ houtdates)
      obtain ⟨-, fresh, hfresh, hvalue⟩ := freshSlot_of_keeps hitemkept
      rw [meet_twin hp (hitem.trans htwins.symm) hitemkept, hfresh]
      have hstored : s.profile.Twins fresh.value.value e := by rwa [hvalue]
      obtain ⟨hquiet, hleft⟩ := ih hrestkept hrestle hstored
      exact ⟨List.forall_mem_cons.2 ⟨rfl, hquiet⟩, hleft⟩

/-- Dated items that meet what they have left have no effect. -/
theorem idle_dated (hp : s.profile.Prints) {items : List α}
    (hdated : ∀ item ∈ items, s.Dated c item) (slot : Option (Slot (Envelope α))) :
    s.Idle c (s.meetAll c slot items).2 items := by
  rcases meetAll_dated hdated slot with ⟨hslot, hall⟩ | ⟨before, e, after, rfl, hcut, hslot, -⟩
  · rw [hslot]
    cases slot with
    | none =>
      cases items with
      | nil => exact ⟨nofun, rfl⟩
      | cons item rest =>
        obtain ⟨_, hnone, -⟩ := hall item List.mem_cons_self
        exact absurd hnone (Option.some_ne_none _).symm
    | some stored =>
      refine idle_of_outdates fun item hitem => ?_
      obtain ⟨_, heq, houtdates⟩ := hall item hitem
      rwa [Option.some.inj heq]
  · obtain ⟨hbefore, hrest⟩ := List.forall_mem_append.1 hdated
    obtain ⟨he, -⟩ := List.forall_mem_cons.1 hrest
    obtain ⟨-, fresh, hfresh, hvalue⟩ := freshSlot_of_keeps he.kept
    -- Up to the item that was stored last, twins of it take its place; then it does so itself.
    have hstored : s.profile.Twins fresh.value.value e := by
      rw [hvalue]
      exact .refl e
    obtain ⟨hquiet, left, hleft, htwins⟩ :=
      meetAll_notAfter hp (fun item h => (hbefore item h).kept) hcut.notAfter hstored
    have hlast := meet_twin (c := c) hp htwins.symm he.kept
    have hafter : s.Idle c (some fresh) after := idle_of_outdates (hvalue ▸ hcut.outdated)
    rw [hslot, hfresh]
    refine ⟨?_, ?_⟩
    · rw [meetAll_append, meetAll_cons, hleft, hlast, hfresh]
      exact List.forall_mem_append.2 ⟨hquiet, List.forall_mem_cons.2 ⟨rfl, hafter.quiet⟩⟩
    · rw [meetAll_append, meetAll_cons, hleft, hlast, hfresh]
      exact hafter.slot_eq

/-! ## Batches -/

/-- With a horizon, what is not expired is kept for some time. -/
theorem keeps_of_horizon (hhorizon : s.policy.horizon ≠ 0) {item : α}
    (hnot : s.expiration c item ≠ .expired) : s.keeps c item = true := by
  cases hafter : s.expiration c item with
  | expired => exact absurd hafter hnot
  | after ttl =>
    rw [keeps, hafter]
    exact decide_eq_true (ExpirationPolicy.ttl_ne_zero hhorizon hafter)

/-- Items of a batch whose key comes more than once in it are dated. -/
def RepeatsDated (s : EntityStore α) (c : Clock) (dataset : String) (items : List α) : Prop :=
  ∀ item ∈ items, ∀ key ∈ s.profile.key? dataset item,
    1 < items.countP (fun other => s.profile.key? dataset other = some key) → s.Dated c item

instance (s : EntityStore α) (c : Clock) (dataset : String) (items : List α) :
    Decidable (s.RepeatsDated c dataset items) :=
  inferInstanceAs (Decidable (∀ item ∈ items, ∀ key ∈ s.profile.key? dataset item,
    1 < items.countP (fun other => s.profile.key? dataset other = some key) → s.Dated c item))

/-- The items of one key meet what they have left without any effect. -/
theorem RepeatsDated.idle {dataset : String} {items : List α}
    (hrepeats : s.RepeatsDated c dataset items) (hp : s.profile.Prints)
    (hhorizon : s.policy.horizon ≠ 0) (slot : Option (Slot (Envelope α))) (k : RecordKey) :
    let ofKey := items.filter fun item => s.profile.key? dataset item = some k
    s.Idle c (s.meetAll c slot ofKey).2 ofKey := by
  intro ofKey
  have hdated : 1 < ofKey.length → ∀ item ∈ ofKey, s.Dated c item := by
    intro hmany item hitem
    obtain ⟨hmem, hkey⟩ := List.mem_filter.1 hitem
    rw [← List.countP_eq_length_filter] at hmany
    exact hrepeats item hmem k (of_decide_eq_true hkey) hmany
  match hofKey : ofKey with
  | [] => exact ⟨nofun, rfl⟩
  | [item] => exact idle_single hp (fun _ => keeps_of_horizon hhorizon) slot item
  | item :: other :: rest =>
    exact idle_dated hp (hdated (Nat.succ_lt_succ (Nat.zero_lt_succ _))) slot

end EntityStore

theorem DataKind.prints (k : DataKind) : k.profile.Prints := by
  intro e
  cases k <;> exact ⟨_, rfl⟩

namespace EntityStore

/-- Two states of a message without a time take turns. -/
example :
    let items : List InfoMessage :=
      [{ identifier := some "m", content := some "a" }, { identifier := some "m", content := some "b" }]
    let once := (empty InfoMessage.profile ⟨0, Duration.hour⟩).upsertAll ⟨.epoch, 0⟩ "A" items
    (once.2.upsertAll ⟨.epoch, 0⟩ "A" items).1.summary.addedOrUpdated = 2 := by
  decide +kernel

end EntityStore

end TransitHub
