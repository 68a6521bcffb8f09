/-
# Items in any order

Producers deliver late, twice and out of order. As long as every item has an identity, a time at
which it was recorded and some time to live, none of this matters: a store that takes in the same
items at the same moment ends up with the same records and fingerprints, however the items are
ordered and cut into batches, namely with the item of each key that was recorded last.

The invariant is about the items that have arrived so far. It does not need that items of one key
are recorded at different times: of two that are recorded at the same time the store keeps one, and
no item was recorded after it. Only for the two stores to keep the same one the times have to
differ.
-/

import TransitHub.Entity.InfoMessage
import TransitHub.Proofs.Store.Upsert

namespace TransitHub

namespace Profile

variable {α : Type} {p : Profile α} {k : RecordKey} {arrived : List (String × α)}

/-- The key of an item in the dataset that it arrives in. -/
def keyOf? (p : Profile α) (a : String × α) : Option RecordKey := p.key? a.1 a.2

/-- One entity was recorded before the other, or at the same time. -/
def NotAfter (p : Profile α) (e e' : α) : Prop :=
  ∃ t t', p.recordedAt e = some t ∧ p.recordedAt e' = some t' ∧ t ≤ t'

theorem NotAfter.trans {e e' e'' : α} (h : p.NotAfter e e') (h' : p.NotAfter e' e'') :
    p.NotAfter e e'' := by
  obtain ⟨t, t', ht, ht', hle⟩ := h
  obtain ⟨_, t'', hsame, ht'', hle'⟩ := h'
  obtain rfl := Option.some.inj (ht'.symm.trans hsame)
  exact ⟨t, t'', ht, ht'', Timestamp.le_trans hle hle'⟩

theorem NotAfter.isSome_recordedAt {e e' : α} (h : p.NotAfter e e') :
    (p.recordedAt e).isSome = true := by
  obtain ⟨t, _, ht, -, -⟩ := h
  rw [ht]
  rfl

theorem NotAfter.recordedAt_eq {e e' : α} (h : p.NotAfter e e') (h' : p.NotAfter e' e) :
    p.recordedAt e = p.recordedAt e' := by
  obtain ⟨t, t', ht, ht', hle⟩ := h
  obtain ⟨u', u, hu', hu, hle'⟩ := h'
  obtain rfl := Option.some.inj (ht.symm.trans hu)
  obtain rfl := Option.some.inj (ht'.symm.trans hu')
  rw [ht, ht', Timestamp.le_antisymm hle hle']

/-- No two items of one key were recorded at the same time. -/
def Distinct (p : Profile α) (arrived : List (String × α)) : Prop :=
  arrived.Pairwise fun a b => p.keyOf? a = p.keyOf? b → p.recordedAt a.2 ≠ p.recordedAt b.2

instance (p : Profile α) (arrived : List (String × α)) : Decidable (p.Distinct arrived) :=
  inferInstanceAs (Decidable (List.Pairwise _ arrived))

/-- Of what arrived for a key, an entity that none was recorded after. -/
def IsNewest (p : Profile α) (arrived : List (String × α)) (k : RecordKey) : Option α → Prop
  | none => ∀ a ∈ arrived, p.keyOf? a ≠ some k
  | some e => (∃ a ∈ arrived, p.keyOf? a = some k ∧ a.2 = e) ∧
      ∀ a ∈ arrived, p.keyOf? a = some k → p.NotAfter a.2 e

theorem IsNewest.notAfter_self {e : α} (h : p.IsNewest arrived k (some e)) : p.NotAfter e e := by
  obtain ⟨⟨a, ha, hkey, rfl⟩, hlatest⟩ := h
  exact hlatest a ha hkey

/-- Only what arrived counts, not in which order. -/
theorem isNewest_congr {arrived' : List (String × α)} (h : ∀ a, a ∈ arrived ↔ a ∈ arrived')
    (newest : Option α) : p.IsNewest arrived k newest ↔ p.IsNewest arrived' k newest := by
  cases newest <;> simp only [IsNewest, h]

/-- What arrives for another key changes nothing. -/
theorem IsNewest.snoc_of_ne {newest : Option α} (h : p.IsNewest arrived k newest)
    {a : String × α} (hne : p.keyOf? a ≠ some k) : p.IsNewest (arrived ++ [a]) k newest := by
  cases newest with
  | none =>
    exact List.forall_mem_append.2 ⟨h, List.forall_mem_singleton.2 hne⟩
  | some e =>
    obtain ⟨⟨b, hb, hkey⟩, hlatest⟩ := h
    refine ⟨⟨b, List.mem_append_left _ hb, hkey⟩, List.forall_mem_append.2 ⟨hlatest, ?_⟩⟩
    exact List.forall_mem_singleton.2 fun heq => absurd heq hne

/-- An older item changes nothing. -/
theorem IsNewest.snoc_older {e : α} (h : p.IsNewest arrived k (some e)) {a : String × α}
    (hle : p.NotAfter a.2 e) : p.IsNewest (arrived ++ [a]) k (some e) := by
  obtain ⟨⟨b, hb, hkey⟩, hlatest⟩ := h
  refine ⟨⟨b, List.mem_append_left _ hb, hkey⟩, List.forall_mem_append.2 ⟨hlatest, ?_⟩⟩
  exact List.forall_mem_singleton.2 fun _ => hle

/-- The first item of a key, and any that is not older than the newest so far, is the newest. -/
theorem IsNewest.snoc_newer {newest : Option α} (h : p.IsNewest arrived k newest)
    {a : String × α} (hkey : p.keyOf? a = some k) (hself : p.NotAfter a.2 a.2)
    (hle : ∀ e, newest = some e → p.NotAfter e a.2) :
    p.IsNewest (arrived ++ [a]) k (some a.2) := by
  refine ⟨⟨a, List.mem_append_right _ List.mem_cons_self, hkey, rfl⟩,
    List.forall_mem_append.2 ⟨fun b hb hkeyb => ?_, List.forall_mem_singleton.2 fun _ => hself⟩⟩
  cases newest with
  | none => exact absurd hkeyb (h b hb)
  | some e => exact (h.2 b hb hkeyb).trans (hle e rfl)

/-- Where items of one key are recorded at different times, there is one newest entity. -/
theorem IsNewest.unique {newest newest' : Option α} (h : p.IsNewest arrived k newest)
    (h' : p.IsNewest arrived k newest') (hdistinct : p.Distinct arrived) : newest = newest' := by
  match newest, newest' with
  | none, none => rfl
  | none, some e' =>
    obtain ⟨⟨a, ha, hkey, -⟩, -⟩ := h'
    exact absurd hkey (h a ha)
  | some e, none =>
    obtain ⟨⟨a, ha, hkey, -⟩, -⟩ := h
    exact absurd hkey (h' a ha)
  | some e, some e' =>
    obtain ⟨⟨a, ha, hkey, rfl⟩, hlatest⟩ := h
    obtain ⟨⟨b, hb, hkey', rfl⟩, hlatest'⟩ := h'
    have hsame := (hlatest' a ha hkey).recordedAt_eq (hlatest b hb hkey')
    have honly : ∀ a ∈ arrived, ∀ b ∈ arrived, p.keyOf? a = p.keyOf? b →
        p.recordedAt a.2 = p.recordedAt b.2 → a.2 = b.2 :=
      List.Pairwise.forall_of_forall_of_flip (fun _ _ _ _ => rfl)
        (hdistinct.imp fun hne hkeys htimes => absurd htimes (hne hkeys))
        (hdistinct.imp fun hne hkeys htimes => absurd htimes.symm (hne hkeys.symm))
    rw [honly a ha b hb (hkey.trans hkey'.symm) hsame]

end Profile

/-- The items of some batches, each with its dataset. -/
def arrivals {α : Type} (batches : List (String × List α)) : List (String × α) :=
  batches.flatMap fun b => b.2.map fun item => (b.1, item)

/-- An item that has an identity, a time at which it was recorded and some time to live. -/
structure EntityStore.Fit {α : Type} (s : EntityStore α) (c : Clock) (a : String × α) : Prop where
  identified : (s.profile.keyOf? a).isSome = true
  recorded : (s.profile.recordedAt a.2).isSome = true
  kept : s.keeps c a.2 = true

instance {α : Type} (s : EntityStore α) (c : Clock) (a : String × α) : Decidable (s.Fit c a) :=
  decidable_of_iff ((s.profile.keyOf? a).isSome = true ∧
      (s.profile.recordedAt a.2).isSome = true ∧ s.keeps c a.2 = true)
    ⟨fun h => ⟨h.1, h.2.1, h.2.2⟩, fun h => ⟨h.identified, h.recorded, h.kept⟩⟩

namespace EntityStore

variable {α : Type}

/-- Ingest some batches, one after the other and all at the same moment. -/
def ingestAll (s : EntityStore α) (c : Clock) (batches : List (String × List α)) : EntityStore α :=
  batches.foldl (fun s b => (s.upsertAll c b.1 b.2).2) s

/-- Take in one item. -/
def take (c : Clock) (s : EntityStore α) (a : String × α) : EntityStore α :=
  match s.profile.keyOf? a with
  | none => s
  | some key => (s.upsertOne c key a.2).2

/-- How a batch is cut does not matter: its items are taken in one by one. -/
theorem ingestAll_eq (s : EntityStore α) (c : Clock) (batches : List (String × List α)) :
    s.ingestAll c batches = (arrivals batches).foldl (take c) s := by
  have hbatch (dataset : String) (items : List α) (r : UpsertResult α) (s : EntityStore α) :
      (items.foldl (upsertNext c dataset) (r, s)).2 =
        (items.map fun item => (dataset, item)).foldl (take c) s := by
    induction items generalizing r s with
    | nil => rfl
    | cons item rest ih =>
      rw [List.foldl_cons, List.map_cons, List.foldl_cons, ih]
      cases hkey : s.profile.key? dataset item with
      | none => simp only [upsertNext_of_ignored hkey, take, Profile.keyOf?, hkey]
      | some key => simp only [store_upsertNext hkey, take, Profile.keyOf?, hkey]
  induction batches generalizing s with
  | nil => rfl
  | cons b rest ih =>
    obtain ⟨dataset, items⟩ := b
    have harrivals : arrivals ((dataset, items) :: rest) =
        (items.map fun item => (dataset, item)) ++ arrivals rest := rfl
    rw [harrivals, List.foldl_append, ← hbatch dataset items ⟨{ total := items.length }, [], []⟩ s]
    exact ih _

/-! ## One item -/

/-- What a store holds under a key if an entity was stored under it at this moment. -/
def Holds (s : EntityStore α) (c : Clock) (k : RecordKey) : Option α → Prop
  | none => s.records.live? c.now k = none ∧ s.checksums.live? c.now k = none
  | some e => ∃ ttl, s.expiration c e = .after ttl ∧
      s.records.live? c.now k = some ⟨⟨e, expiryStamp c ttl⟩, c.now.deadline ttl⟩ ∧
      s.checksums.live? c.now k = (s.print? e).map fun print => ⟨print, c.now.deadline ttl⟩

theorem Holds.get?_eq {s : EntityStore α} {c : Clock} {k : RecordKey} {e? : Option α}
    (h : s.Holds c k e?) : s.get? c.now k = e? := by
  cases e? with
  | none => rw [get?, TtlStore.lookup, h.1]; rfl
  | some e =>
    obtain ⟨ttl, -, hrecord, -⟩ := h
    rw [get?, TtlStore.lookup, hrecord]
    rfl

/-- Two stores that hold the same entity hold it with the same deadlines and fingerprints. -/
theorem Holds.live?_eq {s t : EntityStore α} {c : Clock} {k : RecordKey} {e? : Option α}
    (hprofile : t.profile = s.profile) (hexpiration : t.expiration = s.expiration)
    (h : s.Holds c k e?) (h' : t.Holds c k e?) :
    s.records.live? c.now k = t.records.live? c.now k ∧
      s.checksums.live? c.now k = t.checksums.live? c.now k := by
  cases e? with
  | none => exact ⟨h.1.trans h'.1.symm, h.2.trans h'.2.symm⟩
  | some e =>
    obtain ⟨ttl, hafter, hrecord, hprint⟩ := h
    obtain ⟨ttl', hafter', hrecord', hprint'⟩ := h'
    rw [hexpiration, hafter] at hafter'
    obtain rfl := Expiration.after.inj hafter'
    rw [print?, hprofile] at hprint'
    exact ⟨hrecord.trans hrecord'.symm, hprint.trans hprint'.symm⟩

/-- What a store holds under a key depends on its two live slots. -/
theorem Holds.congr {s t : EntityStore α} {c : Clock} {k : RecordKey} {e? : Option α}
    (h : s.Holds c k e?) (hprofile : t.profile = s.profile)
    (hexpiration : t.expiration = s.expiration)
    (hrecords : t.records.live? c.now k = s.records.live? c.now k)
    (hchecksums : t.checksums.live? c.now k = s.checksums.live? c.now k) : t.Holds c k e? := by
  cases e? with
  | none => exact ⟨hrecords.trans h.1, hchecksums.trans h.2⟩
  | some e =>
    obtain ⟨ttl, hafter, hrecord, hprint⟩ := h
    refine ⟨ttl, by rw [hexpiration, hafter], hrecords.trans hrecord, ?_⟩
    rw [print?, hprofile]
    exact hchecksums.trans hprint

/-- A record that is put for some time is held as it is stored now. -/
theorem holds_putRecord {s : EntityStore α} {c : Clock} {item : α} {ttl : Duration}
    (hafter : s.expiration c item = .after ttl) (hzero : ttl ≠ 0) (key : RecordKey) :
    (s.putRecord c key item (s.print? item) ttl).Holds c key (some item) := by
  refine ⟨ttl, ?_, ?_, ?_⟩
  · rw [expiration_putRecord, hafter]
  · rw [records_putRecord, TtlStore.live?_put, if_pos rfl, if_neg hzero]
  · rw [live?_checksums_putRecord, if_pos rfl, if_neg hzero, print?_putRecord]

/-- An item that is outdated was recorded before what is stored, or at the same time. -/
theorem notAfter_of_isOutdated {p : Profile α} {item stored : α} {unchanged : Bool}
    (h : isOutdated (p.recordedAt item) (p.recordedAt stored) unchanged = true) :
    p.NotAfter item stored := by
  unfold isOutdated at h
  split at h
  · next t t' ht ht' =>
    refine ⟨t, t', ht, ht', ?_⟩
    split at h
    · exact (Timestamp.le_total t t').resolve_right (of_decide_eq_true h)
    · exact of_decide_eq_true h
  · exact absurd h Bool.false_ne_true

/-- An item that is not outdated was recorded after what is stored, or at the same time. -/
theorem notAfter_of_current {p : Profile α} {item stored : α} {unchanged : Bool}
    (hitem : (p.recordedAt item).isSome = true) (hstored : (p.recordedAt stored).isSome = true)
    (h : isOutdated (p.recordedAt item) (p.recordedAt stored) unchanged = false) :
    p.NotAfter stored item := by
  obtain ⟨t, ht⟩ := Option.isSome_iff_exists.1 hitem
  obtain ⟨t', ht'⟩ := Option.isSome_iff_exists.1 hstored
  refine ⟨t', t, ht', ht, ?_⟩
  simp only [ht, ht', isOutdated] at h
  split at h
  · exact Decidable.not_not.1 (of_decide_eq_false h)
  · exact (Timestamp.le_total t t').resolve_left (of_decide_eq_false h)

/-- An item that is kept takes the place of what is stored under its key, unless it is outdated. -/
theorem Upserted.holds {s s' : EntityStore α} {c : Clock} {key : RecordKey} {item : α}
    {outcome : Outcome} (h : Upserted s c key item outcome s') (hkept : s.keeps c item = true)
    {e? : Option α} (hholds : s.Holds c key e?) :
    s'.Holds c key (some item) ∧
        (∀ e, e? = some e → s.outdatedBy c.now key item e = false) ∨
      s'.Holds c key e? ∧ ∃ e, e? = some e ∧ s.outdatedBy c.now key item e = true := by
  obtain ⟨ttl, hafter, hzero⟩ : ∃ ttl, s.expiration c item = .after ttl ∧ ttl ≠ 0 := by
    unfold keeps at hkept
    split at hkept
    · exact absurd hkept Bool.false_ne_true
    · next ttl hafter => exact ⟨ttl, hafter, of_decide_eq_true hkept⟩
  have hput : ((s.asked c.now key item).putRecord c key item (s.print? item) ttl).Holds c key
      (some item) := by
    rw [← print?_asked s c.now key item]
    exact holds_putRecord (by rw [expiration_asked, hafter]) hzero key
  have hget := hholds.get?_eq
  cases h with
  | dropped _ hexpired => simp [hafter] at hexpired
  | expired _ _ _ hexpired => simp [hafter] at hexpired
  | added habsent _ hafter' =>
    obtain rfl := Expiration.after.inj (hafter.symm.trans hafter')
    rw [get?, habsent] at hget
    refine .inl ⟨holds_putRecord hafter hzero key, fun e he => ?_⟩
    exact absurd (hget.trans he).symm (Option.some_ne_none e)
  | outdated stored hpresent houtdated =>
    rw [get?, hpresent] at hget
    refine .inr ⟨hholds.congr ?_ ?_ ?_ ?_, stored.value, hget.symm, houtdated⟩ <;> simp
  | refreshed stored hpresent hcurrent _ _ hafter' =>
    obtain rfl := Expiration.after.inj (hafter.symm.trans hafter')
    rw [get?, hpresent] at hget
    exact .inl ⟨hput, fun e he => Option.some.inj (hget.trans he) ▸ hcurrent⟩
  | replaced stored hpresent hcurrent _ _ hafter' =>
    obtain rfl := Expiration.after.inj (hafter.symm.trans hafter')
    rw [get?, hpresent] at hget
    exact .inl ⟨hput, fun e he => Option.some.inj (hget.trans he) ▸ hcurrent⟩

/-! ## Any number of items -/

/-- A store that holds under each key the newest entity that arrived for it. -/
structure HoldsNewest (origin : EntityStore α) (c : Clock) (arrived : List (String × α))
    (s : EntityStore α) : Prop where
  profile_eq : s.profile = origin.profile
  expiration_eq : s.expiration = origin.expiration
  newest : ∀ k, ∃ e?, origin.profile.IsNewest arrived k e? ∧ s.Holds c k e?

theorem holdsNewest_empty (profile : Profile α) (policy : ExpirationPolicy) (c : Clock) :
    HoldsNewest (empty profile policy) c [] (empty profile policy) where
  profile_eq := rfl
  expiration_eq := rfl
  newest _ := ⟨none, fun _ ha => absurd ha List.not_mem_nil, TtlStore.live?_empty ..,
    TtlStore.live?_empty ..⟩

/-- What an item that is fit to be stored adds to what has arrived is what the store makes of it. -/
theorem HoldsNewest.take {origin s : EntityStore α} {c : Clock} {arrived : List (String × α)}
    (h : HoldsNewest origin c arrived s) {a : String × α} (hfit : origin.Fit c a) :
    HoldsNewest origin c (arrived ++ [a]) (take c s a) := by
  obtain ⟨key, hkey⟩ := Option.isSome_iff_exists.1 hfit.identified
  obtain ⟨t, ht⟩ := Option.isSome_iff_exists.1 hfit.recorded
  have hself : origin.profile.NotAfter a.2 a.2 := ⟨t, t, ht, ht, Timestamp.le_refl t⟩
  have hkept : s.keeps c a.2 = true := by
    rw [keeps, h.expiration_eq]
    exact hfit.kept
  have hup := upsertOne_upserted s c key a.2
  have htake : EntityStore.take c s a = (s.upsertOne c key a.2).2 := by
    rw [EntityStore.take, h.profile_eq, hkey]
  rw [htake]
  refine ⟨hup.profile_eq.trans h.profile_eq, hup.expiration_eq.trans h.expiration_eq, fun k => ?_⟩
  obtain ⟨e?, hnewest, hholds⟩ := h.newest k
  by_cases hk : key = k
  · subst hk
    rcases hup.holds hkept hholds with ⟨hitem, hcurrent⟩ | ⟨hstored, e, rfl, houtdated⟩
    · refine ⟨some a.2, hnewest.snoc_newer hkey hself fun e he => ?_, hitem⟩
      subst he
      have hstored := hnewest.notAfter_self.isSome_recordedAt
      rw [← h.profile_eq] at hstored ⊢
      exact notAfter_of_current (h.profile_eq ▸ hself.isSome_recordedAt) hstored (hcurrent e rfl)
    · have holder := notAfter_of_isOutdated houtdated
      rw [h.profile_eq] at holder
      exact ⟨some e, hnewest.snoc_older holder, hstored⟩
  · refine ⟨e?, hnewest.snoc_of_ne fun hsame => hk (Option.some.inj (hkey.symm.trans hsame)), ?_⟩
    exact hholds.congr hup.profile_eq hup.expiration_eq (hup.live?_records_of_ne hk)
      (hup.live?_checksums_of_ne hk)

theorem HoldsNewest.foldl_take {origin s : EntityStore α} {c : Clock}
    {arrived rest : List (String × α)} (h : HoldsNewest origin c arrived s)
    (hfit : ∀ a ∈ rest, origin.Fit c a) :
    HoldsNewest origin c (arrived ++ rest) (rest.foldl (EntityStore.take c) s) := by
  induction rest generalizing arrived s with
  | nil =>
    rw [List.append_nil]
    exact h
  | cons a rest ih =>
    have hrest := ih (h.take (hfit a List.mem_cons_self))
      fun b hb => hfit b (List.mem_cons_of_mem a hb)
    rw [List.append_assoc] at hrest
    exact hrest

/-- Two new stores that take in the same items at the same moment, in any order and in any batches,
end up with the same records, deadlines and fingerprints. Under each key this is the item of the key
that was recorded last, and nothing if there is none. -/
theorem converges {profile : Profile α} {policy : ExpirationPolicy} {c : Clock}
    {batches batches' : List (String × List α)}
    (hsame : (arrivals batches).Perm (arrivals batches'))
    (hfit : ∀ a ∈ arrivals batches, (empty profile policy).Fit c a)
    (hdistinct : profile.Distinct (arrivals batches)) (k : RecordKey) :
    let s := (empty profile policy).ingestAll c batches
    let s' := (empty profile policy).ingestAll c batches'
    (s.records.live? c.now k = s'.records.live? c.now k ∧
        s.checksums.live? c.now k = s'.checksums.live? c.now k) ∧
      ∃ newest, (∀ other, profile.IsNewest (arrivals batches) k other ↔ other = newest) ∧
        s.Holds c k newest := by
  intro s s'
  have hfit' (a : String × α) (ha : a ∈ arrivals batches') : (empty profile policy).Fit c a :=
    hfit a (hsame.mem_iff.2 ha)
  have hs : HoldsNewest (empty profile policy) c (arrivals batches) s := by
    show HoldsNewest _ c _ (ingestAll _ c batches)
    rw [ingestAll_eq]
    exact (holdsNewest_empty profile policy c).foldl_take hfit
  have hs' : HoldsNewest (empty profile policy) c (arrivals batches') s' := by
    show HoldsNewest _ c _ (ingestAll _ c batches')
    rw [ingestAll_eq]
    exact (holdsNewest_empty profile policy c).foldl_take hfit'
  obtain ⟨newest, hnewest, hholds⟩ := hs.newest k
  obtain ⟨newest', hnewest', hholds'⟩ := hs'.newest k
  have hmem (a : String × α) : a ∈ arrivals batches ↔ a ∈ arrivals batches' := hsame.mem_iff
  rw [← Profile.isNewest_congr hmem] at hnewest'
  obtain rfl := hnewest.unique hnewest' hdistinct
  refine ⟨hholds.live?_eq (hs'.profile_eq.trans hs.profile_eq.symm)
    (hs'.expiration_eq.trans hs.expiration_eq.symm) hholds', newest, fun other => ?_, hholds⟩
  constructor
  · intro hother
    exact hother.unique hnewest hdistinct
  · intro hother
    rw [hother]
    exact hnewest

/-- An earlier state of a message that arrives after a later one, in a batch of its own, is not
noticed. -/
theorem converges_with_late_message :
    let older : InfoMessage := { identifier := some "m", recordedAt := some .epoch }
    let newer : InfoMessage := { identifier := some "m", recordedAt := some .last }
    let other : InfoMessage := { identifier := some "n", recordedAt := some .epoch }
    let s := empty InfoMessage.profile ⟨0, Duration.hour⟩
    let inOrder := s.ingestAll ⟨.epoch, 0⟩ [("A", [older, newer, other])]
    let outOfOrder := s.ingestAll ⟨.epoch, 0⟩ [("A", [other, newer]), ("A", [older])]
    ∀ k, inOrder.records.live? 0 k = outOfOrder.records.live? 0 k := by
  intro older newer other s inOrder outOfOrder k
  have hsame : (arrivals [("A", [older, newer, other])]).Perm
      (arrivals [("A", [other, newer]), ("A", [older])]) := by
    decide +kernel
  have hfit : ∀ a ∈ arrivals [("A", [older, newer, other])], s.Fit ⟨.epoch, 0⟩ a := by
    decide +kernel
  have hdistinct : InfoMessage.profile.Distinct (arrivals [("A", [older, newer, other])]) := by
    decide +kernel
  exact (converges hsame hfit hdistinct k).1.1

end EntityStore

end TransitHub
