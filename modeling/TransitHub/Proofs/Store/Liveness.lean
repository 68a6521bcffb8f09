/-
# What readers of a store see

Readers of a store see its live slots and nothing else. This module says what every operation does
to `live?`, so that later arguments need neither shards nor slots whose deadline has come. A slot
that is live is live at every earlier instant, hence what is live later is part of what is live now;
slots that a read or a sweep drops were not live any more and nobody misses them.

`slotKeys` walks over the shards. That it meets every slot, and only those, rests on the rule that a
key lies in the shard that its placement names.
-/

import TransitHub.Store.TtlStore

namespace TransitHub

/-- A time to live that is not zero puts the deadline after the present. -/
theorem Instant.lt_deadline (now : Instant) {ttl : Duration} (h : ttl ≠ 0) :
    now < now.deadline ttl := by
  have hpos : (0 : Int) < ttl := Int.natCast_pos.2 (Nat.pos_of_ne_zero h)
  have hfar : (0 : Int) < Instant.farAhead := by decide
  unfold Instant.deadline
  split
  · exact Int.lt_add_of_pos_right now hpos
  · exact Int.lt_add_of_pos_right now hfar

theorem Slot.isLive_iff {α : Type} {slot : Slot α} {now : Instant} :
    slot.isLive now = true ↔ now < slot.deadline := by
  simp [Slot.isLive]

/-- A slot that is live was live before. -/
theorem Slot.isLive_of_le {α : Type} {slot : Slot α} {now later : Instant} (h : now ≤ later)
    (hlive : slot.isLive later = true) : slot.isLive now = true := by
  rw [Slot.isLive_iff] at hlive ⊢
  exact Int.lt_of_le_of_lt h hlive

/-- Whatever is live later is among what is live before. -/
theorem Slot.filter_isLive_later {α : Type} (slot? : Option (Slot α)) {now later : Instant}
    (h : now ≤ later) :
    (slot?.filter fun slot => slot.isLive now).filter (fun slot => slot.isLive later) =
      slot?.filter fun slot => slot.isLive later := by
  rw [Option.filter_filter]
  congr 1
  funext slot
  cases hlive : slot.isLive later with
  | false => rw [Bool.and_false]
  | true => rw [Slot.isLive_of_le h hlive, Bool.and_true]

namespace TtlStore

variable {κ α : Type} [Ord κ] [Std.TransOrd κ]

theorem live?_eq_some_iff {s : TtlStore κ α} {now : Instant} {k : κ} {slot : Slot α} :
    s.live? now k = some slot ↔ s.slot? k = some slot ∧ slot.isLive now = true := by
  simp [live?, Option.filter_eq_some_iff]

theorem lookup_eq_some_iff {s : TtlStore κ α} {now : Instant} {k : κ} {v : α} :
    s.lookup now k = some v ↔ ∃ slot, s.live? now k = some slot ∧ slot.value = v := by
  simp [lookup]

theorem lookup_eq_none_iff {s : TtlStore κ α} {now : Instant} {k : κ} :
    s.lookup now k = none ↔ s.live? now k = none := by
  simp [lookup]

/-- What is looked up depends on the live slot only. -/
theorem lookup_congr {s s' : TtlStore κ α} {now : Instant} {k : κ}
    (h : s.live? now k = s'.live? now k) : s.lookup now k = s'.lookup now k := by
  rw [lookup, lookup, h]

@[simp]
theorem live?_empty (n : Nat) (place : κ → Nat) (now : Instant) (k : κ) :
    (empty n place : TtlStore κ α).live? now k = none := by
  simp [live?]

/-- Time alone only takes slots away. -/
theorem live?_later (s : TtlStore κ α) {now later : Instant} (h : now ≤ later) (k : κ) :
    s.live? later k = (s.live? now k).filter fun slot => slot.isLive later :=
  (Slot.filter_isLive_later (s.slot? k) h).symm

theorem live?_of_later {s : TtlStore κ α} {now later : Instant} (h : now ≤ later) {k : κ}
    {slot : Slot α} (hlive : s.live? later k = some slot) : s.live? now k = some slot := by
  obtain ⟨hslot, hl⟩ := live?_eq_some_iff.1 hlive
  exact live?_eq_some_iff.2 ⟨hslot, Slot.isLive_of_le h hl⟩

theorem lookup_of_later {s : TtlStore κ α} {now later : Instant} (h : now ≤ later) {k : κ} {v : α}
    (hv : s.lookup later k = some v) : s.lookup now k = some v := by
  obtain ⟨slot, hlive, hvalue⟩ := lookup_eq_some_iff.1 hv
  exact lookup_eq_some_iff.2 ⟨slot, live?_of_later h hlive, hvalue⟩

section Operations

variable [Std.LawfulEqOrd κ] [DecidableEq κ]

@[simp]
theorem live?_erase (s : TtlStore κ α) (now : Instant) (k k' : κ) :
    (s.erase k).live? now k' = if k = k' then none else s.live? now k' := by
  unfold live?
  rw [slot?_erase]
  split <;> simp

theorem live?_insertSlot (s : TtlStore κ α) (now : Instant) (k k' : κ) (slot : Slot α) :
    (s.insertSlot k slot).live? now k' =
      if k = k' then (some slot).filter fun slot => slot.isLive now else s.live? now k' := by
  unfold live?
  rw [slot?_insertSlot]
  split <;> rfl

@[simp]
theorem live?_put (s : TtlStore κ α) (now : Instant) (k k' : κ) (v : α) (ttl : Duration) :
    (s.put now k v ttl).live? now k' =
      if k = k' then (if ttl = 0 then none else some ⟨v, now.deadline ttl⟩)
      else s.live? now k' := by
  unfold put
  by_cases hzero : ttl = 0
  · simp only [hzero, if_true, live?_erase]
  · simp only [hzero, if_false, live?_insertSlot]
    have hlive : (⟨v, now.deadline ttl⟩ : Slot α).isLive now = true :=
      Slot.isLive_iff.2 (Instant.lt_deadline now hzero)
    simp [Option.filter, hlive]

omit [DecidableEq κ] in
@[simp]
theorem live?_sweep (s : TtlStore κ α) (now : Instant) (k : κ) :
    (s.sweep now).live? now k = s.live? now k := by
  simp only [live?, sweep, slot?_filter]
  cases s.slot? k with
  | none => rfl
  | some slot => cases h : slot.isLive now <;> simp [Option.filter, h]

/-- A single read drops at most a slot that nobody sees. -/
@[simp]
theorem live?_touch (s : TtlStore κ α) (now : Instant) (k k' : κ) :
    (s.touch now k).live? now k' = s.live? now k' := by
  unfold touch
  split
  · next slot hslot =>
    split
    · rfl
    · next hdead =>
      rw [live?_erase]
      split
      · next heq => subst heq; simp [live?, hslot, Option.filter, hdead]
      · rfl
  · rfl

@[simp]
theorem live?_touchAll (s : TtlStore κ α) (now : Instant) (ks : Std.ExtTreeSet κ compare) (k : κ) :
    (s.touchAll now ks).live? now k = s.live? now k := by
  unfold touchAll
  induction ks.toList generalizing s with
  | nil => rfl
  | cons k' rest ih => rw [List.foldl_cons, ih, live?_touch]

omit [DecidableEq κ] in
/-- Reading a live key leaves the store as it is. -/
theorem touch_of_live {s : TtlStore κ α} {now : Instant} {k : κ} {slot : Slot α}
    (h : s.live? now k = some slot) : s.touch now k = s := by
  obtain ⟨hslot, hlive⟩ := live?_eq_some_iff.1 h
  rw [touch, hslot]
  exact if_pos hlive

omit [DecidableEq κ] in
theorem touchAll_of_live {s : TtlStore κ α} {now : Instant} {ks : Std.ExtTreeSet κ compare}
    (h : ∀ k ∈ ks, ∃ slot, s.live? now k = some slot) : s.touchAll now ks = s := by
  refine List.foldlRecOn (motive := fun t => t = s) ks.toList _ rfl fun t ht k hk => ?_
  obtain ⟨slot, hlive⟩ := h k (Std.ExtTreeSet.mem_toList.1 hk)
  rw [ht, touch_of_live hlive]

/-- What one decision leaves of the slot it was about. -/
def decided (s : TtlStore κ α) (now : Instant) (k : κ) : Update α → Option (Slot α)
  | .keep => s.live? now k
  | .put v ttl => if ttl = 0 then none else some ⟨v, now.deadline ttl⟩
  | .delete => none

theorem live?_compute (s : TtlStore κ α) (now : Instant) (k k' : κ)
    (decide : Option α → Update α) :
    (s.compute now k decide).live? now k' =
      if k = k' then s.decided now k (decide (s.lookup now k)) else s.live? now k' := by
  unfold compute
  cases decide (s.lookup now k) with
  | keep =>
    simp only [apply, decided]
    split
    · next h => rw [h]
    · rfl
  | put v ttl => simp only [apply, decided, live?_put]
  | delete => simp only [apply, decided, live?_erase]

omit [Std.LawfulEqOrd κ] [DecidableEq κ] in
/-- A decision depends on nothing but the live slot. -/
theorem decided_congr {s s' : TtlStore κ α} {now : Instant} {k : κ}
    (h : s.live? now k = s'.live? now k) (decide : Option α → Update α) :
    s.decided now k (decide (s.lookup now k)) = s'.decided now k (decide (s'.lookup now k)) := by
  rw [lookup_congr h]
  cases decide (s'.lookup now k) <;> simp only [decided, h]

/-- Decisions about several keys do not disturb one another. -/
theorem live?_foldl_compute (s : TtlStore κ α) (now : Instant) (decide : Option α → Update α)
    {ks : List κ} (hnodup : ks.Nodup) (k : κ) :
    (ks.foldl (fun s k => s.compute now k decide) s).live? now k =
      if k ∈ ks then s.decided now k (decide (s.lookup now k)) else s.live? now k := by
  induction ks generalizing s with
  | nil => simp
  | cons k' rest ih =>
    obtain ⟨hfresh, hrest⟩ := List.nodup_cons.1 hnodup
    rw [List.foldl_cons, ih _ hrest]
    by_cases hk : k = k'
    · subst hk
      simp [hfresh, live?_compute]
    · have hframe : (s.compute now k' decide).live? now k = s.live? now k := by
        rw [live?_compute, if_neg (Ne.symm hk)]
      simp only [List.mem_cons, hk, false_or]
      split
      · exact decided_congr hframe decide
      · exact hframe

end Operations

/-! ## Keys and values -/

/-- A set of keys lists each key once. -/
theorem nodup_toList (ks : Std.ExtTreeSet κ compare) : ks.toList.Nodup := by
  refine ks.distinct_toList.imp fun {k k'} hne heq => hne ?_
  rw [heq]
  exact Std.ReflOrd.compare_self

variable [Std.LawfulEqOrd κ]

theorem mem_shard_iff {s : TtlStore κ α} {k : κ} {slot : Slot α} {p : κ → Slot α → Bool} :
    (∃ m ∈ s.shards, (m.filter p)[k]? = some slot) ↔ s.slot? k = some slot ∧ p k slot = true := by
  have hfilter (m : Shard κ α) :
      (m.filter p)[k]? = some slot ↔ m[k]? = some slot ∧ p k slot = true := by
    rw [Std.ExtTreeMap.getElem?_filter', Option.filter_eq_some_iff]
  constructor
  · intro h
    obtain ⟨m, hm, hslot⟩ := h
    obtain ⟨hget, hp⟩ := (hfilter m).1 hslot
    obtain ⟨i, hi, rfl⟩ := List.getElem_of_mem hm
    have hplace : s.index k = i := s.placed i hi k (Std.ExtTreeMap.mem_iff_isSome_getElem?.2
      (by rw [hget]; rfl))
    subst hplace
    exact ⟨hget, hp⟩
  · intro h
    obtain ⟨hslot, hp⟩ := h
    exact ⟨s.shard k, List.getElem_mem _, (hfilter _).2 ⟨hslot, hp⟩⟩

/-- The walk over the shards meets exactly the slots that there are. -/
theorem mem_slotKeys {s : TtlStore κ α} {p : κ → Slot α → Bool} {k : κ} :
    k ∈ s.slotKeys p ↔ ∃ slot, s.slot? k = some slot ∧ p k slot = true := by
  simp only [slotKeys, List.mem_flatMap, Std.ExtTreeMap.mem_keys,
    Std.ExtTreeMap.mem_iff_isSome_getElem?, Option.isSome_iff_exists]
  constructor
  · intro h
    obtain ⟨m, hm, slot, hslot⟩ := h
    exact ⟨slot, mem_shard_iff.1 ⟨m, hm, hslot⟩⟩
  · intro h
    obtain ⟨slot, hslot⟩ := h
    obtain ⟨m, hm, hget⟩ := mem_shard_iff.2 hslot
    exact ⟨m, hm, slot, hget⟩

/-- No key is met in two shards, and none twice in one. -/
theorem nodup_slotKeys (s : TtlStore κ α) (p : κ → Slot α → Bool) : (s.slotKeys p).Nodup := by
  apply List.pairwise_flatMap.2
  constructor
  · intro m _
    exact Std.ExtTreeMap.nodup_keys
  · apply List.pairwise_iff_getElem.2
    intro i j hi hj hlt k hk k' hk' heq
    have hplace : s.place k % s.shards.length = i :=
      s.placed i hi k (Std.ExtTreeMap.mem_of_mem_filter (Std.ExtTreeMap.mem_keys.1 hk))
    have hplace' : s.place k' % s.shards.length = j :=
      s.placed j hj k' (Std.ExtTreeMap.mem_of_mem_filter (Std.ExtTreeMap.mem_keys.1 hk'))
    rw [heq] at hplace
    omega

/-- The size is the number of the keys with a live slot, however these are listed. -/
theorem size_eq_length {s : TtlStore κ α} {now : Instant} {ks : List κ} (hnodup : ks.Nodup)
    (hmem : ∀ k, k ∈ ks ↔ (s.live? now k).isSome = true) : s.size now = ks.length := by
  apply List.Perm.length_eq
  apply (List.perm_ext_iff_of_nodup (s.nodup_slotKeys _) hnodup).2
  intro k
  rw [mem_slotKeys, hmem, Option.isSome_iff_exists]
  simp only [live?_eq_some_iff]

theorem mem_keys [DecidableEq κ] {s : TtlStore κ α} {now : Instant} {p : κ → Bool} {k : κ} :
    k ∈ s.keys now p ↔ (∃ v, s.lookup now k = some v) ∧ p k = true := by
  rw [keys, Std.ExtTreeSet.mem_ofList, List.contains_iff_mem, mem_slotKeys]
  simp only [lookup_eq_some_iff, live?_eq_some_iff, Bool.and_eq_true]
  constructor
  · intro h
    obtain ⟨slot, hslot, hlive, hp⟩ := h
    exact ⟨⟨slot.value, slot, ⟨hslot, hlive⟩, rfl⟩, hp⟩
  · intro h
    obtain ⟨⟨_, slot, ⟨hslot, hlive⟩, _⟩, hp⟩ := h
    exact ⟨slot, hslot, hlive, hp⟩

theorem mem_values {s : TtlStore κ α} {now : Instant} {ks : Std.ExtTreeSet κ compare} {k : κ}
    {v : α} : (k, v) ∈ s.values now ks ↔ k ∈ ks ∧ s.lookup now k = some v := by
  simp only [values, List.mem_filterMap, Std.ExtTreeSet.mem_toList, Option.map_eq_some_iff]
  constructor
  · intro h
    obtain ⟨k', hk', v', hv', heq⟩ := h
    obtain ⟨rfl, rfl⟩ := Prod.mk.inj heq
    exact ⟨hk', hv'⟩
  · intro h
    obtain ⟨hk, hv⟩ := h
    exact ⟨k, hk, v, hv, rfl⟩

end TtlStore

end TransitHub
