/-
# What a batch reports

A batch reports the keys that it changed, each with an entity, and these entities are what
subscribers are sent. A batch can hold several items of one key. `verdicts` lists what becomes of
each, in their order, and both the report and the store can be told from it: a key is reported with
the latest of its items that was a change, and the store holds the latest of its items that settled
what is stored.

The two are not always the same. An item that only refreshes its record takes the place of the
entity that was reported, with the same stable fields and other volatile ones; an expired item takes
the record away; and an item that is kept for no time at all is reported without ever being stored.
-/

import TransitHub.Entity.InfoMessage
import TransitHub.Proofs.Store.Checksums

namespace TransitHub

/-- The items of a batch that some count other than the total tells of. -/
def UpsertSummary.counted (s : UpsertSummary) : Nat :=
  s.addedOrUpdated + s.unchanged + s.expired + s.outdated + s.ignored

/-- What became of an item of a batch. -/
structure Verdict (α : Type) where
  key : RecordKey
  item : α
  outcome : Outcome
deriving DecidableEq

/-- The latest verdict on a key whose outcome passes a test. -/
def Verdict.latest? {α : Type} (p : Outcome → Bool) (k : RecordKey) (vs : List (Verdict α)) :
    Option (Verdict α) :=
  vs.reverse.find? fun v => v.key = k && p v.outcome

/-- A later verdict goes before an earlier one. -/
theorem Verdict.latest?_cons {α : Type} (p : Outcome → Bool) (k : RecordKey) (v : Verdict α)
    (vs : List (Verdict α)) :
    latest? p k (v :: vs) =
      (latest? p k vs).or (if v.key = k ∧ p v.outcome = true then some v else none) := by
  rw [latest?, latest?, List.reverse_cons, List.find?_append, List.find?_singleton]
  simp only [Bool.and_eq_true, decide_eq_true_eq]

/-- Where a test passes on less, it passes on nothing if the other does. -/
theorem Verdict.latest?_eq_none_of_imp {α : Type} {p q : Outcome → Bool} {k : RecordKey}
    {vs : List (Verdict α)} (himp : ∀ o, p o = true → q o = true) (hnone : latest? q k vs = none) :
    latest? p k vs = none := by
  refine List.find?_eq_none.2 fun v hv hp => List.find?_eq_none.1 hnone v hv ?_
  simp only [Bool.and_eq_true] at hp ⊢
  exact ⟨hp.1, himp _ hp.2⟩

namespace EntityStore

variable {α : Type}

/-- What becomes of the items of a batch, in their order. Items without an identity are left out. -/
def verdicts (s : EntityStore α) (c : Clock) (dataset : String) : List α → List (Verdict α)
  | [] => []
  | item :: rest =>
    match s.profile.key? dataset item with
    | none => s.verdicts c dataset rest
    | some key =>
      ⟨key, item, (s.upsertOne c key item).1⟩ :: (s.upsertOne c key item).2.verdicts c dataset rest

/-! ## Reports -/

/-- Add a verdict to a report. -/
def noteVerdict (changed : List (RecordKey × α)) (v : Verdict α) : List (RecordKey × α) :=
  if v.outcome = .changed then noteChange changed v.key v.item else changed

/-- A batch reports the changes among its verdicts. -/
theorem changed_upsertAll (s : EntityStore α) (c : Clock) (dataset : String) (items : List α) :
    (s.upsertAll c dataset items).1.changed =
      (s.verdicts c dataset items).foldl noteVerdict [] := by
  have hfold (r : UpsertResult α) : (items.foldl (upsertNext c dataset) (r, s)).1.changed =
      (s.verdicts c dataset items).foldl noteVerdict r.changed := by
    induction items generalizing r s with
    | nil => rfl
    | cons item rest ih =>
      rw [List.foldl_cons, ih, verdicts]
      cases hkey : s.profile.key? dataset item with
      | none => rw [upsertNext_of_ignored hkey]
      | some key =>
        rw [store_upsertNext hkey, changed_upsertNext hkey]
        rfl
  exact hfold _

theorem nodup_keys_noteChange {changed : List (RecordKey × α)} (h : (changed.map (·.1)).Nodup)
    (key : RecordKey) (item : α) : ((noteChange changed key item).map (·.1)).Nodup := by
  induction changed with
  | nil => simp [noteChange]
  | cons entry rest ih =>
    obtain ⟨k, v⟩ := entry
    obtain ⟨hfresh, hrest⟩ := List.nodup_cons.1 h
    unfold noteChange
    split
    · exact h
    · next hne =>
      refine List.nodup_cons.2 ⟨fun hmem => ?_, ih hrest⟩
      exact (mem_keys_noteChange.1 hmem).elim hne hfresh

/-- The entity that is noted takes the place of the one that its key was reported with. -/
theorem mem_noteChange {changed : List (RecordKey × α)} (h : (changed.map (·.1)).Nodup)
    {key k : RecordKey} {item v : α} :
    (k, v) ∈ noteChange changed key item ↔ if key = k then v = item else (k, v) ∈ changed := by
  induction changed with
  | nil => simp [noteChange, eq_comm]
  | cons entry rest ih =>
    obtain ⟨k', v'⟩ := entry
    obtain ⟨hfresh, hrest⟩ := List.nodup_cons.1 h
    have hother (hk : k' = k) : (k, v) ∉ rest := fun hmem =>
      hfresh (hk ▸ List.mem_map.2 ⟨(k, v), hmem, rfl⟩)
    unfold noteChange
    by_cases hhead : k' = key
    · rw [if_pos hhead]
      by_cases hkey : key = k
      · simp [hhead, hkey, hother (hhead.trans hkey)]
      · simp [hhead, hkey, Ne.symm hkey]
    · rw [if_neg hhead, List.mem_cons, ih hrest]
      by_cases hkey : key = k
      · have hne : k ≠ k' := fun heq => hhead (heq.symm.trans hkey.symm)
        simp [hkey, hne]
      · simp [hkey]

theorem nodup_keys_foldl_noteVerdict {changed : List (RecordKey × α)}
    (h : (changed.map (·.1)).Nodup) (vs : List (Verdict α)) :
    ((vs.foldl noteVerdict changed).map (·.1)).Nodup := by
  refine List.foldlRecOn (motive := fun changed => (changed.map (·.1)).Nodup) vs noteVerdict h
    fun changed hchanged v _ => ?_
  unfold noteVerdict
  split
  · exact nodup_keys_noteChange hchanged v.key v.item
  · exact hchanged

/-- A key is reported with the latest of its items that was a change. -/
theorem mem_foldl_noteVerdict {changed : List (RecordKey × α)} (h : (changed.map (·.1)).Nodup)
    (vs : List (Verdict α)) {k : RecordKey} {v : α} :
    (k, v) ∈ vs.foldl noteVerdict changed ↔
      match Verdict.latest? (· = .changed) k vs with
      | some w => v = w.item
      | none => (k, v) ∈ changed := by
  induction vs generalizing changed with
  | nil => rfl
  | cons w rest ih =>
    have hnoted : ((noteVerdict changed w).map (·.1)).Nodup := nodup_keys_foldl_noteVerdict h [w]
    rw [List.foldl_cons, ih hnoted, Verdict.latest?_cons]
    cases Verdict.latest? (· = .changed) k rest with
    | some later => rfl
    | none =>
      unfold noteVerdict
      by_cases hchanged : w.outcome = .changed
      · rw [if_pos hchanged, mem_noteChange h]
        by_cases hkey : w.key = k <;> simp [hkey, hchanged]
      · simp [hchanged]

/-! ## Counts -/

/-- The counts of a batch are those of its verdicts. -/
theorem summary_upsertAll (s : EntityStore α) (c : Clock) (dataset : String) (items : List α) :
    (s.upsertAll c dataset items).1.summary =
      let outcomes := (s.verdicts c dataset items).map Verdict.outcome
      { total := items.length
        addedOrUpdated := outcomes.count .changed
        unchanged := outcomes.count .unchanged
        expired := outcomes.count .expired
        outdated := outcomes.count .outdated
        ignored := items.countP fun item => (s.profile.key? dataset item).isNone } := by
  have hfold (items : List α) (r : UpsertResult α) (s : EntityStore α) :
      (items.foldl (upsertNext c dataset) (r, s)).1.summary =
        let outcomes := (s.verdicts c dataset items).map Verdict.outcome
        { total := r.summary.total
          addedOrUpdated := r.summary.addedOrUpdated + outcomes.count .changed
          unchanged := r.summary.unchanged + outcomes.count .unchanged
          expired := r.summary.expired + outcomes.count .expired
          outdated := r.summary.outdated + outcomes.count .outdated
          ignored := r.summary.ignored +
            items.countP fun item => (s.profile.key? dataset item).isNone } := by
    induction items generalizing r s with
    | nil => simp [verdicts]
    | cons item rest ih =>
      rw [List.foldl_cons, ih, verdicts]
      cases hkey : s.profile.key? dataset item with
      | none =>
        rw [upsertNext_of_ignored hkey]
        simp [hkey, Nat.add_assoc, Nat.add_comm 1]
      | some key =>
        have hprofile := (upsertOne_upserted s c key item).profile_eq
        have hcount : (upsertNext c dataset (r, s) item).1.summary =
            (noteOutcome r key item (s.upsertOne c key item).1).summary := by
          simp only [upsertNext, hkey]
          cases (s.upsertOne c key item).1 <;> cases s.profile.fingerprint item <;> rfl
        rw [store_upsertNext hkey, hprofile, hcount]
        simp only [List.map_cons, List.count_cons]
        cases (s.upsertOne c key item).1 <;>
          simp +decide [noteOutcome, hkey, Nat.add_assoc, Nat.add_comm 1]
  rw [upsertAll, hfold]
  simp
/-- The items that are expired while there is no live record of their key. Nothing becomes of
them. -/
def bounced (s : EntityStore α) (c : Clock) (dataset : String) : List α → Nat
  | [] => 0
  | item :: rest =>
    match s.profile.key? dataset item with
    | none => s.bounced c dataset rest
    | some key =>
      (if s.expiration c item = .expired ∧ s.records.lookup c.now key = none then 1 else 0) +
        (s.upsertOne c key item).2.bounced c dataset rest

theorem Upserted.dropped_iff {s s' : EntityStore α} {c : Clock} {key : RecordKey} {item : α}
    {outcome : Outcome} (h : Upserted s c key item outcome s') :
    outcome = .dropped ↔ s.expiration c item = .expired ∧ s.records.lookup c.now key = none := by
  cases h with
  | dropped habsent hexpired => simp [habsent, hexpired]
  | added _ _ hafter => simp [hafter]
  | outdated _ hpresent => simp [hpresent]
  | expired _ hpresent => simp [hpresent]
  | refreshed _ hpresent => simp [hpresent]
  | replaced _ hpresent => simp [hpresent]

theorem count_dropped (s : EntityStore α) (c : Clock) (dataset : String) (items : List α) :
    ((s.verdicts c dataset items).map Verdict.outcome).count .dropped =
      s.bounced c dataset items := by
  induction items generalizing s with
  | nil => rfl
  | cons item rest ih =>
    rw [verdicts, bounced]
    cases hkey : s.profile.key? dataset item with
    | none => exact ih s
    | some key =>
      dsimp only
      rw [List.map_cons, List.count_cons, ih, Nat.add_comm]
      simp only [beq_iff_eq, (upsertOne_upserted s c key item).dropped_iff]

theorem length_verdicts (s : EntityStore α) (c : Clock) (dataset : String) (items : List α) :
    (s.verdicts c dataset items).length +
      (items.countP fun item => (s.profile.key? dataset item).isNone) = items.length := by
  induction items generalizing s with
  | nil => rfl
  | cons item rest ih =>
    rw [verdicts]
    cases hkey : s.profile.key? dataset item with
    | none => simp [hkey, ← ih s, Nat.add_assoc]
    | some key =>
      have hrest := ih (s.upsertOne c key item).2
      rw [(upsertOne_upserted s c key item).profile_eq] at hrest
      simp [hkey, ← hrest, Nat.add_right_comm]

/-- Every item is in the total, and in one other count unless it was expired on arrival and there
was no live record of its key. -/
theorem total_upsertAll (s : EntityStore α) (c : Clock) (dataset : String) (items : List α) :
    (s.upsertAll c dataset items).1.summary.total = items.length ∧
      items.length =
        (s.upsertAll c dataset items).1.summary.counted + s.bounced c dataset items := by
  have houtcomes (outcomes : List Outcome) :
      outcomes.length = outcomes.count .changed + outcomes.count .unchanged +
        outcomes.count .expired + outcomes.count .outdated + outcomes.count .dropped := by
    induction outcomes with
    | nil => rfl
    | cons o rest ih =>
      simp only [List.length_cons, List.count_cons, ih]
      cases o <;> simp +decide <;> omega
  have hlength := houtcomes ((s.verdicts c dataset items).map Verdict.outcome)
  have hidentified := s.length_verdicts c dataset items
  rw [List.length_map, count_dropped] at hlength
  rw [summary_upsertAll]
  refine ⟨rfl, ?_⟩
  dsimp only [UpsertSummary.counted]
  omega

/-- Items without an identity are passed over. -/
theorem verdicts_identified (s : EntityStore α) (c : Clock) (dataset : String) (items : List α) :
    s.verdicts c dataset (items.filter fun item => (s.profile.key? dataset item).isSome) =
      s.verdicts c dataset items := by
  induction items generalizing s with
  | nil => rfl
  | cons item rest ih =>
    cases hkey : s.profile.key? dataset item with
    | none =>
      rw [List.filter_cons_of_neg (by simp [hkey]), verdicts, hkey]
      exact ih s
    | some key =>
      have hrest := ih (s.upsertOne c key item).2
      rw [(upsertOne_upserted s c key item).profile_eq] at hrest
      rw [List.filter_cons_of_pos (by simp [hkey]), verdicts, verdicts, hkey]
      exact congrArg _ hrest

theorem store_upsertAll_identified (s : EntityStore α) (c : Clock) (dataset : String)
    (items : List α) :
    (s.upsertAll c dataset (items.filter fun item => (s.profile.key? dataset item).isSome)).2 =
      (s.upsertAll c dataset items).2 := by
  induction items generalizing s with
  | nil => rfl
  | cons item rest ih =>
    cases hkey : s.profile.key? dataset item with
    | none =>
      rw [List.filter_cons_of_neg (by simp [hkey]), store_upsertAll_cons, hkey]
      exact ih s
    | some key =>
      have hrest := ih (s.upsertOne c key item).2
      rw [(upsertOne_upserted s c key item).profile_eq] at hrest
      rw [List.filter_cons_of_pos (by simp [hkey]), store_upsertAll_cons, store_upsertAll_cons, hkey]
      exact hrest

/-! ## What is stored -/

/-- What is stored under a key is the latest of its items that settled it, if that one is kept. -/
theorem get?_upsertAll (s : EntityStore α) (c : Clock) (dataset : String) (items : List α)
    (k : RecordKey) :
    (s.upsertAll c dataset items).2.get? c.now k =
      match Verdict.latest? Outcome.settles k (s.verdicts c dataset items) with
      | some w => if s.keeps c w.item then some w.item else none
      | none => s.get? c.now k := by
  have hfold (r : UpsertResult α) : (items.foldl (upsertNext c dataset) (r, s)).2.get? c.now k =
      match Verdict.latest? Outcome.settles k (s.verdicts c dataset items) with
      | some w => if s.keeps c w.item then some w.item else none
      | none => s.get? c.now k := by
    induction items generalizing r s with
    | nil => rfl
    | cons item rest ih =>
      rw [List.foldl_cons, ih, verdicts]
      cases hkey : s.profile.key? dataset item with
      | none => rw [upsertNext_of_ignored hkey]
      | some key =>
        have hup := upsertOne_upserted s c key item
        have hkeeps : (s.upsertOne c key item).2.keeps = s.keeps := by
          funext c item
          rw [keeps, keeps, hup.expiration_eq]
        rw [store_upsertNext hkey, hkeeps, hup.get?_eq, Verdict.latest?_cons]
        cases Verdict.latest? Outcome.settles k
            ((s.upsertOne c key item).2.verdicts c dataset rest) with
        | some later => rfl
        | none =>
          rw [Option.none_or]
          by_cases hsettles : key = k ∧ (s.upsertOne c key item).1.settles = true
          · rw [if_pos hsettles, if_pos hsettles]
          · rw [if_neg hsettles, if_neg hsettles]
  exact hfold _

/-! ## Reported and stored -/

/-- Where the cache is exact, what is stored under a reported key says what was reported: the two
differ in volatile fields at most. -/
theorem ChecksumsExact.stored_says_reported {s : EntityStore α} {c : Clock}
    (h : s.ChecksumsExact c.now) (dataset : String) (items : List α) {k : RecordKey} {v e : α}
    (hreported : (k, v) ∈ (s.upsertAll c dataset items).1.changed)
    (he : (s.upsertAll c dataset items).2.get? c.now k = some e) :
    s.profile.fingerprint e = s.profile.fingerprint v := by
  -- The report has no key twice, so a note replaces everything that its key was reported with.
  have hbatch := upsertAll_induction
    (motive := fun r t => t.ChecksumsExact c.now ∧ t.profile = s.profile ∧
      (r.changed.map (·.1)).Nodup ∧ ∀ k v e, (k, v) ∈ r.changed → t.get? c.now k = some e →
        s.profile.fingerprint e = s.profile.fingerprint v)
    s c dataset items ⟨h, rfl, List.nodup_nil, fun _ _ _ hnil => nomatch hnil⟩ ?_
  · exact hbatch.2.2.2 k v e hreported he
  rintro r t item ⟨hexact, hprofile, hnodup, hsays⟩
  refine ⟨hexact.upsertNext dataset r item, ?_⟩
  cases hkey : t.profile.key? dataset item with
  | none =>
    rw [upsertNext_of_ignored hkey]
    exact ⟨hprofile, hnodup, hsays⟩
  | some key =>
    have hup := upsertOne_upserted t c key item
    rw [store_upsertNext hkey, changed_upsertNext hkey]
    refine ⟨hup.profile_eq.trans hprofile, ?_, fun k v e hmem he => ?_⟩
    · split
      · exact nodup_keys_noteChange hnodup key item
      · exact hnodup
    · by_cases hchanged : (t.upsertOne c key item).1 = .changed
      · rw [if_pos hchanged, mem_noteChange hnodup] at hmem
        rw [hup.get?_eq, hchanged] at he
        by_cases hk : key = k
        · rw [if_pos hk] at hmem
          rw [if_pos ⟨hk, rfl⟩] at he
          obtain ⟨-, hkept⟩ := Option.ite_none_right_eq_some.1 he
          rw [hmem, Option.some.inj hkept]
        · rw [if_neg hk] at hmem
          rw [if_neg fun hboth => hk hboth.1] at he
          exact hsays k v e hmem he
      · rw [if_neg hchanged] at hmem
        by_cases hk : key = k
        · subst hk
          obtain ⟨e₁, he₁, hsame⟩ := hexact.agrees_of_upserted hup hchanged he
          rw [← hsays key v e₁ hmem he₁, ← hprofile, hsame]
        · rw [get?_congr (hup.live?_records_of_ne hk)] at he
          exact hsays k v e hmem he

/-- A batch reports every key once, with the latest of its items that was a change. That entity is
what the store holds afterwards exactly if it is also the latest item that settled what is stored
under the key, and is kept for some time. -/
theorem reported_stored_iff (s : EntityStore α) (c : Clock) (dataset : String) (items : List α) :
    ((s.upsertAll c dataset items).1.changed.map (·.1)).Nodup ∧
      ∀ k v, (k, v) ∈ (s.upsertAll c dataset items).1.changed →
        (∃ w, Verdict.latest? (· = .changed) k (s.verdicts c dataset items) = some w ∧
          w.item = v) ∧
        ((s.upsertAll c dataset items).2.get? c.now k = some v ↔
          ∃ w, Verdict.latest? Outcome.settles k (s.verdicts c dataset items) = some w ∧
            w.item = v ∧ s.keeps c v = true) := by
  rw [changed_upsertAll]
  have hnil : (([] : List (RecordKey × α)).map (·.1)).Nodup := List.nodup_nil
  refine ⟨nodup_keys_foldl_noteVerdict hnil _, fun k v hreported => ?_⟩
  rw [mem_foldl_noteVerdict hnil] at hreported
  rw [get?_upsertAll]
  cases hchange : Verdict.latest? (· = .changed) k (s.verdicts c dataset items) with
  | none =>
    rw [hchange] at hreported
    exact nomatch hreported
  | some w =>
    rw [hchange] at hreported
    refine ⟨⟨w, rfl, hreported.symm⟩, ?_⟩
    cases hsettled : Verdict.latest? Outcome.settles k (s.verdicts c dataset items) with
    | none =>
      have hsettles (o : Outcome) (ho : decide (o = .changed) = true) : o.settles = true := by
        rw [of_decide_eq_true ho]
        rfl
      rw [Verdict.latest?_eq_none_of_imp hsettles hsettled] at hchange
      exact nomatch hchange
    | some w' =>
      rw [Option.ite_none_right_eq_some]
      constructor
      · intro h
        obtain ⟨hkeeps, hitem⟩ := h
        obtain rfl := Option.some.inj hitem
        exact ⟨w', rfl, rfl, hkeeps⟩
      · intro h
        obtain ⟨w, hw, rfl, hkeeps⟩ := h
        obtain rfl := Option.some.inj hw
        exact ⟨hkeeps, rfl⟩

/-- A message that changes twice in a batch is reported with its second state, which is stored. -/
theorem message_reported_as_stored :
    let first : InfoMessage := { identifier := some "m", content := some "first" }
    let second : InfoMessage := { identifier := some "m", content := some "second" }
    let s := empty InfoMessage.profile ⟨0, Duration.hour⟩
    let batch := s.upsertAll ⟨.epoch, 0⟩ "A" [first, second]
    batch.2.get? 0 { dataset := "A", primary := "m" } = some second := by
  intro first second s batch
  have hreported : ({ dataset := "A", primary := "m" }, second) ∈ batch.1.changed := by
    decide +kernel
  have hsettled : Verdict.latest? Outcome.settles { dataset := "A", primary := "m" }
      (s.verdicts ⟨.epoch, 0⟩ "A" [first, second]) =
        some ⟨{ dataset := "A", primary := "m" }, second, .changed⟩ := by
    decide +kernel
  have hkept : s.keeps ⟨.epoch, 0⟩ second = true := by decide +kernel
  have hreport := (reported_stored_iff s ⟨.epoch, 0⟩ "A" [first, second]).2 _ second hreported
  exact hreport.2.2 ⟨_, hsettled, rfl, hkept⟩

/-- A message that changes and is then refreshed in the same batch is reported with a time of
recording that is no longer the one that is stored. -/
theorem message_reported_before_refresh :
    let changed : InfoMessage := { identifier := some "m", recordedAt := some .epoch }
    let refreshed : InfoMessage := { identifier := some "m", recordedAt := some .last }
    let s := empty InfoMessage.profile ⟨0, Duration.hour⟩
    let batch := s.upsertAll ⟨.epoch, 0⟩ "A" [changed, refreshed]
    batch.1.changed = [({ dataset := "A", primary := "m" }, changed)] ∧
      batch.2.get? 0 { dataset := "A", primary := "m" } = some refreshed := by
  decide +kernel

end EntityStore

end TransitHub
