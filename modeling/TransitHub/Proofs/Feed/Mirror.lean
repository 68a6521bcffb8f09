/-
# A consumer that takes everything mirrors the store

A consumer whose polls never filter anything can rebuild the store from what it is served, up to
what counts as a change: for every live record either the consumer is still owed the key, or the
entity it was served last for the key has the fingerprint of the one that is stored. So once nothing
is owed, the two agree.

The invariant is about live records only. Of a record that has run out or was cleared away nobody
hears; when its key is ingested again it is reported, and owed anew.
-/

import TransitHub.Entity.InfoMessage
import TransitHub.Proofs.EntityFilter
import TransitHub.Proofs.Feed.Session

namespace TransitHub

open TimedFeed

variable {α : Type}

theorem servedTo_append (consumer : String) (k : RecordKey) (events : List (FeedEvent α))
    (e : FeedEvent α) :
    servedTo consumer k (events ++ [e]) = servedTo consumer k events ++ e.served consumer k := by
  simp [servedTo]

namespace TimedFeed

variable {s : TimedFeed α} {consumer : String}

/-- An unfiltered poll that consumes a key serves it last with the entity that is live. -/
theorem getLast?_served {request : ReadRequest} {k : RecordKey} {e : α}
    (hempty : request.filter.isEmpty = true)
    (hconsumes : (s.event (.poll consumer request)).Consumes consumer k)
    (he : s.get? k = some e) :
    ((s.event (.poll consumer request)).served consumer k).getLast? = some e := by
  have hmem := mem_served_of_consumes hconsumes he
    (EntityFilter.acceptsValues_of_isEmpty hempty _)
  obtain ⟨v, hv⟩ := Option.ne_none_iff_exists'.1
    (mt List.getLast?_eq_none_iff.1 (List.ne_nil_of_mem hmem))
  have hlive := (get?_of_served (List.mem_of_getLast? hv)).2
  rw [hv]
  exact hlive.symm.trans he

end TimedFeed

namespace Session

variable {origin s : TimedFeed α} {consumer : String} {allowed : ReadRequest → Prop}
  {events : List (FeedEvent α)}

theorem checksumsExact (h : Session origin consumer allowed s events)
    (horigin : origin.ChecksumsExact) : s.ChecksumsExact := by
  induction h with
  | registered ops request => exact (checksumsExact_run horigin ops).next _
  | continued _ op _ _ ih => exact ih.next op

theorem profile_eq (h : Session origin consumer allowed s events) :
    s.feed.store.profile = origin.feed.store.profile := by
  induction h with
  | registered ops request => exact (profile_next ..).trans (profile_run origin ops)
  | continued _ op _ _ ih => exact (profile_next ..).trans ih

/-- What is live was served in its present state, or is owed. -/
theorem owes_or_served (horigin : origin.ChecksumsExact)
    (h : Session origin consumer (fun request => request.filter.isEmpty = true) s events)
    {k : RecordKey} {e : α} (he : s.get? k = some e) :
    s.Owes consumer k ∨
      ∃ v, (servedTo consumer k events).getLast? = some v ∧
        origin.feed.store.profile.fingerprint v = origin.feed.store.profile.fingerprint e := by
  induction h generalizing e with
  | registered ops request hunknown hempty hknown =>
    rw [get?_poll] at he
    by_cases hconsumes : ((origin.run ops).event (.poll consumer request)).Consumes consumer k
    · right
      refine ⟨e, ?_, rfl⟩
      rw [← getLast?_served hempty hconsumes he]
      simp [servedTo]
    · left
      obtain ⟨c, hc⟩ := Option.ne_none_iff_exists'.1 hknown
      obtain ⟨-, -, hpending⟩ := (origin.run ops).changeSet?_register request hunknown hc
      have haccepts := EntityFilter.acceptsDataset_of_isEmpty hempty k.dataset
      exact ⟨c, hc, Or.inl ((hpending k).2 ⟨⟨⟨e, he⟩, haccepts⟩, hconsumes⟩)⟩
  | @continued s events hsession op hallowed hknown ih =>
    by_cases hconsumes : (s.event op).Consumes consumer k
    · -- The key is taken now, and with it what is stored now.
      obtain ⟨request, rfl⟩ := poll_of_consumes hconsumes
      rw [get?_poll] at he
      right
      refine ⟨e, ?_, rfl⟩
      rw [servedTo_append, List.getLast?_append,
        getLast?_served (hallowed request rfl) hconsumes he]
      rfl
    by_cases hreports : (s.event op).Reports k
    · exact Or.inl (hsession.owes_of_reports op hknown hreports)
    · have hexact := hsession.checksumsExact horigin
      obtain ⟨e₀, he₀, hsame⟩ := hexact.agrees_of_quiet op hreports he
      rw [hsession.profile_eq] at hsame
      rcases ih he₀ with howes | ⟨v, hv, hlast⟩
      · exact Or.inl ((hsession.consumes_or_owes op hknown howes).resolve_left hconsumes)
      · right
        refine ⟨v, ?_, hlast.trans hsame⟩
        rw [servedTo_append, served_eq_nil hconsumes, List.append_nil]
        exact hv

/-- A consumer that polls without filters and is owed nothing mirrors the store: for every key with
a live entity it was served at least once since it became known, and what it was served last has the
fingerprint of what is stored. Nothing is owed when nothing is pending and no key waits with a stamp
after the consumer's baseline. -/
theorem served_mirrors_stored {profile : Profile α} {policy : ExpirationPolicy}
    {period : Duration} {clock : Clock}
    (h : Session (start profile policy period clock) consumer
      (fun request => request.filter.isEmpty = true) s events)
    {c : ChangeSet} (hc : s.changeSet? consumer = some c) (hpending : c.pending = ∅)
    (hbuffer : ∀ (k : RecordKey) (stamp : Nat),
      s.buffer.stamps[k]? = some stamp → stamp ≤ c.baseline)
    {k : RecordKey} {e : α} (he : s.get? k = some e) :
    ∃ v, (servedTo consumer k events).getLast? = some v ∧
      profile.fingerprint v = profile.fingerprint e := by
  have hnothing : ¬ s.Owes consumer k := by
    intro h
    obtain ⟨c₀, hc₀, howes⟩ := h
    obtain rfl : c = c₀ := Option.some.inj (hc.symm.trans hc₀)
    rcases howes with hmem | ⟨stamp, hstamp, hlt⟩
    · rw [hpending] at hmem
      exact Std.ExtTreeSet.not_mem_empty hmem
    · exact Nat.not_lt_of_le (hbuffer k stamp hstamp) hlt
  exact (owes_or_served (checksumsExact_start profile policy period clock) h he).resolve_left hnothing

/-- A reader who has fetched a message that was then cleared away and came back in another form. -/
theorem served_mirrors_stored_after_return :
    let returned : InfoMessage := { identifier := some "m", content := some "returned" }
    let s₀ := (start InfoMessage.profile ⟨0, Duration.hour⟩ Duration.minute ⟨.epoch, 0⟩).run
      [.ingest "A" [{ identifier := some "m" }]]
    let s₁ := s₀.next (.poll "reader" {})
    let s₂ := s₁.next (.clearDataset "A")
    let s₃ := s₂.next (.ingest "A" [returned])
    let s₄ := s₃.next .commit
    ∃ v, (servedTo "reader" { dataset := "A", primary := "m" }
        [s₀.event (.poll "reader" {}), s₁.event (.clearDataset "A"),
          s₂.event (.ingest "A" [returned]), s₃.event .commit,
          s₄.event (.poll "reader" {})]).getLast? = some v ∧
      InfoMessage.profile.fingerprint v = InfoMessage.profile.fingerprint returned := by
  intro returned s₀ s₁ s₂ s₃ s₄
  have hunknown : s₀.changeSet? "reader" = none := by decide +kernel
  have h₁ : Session (start InfoMessage.profile ⟨0, Duration.hour⟩ Duration.minute ⟨.epoch, 0⟩)
      "reader" (fun request => request.filter.isEmpty = true) s₁
      [s₀.event (.poll "reader" {})] :=
    .registered _ {} hunknown (by decide +kernel) (by decide +kernel)
  have h₂ : Session _ "reader" _ s₂ _ :=
    h₁.continued (.clearDataset "A") (fun _ hpoll => nomatch hpoll) (by decide +kernel)
  have h₃ : Session _ "reader" _ s₃ _ :=
    h₂.continued (.ingest "A" [returned]) (fun _ hpoll => nomatch hpoll) (by decide +kernel)
  have h₄ : Session _ "reader" _ s₄ _ :=
    h₃.continued .commit (fun _ hpoll => nomatch hpoll) (by decide +kernel)
  have h₅ : Session _ "reader" _ (s₄.next (.poll "reader" {})) _ :=
    h₄.continued (.poll "reader" {}) (fun request hpoll => by cases hpoll; decide +kernel)
      (by decide +kernel)
  obtain ⟨c, hc⟩ := h₅.known
  have hpending : c.pending = ∅ := by
    have hnone : ((s₄.next (.poll "reader" {})).changeSet? "reader").all
        (fun c => c.pending.isEmpty) = true := by
      decide +kernel
    rw [hc] at hnone
    exact Std.ExtTreeSet.isEmpty_iff.1 hnone
  have hbuffer : (s₄.next (.poll "reader" {})).buffer.isEmpty = true := by decide +kernel
  refine served_mirrors_stored h₅ hc hpending (fun k stamp hstamp => ?_) (by decide +kernel)
  have hnotlater := ChangeBuffer.not_holdsAfter_of_isEmpty hbuffer c.baseline k
  exact Nat.le_of_not_lt fun hlt => hnotlater ⟨stamp, hstamp, hlt⟩

end Session

end TransitHub
