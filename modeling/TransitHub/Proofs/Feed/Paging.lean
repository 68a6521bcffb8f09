/-
# Polling page by page

A consumer that asks for pages goes on polling until no more is announced. What it is served on the
way is what one unpaged poll would have served it at the start, in the same order, and in the end
the same is pending for it. How many polls it takes depends on the number of keys in scope alone,
not on how many of them still have an entity that the filter wants.

A poll moves the scope on: the keys of its page leave, the others stay in their order. Everything
else that a poll depends on stays as it is while the clocks stand still, so all statements about the
whole sequence are inductions over its polls.
-/

import TransitHub.Entity.InfoMessage
import TransitHub.Proofs.Feed.Step
import TransitHub.Proofs.Tracking.Pages

namespace TransitHub

namespace TimedFeed

variable {α : Type}

/-- The keys that a consumer can be served: those pending for it that a filter accepts, or all live
ones that it accepts for a consumer that is not known. -/
def inScope (s : TimedFeed α) (consumer : String) (filter : EntityFilter) : List RecordKey :=
  match s.changeSet? consumer with
  | some c => c.pending.toList.filter filter.acceptsKey
  | none => (s.feed.store.keys s.clock.now filter.acceptsKey).toList

/-- The entities of some keys that a filter wants, in the order of the keys. -/
def wanted (s : TimedFeed α) (filter : EntityFilter) (ks : List RecordKey) : List α :=
  (ks.filterMap s.get?).filter (s.feed.store.profile.selects filter)

/-- What stays of a scope under a limit after one poll. -/
def remainder (s : TimedFeed α) (consumer : String) (request : ReadRequest) : List RecordKey :=
  (Paging.page request.maxSize (s.inScope consumer request.filter)).2

/-- The change set of a consumer for which nothing is pending but some keys and what its filter
rejects. -/
def leaving (s : TimedFeed α) (consumer : String) (filter : EntityFilter) (ks : List RecordKey) :
    ChangeSet where
  pending :=
    (s.feed.tracker.rejected s.feed.store s.clock.now consumer { filter }).insertMany ks
  lastAccess := s.clock.now
  baseline := s.feed.tracker.baselineFor s.clock.now consumer

theorem period_next_ne_zero (s : TimedFeed α) (op : FeedOp α)
    (hperiod : s.feed.tracker.period ≠ 0) : (s.next op).feed.tracker.period ≠ 0 := by
  rw [period_next]
  exact hperiod

/-! ## One poll -/

section Poll

variable (s : TimedFeed α) (consumer : String) (request : ReadRequest)

theorem inScope_eq_scope :
    s.inScope consumer request.filter =
      s.feed.tracker.scope s.feed.store s.clock.now consumer request := by
  rw [inScope, changeSet?, ChangeTracker.scope, ChangeTracker.candidates]
  cases s.feed.tracker.consumers.lookup s.clock.now consumer with
  | some c => rfl
  | none =>
    refine (List.filter_eq_self.2 fun k hk => ?_).symm
    exact (EntityStore.mem_keys.1 (Std.ExtTreeSet.mem_toList.1 hk)).2

theorem items_pollResult :
    (s.pollResult consumer request).items =
      s.wanted request.filter (Paging.page request.maxSize (s.inScope consumer request.filter)).1 := by
  rw [inScope_eq_scope]
  exact s.feed.tracker.items_read s.feed.store s.clock.now consumer request

theorem more_pollResult :
    (s.pollResult consumer request).more = !(s.remainder consumer request).isEmpty := by
  rw [remainder, inScope_eq_scope]
  exact s.feed.tracker.more_read s.feed.store s.clock.now consumer request

/-- A poll leaves pending what its filter rejects and what remains of its scope. -/
theorem changeSet?_next_poll (hperiod : s.feed.tracker.period ≠ 0) :
    (s.next (.poll consumer request)).changeSet? consumer =
      some (s.leaving consumer request.filter (s.remainder consumer request)) := by
  have hclock : (s.next (.poll consumer request)).clock.now = s.clock.now := rfl
  have htracker : (s.next (.poll consumer request)).feed.tracker = _ :=
    s.feed.tracker.tracker_read s.feed.store s.clock.now consumer request
  rw [changeSet?, hclock, htracker, ChangeTracker.lookup_remember, if_pos rfl, if_neg hperiod,
    leaving, remainder, inScope_eq_scope]
  rfl

theorem remainder_suffix :
    s.remainder consumer request <:+ s.inScope consumer request.filter :=
  ⟨_, Paging.page_append ..⟩

theorem ascending_inScope (filter : EntityFilter) : Ascending (s.inScope consumer filter) := by
  rw [s.inScope_eq_scope consumer { filter }]
  exact s.feed.tracker.ascending_scope s.feed.store s.clock.now consumer { filter }

theorem accepts_of_mem_inScope {filter : EntityFilter} {k : RecordKey}
    (h : k ∈ s.inScope consumer filter) : filter.acceptsKey k = true := by
  rw [s.inScope_eq_scope consumer { filter }] at h
  exact (List.mem_filter.1 h).2

theorem rejects_of_mem_rejected {filter : EntityFilter} {k : RecordKey}
    (h : k ∈ s.feed.tracker.rejected s.feed.store s.clock.now consumer { filter }) :
    filter.acceptsKey k = false := by
  have hnot : (!filter.acceptsKey k) = true := (KeySet.mem_filter.1 h).2
  rwa [Bool.not_eq_true'] at hnot

/-- A poll moves the scope on to what it leaves of it. -/
theorem inScope_next_poll (hperiod : s.feed.tracker.period ≠ 0) :
    (s.next (.poll consumer request)).inScope consumer request.filter =
      s.remainder consumer request := by
  have hremainder := s.remainder_suffix consumer request
  have hascending : Ascending (s.remainder consumer request) :=
    (s.ascending_inScope consumer request.filter).sublist hremainder.sublist
  refine (ascending_inScope _ _ _).eq_of_mem_iff hascending fun k => ?_
  rw [inScope, s.changeSet?_next_poll consumer request hperiod]
  rw [List.mem_filter, Std.ExtTreeSet.mem_toList]
  constructor
  · intro h
    obtain ⟨hpending, haccepts⟩ := h
    rcases KeySet.mem_insertMany.1 hpending with hrejected | hk
    · rw [s.rejects_of_mem_rejected consumer hrejected] at haccepts
      exact absurd haccepts Bool.false_ne_true
    · exact hk
  · intro hk
    exact ⟨KeySet.mem_insertMany.2 (Or.inr hk),
      s.accepts_of_mem_inScope consumer (hremainder.subset hk)⟩

/-- What is rejected and the baseline stay as they are. -/
theorem leaving_next_poll (hperiod : s.feed.tracker.period ≠ 0) (ks : List RecordKey) :
    (s.next (.poll consumer request)).leaving consumer request.filter ks =
      s.leaving consumer request.filter ks := by
  have hlookup : (s.next (.poll consumer request)).feed.tracker.consumers.lookup
      (s.next (.poll consumer request)).clock.now consumer = _ :=
    s.changeSet?_next_poll consumer request hperiod
  have hrejected : (s.next (.poll consumer request)).feed.tracker.rejected
      (s.next (.poll consumer request)).feed.store (s.next (.poll consumer request)).clock.now
        consumer { filter := request.filter } =
      s.feed.tracker.rejected s.feed.store s.clock.now consumer { filter := request.filter } := by
    refine Std.ExtTreeSet.ext_mem fun k => ?_
    rw [ChangeTracker.rejected, ChangeTracker.candidates, hlookup, KeySet.mem_filter]
    constructor
    · intro h
      obtain ⟨hpending, hrejects⟩ := h
      rcases KeySet.mem_insertMany.1 hpending with hrejected | hk
      · exact hrejected
      · have hscope := (s.remainder_suffix consumer request).subset hk
        rw [s.accepts_of_mem_inScope consumer hscope] at hrejects
        exact absurd hrejects Bool.false_ne_true
    · intro hrejected
      exact ⟨KeySet.mem_insertMany.2 (Or.inl hrejected), (KeySet.mem_filter.1 hrejected).2⟩
  have hbaseline : (s.next (.poll consumer request)).feed.tracker.baselineFor
      (s.next (.poll consumer request)).clock.now consumer =
      s.feed.tracker.baselineFor s.clock.now consumer := by
    rw [ChangeTracker.baselineFor, hlookup]
    rfl
  rw [leaving, hrejected, hbaseline]
  rfl

theorem wanted_next_poll (filter : EntityFilter) (ks : List RecordKey) :
    (s.next (.poll consumer request)).wanted filter ks = s.wanted filter ks := by
  have hget : (s.next (.poll consumer request)).get? = s.get? :=
    funext fun k => s.get?_poll consumer request k
  rw [wanted, hget, profile_next]
  rfl

theorem wanted_append (filter : EntityFilter) (ks ks' : List RecordKey) :
    s.wanted filter (ks ++ ks') = s.wanted filter ks ++ s.wanted filter ks' := by
  rw [wanted, List.filterMap_append, List.filter_append]
  rfl

theorem length_wanted_le (filter : EntityFilter) (ks : List RecordKey) :
    (s.wanted filter ks).length ≤ ks.length :=
  Nat.le_trans (List.length_filter_le _ _) (List.length_filterMap_le _ _)

/-- What is served now and what is left in scope make up what was in scope. -/
theorem items_append_wanted_remainder :
    (s.pollResult consumer request).items ++
        s.wanted request.filter (s.remainder consumer request) =
      s.wanted request.filter (s.inScope consumer request.filter) := by
  rw [items_pollResult, remainder, ← wanted_append, Paging.page_append]

end Poll

end TimedFeed

/-! ## All polls -/

/-- Polling with the same request until no more is announced: the results in their order, and the
feed after the last poll. -/
inductive PolledThrough {α : Type} (consumer : String) (request : ReadRequest) :
    TimedFeed α → List (ReadResult α) → TimedFeed α → Prop
  | last (s : TimedFeed α) (hlast : (s.pollResult consumer request).more = false) :
      PolledThrough consumer request s [s.pollResult consumer request]
        (s.next (.poll consumer request))
  | again {s t : TimedFeed α} {results : List (ReadResult α)}
      (hmore : (s.pollResult consumer request).more = true)
      (hrest : PolledThrough consumer request (s.next (.poll consumer request)) results t) :
      PolledThrough consumer request s (s.pollResult consumer request :: results) t

namespace PolledThrough

open TimedFeed

variable {α : Type} {consumer : String} {request : ReadRequest} {s t : TimedFeed α}
  {results : List (ReadResult α)}

theorem remainder_eq_nil (hlast : (s.pollResult consumer request).more = false) :
    s.remainder consumer request = [] := by
  rw [more_pollResult, Bool.not_eq_false'] at hlast
  exact List.isEmpty_iff.1 hlast

theorem remainder_ne_nil (hmore : (s.pollResult consumer request).more = true) :
    s.remainder consumer request ≠ [] := by
  intro hnil
  rw [more_pollResult, hnil] at hmore
  exact Bool.false_ne_true hmore

theorem length_remainder (s : TimedFeed α) (consumer : String) {size : Nat}
    (hsize : request.maxSize = some size) :
    (s.remainder consumer request).length =
      (s.inScope consumer request.filter).length - max size 1 := by
  rw [remainder, hsize]
  exact List.length_drop

/-- The pages together have everything that was in scope at the start. -/
theorem items_eq (hperiod : s.feed.tracker.period ≠ 0)
    (h : PolledThrough consumer request s results t) :
    results.flatMap ReadResult.items =
      s.wanted request.filter (s.inScope consumer request.filter) := by
  induction h with
  | last s hlast =>
    have hall := s.items_append_wanted_remainder consumer request
    rw [remainder_eq_nil hlast] at hall
    rw [List.flatMap_cons]
    exact hall
  | @again s t results _ _ ih =>
    have hperiod' := s.period_next_ne_zero (.poll consumer request) hperiod
    calc (s.pollResult consumer request :: results).flatMap ReadResult.items
        = (s.pollResult consumer request).items ++ results.flatMap ReadResult.items :=
          List.flatMap_cons
      _ = (s.pollResult consumer request).items ++
            s.wanted request.filter (s.remainder consumer request) := by
          rw [ih hperiod', s.inScope_next_poll consumer request hperiod, wanted_next_poll]
      _ = s.wanted request.filter (s.inScope consumer request.filter) :=
          s.items_append_wanted_remainder consumer request

/-- In the end nothing in scope is pending any more, and the rest is as at the start. -/
theorem changeSet?_eq (hperiod : s.feed.tracker.period ≠ 0)
    (h : PolledThrough consumer request s results t) :
    t.changeSet? consumer = some (s.leaving consumer request.filter []) := by
  induction h with
  | last s hlast => rw [s.changeSet?_next_poll consumer request hperiod, remainder_eq_nil hlast]
  | @again s t results _ _ ih =>
    have hperiod' := s.period_next_ne_zero (.poll consumer request) hperiod
    rw [ih hperiod', s.leaving_next_poll consumer request hperiod]

/-- No page has more entities than its size. -/
theorem length_items_le {size : Nat} (hsize : request.maxSize = some size)
    (h : PolledThrough consumer request s results t) :
    ∀ r ∈ results, r.items.length ≤ max size 1 := by
  have hpage (s : TimedFeed α) : (s.pollResult consumer request).items.length ≤ max size 1 := by
    rw [items_pollResult, hsize]
    exact Nat.le_trans (s.length_wanted_le _ _) (List.length_take_le _ _)
  induction h with
  | last s _ =>
    intro r hr
    rw [List.mem_singleton.1 hr]
    exact hpage s
  | @again s t results _ _ ih =>
    intro r hr
    rcases List.mem_cons.1 hr with rfl | hr
    · exact hpage s
    · exact ih r hr

/-- A list that fits on a page takes one poll. -/
theorem pageCount_of_le {n size : Nat} (hpos : 0 < size) (hle : n ≤ size) :
    max 1 ((n + size - 1) / size) = 1 := by
  have hlt : (n + size - 1) / size < 2 := Nat.div_lt_of_lt_mul (by omega)
  omega

/-- A longer one takes one poll more than what is left of it. -/
theorem pageCount_of_lt {n size : Nat} (hpos : 0 < size) (hlt : size < n) :
    max 1 ((n + size - 1) / size) = max 1 ((n - size + size - 1) / size) + 1 := by
  have hone : 1 ≤ (n - 1) / size := Nat.div_pos (by omega) hpos
  have hmore : n + size - 1 = n - 1 + size := by omega
  have hless : n - size + size - 1 = n - 1 := by omega
  rw [hmore, hless, Nat.add_div_right _ hpos]
  omega

/-- There is a poll for every full page and one for what remains, and always at least one. -/
theorem length_eq {size : Nat} (hsize : request.maxSize = some size)
    (hperiod : s.feed.tracker.period ≠ 0) (h : PolledThrough consumer request s results t) :
    results.length = max 1
      (((s.inScope consumer request.filter).length + max size 1 - 1) / max size 1) := by
  have hpos : 0 < max size 1 := by omega
  induction h with
  | last s hlast =>
    have hlength := length_remainder s consumer hsize
    rw [remainder_eq_nil hlast, List.length_nil] at hlength
    rw [pageCount_of_le hpos (by omega)]
    rfl
  | @again s t results hmore _ ih =>
    have hlength := length_remainder s consumer hsize
    have hsome := List.length_pos_iff.2 (remainder_ne_nil hmore)
    have hperiod' := s.period_next_ne_zero (.poll consumer request) hperiod
    have hlonger : max size 1 < (s.inScope consumer request.filter).length := by omega
    rw [List.length_cons, ih hperiod', s.inScope_next_poll consumer request hperiod, hlength]
    exact (pageCount_of_lt hpos hlonger).symm

/-- Polling comes to an end, because every poll that announces more has made the scope smaller. -/
theorem exists_of_period {size : Nat} (hsize : request.maxSize = some size)
    (s : TimedFeed α) (hperiod : s.feed.tracker.period ≠ 0) :
    ∃ results t, PolledThrough consumer request s results t := by
  induction hn : (s.inScope consumer request.filter).length using Nat.strongRecOn generalizing s with
  | ind n ih =>
    cases hmore : (s.pollResult consumer request).more with
    | false => exact ⟨_, _, .last s hmore⟩
    | true =>
      have hlength := length_remainder s consumer hsize
      have hsome := List.length_pos_iff.2 (remainder_ne_nil hmore)
      have hperiod' := s.period_next_ne_zero (.poll consumer request) hperiod
      have hshorter : (s.remainder consumer request).length < n := by omega
      have hscope := s.inScope_next_poll consumer request hperiod
      obtain ⟨results, t, hrest⟩ := ih _ hshorter (s.next (.poll consumer request)) hperiod'
        (congrArg List.length hscope)
      exact ⟨_, t, .again hmore hrest⟩

/-- Polling page by page comes to an end. It takes a poll for every full page of the keys in scope
and one for what remains, and at least one; no page has more entities than its size; together the
pages are what one unpaged poll serves at the start, in the same order; and they leave the consumer
with the change set that the unpaged poll leaves it with. -/
theorem pages_agree_with_unpaged (s : TimedFeed α) (hperiod : s.feed.tracker.period ≠ 0)
    (consumer : String) (filter : EntityFilter) (size : Nat) :
    (∃ results t, PolledThrough consumer { filter, maxSize := some size } s results t) ∧
      ∀ results t, PolledThrough consumer { filter, maxSize := some size } s results t →
        results.length =
            max 1 (((s.inScope consumer filter).length + max size 1 - 1) / max size 1) ∧
          (∀ r ∈ results, r.items.length ≤ max size 1) ∧
          results.flatMap ReadResult.items = (s.pollResult consumer { filter }).items ∧
          ∃ c, t.changeSet? consumer = some c ∧
            (s.next (.poll consumer { filter })).changeSet? consumer = some c := by
  have hsize : ({ filter, maxSize := some size } : ReadRequest).maxSize = some size := rfl
  refine ⟨exists_of_period hsize s hperiod, fun results t h => ⟨?_, ?_, ?_, ?_⟩⟩
  · rw [h.length_eq hsize hperiod]
  · exact h.length_items_le hsize
  · rw [h.items_eq hperiod, items_pollResult]
    rfl
  · exact ⟨_, h.changeSet?_eq hperiod, s.changeSet?_next_poll consumer { filter } hperiod⟩

/-- A reader of three messages who takes two at a time polls twice. -/
theorem pages_of_three_messages :
    let s := (TimedFeed.start InfoMessage.profile ⟨0, Duration.hour⟩ Duration.minute
      ⟨.epoch, 0⟩).run [.ingest "A" [{ identifier := some "3" }, { identifier := some "1" },
        { identifier := some "2" }]]
    ∃ results t, PolledThrough "reader" { maxSize := some 2 } s results t ∧
      results.length = 2 ∧ results.flatMap ReadResult.items =
        [{ identifier := some "1" }, { identifier := some "2" }, { identifier := some "3" }] := by
  intro s
  have hperiod : s.feed.tracker.period ≠ 0 := by decide +kernel
  have hlength : (s.inScope "reader" {}).length = 3 := by decide +kernel
  have hitems : (s.pollResult "reader" {}).items =
      [{ identifier := some "1" }, { identifier := some "2" }, { identifier := some "3" }] := by
    decide +kernel
  obtain ⟨⟨results, t, h⟩, hall⟩ := pages_agree_with_unpaged s hperiod "reader" {} 2
  obtain ⟨hcount, -, hsame, -⟩ := hall results t h
  rw [hlength] at hcount
  exact ⟨results, t, h, hcount, hsame.trans hitems⟩

end PolledThrough

end TransitHub
