/-
# The page that a poll cuts

What a poll may serve are the keys in its scope: the candidates that its filter accepts, in
ascending order. It takes a page from the front of them, and whatever it does not take stays
pending, together with the candidates that its filter rejects.

This holds of every poll, that of a consumer that is not known included: all are answered alike
(`read_eq_serve`).
-/

import TransitHub.Proofs.Tracking.Operations

namespace TransitHub

/-! ## Lists in ascending order -/

/-- Each key comes before all later ones. -/
def Ascending (ks : List RecordKey) : Prop := ks.Pairwise fun k k' => compare k k' = .lt

theorem ascending_toList (ks : KeySet) : Ascending ks.toList := ks.ordered_toList

theorem Ascending.nodup {ks : List RecordKey} (h : Ascending ks) : ks.Nodup := by
  refine h.imp fun {k k'} hlt heq => ?_
  subst heq
  rw [Std.ReflOrd.compare_self] at hlt
  exact nomatch hlt

/-- A list in ascending order is determined by its members. -/
theorem Ascending.eq_of_mem_iff {ks ks' : List RecordKey} (h : Ascending ks) (h' : Ascending ks')
    (hmem : ∀ k, k ∈ ks ↔ k ∈ ks') : ks = ks' := by
  have hperm : ks.Perm ks' := (List.perm_ext_iff_of_nodup h.nodup h'.nodup).2 hmem
  refine hperm.eq_of_pairwise (fun k k' _ _ hlt hgt => ?_) h h'
  exact absurd hgt (Std.OrientedCmp.not_lt_of_lt hlt)

theorem Ascending.toList_ofList {ks : List RecordKey} (h : Ascending ks) :
    (Std.ExtTreeSet.ofList ks compare).toList = ks := by
  refine (ascending_toList _).eq_of_mem_iff h fun k => ?_
  rw [Std.ExtTreeSet.mem_toList, Std.ExtTreeSet.mem_ofList, List.contains_iff_mem]

namespace ChangeTracker

variable {α : Type}

/-- The keys from which a poll cuts its page. -/
def scope (t : ChangeTracker) (s : EntityStore α) (now : Instant) (consumer : String)
    (request : ReadRequest) : List RecordKey :=
  (t.candidates s now consumer request).toList.filter request.filter.acceptsKey

/-- The candidates that a poll does not ask for. -/
def rejected (t : ChangeTracker) (s : EntityStore α) (now : Instant) (consumer : String)
    (request : ReadRequest) : KeySet :=
  (t.candidates s now consumer request).filter fun k => !request.filter.acceptsKey k

theorem ascending_scope (t : ChangeTracker) (s : EntityStore α) (now : Instant) (consumer : String)
    (request : ReadRequest) : Ascending (t.scope s now consumer request) :=
  (ascending_toList _).filter _

variable (t : ChangeTracker) (s : EntityStore α) (now : Instant) (consumer : String)
  (request : ReadRequest)

theorem consumed_read :
    (t.read s now consumer request).1.consumed =
      .ofList (Paging.page request.maxSize (t.scope s now consumer request)).1 compare := by
  rw [read_eq_serve]
  rfl

theorem more_read :
    (t.read s now consumer request).1.more =
      !(Paging.page request.maxSize (t.scope s now consumer request)).2.isEmpty := by
  rw [read_eq_serve]
  rfl

/-- A poll serves the entities of its page, as far as its filter wants them, in the order of the
keys. -/
theorem items_read :
    (t.read s now consumer request).1.items =
      (((Paging.page request.maxSize (t.scope s now consumer request)).1).filterMap
        (s.get? now)).filter (s.profile.selects request.filter) := by
  have hpage : Ascending (Paging.page request.maxSize (t.scope s now consumer request)).1 := by
    refine (t.ascending_scope s now consumer request).sublist ?_
    exact (List.prefix_iff_exists_append_eq.2 ⟨_, Paging.page_append ..⟩).sublist
  have hserved : (t.read s now consumer request).1.served =
      (s.getMany now (.ofList (Paging.page request.maxSize (t.scope s now consumer request)).1
        compare)).filter fun e => s.profile.selects request.filter e.2 := by
    rw [read_eq_serve]
    rfl
  have hvalues (ks : List RecordKey) : ks.filterMap (s.get? now) =
      (ks.filterMap fun k => (s.get? now k).map fun e => (k, e)).map (·.2) := by
    rw [List.map_filterMap]
    refine congrArg (List.filterMap · ks) (funext fun k => ?_)
    cases s.get? now k <;> rfl
  rw [ReadResult.items, hserved, EntityStore.getMany_eq, hpage.toList_ofList, hvalues,
    List.filter_map]
  rfl

/-- What a poll leaves pending: what it does not ask for, and what does not fit on its page. -/
theorem tracker_read :
    (t.read s now consumer request).2.1 =
      t.remember now consumer
        ((t.rejected s now consumer request).insertMany
          (Paging.page request.maxSize (t.scope s now consumer request)).2)
        (t.baselineFor now consumer) := by
  rw [read_eq_serve]
  rfl

end ChangeTracker

end TransitHub
