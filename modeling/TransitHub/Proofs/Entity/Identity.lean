/-
# Keys and identities

What identifies an entity of each kind is given by the fields that name it, whatever else the entity
says of itself. `SameEntity` is this identity, stated without keys.

A key tells the identity of most kinds exactly. There are two exceptions. The key of a stop visit also
holds the line, so a visit that comes under another line gets a second key. The key of a journey holds
its data frame and its name joined by a colon, and since both may contain colons themselves,
different journeys of a line can get one key: those that `Regroups` relates. `keys_agree_iff` says
that there are no other exceptions.
-/

import TransitHub.Entity.Kinds

namespace TransitHub

/-! ## Joined names -/

/-- Texts joined by a colon are cut at the same colon, or at different ones. -/
theorem Text.joined_eq_iff {s t s' t' : String} :
    s ++ ":" ++ t = s' ++ ":" ++ t' ↔ s = s' ∧ t = t' ∨
      (∃ middle, s' = s ++ ":" ++ middle ∧ t = middle ++ ":" ++ t') ∨
      ∃ middle, s = s' ++ ":" ++ middle ∧ t' = middle ++ ":" ++ t := by
  have hlonger {s t s' t' : String} {more : List Char} (hs : s'.toList = s.toList ++ ':' :: more)
      (ht : t.toList = more ++ ':' :: t'.toList) :
      s' = s ++ ":" ++ String.ofList more ∧ t = String.ofList more ++ ":" ++ t' := by
    constructor <;> apply String.toList_inj.1 <;> simp [hs, ht]
  constructor
  · intro h
    have hlists : s.toList ++ ':' :: t.toList = s'.toList ++ ':' :: t'.toList := by
      simpa using congrArg String.toList h
    rcases List.append_eq_append_iff.1 hlists with ⟨more, hs, ht⟩ | ⟨more, hs, ht⟩
    · cases more with
      | nil =>
        rw [List.append_nil] at hs
        exact Or.inl ⟨String.toList_inj.1 hs.symm, String.toList_inj.1 (List.cons.inj ht).2⟩
      | cons c more =>
        obtain ⟨rfl, hrest⟩ := List.cons.inj ht
        exact Or.inr (Or.inl ⟨_, hlonger hs hrest⟩)
    · cases more with
      | nil =>
        rw [List.append_nil] at hs
        exact Or.inl ⟨String.toList_inj.1 hs, String.toList_inj.1 (List.cons.inj ht).2.symm⟩
      | cons c more =>
        obtain ⟨rfl, hrest⟩ := List.cons.inj ht
        exact Or.inr (Or.inr ⟨_, hlonger hs hrest⟩)
  · rintro (⟨rfl, rfl⟩ | ⟨middle, rfl, rfl⟩ | ⟨middle, rfl, rfl⟩)
    · rfl
    · simp only [String.append_assoc]
    · simp only [String.append_assoc]

namespace EstimatedJourney

/-- A name within a data frame, if there is one. -/
def framed : Option String → String → String
  | some frame, journey => frame ++ ":" ++ journey
  | none, journey => journey

/-- Whether `e'` counts to its data frame what `e` counts to its name. -/
def Regroups (e e' : EstimatedJourney) : Prop :=
  ∃ middle journey, e.journeyRef = some (middle ++ ":" ++ journey) ∧ e'.journeyRef = some journey ∧
    e'.dataFrameRef = some (framed e.dataFrameRef middle)

theorem regroups_iff {e e' : EstimatedJourney} {journey journey' : String}
    (hjourney : e.journeyRef = some journey) (hjourney' : e'.journeyRef = some journey') :
    e.Regroups e' ↔ ∃ middle, e'.dataFrameRef = some (framed e.dataFrameRef middle) ∧
      journey = middle ++ ":" ++ journey' := by
  unfold Regroups
  rw [hjourney, hjourney']
  constructor
  · rintro ⟨middle, rest, hwhole, hrest, hframe⟩
    exact ⟨middle, hframe, by rw [Option.some.inj hwhole, Option.some.inj hrest]⟩
  · rintro ⟨middle, hframe, rfl⟩
    exact ⟨middle, journey', rfl, rfl, hframe⟩

theorem framed_eq_iff {frame frame' : Option String} {journey journey' : String} :
    framed frame journey = framed frame' journey' ↔ frame = frame' ∧ journey = journey' ∨
      (∃ middle, frame' = some (framed frame middle) ∧ journey = middle ++ ":" ++ journey') ∨
      ∃ middle, frame = some (framed frame' middle) ∧ journey' = middle ++ ":" ++ journey := by
  cases frame with
  | none =>
    cases frame' with
    | none => simp [framed]
    | some frame' => simp [framed]
  | some frame =>
    cases frame' with
    | none =>
      simp only [framed, reduceCtorEq, false_and, exists_false, false_or, Option.some.injEq,
        exists_eq_left']
      exact eq_comm
    | some frame' => simp only [framed, Option.some.injEq, Text.joined_eq_iff]

end EstimatedJourney

/-! ## Identities -/

namespace DataKind

/-- Whether two entities of a kind are the same by what identifies them. -/
def SameEntity : (k : DataKind) → (e e' : k.Entity) → Prop
  | .situationExchange, e, e' => e.number = e'.number ∧ e.participantRef = e'.participantRef
  | .vehicleMonitoring, e, e' => e.vehicleRef = e'.vehicleRef
  | .estimatedTimetable, e, e' =>
    e.lineRef = e'.lineRef ∧ e.dataFrameRef = e'.dataFrameRef ∧ e.journeyRef = e'.journeyRef
  | .stopMonitoring, e, e' =>
    e.monitoringRef = e'.monitoringRef ∧ e.journeyRef = e'.journeyRef ∧
      e.itemIdentifier.or e.journeyRef = e'.itemIdentifier.or e'.journeyRef
  | .generalMessage, e, e' => e.identifier = e'.identifier ∧ e.channelRef = e'.channelRef
  | .facilityMonitoring, e, e' =>
    e.facilityRef = e'.facilityRef ∧ e.stopPointRef = e'.stopPointRef

/-- Whether two entities are stop visits of different lines. -/
def OnOtherLine : (k : DataKind) → (e e' : k.Entity) → Prop
  | .stopMonitoring, e, e' => e.lineRef ≠ e'.lineRef
  | _, _, _ => False

/-- Whether two entities are journeys of one line whose joined names hide where they were joined. -/
def Merged : (k : DataKind) → (e e' : k.Entity) → Prop
  | .estimatedTimetable, e, e' => e.lineRef = e'.lineRef ∧ (e.Regroups e' ∨ e'.Regroups e)
  | _, _, _ => False

end DataKind

/-! ## Keys -/

section Keys

variable {dataset : String} {key : RecordKey}

theorem VehicleActivity.key?_eq_some_iff {e : VehicleActivity} :
    e.key? dataset = some key ↔
      ∃ vehicle, e.vehicleRef = some vehicle ∧ { dataset, primary := vehicle } = key :=
  Option.map_eq_some_iff

theorem Situation.key?_eq_some_iff {e : Situation} :
    e.key? dataset = some key ↔ ∃ number, e.number = some number ∧
      { dataset, primary := number, discriminator := e.participantRef } = key :=
  Option.map_eq_some_iff

theorem InfoMessage.key?_eq_some_iff {e : InfoMessage} :
    e.key? dataset = some key ↔ ∃ identifier, e.identifier = some identifier ∧
      { dataset, primary := identifier, discriminator := e.channelRef } = key :=
  Option.map_eq_some_iff

theorem FacilityCondition.key?_eq_some_iff {e : FacilityCondition} :
    e.key? dataset = some key ↔ ∃ facility, e.facilityRef = some facility ∧
      { dataset, primary := facility, stop := e.stopPointRef } = key :=
  Option.map_eq_some_iff

theorem StopVisit.key?_eq_some_iff {e : StopVisit} :
    e.key? dataset = some key ↔ ∃ point primary, e.monitoringRef = some point ∧
      e.itemIdentifier.or e.journeyRef = some primary ∧
      { dataset, primary, line := e.lineRef, stop := some point, journey := e.journeyRef } = key := by
  simp [key?, Option.bind_eq_some_iff]

theorem EstimatedJourney.key?_eq_some_iff {e : EstimatedJourney} :
    e.key? dataset = some key ↔ ∃ line journey, e.lineRef = some line ∧
      e.journeyRef = some journey ∧
      { dataset, primary := framed e.dataFrameRef journey, line := some line } = key := by
  have hframed : e.framedJourney = e.journeyRef.map (framed e.dataFrameRef) := by
    unfold framedJourney framed
    cases e.dataFrameRef <;> rfl
  have hkey : e.key? dataset = e.lineRef.bind fun line => e.framedJourney.bind fun primary =>
      some { dataset, primary, line := some line } := rfl
  rw [hkey, hframed, Option.bind_eq_some_iff]
  simp only [Option.bind_map, Option.bind_eq_some_iff, Function.comp_apply, Option.some.injEq,
    exists_and_left]

end Keys

namespace DataKind

variable {dataset dataset' : String} {key key' : RecordKey}

/-- Two entities have one key exactly if they are in one dataset and are the same, except that stop
visits of different lines have different keys, and that journeys are confused if their joined names
are. -/
theorem keys_agree_iff (k : DataKind) {e e' : k.Entity} (h : k.profile.key? dataset e = some key)
    (h' : k.profile.key? dataset' e' = some key') :
    key = key' ↔ dataset = dataset' ∧
      (k.SameEntity e e' ∧ ¬ k.OnOtherLine e e' ∨ k.Merged e e') := by
  cases k with
  | situationExchange =>
    obtain ⟨number, hnumber, rfl⟩ := Situation.key?_eq_some_iff.1 h
    obtain ⟨number', hnumber', rfl⟩ := Situation.key?_eq_some_iff.1 h'
    simp [SameEntity, OnOtherLine, Merged, hnumber, hnumber']
  | vehicleMonitoring =>
    obtain ⟨vehicle, hvehicle, rfl⟩ := VehicleActivity.key?_eq_some_iff.1 h
    obtain ⟨vehicle', hvehicle', rfl⟩ := VehicleActivity.key?_eq_some_iff.1 h'
    simp [SameEntity, OnOtherLine, Merged, hvehicle, hvehicle']
  | estimatedTimetable =>
    obtain ⟨line, journey, hline, hjourney, rfl⟩ := EstimatedJourney.key?_eq_some_iff.1 h
    obtain ⟨line', journey', hline', hjourney', rfl⟩ := EstimatedJourney.key?_eq_some_iff.1 h'
    simp [SameEntity, OnOtherLine, Merged, EstimatedJourney.regroups_iff hjourney hjourney',
      EstimatedJourney.regroups_iff hjourney' hjourney, EstimatedJourney.framed_eq_iff, hline, hline',
      hjourney, hjourney', and_or_left]
  | stopMonitoring =>
    obtain ⟨point, primary, hpoint, hprimary, rfl⟩ := StopVisit.key?_eq_some_iff.1 h
    obtain ⟨point', primary', hpoint', hprimary', rfl⟩ := StopVisit.key?_eq_some_iff.1 h'
    simp only [SameEntity, OnOtherLine, Merged, hpoint, hpoint', hprimary, hprimary',
      RecordKey.mk.injEq, Option.some.injEq, ne_eq, Classical.not_not, or_false, and_true]
    constructor
    · rintro ⟨hdataset, hline, hprimary, hpoint, hjourney⟩
      exact ⟨hdataset, ⟨hpoint, hjourney, hprimary⟩, hline⟩
    · rintro ⟨hdataset, ⟨hpoint, hjourney, hprimary⟩, hline⟩
      exact ⟨hdataset, hline, hprimary, hpoint, hjourney⟩
  | generalMessage =>
    obtain ⟨identifier, hidentifier, rfl⟩ := InfoMessage.key?_eq_some_iff.1 h
    obtain ⟨identifier', hidentifier', rfl⟩ := InfoMessage.key?_eq_some_iff.1 h'
    simp [SameEntity, OnOtherLine, Merged, hidentifier, hidentifier']
  | facilityMonitoring =>
    obtain ⟨facility, hfacility, rfl⟩ := FacilityCondition.key?_eq_some_iff.1 h
    obtain ⟨facility', hfacility', rfl⟩ := FacilityCondition.key?_eq_some_iff.1 h'
    simp [SameEntity, OnOtherLine, Merged, hfacility, hfacility']

/-- A visit without an identifier and one whose identifier is its journey are the same visit. -/
theorem keys_agree_without_identifier :
    let visit (identifier : Option String) : StopVisit :=
      { monitoringRef := some "stop", itemIdentifier := identifier, journeyRef := some "journey" }
    let key : RecordKey :=
      { dataset := "A", primary := "journey", stop := some "stop", journey := some "journey" }
    stopMonitoring.profile.key? "A" (visit none) = some key ∧
      stopMonitoring.profile.key? "A" (visit (some "journey")) = some key ∧
      (key = key ↔ "A" = "A" ∧
        (SameEntity .stopMonitoring (visit none) (visit (some "journey")) ∧
          ¬ OnOtherLine .stopMonitoring (visit none) (visit (some "journey")) ∨
          Merged .stopMonitoring (visit none) (visit (some "journey")))) :=
  ⟨rfl, rfl, keys_agree_iff .stopMonitoring rfl rfl⟩

/-- A visit that is reported under two lines has two keys. Two journeys of a line, one of the frame
`a` and one of the frame `a:b`, have one. -/
theorem visit_keyed_twice_and_journeys_merged :
    let visit (line : String) : StopVisit :=
      { monitoringRef := some "stop", itemIdentifier := some "visit", lineRef := some line }
    let journey (frame name : String) : EstimatedJourney :=
      { lineRef := some "1", dataFrameRef := some frame, journeyRef := some name }
    (SameEntity .stopMonitoring (visit "1") (visit "2") ∧
      stopMonitoring.profile.key? "A" (visit "1") =
        some { dataset := "A", primary := "visit", line := some "1", stop := some "stop" } ∧
      stopMonitoring.profile.key? "A" (visit "2") =
        some { dataset := "A", primary := "visit", line := some "2", stop := some "stop" }) ∧
    ¬ SameEntity .estimatedTimetable (journey "a" "b:c") (journey "a:b" "c") ∧
      estimatedTimetable.profile.key? "A" (journey "a" "b:c") =
        some { dataset := "A", primary := "a:b:c", line := some "1" } ∧
      estimatedTimetable.profile.key? "A" (journey "a:b" "c") =
        some { dataset := "A", primary := "a:b:c", line := some "1" } := by
  refine ⟨⟨⟨rfl, rfl, rfl⟩, rfl, rfl⟩, fun h => ?_, by decide, by decide⟩
  exact absurd h.2.1 (by decide)

end DataKind

end TransitHub
