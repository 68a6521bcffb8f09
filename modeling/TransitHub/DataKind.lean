/-
# Data kinds and filter dimensions

The six kinds of real-time data, each with its own entities and its own store, and the dimensions
by which entities can be selected. Two dimensions are answered from the key of a record, the
others from its value.
-/

import TransitHub.Decode.Document

namespace TransitHub

/-- The kinds of real-time data. -/
inductive DataKind
  | situationExchange
  | vehicleMonitoring
  | estimatedTimetable
  | stopMonitoring
  | generalMessage
  | facilityMonitoring
deriving DecidableEq, Ord

namespace DataKind

/-- All kinds, in their fixed order. -/
def all : List DataKind :=
  [situationExchange, vehicleMonitoring, estimatedTimetable, stopMonitoring, generalMessage,
    facilityMonitoring]

/-- The name of a kind in documents. -/
def name : DataKind → String
  | situationExchange => "SITUATION_EXCHANGE"
  | vehicleMonitoring => "VEHICLE_MONITORING"
  | estimatedTimetable => "ESTIMATED_TIMETABLE"
  | stopMonitoring => "STOP_MONITORING"
  | generalMessage => "GENERAL_MESSAGE"
  | facilityMonitoring => "FACILITY_MONITORING"

/-- The name of a kind in the names of its stores. -/
def storeName : DataKind → String
  | situationExchange => "situation_exchange"
  | vehicleMonitoring => "vehicle_monitoring"
  | estimatedTimetable => "estimated_timetable"
  | stopMonitoring => "stop_monitoring"
  | generalMessage => "general_message"
  | facilityMonitoring => "facility_monitoring"

/-- Whether a new subscriber is sent the current state at once. -/
def wantsSnapshot (k : DataKind) : Bool := k = situationExchange

/-- Kinds with their names. -/
def table : List (String × DataKind) := all.map fun k => (k.name, k)

def decoder {δ : Type} [Document δ] : Decoder δ DataKind := Decoder.enumeration table

def toJson (k : DataKind) : Json := .string k.name

instance : Std.TransOrd DataKind where
  eq_swap {a b} := by cases a <;> cases b <;> rfl
  isLE_trans {a b c} := by cases a <;> cases b <;> cases c <;> simp +decide

instance : Std.LawfulEqOrd DataKind where
  eq_of_compare {a b} := by cases a <;> cases b <;> simp +decide

end DataKind

/-- Dimensions by which entities can be selected. -/
inductive Dimension
  | lineRef
  | vehicleRef
  | stopRef
  | datasetId
  | excludedDatasetIds
  | channel
deriving DecidableEq, Ord

namespace Dimension

/-- All dimensions, in their fixed order. -/
def all : List Dimension := [lineRef, vehicleRef, stopRef, datasetId, excludedDatasetIds, channel]

/-- The name of a dimension in documents. -/
def name : Dimension → String
  | lineRef => "LINE_REF"
  | vehicleRef => "VEHICLE_REF"
  | stopRef => "STOP_REF"
  | datasetId => "DATASET_ID"
  | excludedDatasetIds => "EXCLUDED_DATASET_IDS"
  | channel => "CHANNEL"

/-- Dimensions answered from the key of a record instead of its value. -/
def isKeyLevel : Dimension → Bool
  | datasetId => true
  | excludedDatasetIds => true
  | _ => false

/-- Dimensions with their names. -/
def table : List (String × Dimension) := all.map fun d => (d.name, d)

def decoder {δ : Type} [Document δ] : Decoder δ Dimension := Decoder.enumeration table

instance : Std.TransOrd Dimension where
  eq_swap {a b} := by cases a <;> cases b <;> rfl
  isLE_trans {a b c} := by cases a <;> cases b <;> cases c <;> simp +decide

instance : Std.LawfulEqOrd Dimension where
  eq_of_compare {a b} := by cases a <;> cases b <;> simp +decide

end Dimension

end TransitHub
