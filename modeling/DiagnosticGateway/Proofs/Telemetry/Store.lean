/-
Module: DiagnosticGateway.Proofs.Telemetry.Store
Purpose: What a store holds of the records that have come in.
Main exports:
  TelemetryStore.units, TelemetryStore.latest?, TelemetryStore.summary,
  TelemetryStore.merge_eq_summary, TelemetryStore.Summarizes
-/
import DiagnosticGateway.Telemetry.Store
import Mathlib.Data.List.Induction
import Mathlib.Data.List.Infix
import Mathlib.Data.List.Nodup

/-!
A store is filled by one record after the other, but what it holds can be read from the whole sequence:
of each of the units that came first, as many as there is room for, the record that came last.  So it
does not matter which records came in one report.
-/

namespace DiagnosticGateway.TelemetryStore

open TelemetryRecord (ecuId)

variable {Record : Type} [TelemetryRecord Record]

/-- The units that some records are about, in the order of their first records. -/
def units (records : List Record) : List String := (records.map ecuId).eraseDups

/-- The last record about a unit. -/
def latest? (records : List Record) (unit : String) : Option Record :=
  records.reverse.find? (ecuId · == unit)

/-- Of each of the units that came first, the record that came last. -/
def summary (records : List Record) : List Record :=
  ((units records).take capacity).filterMap (latest? records)

/-! ## Units -/

section

variable {records : List Record} {record : Record} {unit : String}

theorem mem_units_iff : unit ∈ units records ↔ ∃ record ∈ records, ecuId record = unit := by
  rw [units, List.mem_eraseDups, List.mem_map]

/-- A unit is listed when its first record comes. -/
theorem units_concat (records : List Record) (record : Record) :
    units (records ++ [record]) =
      if ecuId record ∈ units records then units records else units records ++ [ecuId record] := by
  have listed : ecuId record ∈ units records ↔ ecuId record ∈ records.map ecuId :=
    List.mem_eraseDups
  rw [units, List.map_append, List.eraseDups_append, List.map_singleton, List.removeAll,
    List.filter_singleton]
  split
  · rename_i known
    simp [listed.mp known, units]
  · rename_i unknown
    simp [mt listed.mpr unknown, units, List.eraseDups_cons]

/-- No unit is listed twice. -/
theorem nodup_units (records : List Record) : (units records).Nodup := by
  induction records using List.reverseRecOn with
  | nil => exact List.nodup_nil
  | append_singleton records record inductionHypothesis =>
      rw [units_concat]
      split
      · exact inductionHypothesis
      · rename_i unknown
        rw [← List.concat_eq_append]
        exact inductionHypothesis.concat unknown

/-- More records put more units behind those that are listed already. -/
theorem isPrefix_units_append (front back : List Record) : units front <+: units (front ++ back) := by
  rw [units, units, List.map_append, List.eraseDups_append]
  exact List.prefix_append _ _

/-! ## The last record -/

theorem latest?_concat (records : List Record) (record : Record) (unit : String) :
    latest? (records ++ [record]) unit =
      if ecuId record = unit then some record else latest? records unit := by
  rw [latest?, List.reverse_concat, List.find?_cons]
  by_cases same : ecuId record = unit
  · rw [if_pos same, beq_iff_eq.mpr same]
  · rw [if_neg same, beq_eq_false_iff_ne.mpr same]
    rfl

theorem ecuId_of_latest? (found : latest? records unit = some record) : ecuId record = unit := by
  simpa using List.find?_some found

theorem exists_latest? (listed : unit ∈ units records) :
    ∃ record, latest? records unit = some record := by
  obtain ⟨record, member, same⟩ := mem_units_iff.mp listed
  refine Option.isSome_iff_exists.mp (List.find?_isSome.mpr ⟨record, ?_, ?_⟩)
  · exact List.mem_reverse.mpr member
  · exact beq_iff_eq.mpr same

/-! ## The summary -/

/-- The units of a summary are those that came first. -/
theorem map_ecuId_summary (records : List Record) :
    (summary records).map ecuId = (units records).take capacity := by
  rw [summary, List.map_filterMap]
  conv_rhs => rw [← List.filterMap_some (l := (units records).take capacity)]
  refine List.filterMap_congr fun unit member => ?_
  obtain ⟨record, found⟩ := exists_latest? (List.mem_of_mem_take member)
  rw [found, Option.map_some, ecuId_of_latest? found]

theorem length_summary (records : List Record) :
    (summary records).length = min capacity (units records).length := by
  rw [← List.length_map ecuId, map_ecuId_summary, List.length_take]

/-- A record of a unit outside a list changes nothing for the units in the list. -/
theorem filterMap_latest?_concat {listed : List String} (outside : ecuId record ∉ listed) :
    listed.filterMap (latest? (records ++ [record])) = listed.filterMap (latest? records) := by
  refine List.filterMap_congr fun unit member => ?_
  have other : ecuId record ≠ unit := fun same => outside (same ▸ member)
  rw [latest?_concat, if_neg other]

/-! ## One record -/

theorem any_sameUnit_iff {stored : List Record} :
    stored.any (sameUnit · record) = true ↔ ecuId record ∈ stored.map ecuId := by
  rw [List.any_eq_true, List.mem_map]
  simp only [sameUnit, beq_iff_eq]

/-- A record takes the place of the one that is kept of its unit. -/
theorem put_summary_of_kept (kept : ecuId record ∈ (units records).take capacity) :
    put (summary records) record = summary (records ++ [record]) := by
  have stored : (summary records).any (sameUnit · record) = true := by
    rw [any_sameUnit_iff, map_ecuId_summary]
    exact kept
  rw [put, if_pos stored, summary, summary, units_concat, if_pos (List.mem_of_mem_take kept),
    List.map_filterMap]
  refine List.filterMap_congr fun unit member => ?_
  obtain ⟨old, found⟩ := exists_latest? (List.mem_of_mem_take member)
  rw [latest?_concat, found, Option.map_some, sameUnit, ecuId_of_latest? found]
  by_cases same : ecuId record = unit
  · rw [if_pos same, if_pos (beq_iff_eq.mpr same.symm)]
  · rw [if_neg same, if_neg (mt beq_iff_eq.mp (Ne.symm same))]

theorem put_summary_of_notKept (new : ecuId record ∉ (units records).take capacity) :
    put (summary records) record =
      if (summary records).length < capacity then summary records ++ [record]
      else summary records := by
  have absent : ¬(summary records).any (sameUnit · record) = true := by
    rw [any_sameUnit_iff, map_ecuId_summary]
    exact new
  rw [put, if_neg absent]

/-- A record of a new unit is appended if there is room. -/
theorem put_summary_of_room (new : ecuId record ∉ (units records).take capacity)
    (room : (units records).length < capacity) :
    put (summary records) record = summary (records ++ [record]) := by
  have all : (units records).take capacity = units records :=
    List.take_of_length_le (Nat.le_of_lt room)
  have allLonger : (units records ++ [ecuId record]).take capacity =
      units records ++ [ecuId record] :=
    List.take_of_length_le (by rw [List.length_append]; exact room)
  have found : latest? (records ++ [record]) (ecuId record) = some record := by
    rw [latest?_concat, if_pos rfl]
  have stillRoom : (summary records).length < capacity := by
    rw [length_summary]
    exact Nat.lt_of_le_of_lt (Nat.min_le_right _ _) room
  rw [put_summary_of_notKept new, if_pos stillRoom]
  rw [all] at new
  rw [summary, summary, units_concat, if_neg new, all, allLonger, List.filterMap_append,
    filterMap_latest?_concat new, List.filterMap_cons_some found, List.filterMap_nil]

/-- A record of a unit that is not kept is dropped if there is no room. -/
theorem put_summary_of_full (new : ecuId record ∉ (units records).take capacity)
    (full : capacity ≤ (units records).length) :
    put (summary records) record = summary (records ++ [record]) := by
  have noRoom : ¬(summary records).length < capacity := by
    rw [length_summary, Nat.min_eq_left full]
    exact Nat.lt_irrefl _
  obtain ⟨more, longer⟩ := isPrefix_units_append records [record]
  have same : (units (records ++ [record])).take capacity = (units records).take capacity := by
    rw [← longer, List.take_append_of_le_length full]
  rw [put_summary_of_notKept new, if_neg noRoom, summary, summary, same,
    filterMap_latest?_concat new]

/-- What a record does to a summary is what it does to the sequence. -/
theorem put_summary (records : List Record) (record : Record) :
    put (summary records) record = summary (records ++ [record]) := by
  -- A unit that is known but not kept is dropped like one that is not known.
  by_cases kept : ecuId record ∈ (units records).take capacity
  · exact put_summary_of_kept kept
  · rcases Nat.lt_or_ge (units records).length capacity with room | full
    · exact put_summary_of_room kept room
    · exact put_summary_of_full kept full

/-! ## All records -/

theorem merge_append (stored front back : List Record) :
    merge stored (front ++ back) = merge (merge stored front) back := List.foldl_append

/-- An empty store that has taken records holds their summary. -/
theorem merge_eq_summary (records : List Record) : merge [] records = summary records := by
  induction records using List.reverseRecOn with
  | nil => rfl
  | append_singleton records record inductionHypothesis =>
      rw [merge_append, inductionHypothesis]
      exact put_summary records record

/-- The units that are kept stay in their places, whatever comes. -/
theorem isPrefix_summary_append (front back : List Record) :
    (summary front).map ecuId <+: (summary (front ++ back)).map ecuId := by
  rw [map_ecuId_summary, map_ecuId_summary]
  exact List.IsPrefix.take (isPrefix_units_append front back) capacity

end

/-- A list of stored records is the summary of the records that have come in. -/
structure Summarizes (stored received : List Record) : Prop where
  eq_summary : stored = summary received
  firstUnits : stored.map ecuId = (units received).take 254
  distinct : (stored.map ecuId).Nodup
  bounded : stored.length ≤ 254
  latest : ∀ record ∈ stored, latest? received (ecuId record) = some record

theorem summarizes_summary (received : List Record) : Summarizes (summary received) received where
  eq_summary := rfl
  firstUnits := map_ecuId_summary received
  distinct := by
    rw [map_ecuId_summary]
    exact (List.take_sublist _ _).nodup (nodup_units received)
  bounded := by
    rw [length_summary]
    exact Nat.min_le_left _ _
  latest := by
    intro record member
    obtain ⟨unit, -, found⟩ := List.mem_filterMap.mp member
    rwa [ecuId_of_latest? found]

end DiagnosticGateway.TelemetryStore
