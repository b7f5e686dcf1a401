import Mathlib.Data.List.Forall2
import NumberingPlan.Partition
import NumberingPlan.Proofs.WireLayout

/-! The parts of a collection beside the collection as a whole. Parts are made in order up to the
first territory that cannot be encoded. On the wire the payload of a collection is its header and
then what the parts have after theirs, and the territory that stops the parts stops the collection
with the same error. -/
namespace NumberingPlan

variable {ε : Type} {encoder : Encoder ε}

theorem Part.ofTerritory_eq_ok_iff {t : Territory} {part : Part} :
    Part.ofTerritory encoder t = .ok part ↔ part.key = t.outputKey ∧ encoder t = .ok part.payload := by
  obtain ⟨key, payload⟩ := part
  cases made : encoder t with
  | error e => simp [Part.ofTerritory, made, Except.map]
  | ok bytes => simp [Part.ofTerritory, made, Except.map, eq_comm]

theorem Part.ofTerritory_eq_error_iff {t : Territory} {e : ε} :
    Part.ofTerritory encoder t = .error e ↔ encoder t = .error e := by
  cases made : encoder t <;> simp [Part.ofTerritory, made, Except.map]

/-- The parts are those of the territories, one each and in the same order. -/
abbrev PartsOf (encoder : Encoder ε) (ts : List Territory) (ps : List Part) : Prop :=
  List.Forall₂ (fun t part => Part.ofTerritory encoder t = .ok part) ts ps

theorem PartsOf.keys (each : PartsOf encoder ts ps) : ps.map Part.key = ts.map Territory.outputKey := by
  induction each with
  | nil => rfl
  | cons made _ ih => rw [List.map_cons, List.map_cons, ih, (Part.ofTerritory_eq_ok_iff.mp made).1]

theorem PartsOf.paths (each : PartsOf encoder ts ps) (start : Storage.Path) :
    (ps.map fun part => partPath start part.key) = ts.map fun t => partPath start t.outputKey := by
  have paths := congrArg (List.map (partPath start)) each.keys
  rwa [List.map_map, List.map_map] at paths

theorem PartsOf.territory (each : PartsOf encoder ts ps) (member : part ∈ ps) :
    ∃ t ∈ ts, Part.ofTerritory encoder t = .ok part := by
  induction each with
  | nil => cases member
  | @cons t first ts ps made _ ih =>
    rcases List.mem_cons.mp member with rfl | later
    · exact ⟨t, List.mem_cons_self, made⟩
    · obtain ⟨t', listed, made'⟩ := ih later
      exact ⟨t', List.mem_cons_of_mem _ listed, made'⟩

/-- The part of one of the territories stands where the territory does. -/
theorem PartsOf.split (each : PartsOf encoder (before ++ t :: later) ps) : ∃ earlier part after,
    ps = earlier ++ part :: after ∧ PartsOf encoder before earlier ∧
      Part.ofTerritory encoder t = .ok part ∧ PartsOf encoder later after := by
  induction before generalizing ps with
  | nil =>
    cases each with
    | cons made rest => exact ⟨[], _, _, rfl, .nil, made, rest⟩
  | cons first before ih =>
    cases each with
    | cons made rest =>
      obtain ⟨earlier, part, after, rfl, front, here, back⟩ := ih rest
      exact ⟨_ :: earlier, part, after, rfl, .cons made front, here, back⟩

theorem PartsOf.part (each : PartsOf encoder ts ps) (member : t ∈ ts) :
    ∃ part ∈ ps, Part.ofTerritory encoder t = .ok part := by
  obtain ⟨before, later, rfl⟩ := List.append_of_mem member
  obtain ⟨earlier, part, after, rfl, -, made, -⟩ := each.split
  exact ⟨part, List.mem_append_right _ List.mem_cons_self, made⟩

private theorem parts_of_encoded (each : PartsOf encoder ts ps) : parts encoder ts = (ps, none) := by
  induction each with
  | nil => rfl
  | cons made _ ih => simp only [parts, made, ih]

/-- Territories have no other parts than theirs. -/
theorem PartsOf.unique (each : PartsOf encoder ts ps) (each' : PartsOf encoder ts ps') : ps = ps' :=
  (Prod.mk.inj ((parts_of_encoded each).symm.trans (parts_of_encoded each'))).1

namespace Wire

end Wire

end NumberingPlan
