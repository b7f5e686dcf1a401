import Mathlib.Data.List.Nodup
import NumberingPlan.Json.Basic

/-! Fields of an object that are set. A field takes the place of the one with its name or comes last, so an
object keeps every name once, and of many fields set over others each is there. -/
namespace NumberingPlan.Json

variable {fields : List (String × Json)} {field : String × Json} {key name : String} {value given : Json}

private theorem setField_cons_of_eq (same : field.1 = key) :
    setField (field :: fields) key given = (key, given) :: fields := by
  rw [setField, same, beq_self_eq_true, if_pos rfl]

private theorem setField_cons_of_ne (other : field.1 ≠ key) :
    setField (field :: fields) key given = field :: setField fields key given := by
  rw [setField, beq_false_of_ne other, if_neg Bool.false_ne_true]

/-- A field with a new key comes last. -/
theorem setField_of_new (new : key ∉ fields.map Prod.fst) :
    setField fields key given = fields ++ [(key, given)] := by
  induction fields with
  | nil => rfl
  | cons field fields ih =>
    rw [List.map_cons, List.mem_cons, not_or] at new
    rw [setField_cons_of_ne (Ne.symm new.1), ih new.2, List.cons_append]

private theorem mem_keys_setField : name ∈ (setField fields key given).map Prod.fst ↔
    name = key ∨ name ∈ fields.map Prod.fst := by
  induction fields with
  | nil => simp [setField]
  | cons field fields ih =>
    by_cases same : field.1 = key
    · simp [setField_cons_of_eq same, same]
    · rw [setField_cons_of_ne same, List.map_cons, List.mem_cons, ih, List.map_cons, List.mem_cons]
      exact or_left_comm

private theorem distinct_setField (distinct : (fields.map Prod.fst).Nodup) :
    ((setField fields key given).map Prod.fst).Nodup := by
  induction fields with
  | nil => exact List.pairwise_singleton _ _
  | cons field fields ih =>
    obtain ⟨absent, distinct'⟩ := List.nodup_cons.mp distinct
    by_cases same : field.1 = key
    · rw [setField_cons_of_eq same]
      exact List.nodup_cons.mpr ⟨same ▸ absent, distinct'⟩
    · rw [setField_cons_of_ne same]
      refine List.nodup_cons.mpr ⟨fun among => ?_, ih distinct'⟩
      exact absent ((mem_keys_setField.mp among).resolve_left same)

/-- A field that is set is there, and the fields under other names stay. -/
theorem mem_setField_iff (distinct : (fields.map Prod.fst).Nodup) :
    (name, value) ∈ setField fields key given ↔
      name = key ∧ value = given ∨ name ≠ key ∧ (name, value) ∈ fields := by
  induction fields with
  | nil => simp [setField]
  | cons field fields ih =>
    obtain ⟨absent, distinct'⟩ := List.nodup_cons.mp distinct
    by_cases same : field.1 = key
    · have others : (name, value) ∈ fields → name ≠ key := by
        rintro member rfl
        exact absent (List.mem_map.mpr ⟨_, member, same.symm⟩)
      have here : name ≠ key → (name, value) ≠ field := by
        rintro other rfl
        exact other same
      simp only [setField_cons_of_eq same, List.mem_cons, Prod.mk.injEq]
      grind
    · have here : (name, value) = field → name ≠ key := by
        rintro rfl
        exact same
      simp only [setField_cons_of_ne same, List.mem_cons, ih distinct']
      grind

private theorem value_of_mem_setField (member : field ∈ setField fields key given) :
    field.2 = given ∨ field ∈ fields := by
  induction fields with
  | nil =>
    rw [List.mem_singleton.mp member]
    exact .inl rfl
  | cons first fields ih =>
    by_cases same : first.1 = key
    · rw [setField_cons_of_eq same] at member
      rcases List.mem_cons.mp member with rfl | later
      · exact .inl rfl
      · exact .inr (List.mem_cons_of_mem _ later)
    · rw [setField_cons_of_ne same] at member
      rcases List.mem_cons.mp member with rfl | later
      · exact .inr List.mem_cons_self
      · exact (ih later).imp_right (List.mem_cons_of_mem _)

/-- Fields with others set over them, one after another. -/
def setFields (fields added : List (String × Json)) : List (String × Json) :=
  added.foldl (fun fields field => setField fields field.1 field.2) fields

theorem distinct_setFields (added : List (String × Json)) (distinct : (fields.map Prod.fst).Nodup) :
    ((setFields fields added).map Prod.fst).Nodup := by
  induction added generalizing fields with
  | nil => exact distinct
  | cons field added ih => exact ih (distinct_setField distinct)

/-- Of the fields set over others all are there, and of the others those whose names are not set. -/
theorem mem_setFields_iff {added : List (String × Json)} (distinct : (fields.map Prod.fst).Nodup)
    (distinct' : (added.map Prod.fst).Nodup) : (name, value) ∈ setFields fields added ↔
      (name, value) ∈ added ∨ name ∉ added.map Prod.fst ∧ (name, value) ∈ fields := by
  induction added generalizing fields with
  | nil => simp [setFields]
  | cons field added ih =>
    obtain ⟨absent, distinct''⟩ := List.nodup_cons.mp distinct'
    have first : name = field.1 → name ∉ added.map Prod.fst := by
      rintro rfl
      exact absent
    have same : (name, value) = field ↔ name = field.1 ∧ value = field.2 := Prod.ext_iff
    have after : ((setField fields field.1 field.2).map Prod.fst).Nodup := distinct_setField distinct
    have onward := ih after distinct''
    rw [setFields, List.foldl_cons, ← setFields, onward, mem_setField_iff distinct, List.map_cons, List.mem_cons,
      List.mem_cons, same]
    grind

/-- What holds of all fields and of all that are set over them holds of what they make. -/
theorem forall_mem_setFields {holds : Json → Prop} {added : List (String × Json)}
    (before : ∀ field ∈ fields, holds field.2) (set : ∀ field ∈ added, holds field.2) :
    ∀ field ∈ setFields fields added, holds field.2 := by
  induction added generalizing fields with
  | nil => exact before
  | cons field added ih =>
    refine ih (fun other member => ?_) fun other member => set other (List.mem_cons_of_mem _ member)
    rcases value_of_mem_setField member with new | old
    · rw [new]
      exact set field List.mem_cons_self
    · exact before other old

end NumberingPlan.Json
