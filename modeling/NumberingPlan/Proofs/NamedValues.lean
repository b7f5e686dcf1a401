import Mathlib.Data.List.Nodup

/-! Values in a list under their names. A look-up takes the first value of a name, so where no name is repeated
it finds each value that is listed. -/
namespace NumberingPlan

variable {α β : Type}

/-- Of names under which values are sought, those remain under which one is found. -/
theorem names_of_found (sought : List α) (found : α → Option β) :
    (sought.filterMap fun name => (found name).map fun value => (name, value)).map Prod.fst =
      sought.filter fun name => (found name).isSome := by
  induction sought with
  | nil => rfl
  | cons name sought ih =>
    rw [List.filterMap_cons, List.filter_cons]
    cases found name with
    | none => exact ih
    | some value => exact congrArg (name :: ·) ih

variable [BEq α] [LawfulBEq α] {named : List (α × β)} {name : α} {value : β}

theorem lookup_eq_none_iff_not_mem : named.lookup name = none ↔ name ∉ named.map Prod.fst := by
  rw [List.lookup_eq_none_iff, List.mem_map, not_exists]
  constructor
  · intro apart pair here
    have other := apart pair here.1
    rw [here.2, bne_self_eq_false] at other
    exact Bool.false_ne_true other
  · intro absent pair member
    rw [bne_iff_ne]
    intro same
    exact absent pair ⟨member, same.symm⟩

theorem lookup_eq_some_iff_mem (once : (named.map Prod.fst).Nodup) :
    named.lookup name = some value ↔ (name, value) ∈ named := by
  rw [List.lookup_eq_some_iff]
  constructor
  · rintro ⟨before, after, rfl, -⟩
    exact List.mem_append_right before List.mem_cons_self
  · intro member
    obtain ⟨before, after, rfl⟩ := List.append_of_mem member
    refine ⟨before, after, rfl, fun pair earlier => ?_⟩
    rw [bne_iff_ne]
    intro same
    rw [List.map_append, List.map_cons] at once
    exact List.disjoint_of_nodup_append once (List.mem_map_of_mem earlier) (same ▸ List.mem_cons_self)

end NumberingPlan
