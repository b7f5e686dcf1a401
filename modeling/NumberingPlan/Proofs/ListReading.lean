import Mathlib.Data.List.Forall2

/-! Readings that may fail, and lists that are read member by member. A list is read exactly when each of its
members is, and a list that is not has the fault of the first member that has one. -/
namespace NumberingPlan

variable {ε α β : Type} {read : α → Except ε β}

theorem bind_eq_ok {first : Except ε α} {next : α → Except ε β} {value : β}
    (done : (first >>= next) = .ok value) : ∃ found, first = .ok found ∧ next found = .ok value := by
  cases first with
  | error e => cases done
  | ok found => exact ⟨found, rfl, done⟩

/-- What a list is read as it is read as member by member. -/
theorem mapM_eq_ok_iff {members : List α} {values : List β} : members.mapM read = .ok values ↔
    List.Forall₂ (fun member value => read member = .ok value) members values := by
  induction members generalizing values with
  | nil =>
    constructor
    · rintro ⟨⟩
      exact .nil
    · rintro ⟨⟩
      rfl
  | cons member members ih =>
    rw [List.mapM_cons]
    constructor
    · intro accepted
      obtain ⟨value, first, accepted⟩ := bind_eq_ok accepted
      obtain ⟨others, rest, accepted⟩ := bind_eq_ok accepted
      cases accepted
      exact .cons first (ih.mp rest)
    · rintro (_ | ⟨first, rest⟩)
      rw [first, ih.mpr rest]
      rfl

/-- Each value of a list is that of one of its members. -/
theorem exists_member_of_mapM {members : List α} {values : List β} (accepted : members.mapM read = .ok values) :
    ∀ value ∈ values, ∃ member ∈ members, read member = .ok value := by
  have each := mapM_eq_ok_iff.mp accepted
  clear accepted
  induction each with
  | nil => exact nofun
  | cons first _ ih =>
    intro value held
    rcases List.mem_cons.mp held with rfl | later
    · exact ⟨_, List.mem_cons_self, first⟩
    · obtain ⟨member, among, accepted⟩ := ih value later
      exact ⟨member, List.mem_cons_of_mem _ among, accepted⟩

theorem mapM_append_eq_ok_iff {first second : List α} {values : List β} :
    (first ++ second).mapM read = .ok values ↔
      ∃ before after, first.mapM read = .ok before ∧ second.mapM read = .ok after ∧ values = before ++ after := by
  rw [List.mapM_append]
  cases first.mapM read with
  | error e => exact ⟨nofun, fun ⟨_, _, accepted, _⟩ => nomatch accepted⟩
  | ok before =>
    cases second.mapM read with
    | error e => exact ⟨nofun, fun ⟨_, _, _, accepted, _⟩ => nomatch accepted⟩
    | ok after =>
      constructor
      · rintro ⟨⟩
        exact ⟨before, after, rfl, rfl, rfl⟩
      · rintro ⟨_, _, ⟨⟩, ⟨⟩, rfl⟩
        rfl

/-- Two lists whose members are read alike one by one are read alike. -/
theorem mapM_eq_of_map_eq {γ : Type} {other : γ → Except ε β} {members : List α} {others : List γ}
    (alike : others.map other = members.map read) : others.mapM other = members.mapM read := by
  have through {δ : Type} (f : δ → Except ε β) (l : List δ) : l.mapM f = (l.map f).mapM id := by
    rw [List.mapM_map, Function.id_comp]
  rw [through other, through read, alike]

/-- Reading members in two ways that agree up to a function agrees up to it on a list of members. -/
theorem mapM_agrees {γ : Type} {other : α → Except ε γ} {change : β → γ}
    (agrees : ∀ member, other member = (read member).map change) (members : List α) :
    members.mapM other = (members.mapM read).map (List.map change) := by
  induction members with
  | nil => rfl
  | cons member members ih =>
    rw [List.mapM_cons, List.mapM_cons, agrees, ih]
    cases read member with
    | error e => rfl
    | ok value => cases members.mapM read <;> rfl

/-- The fault of what could not be read. -/
def fault? : Except ε α → Option ε
  | .ok _ => none
  | .error e => some e

theorem fault?_eq_some_iff {result : Except ε α} : fault? result = some e ↔ result = .error e := by
  cases result <;> simp [fault?]

theorem fault?_eq_none_iff {result : Except ε α} : fault? result = none ↔ ∃ value, result = .ok value := by
  cases result <;> simp [fault?]

/-- A list has the fault of its first member that has one. -/
theorem fault?_mapM (members : List α) :
    fault? (members.mapM read) = members.findSome? fun member => fault? (read member) := by
  induction members with
  | nil => rfl
  | cons member members ih =>
    rw [List.mapM_cons, List.findSome?_cons, ← ih]
    cases read member with
    | error e => rfl
    | ok value => cases members.mapM read <;> rfl

theorem findSome?_flatMap {γ : Type} (f : β → Option γ) (parts : α → List β) (members : List α) :
    (members.flatMap parts).findSome? f = members.findSome? fun member => (parts member).findSome? f := by
  induction members with
  | nil => rfl
  | cons member members ih =>
    rw [List.flatMap_cons, List.findSome?_append, ih, List.findSome?_cons]
    cases (parts member).findSome? f <;> rfl

end NumberingPlan
