import NumberingPlan.Proofs.NamelessTerritories

/-! What the choice of a shape keeps. A shape that holds a mapping without loss determines it, but for the
code under which a lone list stands, and the shape chosen is the least of those that do. -/
namespace NumberingPlan.Shape

/-- How much structure a container carries: regions alone, codes alone, or regions under their codes. -/
def rank : Shape → Nat
  | regionCodes _ => 0
  | countryCodes _ => 1
  | fullMap _ => 2

/-- Which mappings a container holds without loss. A map holds any. A set of codes has no place for
regions. A set of regions has none for codes, so it does for a lone code, which needs no telling apart
from others, and for none. -/
inductive Holds : Shape → RegionsByCode → Prop where
  | map (codes : RegionsByCode) : Holds (fullMap codes) codes
  | codes {codes : RegionsByCode} (empty : ∀ entry ∈ codes, entry.2 = []) :
      Holds (countryCodes (codes.map (·.1))) codes
  | regions {codes : RegionsByCode} (lone : codes.length ≤ 1) :
      Holds (regionCodes (codes.flatMap (·.2))) codes

variable {codes codes' : RegionsByCode} {shape : Shape}

private theorem select_of_lone (lone : codes.length ≤ 1) : select codes = regionCodes (codes.flatMap (·.2)) := by
  rw [select, if_neg (Nat.not_lt.mpr lone)]

/-- The three cases of the choice. -/
theorem select_cases (codes : RegionsByCode) :
    (codes.length ≤ 1 ∧ select codes = regionCodes (codes.flatMap (·.2))) ∨
    (1 < codes.length ∧ (∀ entry ∈ codes, entry.2 = []) ∧ select codes = countryCodes (codes.map (·.1))) ∨
    (1 < codes.length ∧ (¬∀ entry ∈ codes, entry.2 = []) ∧ select codes = fullMap codes) := by
  by_cases lone : codes.length ≤ 1
  · exact .inl ⟨lone, select_of_lone lone⟩
  · have several : 1 < codes.length := Nat.lt_of_not_le lone
    by_cases empty : ∀ entry ∈ codes, entry.2 = []
    · have chosen := RegionsByCode.select_of_empty_lists empty
      rw [if_pos several] at chosen
      exact .inr (.inl ⟨several, empty, chosen⟩)
    · exact .inr (.inr ⟨several, empty, RegionsByCode.select_of_listed_region several empty⟩)

private theorem select_holds (codes : RegionsByCode) : (select codes).Holds codes := by
  obtain ⟨lone, chosen⟩ | ⟨-, empty, chosen⟩ | ⟨-, -, chosen⟩ := select_cases codes
  · rw [chosen]
    exact .regions lone
  · rw [chosen]
    exact .codes empty
  · rw [chosen]
    exact .map codes

/-- No container with less structure holds the mapping. -/
theorem rank_select_le (holds : shape.Holds codes) : (select codes).rank ≤ shape.rank := by
  cases holds with
  | map =>
    -- Nothing ranks above a map.
    cases select codes
    · exact Nat.le_refl 2
    · exact Nat.le_succ 1
    · exact Nat.zero_le 2
  | codes empty =>
    rw [RegionsByCode.select_of_empty_lists empty]
    split
    · exact Nat.le_refl 1
    · exact Nat.zero_le 1
  | regions lone => exact Nat.le_of_eq (congrArg rank (select_of_lone lone))

/-- A mapping without regions is told by its codes. -/
theorem map_codes_of_empty_lists (empty : ∀ entry ∈ codes, entry.2 = []) :
    (codes.map (·.1)).map (fun code => (code, [])) = codes := by
  rw [List.map_map]
  conv_rhs => rw [← List.map_id codes]
  refine List.map_congr_left fun entry member => ?_
  exact Prod.ext rfl (empty entry member).symm

/-- Two mappings that one container holds are the same, or each is the one list of regions. -/
theorem Holds.determines (holds : shape.Holds codes) (holds' : shape.Holds codes') :
    codes = codes' ∨ codes.length ≤ 1 ∧ codes'.length ≤ 1 ∧ codes.flatMap (·.2) = codes'.flatMap (·.2) := by
  cases shape with
  | fullMap entries =>
    cases holds
    cases holds'
    exact .inl rfl
  | countryCodes listed =>
    generalize told : countryCodes listed = shape at holds'
    cases holds with
    | codes empty =>
      cases holds' with
      | codes empty' =>
        injection told with same
        left
        rw [← map_codes_of_empty_lists empty, same, map_codes_of_empty_lists empty']
      | map => cases told
      | regions => cases told
  | regionCodes listed =>
    generalize told : regionCodes listed = shape at holds'
    cases holds with
    | regions lone =>
      cases holds' with
      | regions lone' =>
        injection told with same
        exact .inr ⟨lone, lone', same⟩
      | map => cases told
      | codes => cases told

theorem select_eq_iff : select codes = select codes' ↔
    codes = codes' ∨ codes.length ≤ 1 ∧ codes'.length ≤ 1 ∧ codes.flatMap (·.2) = codes'.flatMap (·.2) := by
  constructor
  · intro same
    exact (select_holds codes).determines (same ▸ select_holds codes')
  · rintro (rfl | ⟨lone, lone', same⟩)
    · rfl
    · rw [select_of_lone lone, select_of_lone lone', same]

theorem select_fullMap_iff : (∃ entries, select codes = fullMap entries) ↔
    2 ≤ codes.length ∧ ∃ entry ∈ codes, entry.2 ≠ [] := by
  obtain ⟨lone, chosen⟩ | ⟨-, empty, chosen⟩ | ⟨several, listed, chosen⟩ := select_cases codes
  · have few : ¬2 ≤ codes.length := Nat.not_le.mpr (Nat.lt_succ_of_le lone)
    simp [chosen, few]
  · have unlisted : ¬∃ entry ∈ codes, entry.2 ≠ [] :=
      fun ⟨entry, member, regions⟩ => regions (empty entry member)
    simp only [chosen, unlisted, and_false, reduceCtorEq, exists_const]
  · have regions : ∃ entry ∈ codes, entry.2 ≠ [] := by simpa using listed
    exact ⟨fun _ => ⟨several, regions⟩, fun _ => ⟨codes, chosen⟩⟩

theorem select_countryCodes_iff : (∃ set, select codes = countryCodes set) ↔
    2 ≤ codes.length ∧ ∀ entry ∈ codes, entry.2 = [] := by
  obtain ⟨lone, chosen⟩ | ⟨several, empty, chosen⟩ | ⟨-, listed, chosen⟩ := select_cases codes
  · have few : ¬2 ≤ codes.length := Nat.not_le.mpr (Nat.lt_succ_of_le lone)
    simp [chosen, few]
  · exact ⟨fun _ => ⟨several, empty⟩, fun _ => ⟨_, chosen⟩⟩
  · simp only [chosen, listed, and_false, reduceCtorEq, exists_const]

theorem select_regionCodes_iff : (∃ regions, select codes = regionCodes regions) ↔ codes.length < 2 := by
  obtain ⟨lone, chosen⟩ | ⟨several, -, chosen⟩ | ⟨several, -, chosen⟩ := select_cases codes
  · exact ⟨fun _ => Nat.lt_succ_of_le lone, fun _ => ⟨_, chosen⟩⟩
  all_goals
    have many : ¬codes.length < 2 := Nat.not_lt.mpr several
    simp only [chosen, many, reduceCtorEq, exists_const]

/-- How many entries a mapping calls for: one for each of several codes, or the regions of a lone one. -/
def entriesNeeded : RegionsByCode → Nat
  | [] => 0
  | [(_, regions)] => regions.length
  | codes => codes.length

private theorem entryCount_select (codes : RegionsByCode) : (select codes).entryCount = entriesNeeded codes := by
  match codes with
  | [] => rfl
  | [(code, regions)] =>
    have lone : [(code, regions)].length ≤ 1 := Nat.le_refl 1
    rw [select_of_lone lone, List.flatMap_singleton, entryCount, entriesNeeded]
  | first :: second :: rest =>
    have needed : entriesNeeded (first :: second :: rest) = (first :: second :: rest).length := rfl
    rw [needed]
    obtain ⟨lone, -⟩ | ⟨-, -, chosen⟩ | ⟨-, -, chosen⟩ := select_cases (first :: second :: rest)
    · exact absurd lone (Nat.not_le.mpr (Nat.succ_lt_succ (Nat.zero_lt_succ _)))
    · rw [chosen, entryCount, List.length_map]
    · rw [chosen, entryCount]

/-- The shape chosen is the least that loses nothing. It is a map exactly for several codes of which some has
regions, a set of codes exactly for several without any, and else a set of regions. Mappings have one shape
exactly if they are the same in the order of their codes and of every list, or have at most a lone code and
the same regions. So no more than the lone code is lost. -/
theorem chosen_shape_is_the_least_without_loss (codes : RegionsByCode) :
    ((select codes).Holds codes ∧ ∀ shape : Shape, shape.Holds codes → (select codes).rank ≤ shape.rank) ∧
    ((∃ entries, select codes = fullMap entries) ↔ 2 ≤ codes.length ∧ ∃ entry ∈ codes, entry.2 ≠ []) ∧
    ((∃ set, select codes = countryCodes set) ↔ 2 ≤ codes.length ∧ ∀ entry ∈ codes, entry.2 = []) ∧
    ((∃ regions, select codes = regionCodes regions) ↔ codes.length < 2) ∧
    (∀ codes' : RegionsByCode, select codes = select codes' ↔ codes = codes' ∨
      codes.length ≤ 1 ∧ codes'.length ≤ 1 ∧ codes.flatMap (·.2) = codes'.flatMap (·.2)) ∧
    (select codes).entryCount = entriesNeeded codes := by
  refine ⟨⟨select_holds codes, fun _ => rank_select_le⟩, ?_, ?_, ?_, ?_, ?_⟩
  · exact select_fullMap_iff
  · exact select_countryCodes_iff
  · exact select_regionCodes_iff
  · exact fun _ => select_eq_iff
  · exact entryCount_select codes

/-- A lone code is lost, whether it is the placeholder or not, and so is the one of an empty list. Among
others the placeholder is kept, with the order of the codes and with the empty list beside one that is not. -/
theorem lone_code_is_all_that_is_lost :
    select [(0, ["US", "CA"])] = select [(1, ["US", "CA"])] ∧ select [] = select [(44, [])] ∧
    select [(0, []), (1, ["US"])] = fullMap [(0, []), (1, ["US"])] ∧
    select [(0, []), (1, ["US"])] ≠ select [(1, ["US"]), (0, [])] ∧
    select [(0, []), (1, [])] ≠ select [(0, []), (1, [""])] ∧
    (select [(7, ["RU", "KZ"])]).entryCount = 2 := by
  obtain ⟨-, -, -, -, placeholder, -⟩ := chosen_shape_is_the_least_without_loss [(0, ["US", "CA"])]
  obtain ⟨-, -, -, -, nothing, -⟩ := chosen_shape_is_the_least_without_loss []
  obtain ⟨-, -, -, -, mixed, -⟩ := chosen_shape_is_the_least_without_loss [(0, []), (1, ["US"])]
  obtain ⟨-, -, -, -, empty, -⟩ := chosen_shape_is_the_least_without_loss [(0, []), (1, [])]
  obtain ⟨-, -, -, -, -, count⟩ := chosen_shape_is_the_least_without_loss [(7, ["RU", "KZ"])]
  refine ⟨(placeholder _).mpr (.inr ⟨Nat.le_refl 1, Nat.le_refl 1, rfl⟩),
    (nothing _).mpr (.inr ⟨Nat.zero_le 1, Nat.le_refl 1, rfl⟩), rfl, ?_, ?_, count⟩
  · rw [Ne, mixed]
    decide
  · rw [Ne, empty]
    decide

end NumberingPlan.Shape
