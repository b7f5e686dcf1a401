import Mathlib.Data.List.Induction
import Mathlib.Data.List.Nodup
import NumberingPlan.CallingCode

/-! The lookup from calling codes to regions. A territory that is added changes the entry of its own
code, so the regions of a code are made from the territories of that code alone. Where no two
territories have one output key, those of one code have different ids, and none is listed twice. -/
namespace NumberingPlan.RegionsByCode

/-- The territories of a code. -/
def under (ts : List Territory) (code : Int) : List Territory := ts.filter fun t => t.countryCode = code

/-- The regions that territories of one code share. -/
def shared : List Territory → List String
  | [] => []
  | first :: later => later.foldl (fun regions t => joined t regions) (opening first)

private theorem shared_append (t : Territory) {ts : List Territory} (started : ts ≠ []) :
    shared (ts ++ [t]) = joined t (shared ts) := by
  cases ts with
  | nil => exact absurd rfl started
  | cons first later => simp [shared]

/-- Entries whose codes ascend. -/
def Ascending (codes : RegionsByCode) : Prop := codes.Pairwise fun entry later => entry.1 < later.1

variable {t : Territory} {code : Int} {regions : List String}

private theorem code_of_add {codes : RegionsByCode} (member : entry ∈ add t codes) :
    entry.1 = t.countryCode ∨ entry.1 ∈ codes.map (·.1) := by
  induction codes with
  | nil =>
    rw [List.mem_singleton.mp member]
    exact .inl rfl
  | cons first rest ih =>
    obtain ⟨here, regions⟩ := first
    unfold add at member
    split at member
    · rcases List.mem_cons.mp member with rfl | old
      · exact .inl rfl
      · exact .inr (List.mem_map_of_mem old)
    · split at member
      · rename_i same
        rcases List.mem_cons.mp member with rfl | old
        · exact .inl same.symm
        · exact .inr (List.mem_cons_of_mem _ (List.mem_map_of_mem old))
      · rcases List.mem_cons.mp member with rfl | later
        · exact .inr List.mem_cons_self
        · exact (ih later).imp_right (List.mem_cons_of_mem _)

private theorem add_ascending {codes : RegionsByCode} (ascending : Ascending codes) (t : Territory) :
    Ascending (add t codes) := by
  induction codes with
  | nil => exact List.pairwise_singleton ..
  | cons first rest ih =>
    obtain ⟨here, regions⟩ := first
    obtain ⟨least, ordered⟩ := List.pairwise_cons.mp ascending
    unfold add
    split
    · rename_i before
      refine List.pairwise_cons.mpr ⟨fun entry member => ?_, ascending⟩
      rcases List.mem_cons.mp member with rfl | later
      · exact before
      · exact Int.lt_trans before (least entry later)
    · split
      · exact List.pairwise_cons.mpr ⟨least, ordered⟩
      · refine List.pairwise_cons.mpr ⟨fun entry member => ?_, ih ordered⟩
        rcases code_of_add member with same | old
        · rw [same]
          show here < t.countryCode
          omega
        · obtain ⟨entry', later, same⟩ := List.mem_map.mp old
          rw [← same]
          exact least entry' later

/-- Adding a territory leaves the entries of other codes. -/
theorem mem_add_of_ne {codes : RegionsByCode} (other : code ≠ t.countryCode) :
    (code, regions) ∈ add t codes ↔ (code, regions) ∈ codes := by
  induction codes with
  | nil => simp [add, other]
  | cons first rest ih =>
    obtain ⟨here, listed⟩ := first
    unfold add
    split
    · simp [other]
    · split
      · rename_i same
        simp [← same, other]
      · simp [ih]

/-- Adding a territory opens the entry of its code, or joins it. -/
theorem mem_add_self {codes : RegionsByCode} (ascending : Ascending codes) :
    (t.countryCode, regions) ∈ add t codes ↔
      (regions = opening t ∧ ∀ before, (t.countryCode, before) ∉ codes) ∨
        ∃ before, (t.countryCode, before) ∈ codes ∧ regions = joined t before := by
  induction codes with
  | nil => simp [add]
  | cons first rest ih =>
    obtain ⟨here, listed⟩ := first
    obtain ⟨least, ordered⟩ := List.pairwise_cons.mp ascending
    unfold add
    split
    · -- The codes ascend, so a code below the first is in none of the entries.
      rename_i before
      have absent : ∀ regions, (t.countryCode, regions) ∉ (here, listed) :: rest := by
        intro regions member
        rcases List.mem_cons.mp member with same | later
        · cases same
          omega
        · have after : here < t.countryCode := least _ later
          omega
      simp [absent]
    · split
      · rename_i same
        subst same
        have once : ∀ regions, (t.countryCode, regions) ∉ rest := by
          intro regions later
          have after : t.countryCode < t.countryCode := least _ later
          omega
        simp [once]
      · rename_i apart
        simp [ih ordered, apart]

private theorem ofTerritories_append (ts : List Territory) (t : Territory) :
    ofTerritories (ts ++ [t]) = add t (ofTerritories ts) := by
  rw [ofTerritories, List.foldl_append]
  rfl

theorem ofTerritories_ascending (ts : List Territory) : Ascending (ofTerritories ts) := by
  induction ts using List.reverseRecOn with
  | nil => exact List.Pairwise.nil
  | append_singleton ts t ih =>
    rw [ofTerritories_append]
    exact add_ascending ih t

/-- The entry of a code is what the territories of the code share. -/
theorem mem_ofTerritories_iff {ts : List Territory} : (code, regions) ∈ ofTerritories ts ↔
    under ts code ≠ [] ∧ regions = shared (under ts code) := by
  -- The collection is read from the front, so its last territory is the last that was added.
  induction ts using List.reverseRecOn generalizing regions with
  | nil => simp [ofTerritories, under]
  | append_singleton ts t ih =>
    rw [ofTerritories_append]
    by_cases same : code = t.countryCode
    · subst same
      have more : under (ts ++ [t]) t.countryCode = under ts t.countryCode ++ [t] := by simp [under]
      rw [mem_add_self (ofTerritories_ascending ts), more]
      by_cases started : under ts t.countryCode = []
      · simp [ih, started, shared]
      · simp [ih, started, shared_append t started]
    · have less : under (ts ++ [t]) code = under ts code := by simp [under, Ne.symm same]
      rw [mem_add_of_ne same, less, ih]

def mainIds (ts : List Territory) : List String := (ts.filter fun t => t.isMain).map Territory.id

/-- The ids of the territories that are not main. -/
def otherIds (ts : List Territory) : List String := (ts.filter fun t => !t.isMain).map Territory.id

/-- Main territories join in front, so that the last of them is foremost, and the others behind. -/
theorem foldl_joined (later : List Territory) (regions : List String) :
    later.foldl (fun regions t => joined t regions) regions =
      (mainIds later).reverse ++ regions ++ otherIds later := by
  induction later generalizing regions with
  | nil => simp [mainIds, otherIds]
  | cons t later ih =>
    rw [List.foldl_cons, ih]
    cases main : t.isMain <;> simp [joined, mainIds, otherIds, main]

/-- Joining loses no territory. -/
theorem foldl_joined_perm (later : List Territory) (regions : List String) :
    (later.foldl (fun regions t => joined t regions) regions).Perm (regions ++ later.map Territory.id) := by
  have kinds : (mainIds later ++ otherIds later).Perm (later.map Territory.id) := by
    rw [mainIds, otherIds, ← List.map_append]
    exact (List.filter_append_perm (fun t => t.isMain) later).map Territory.id
  have front : ((mainIds later).reverse ++ regions).Perm (regions ++ mainIds later) :=
    ((mainIds later).reverse_perm.append_right regions).trans List.perm_append_comm
  rw [foldl_joined]
  refine (front.append_right (otherIds later)).trans ?_
  rw [List.append_assoc]
  exact kinds.append_left regions

theorem mem_shared_iff (first : Territory) (later : List Territory) : region ∈ shared (first :: later) ↔
    (region = first.id ∧ first.id ≠ "") ∨ ∃ t ∈ later, t.id = region := by
  rw [shared, (foldl_joined_perm later (opening first)).mem_iff, List.mem_append, List.mem_map, opening]
  split <;> simp [*]

/-- The output key of a region under a code. -/
def fileKey (code : Int) (region : String) : String :=
  if region = "" ∨ region = Territory.nonGeographicId then toString code else region

theorem fileKey_of_territory (t : Territory) : fileKey t.countryCode t.id = t.outputKey := rfl

/-- Territories of one code that differ in their output keys differ in their ids. -/
theorem ids_nodup {ts : List Territory} (distinct : (ts.map Territory.outputKey).Nodup) (code : Int) :
    ((under ts code).map Territory.id).Nodup := by
  have keys : (under ts code).map Territory.outputKey =
      ((under ts code).map Territory.id).map (fileKey code) := by
    rw [List.map_map]
    refine List.map_congr_left fun t member => ?_
    have here : t.countryCode = code := by simpa using (List.mem_filter.mp member).2
    rw [Function.comp_apply, ← here, fileKey_of_territory]
  have fewer := distinct.sublist ((List.filter_sublist (p := fun t => t.countryCode = code)).map _)
  change ((under ts code).map Territory.outputKey).Nodup at fewer
  rw [keys] at fewer
  exact fewer.of_map _

/-- Where no two territories have one output key, no region is listed twice. -/
theorem regions_nodup {ts : List Territory} (distinct : (ts.map Territory.outputKey).Nodup)
    (member : (code, regions) ∈ ofTerritories ts) : regions.Nodup := by
  obtain ⟨some, rfl⟩ := mem_ofTerritories_iff.mp member
  have ids := ids_nodup distinct code
  cases same : under ts code with
  | nil => exact absurd same some
  | cons first later =>
    rw [same] at ids
    have opened : (opening first ++ later.map Territory.id).Sublist ((first :: later).map Territory.id) := by
      rw [opening]
      split
      · exact List.sublist_cons_self ..
      · exact .refl _
    exact (foldl_joined_perm later (opening first)).nodup_iff.mpr (ids.sublist opened)

/-- Every listed region is that of a territory under the code. -/
theorem territory_of_region {ts : List Territory} (member : (code, regions) ∈ ofTerritories ts)
    (listed : region ∈ regions) : ∃ t ∈ ts, t.countryCode = code ∧ t.id = region := by
  obtain ⟨some, rfl⟩ := mem_ofTerritories_iff.mp member
  have inside : ∀ t ∈ under ts code, t ∈ ts ∧ t.countryCode = code := by simp [under]
  cases same : under ts code with
  | nil => exact absurd same some
  | cons first later =>
    rw [same] at listed inside
    rcases (mem_shared_iff first later).mp listed with ⟨rfl, -⟩ | ⟨t, joined, rfl⟩
    · obtain ⟨here, code⟩ := inside first List.mem_cons_self
      exact ⟨first, here, code, rfl⟩
    · obtain ⟨here, code⟩ := inside t (List.mem_cons_of_mem _ joined)
      exact ⟨t, here, code, rfl⟩

/-- Every territory is listed under its code, but for one that has no id and opens the entry. -/
theorem listed_or_opens {ts : List Territory} (member : t ∈ ts) : ∃ regions,
    (t.countryCode, regions) ∈ ofTerritories ts ∧
      (t.id ∈ regions ∨ t.id = "" ∧ ts.find? (fun t' => t'.countryCode = t.countryCode) = some t) := by
  have here : t ∈ under ts t.countryCode := by simp [under, member]
  have some : under ts t.countryCode ≠ [] := List.ne_nil_of_mem here
  refine ⟨_, mem_ofTerritories_iff.mpr ⟨some, rfl⟩, ?_⟩
  cases same : under ts t.countryCode with
  | nil => exact absurd same some
  | cons first later =>
    rw [same] at here
    rcases List.mem_cons.mp here with rfl | joined
    · by_cases nameless : t.id = ""
      · have opens := congrArg List.head? same
        rw [under, List.head?_filter] at opens
        exact .inr ⟨nameless, opens⟩
      · exact .inl ((mem_shared_iff t later).mpr (.inl ⟨rfl, nameless⟩))
    · exact .inl ((mem_shared_iff first later).mpr (.inr ⟨t, joined, rfl⟩))

end NumberingPlan.RegionsByCode
