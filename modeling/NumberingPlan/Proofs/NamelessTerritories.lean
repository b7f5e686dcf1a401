import NumberingPlan.Shape
import NumberingPlan.Proofs.RegionOrder

/-! Collections without ids, as alternate formats are. Only the first territory of a code is kept from
listing its empty id; each later one lists it. So the lists are empty exactly where no code is repeated,
and then the shape is the set of the codes. -/
namespace NumberingPlan.RegionsByCode

variable {ts : List Territory}

/-- Territories of one code without an id list the empty one once for each after the first. -/
theorem listing_of_nameless (nameless : ∀ t ∈ ts, t.id = "") :
    listing ts = List.replicate (ts.length - 1) "" := by
  cases ts with
  | nil => rfl
  | cons first later =>
    obtain ⟨unnamed, others⟩ := List.forall_mem_cons.mp nameless
    have ids : later.map Territory.id = List.replicate later.length "" := by
      rw [← List.map_const]
      exact List.map_congr_left others
    have order := foldl_joined_perm later (opening first)
    rw [opening, if_pos unnamed, List.nil_append, ids] at order
    rw [← shared_eq_listing, shared, opening, if_pos unnamed]
    exact List.perm_replicate.mp order

/-- How often a calling code occurs in a collection. -/
def occurrences (ts : List Territory) (code : Int) : Nat := (ts.map Territory.countryCode).count code

private theorem length_under (ts : List Territory) (code : Int) : (under ts code).length = occurrences ts code := by
  rw [occurrences, List.count, List.countP_map, List.countP_eq_length_filter]
  rfl

private theorem mem_ofTerritories_of_nameless (nameless : ∀ t ∈ ts, t.id = "") : (code, regions) ∈ ofTerritories ts ↔
    (∃ t ∈ ts, t.countryCode = code) ∧ regions = List.replicate (occurrences ts code - 1) "" := by
  have unnamed : ∀ t ∈ under ts code, t.id = "" := fun t member => nameless t (List.mem_of_mem_filter member)
  rw [mem_ofTerritories_iff, under_ne_nil_iff, shared_eq_listing, listing_of_nameless unnamed, length_under]

/-- All lists of a collection without ids are empty exactly when no code is repeated. -/
theorem lists_empty_iff (nameless : ∀ t ∈ ts, t.id = "") :
    (∀ entry ∈ ofTerritories ts, entry.2 = []) ↔ (ts.map Territory.countryCode).Nodup := by
  rw [List.nodup_iff_count_le_one]
  constructor
  · intro empty code
    by_cases present : ∃ t ∈ ts, t.countryCode = code
    · have none := empty (code, _) ((mem_ofTerritories_of_nameless nameless).mpr ⟨present, rfl⟩)
      have few : occurrences ts code - 1 = 0 := (List.replicate_eq_nil_iff _).mp none
      rw [occurrences] at few
      omega
    · have absent : code ∉ ts.map Territory.countryCode := by simpa using present
      rw [List.count_eq_zero_of_not_mem absent]
      exact Nat.zero_le 1
  · rintro once ⟨code, regions⟩ member
    obtain ⟨-, rfl⟩ := (mem_ofTerritories_of_nameless nameless).mp member
    have few : occurrences ts code - 1 = 0 := Nat.sub_eq_zero_of_le (once code)
    rw [few]
    rfl

/-- Codes without regions are a set of codes if there are several, and else no regions. -/
theorem select_of_empty_lists {codes : RegionsByCode} (empty : ∀ entry ∈ codes, entry.2 = []) :
    Shape.select codes = if 1 < codes.length then .countryCodes (codes.map (·.1)) else .regionCodes [] := by
  have none : codes.any (fun entry => !entry.2.isEmpty) = false := by simpa using empty
  have nothing : codes.flatMap (·.2) = [] := List.flatMap_eq_nil_iff.mpr empty
  rw [Shape.select, none, nothing, if_neg Bool.false_ne_true]

theorem select_of_listed_region {codes : RegionsByCode} (several : 1 < codes.length)
    (listed : ¬∀ entry ∈ codes, entry.2 = []) : Shape.select codes = .fullMap codes := by
  have some : codes.any (fun entry => !entry.2.isEmpty) = true := by simpa using listed
  rw [Shape.select, if_pos several, if_pos some]

/-- A collection with one code, or none, has the one listing of all its territories. -/
theorem regions_of_lone (lone : (ofTerritories ts).length ≤ 1) :
    (ofTerritories ts).flatMap (·.2) = listing ts := by
  have listed : ∀ t ∈ ts, t.countryCode ∈ (ofTerritories ts).map (·.1) :=
    fun t member => mem_codes_iff.mpr ⟨t, member, rfl⟩
  cases only : ofTerritories ts with
  | nil =>
    have empty : ts = [] := by
      refine List.eq_nil_iff_forall_not_mem.mpr fun t member => ?_
      have code := listed t member
      rw [only] at code
      cases code
    rw [empty]
    rfl
  | cons entry rest =>
    obtain ⟨code, regions⟩ := entry
    obtain rfl : rest = [] := by
      rw [only, List.length_cons] at lone
      exact List.length_eq_zero_iff.mp (by omega)
    -- All territories have the one code, so those under it are the collection.
    have every : under ts code = ts := by
      refine List.filter_eq_self.mpr fun t member => ?_
      have same := listed t member
      rw [only] at same
      exact decide_eq_true (List.mem_singleton.mp same)
    obtain ⟨-, shares⟩ := mem_ofTerritories_iff.mp (only ▸ List.mem_cons_self)
    rw [every] at shares
    rw [List.flatMap_singleton, shares, shared_eq_listing]

/-- What a collection without ids comes to. Every code lists the empty id once for each of its territories
but the first. So exactly where no code is repeated all lists are empty and the shape is the set of the
codes, or holds nothing if there are fewer than two. Otherwise several codes make a map, and a lone one
has its empty ids. -/
theorem nameless_collection_in_closed_form (ts : List Territory) (nameless : ∀ t ∈ ts, t.id = "") :
    ∃ codes : List Int,
    codes.Pairwise (· < ·) ∧ (∀ code, code ∈ codes ↔ ∃ t ∈ ts, t.countryCode = code) ∧
    ofTerritories ts = codes.map (fun code => (code, List.replicate (occurrences ts code - 1) "")) ∧
    ((ts.map Territory.countryCode).Nodup ↔ (∀ entry ∈ ofTerritories ts, entry.2 = []) ∧
      Shape.select (ofTerritories ts) = if 1 < codes.length then .countryCodes codes else .regionCodes []) ∧
    (¬(ts.map Territory.countryCode).Nodup → Shape.select (ofTerritories ts) =
      if 1 < codes.length then
        .fullMap (codes.map fun code => (code, List.replicate (occurrences ts code - 1) ""))
      else .regionCodes (List.replicate (ts.length - 1) "")) := by
  have closed : ofTerritories ts = ((ofTerritories ts).map (·.1)).map
      fun code => (code, List.replicate (occurrences ts code - 1) "") := by
    rw [List.map_map]
    refine (List.map_id _).symm.trans (List.map_congr_left fun (code, regions) member => ?_)
    obtain ⟨-, rfl⟩ := (mem_ofTerritories_of_nameless nameless).mp member
    rfl
  refine ⟨(ofTerritories ts).map (·.1), codes_ascending ts, fun _ => mem_codes_iff, closed, ?_, ?_⟩
  · rw [List.length_map, ← lists_empty_iff nameless]
    exact ⟨fun empty => ⟨empty, select_of_empty_lists empty⟩, And.left⟩
  · intro repeated
    rw [← lists_empty_iff nameless] at repeated
    rw [List.length_map, ← closed]
    by_cases several : 1 < (ofTerritories ts).length
    · rw [if_pos several]
      exact select_of_listed_region several repeated
    · rw [if_neg several, Shape.select, if_neg several, regions_of_lone (by omega),
        listing_of_nameless nameless]

/-- Three codes in descending order and none repeated are the set of them. -/
theorem alternate_formats_are_a_set_of_codes :
    Shape.select (ofTerritories [⟨"", 49, false, [], [], []⟩, ⟨"", 44, true, [], [], []⟩,
      ⟨"", 7, false, [], [], []⟩]) = .countryCodes [7, 44, 49] := by
  obtain ⟨codes, -, -, closed, once, -⟩ := nameless_collection_in_closed_form
    [⟨"", 49, false, [], [], []⟩, ⟨"", 44, true, [], [], []⟩, ⟨"", 7, false, [], [], []⟩] (by decide)
  obtain rfl : codes = [7, 44, 49] := by
    have same := congrArg (List.map (·.1)) closed
    rw [List.map_map] at same
    exact (same.trans (List.map_id codes)).symm
  exact (once.mp (by decide)).2

/-- Three territories without ids; the first and the last, which is main, have one code. -/
def repeatedCode : List Territory :=
  [⟨"", 49, false, [], [], []⟩, ⟨"", 44, false, [], [], []⟩, ⟨"", 49, true, [], [], []⟩]

/-- The repeated code lists an empty region, which makes the lookup a map; a lone code that is repeated
is a set with the empty region in it. -/
theorem repeated_code_lists_an_empty_region :
    (∀ t ∈ repeatedCode, t.id = "") ∧ ofTerritories repeatedCode = [(44, []), (49, [""])] ∧
    Shape.select (ofTerritories repeatedCode) ≠ .countryCodes [44, 49] ∧
    Shape.select (ofTerritories [⟨"", 49, false, [], [], []⟩, ⟨"", 49, false, [], [], []⟩]) ≠ .regionCodes [] := by
  decide

end NumberingPlan.RegionsByCode
