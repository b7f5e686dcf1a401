import NumberingPlan.Proofs.RegionLists

/-! The order of the regions under a code. The regions that territories of one code share are told here
from the outcome, by which of the territories are main, and not by adding one after another. With the
codes ascending this is the whole lookup, so how territories of different codes are mixed has no part
in it. -/
namespace NumberingPlan.RegionsByCode

/-- The regions of one code's territories as they end up. Those after the first stand before it if they
are main, the last of them foremost, and behind it if not. The first has no place without an id. -/
def listing : List Territory → List String
  | [] => []
  | first :: later =>
    (mainIds later).reverse ++ (if first.id = "" then [] else [first.id]) ++ otherIds later

theorem shared_eq_listing (ts : List Territory) : shared ts = listing ts := by
  cases ts with
  | nil => rfl
  | cons first later => exact foldl_joined later (opening first)

/-- A lone main territory with an id is foremost, whether it is the first or joins later. -/
theorem listing_of_lone_main {ts : List Territory} (lone : ts.filter (fun t => t.isMain) = [main])
    (named : main.id ≠ "") : ∃ rest, listing ts = main.id :: rest := by
  cases ts with
  | nil => cases lone
  | cons first later =>
    -- A main first territory is the lone one, so that none stands before it.
    cases flagged : first.isMain with
    | true =>
      rw [List.filter_cons_of_pos flagged, List.cons.injEq] at lone
      obtain ⟨rfl, none⟩ := lone
      exact ⟨otherIds later, by simp [listing, mainIds, none, named]⟩
    | false =>
      rw [List.filter_cons_of_neg (by simp [flagged])] at lone
      exact ⟨_, by rw [listing, mainIds, lone]; rfl⟩

theorem under_ne_nil_iff {ts : List Territory} {code : Int} :
    under ts code ≠ [] ↔ ∃ t ∈ ts, t.countryCode = code := by
  simp [under, List.filter_eq_nil_iff]

/-- A code has an entry exactly when a territory has the code. -/
theorem mem_codes_iff {ts : List Territory} {code : Int} :
    code ∈ (ofTerritories ts).map (·.1) ↔ ∃ t ∈ ts, t.countryCode = code := by
  have entry : (∃ regions, (code, regions) ∈ ofTerritories ts) ↔ under ts code ≠ [] := by
    simp [mem_ofTerritories_iff]
  rw [← under_ne_nil_iff, ← entry]
  simp

theorem codes_ascending (ts : List Territory) : ((ofTerritories ts).map (·.1)).Pairwise (· < ·) :=
  List.pairwise_map.mpr (ofTerritories_ascending ts)

/-- Entries with ascending codes are determined by which they are. -/
theorem Ascending.eq_of_mem_iff {codes codes' : RegionsByCode} (ascending : Ascending codes)
    (ascending' : Ascending codes') (same : ∀ entry, entry ∈ codes ↔ entry ∈ codes') :
    codes = codes' := by
  have once {codes : RegionsByCode} (ascending : Ascending codes) : codes.Nodup :=
    ascending.imp fun before same => Int.ne_of_lt before (congrArg Prod.fst same)
  refine ((List.perm_ext_iff_of_nodup (once ascending) (once ascending')).mpr same).eq_of_pairwise ?_
    ascending ascending'
  intro entry entry' _ _ before after
  exact absurd (Int.lt_trans before after) (Int.lt_irrefl _)

/-- The lookup in closed form. Its codes are those of the territories, ascending, and each has the listing
of its own territories. So a lone main territory with an id is foremost under its code, and collections
that have the same territories in the same order under each code have the same lookup. -/
theorem regions_by_code_in_closed_form (ts : List Territory) :
    ((ofTerritories ts).map (·.1)).Pairwise (· < ·) ∧
    (∀ code, code ∈ (ofTerritories ts).map (·.1) ↔ ∃ t ∈ ts, t.countryCode = code) ∧
    (∀ code regions, (code, regions) ∈ ofTerritories ts ↔
      (∃ t ∈ ts, t.countryCode = code) ∧ regions = listing (under ts code)) ∧
    (∀ code main, (under ts code).filter (fun t => t.isMain) = [main] → main.id ≠ "" →
      ∃ rest, (code, main.id :: rest) ∈ ofTerritories ts) ∧
    ∀ ts', (∀ code, under ts' code = under ts code) → ofTerritories ts' = ofTerritories ts := by
  have entry (code : Int) (regions : List String) : (code, regions) ∈ ofTerritories ts ↔
      (∃ t ∈ ts, t.countryCode = code) ∧ regions = listing (under ts code) := by
    rw [mem_ofTerritories_iff, under_ne_nil_iff, shared_eq_listing]
  refine ⟨codes_ascending ts, fun _ => mem_codes_iff, entry, ?_, ?_⟩
  · intro code main lone named
    obtain ⟨rest, foremost⟩ := listing_of_lone_main lone named
    have started : under ts code ≠ [] := by
      intro none
      rw [none] at lone
      cases lone
    exact ⟨rest, (entry code _).mpr ⟨under_ne_nil_iff.mp started, foremost.symm⟩⟩
  · intro ts' same
    refine (ofTerritories_ascending ts').eq_of_mem_iff (ofTerritories_ascending ts) fun (code, regions) => ?_
    rw [mem_ofTerritories_iff, mem_ofTerritories_iff, same]

/-- Two codes, mixed and one after the other. A main territory joins the first, and the second is opened by
a main territory without an id. -/
theorem mixed_codes_have_one_lookup :
    (∃ rest, (1, "US" :: rest) ∈ ofTerritories [⟨"BS", 1, false, [], [], []⟩, ⟨"", 44, true, [], [], []⟩,
      ⟨"US", 1, true, [], [], []⟩, ⟨"GB", 44, false, [], [], []⟩, ⟨"CA", 1, false, [], [], []⟩]) ∧
    ofTerritories [⟨"", 44, true, [], [], []⟩, ⟨"GB", 44, false, [], [], []⟩, ⟨"BS", 1, false, [], [], []⟩,
      ⟨"US", 1, true, [], [], []⟩, ⟨"CA", 1, false, [], [], []⟩] = [(1, ["US", "BS", "CA"]), (44, ["GB"])] := by
  obtain ⟨-, -, -, foremost, mixed⟩ := regions_by_code_in_closed_form [⟨"BS", 1, false, [], [], []⟩,
    ⟨"", 44, true, [], [], []⟩, ⟨"US", 1, true, [], [], []⟩, ⟨"GB", 44, false, [], [], []⟩,
    ⟨"CA", 1, false, [], [], []⟩]
  refine ⟨foremost 1 ⟨"US", 1, true, [], [], []⟩ (by decide) (by decide), ?_⟩
  rw [mixed _ fun code => ?_]
  · rfl
  · by_cases first : 1 = code
    · subst first
      rfl
    · by_cases second : 44 = code
      · subst second
        rfl
      · simp [under, first, second]

end NumberingPlan.RegionsByCode
