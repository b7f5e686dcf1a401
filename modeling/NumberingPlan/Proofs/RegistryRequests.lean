import Mathlib.Data.List.Sort
import Mathlib.Data.String.Basic
import NumberingPlan.Proofs.ListReading
import NumberingPlan.Territory.Registry

/-! What a request to a registry is answered with. Its arguments ask for regions and for codes, and the answer
has a territory for each of them in the order in which they are asked for, or names the first that has no
entry. -/
namespace NumberingPlan.Registry

/-- A key that can be asked for, which is also how it is told to be missing. -/
abbrev Key := Missing

/-- The entry that stands under a key. -/
def held? (registry : Registry) : Key → Option RegistryEntry
  | .region name => registry.regions.lookup name
  | .code number => registry.codes.lookup number

/-- The members of a list in ascending order, each once. -/
structure AscendingOf {α : Type} [LT α] (all listed : List α) : Prop where
  ascending : listed.Pairwise (· < ·)
  members : ∀ a, a ∈ listed ↔ a ∈ all

/-- The regions that are asked for: the given ones in upper case and in the order in which they are given,
or else all that are supported. -/
def AsksRegions (registry : Registry) : Option (List String) → List String → Prop
  | none, names => AscendingOf registry.supportedRegions names
  | some given, names => names = given.map Text.upper

/-- The codes that are asked for. Beside given regions they are those that are given, in that order. Without
regions they ascend, and are those that are given, as often as they are, or else all that are supported. -/
def AsksCodes (registry : Registry) : Option (List String) → Option (List Int) → List Int → Prop
  | none, none, numbers => AscendingOf registry.supportedCodes numbers
  | none, some given, numbers => numbers.Pairwise (· ≤ ·) ∧ numbers.Perm given
  | some _, none, numbers => numbers = []
  | some _, some given, numbers => numbers = given

section AscendingOf

variable {α : Type} [LinearOrder α] {all all' listed listed' : List α}

private theorem nodup_eraseDups (all : List α) : all.eraseDups.Nodup := by
  cases all with
  | nil => exact .nil
  | cons a rest =>
    rw [List.eraseDups_cons, List.nodup_cons, List.mem_eraseDups]
    exact ⟨by simp, nodup_eraseDups _⟩
termination_by all.length
decreasing_by exact Nat.lt_succ_of_le (List.length_filter_le _ _)

/-- What is left of a list without its repetitions, in order, ascends strictly. -/
theorem AscendingOf.of_perm (ordered : listed.Pairwise (· ≤ ·)) (perm : listed.Perm all.eraseDups) :
    AscendingOf all listed where
  ascending := by
    have once : listed.Nodup := perm.nodup_iff.mpr (nodup_eraseDups all)
    exact (ordered.and once).imp fun before => lt_of_le_of_ne before.1 before.2
  members _ := perm.mem_iff.trans List.mem_eraseDups

/-- Ascending lists of the members of two lists that have the same ones are equal. -/
theorem AscendingOf.unique (first : AscendingOf all listed) (second : AscendingOf all' listed')
    (same : ∀ a, a ∈ all ↔ a ∈ all') : listed = listed' :=
  first.ascending.eq_of_mem_iff second.ascending fun a =>
    (first.members a).trans ((same a).trans (second.members a).symm)

end AscendingOf

variable {registry registry' : Registry} {regions : Option (List String)} {codes : Option (List Int)}
  {lite : Bool} {key missing : Key} {t : Territory}

/-! ### What is asked for -/

private theorem pairwise_ascendingRegions (names : List String) : (ascendingRegions names).Pairwise (· ≤ ·) := by
  have total (a b : String) : (!decide (b < a) || !decide (a < b)) = true := by
    simpa only [Bool.or_eq_true, Bool.not_eq_true', decide_eq_false_iff_not, not_lt] using le_total a b
  have trans (a b c : String) (first : (!decide (b < a)) = true) (second : (!decide (c < b)) = true) :
      (!decide (c < a)) = true := by
    simp only [Bool.not_eq_true', decide_eq_false_iff_not, not_lt] at first second ⊢
    exact first.trans second
  have sorted := List.pairwise_mergeSort trans total names.eraseDups
  exact sorted.imp fun before => by
    simpa only [Bool.not_eq_true', decide_eq_false_iff_not, not_lt] using before

private theorem pairwise_ascendingCodes (numbers : List Int) : (ascendingCodes numbers).Pairwise (· ≤ ·) :=
  List.pairwise_mergeSort' (· ≤ ·) numbers

private theorem ascendingCodes_perm (numbers : List Int) : (ascendingCodes numbers).Perm numbers :=
  List.mergeSort_perm numbers _

private theorem asksRegions_requestedRegions (registry : Registry) (regions : Option (List String)) :
    registry.AsksRegions regions (registry.requestedRegions regions) := by
  cases regions with
  | none => exact .of_perm (pairwise_ascendingRegions _) (List.mergeSort_perm _ _)
  | some given => rfl

private theorem asksCodes_requestedCodes (registry : Registry) (regions : Option (List String))
    (codes : Option (List Int)) : registry.AsksCodes regions codes (registry.requestedCodes regions codes) := by
  cases regions with
  | none =>
    cases codes with
    | none => exact .of_perm (pairwise_ascendingCodes _) (ascendingCodes_perm _)
    | some given => exact ⟨pairwise_ascendingCodes given, ascendingCodes_perm given⟩
  | some names => cases codes <;> rfl

/-- Registries that support the same regions have the same ones asked for. -/
theorem AsksRegions.unique {names names' : List String}
    (same : ∀ name, name ∈ registry'.supportedRegions ↔ name ∈ registry.supportedRegions)
    (asked' : registry'.AsksRegions regions names') (asked : registry.AsksRegions regions names) :
    names' = names := by
  cases regions with
  | none => exact AscendingOf.unique asked' asked same
  | some given => exact Eq.trans asked' (Eq.symm asked)

/-- Registries that support the same codes have the same ones asked for. -/
theorem AsksCodes.unique {numbers numbers' : List Int}
    (same : ∀ number, number ∈ registry'.supportedCodes ↔ number ∈ registry.supportedCodes)
    (asked' : registry'.AsksCodes regions codes numbers') (asked : registry.AsksCodes regions codes numbers) :
    numbers' = numbers := by
  cases regions with
  | none =>
    cases codes with
    | none => exact AscendingOf.unique asked' asked same
    | some given => exact (asked'.2.trans asked.2.symm).eq_of_pairwise' asked'.1 asked.1
  | some names => cases codes <;> exact Eq.trans asked' (Eq.symm asked)

/-! ### What is answered -/

/-- The territory under a key. -/
def answer (registry : Registry) (lite : Bool) : Key → Except Missing Territory
  | .region name => registry.region lite name
  | .code number => registry.code lite number

private theorem answer_eq (registry : Registry) (lite : Bool) (key : Key) : registry.answer lite key =
    match registry.held? key with
    | some e => .ok (e.toTerritory lite)
    | none => .error key := by
  cases key <;> rfl

theorem answer_eq_ok_iff : registry.answer lite key = .ok t ↔
    ∃ e, registry.held? key = some e ∧ t = e.toTerritory lite := by
  rw [answer_eq]
  cases registry.held? key <;> simp [eq_comm]

private theorem fault?_answer : fault? (registry.answer lite key) =
    Option.guard (fun key => registry.held? key = none) key := by
  rw [answer_eq]
  cases held : registry.held? key <;> simp [fault?, Option.guard, held]

/-- The keys of a request are answered one by one, those of regions first. -/
theorem load_eq (registry : Registry) (regions : Option (List String)) (codes : Option (List Int))
    (lite : Bool) : registry.load regions codes lite =
      ((registry.requestedRegions regions).map Missing.region ++
        (registry.requestedCodes regions codes).map Missing.code).mapM (registry.answer lite) := by
  rw [List.mapM_append, List.mapM_map, List.mapM_map]
  rfl

theorem answers_eq_ok_iff {keys : List Key} {ts : List Territory} : keys.mapM (registry.answer lite) = .ok ts ↔
    List.Forall₂ (fun key t => ∃ e, registry.held? key = some e ∧ t = e.toTerritory lite) keys ts := by
  rw [mapM_eq_ok_iff]
  simp only [answer_eq_ok_iff]

theorem answers_eq_error_iff {keys : List Key} : keys.mapM (registry.answer lite) = .error missing ↔
    keys.find? (fun key => registry.held? key = none) = some missing := by
  rw [← fault?_eq_some_iff, fault?_mapM, List.find?_eq_findSome?_guard]
  simp only [fault?_answer]

/-- Registries that hold the same under each key and support the same regions and codes answer alike. -/
theorem load_congr (held : ∀ key, registry'.held? key = registry.held? key)
    (sameRegions : ∀ name, name ∈ registry'.supportedRegions ↔ name ∈ registry.supportedRegions)
    (sameCodes : ∀ number, number ∈ registry'.supportedCodes ↔ number ∈ registry.supportedCodes) :
    registry'.load regions codes lite = registry.load regions codes lite := by
  have answers : registry'.answer lite = registry.answer lite := by
    funext key
    rw [answer_eq, answer_eq, held]
  have names := AsksRegions.unique sameRegions (registry'.asksRegions_requestedRegions regions)
    (registry.asksRegions_requestedRegions regions)
  have numbers := AsksCodes.unique sameCodes (registry'.asksCodes_requestedCodes regions codes)
    (registry.asksCodes_requestedCodes regions codes)
  rw [load_eq, load_eq, answers, names, numbers]

/-- A request is answered with one territory for each key that is asked for, in their order and with the
regions before the codes, or, exactly if some key has no entry, with the first such key. In which order and
how often the registry names what it supports has no part in it. -/
theorem load_answers_each_key_in_order (registry : Registry) (regions : Option (List String))
    (codes : Option (List Int)) (lite : Bool) :
    (∃ names numbers, registry.AsksRegions regions names ∧ registry.AsksCodes regions codes numbers ∧
      (∀ ts, registry.load regions codes lite = .ok ts ↔
        List.Forall₂ (fun key t => ∃ e, registry.held? key = some e ∧ t = e.toTerritory lite)
          (names.map Missing.region ++ numbers.map Missing.code) ts) ∧
      ∀ missing, registry.load regions codes lite = .error missing ↔
        (names.map Missing.region ++ numbers.map Missing.code).find? (fun key => registry.held? key = none) =
          some missing) ∧
    ∀ registry' : Registry, (∀ key, registry'.held? key = registry.held? key) →
      (∀ name, name ∈ registry'.supportedRegions ↔ name ∈ registry.supportedRegions) →
      (∀ number, number ∈ registry'.supportedCodes ↔ number ∈ registry.supportedCodes) →
      registry'.load regions codes lite = registry.load regions codes lite := by
  refine ⟨⟨_, _, registry.asksRegions_requestedRegions regions, registry.asksCodes_requestedCodes regions codes,
    fun ts => ?_, fun missing => ?_⟩, fun _ => load_congr⟩
  · rw [load_eq]
    exact answers_eq_ok_iff
  · rw [load_eq]
    exact answers_eq_error_iff

/-- An entry with nothing but an id and a code. -/
def bareEntry (id : String) (code : Int) : RegistryEntry := ⟨id, some code, false, false, [], [], [], []⟩

/-- A registry of two regions and a code, which claims a code more than it has. -/
def overclaiming (supportedRegions : List String) (supportedCodes : List Int) : Registry where
  regions := [("US", bareEntry "US" 1), ("GB", bareEntry "GB" 44)]
  codes := [(800, bareEntry "001" 800)]
  supportedRegions := supportedRegions
  supportedCodes := supportedCodes

/-- A request for everything has one answer in two orders of what is supported. Given regions are answered as
often as they are given, and the first key without an entry is told. -/
theorem overclaiming_answers_in_order :
    (overclaiming ["GB", "US", "GB"] [979, 800, 800]).load none none false =
      (overclaiming ["US", "GB"] [800, 979]).load none none false ∧
    (overclaiming ["US", "GB"] [800, 979]).load (some ["us", "gb", "US"]) none false =
      .ok (["US", "GB", "US"].map fun id => ⟨id, if id = "US" then 1 else 44, false, [], [], []⟩) ∧
    (overclaiming ["US", "GB"] [800, 979]).load (some ["gb", "zz"]) (some [979, 800]) false =
      .error (.region "ZZ") := by
  have upper : ["us", "gb", "US"].map Text.upper = ["US", "GB", "US"] ∧
      ["gb", "zz"].map Text.upper = ["GB", "ZZ"] := ⟨rfl, rfl⟩
  refine ⟨?_, ?_, ?_⟩
  · obtain ⟨-, same⟩ := load_answers_each_key_in_order (overclaiming ["US", "GB"] [800, 979]) none none false
    refine same _ (fun key => by cases key <;> rfl) (fun name => ?_) (fun number => ?_)
    · simp [overclaiming, or_comm]
    · simp [overclaiming, or_comm]
  · obtain ⟨⟨names, numbers, asked, rfl, answered, -⟩, -⟩ := load_answers_each_key_in_order
      (overclaiming ["US", "GB"] [800, 979]) (some ["us", "gb", "US"]) none false
    obtain rfl := asked.trans upper.1
    exact (answered _).mpr (.cons ⟨_, rfl, rfl⟩ (.cons ⟨_, rfl, rfl⟩ (.cons ⟨_, rfl, rfl⟩ .nil)))
  · obtain ⟨⟨names, numbers, asked, rfl, -, failed⟩, -⟩ := load_answers_each_key_in_order
      (overclaiming ["US", "GB"] [800, 979]) (some ["gb", "zz"]) (some [979, 800]) false
    obtain rfl := asked.trans upper.2
    exact (failed _).mpr (by decide)

end NumberingPlan.Registry
