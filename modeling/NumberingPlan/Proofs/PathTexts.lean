import NumberingPlan.Partition

/-! Paths and their texts. A path in normal form is the path of its own text, whose segments are its
names after some that say nothing. The parts of a collection are children of one folder, and the
name of each is a stem that all of them share and its key. -/
namespace NumberingPlan.Storage

private theorem not_mem_cons {c d : Char} {text : List Char} (plain : c ∉ d :: text) : d ≠ c ∧ c ∉ text := by
  simp only [List.mem_cons, not_or] at plain
  exact ⟨Ne.symm plain.1, plain.2⟩

private theorem segments_of_plain (plain : '/' ∉ text) : segments text = [text] := by
  induction text with
  | nil => rfl
  | cons c text ih =>
    obtain ⟨other, plain⟩ := not_mem_cons plain
    simp only [segments, if_neg other, ih plain]

private theorem segments_before_slash (plain : '/' ∉ name) (rest : List Char) :
    segments (name ++ '/' :: rest) = name :: segments rest := by
  induction name with
  | nil => rfl
  | cons c name ih =>
    obtain ⟨other, plain⟩ := not_mem_cons plain
    simp only [List.cons_append, segments, if_neg other, ih plain]

/-- What holds no slash goes to the end of the last segment before it. -/
theorem segments_append (text : List Char) : ∃ outer last, segments text = outer ++ [last] ∧
    ∀ more, '/' ∉ more → segments (text ++ more) = outer ++ [last ++ more] := by
  induction text with
  | nil => exact ⟨[], [], rfl, fun more plain => segments_of_plain plain⟩
  | cons c text ih =>
    obtain ⟨outer, last, whole, append⟩ := ih
    by_cases slash : c = '/'
    · refine ⟨[] :: outer, last, ?_, fun more plain => ?_⟩
      · simp only [segments, if_pos slash, whole, List.cons_append]
      · simp only [List.cons_append, segments, if_pos slash, append more plain]
    · cases outer with
      | nil =>
        refine ⟨[], c :: last, ?_, fun more plain => ?_⟩
        · simp only [segments, if_neg slash, whole, List.nil_append]
        · simp only [List.cons_append, segments, if_neg slash, append more plain, List.nil_append]
      | cons first outer =>
        refine ⟨(c :: first) :: outer, last, ?_, fun more plain => ?_⟩
        · simp only [segments, if_neg slash, whole, List.cons_append]
        · simp only [List.cons_append, segments, if_neg slash, append more plain]

theorem slash_not_mem_segment (text : List Char) : ∀ segment ∈ segments text, '/' ∉ segment := by
  induction text with
  | nil => simp [segments]
  | cons c text ih =>
    intro segment member
    by_cases slash : c = '/'
    · simp only [segments, if_pos slash, List.mem_cons] at member
      rcases member with rfl | later
      · exact List.not_mem_nil
      · exact ih segment later
    · simp only [segments, if_neg slash] at member
      split at member
      · rename_i first more whole
        rw [whole] at ih
        rcases List.mem_cons.mp member with rfl | later
        · simpa [Ne.symm slash] using ih first List.mem_cons_self
        · exact ih segment (List.mem_cons_of_mem _ later)
      · obtain rfl := List.mem_singleton.mp member
        simpa using Ne.symm slash

private theorem segments_intercalate {names : List (List Char)} (some : names ≠ [])
    (plain : ∀ name ∈ names, '/' ∉ name) : segments (['/'].intercalate names) = names := by
  induction names with
  | nil => exact absurd rfl some
  | cons name names ih =>
    have first := plain name List.mem_cons_self
    cases names with
    | nil =>
      rw [List.intercalate_singleton]
      exact segments_of_plain first
    | cons next names =>
      rw [List.intercalate_cons_cons, List.append_assoc, List.singleton_append,
        segments_before_slash first, ih (by simp) fun n member => plain n (List.mem_cons_of_mem _ member)]

namespace Path

/-- A path in normal form: each of its names is one. -/
def Normal (p : Path) : Prop := ∀ name ∈ p.names, isName name.toList = true ∧ '/' ∉ name.toList

/-- A name that leads down from a folder. -/
structure LeadsDown (name : String) : Prop where
  named : isName name.toList = true
  plain : '/' ∉ name.toList
  down : name ≠ ".."

/-- Segments that hold no slash make a path in normal form. -/
theorem normal_of_segments (anchor : Anchor) {segments : List (List Char)}
    (plain : ∀ segment ∈ segments, '/' ∉ segment) :
    Normal ⟨anchor, (segments.filter isName).map String.ofList⟩ := by
  intro name member
  obtain ⟨segment, kept, rfl⟩ := List.mem_map.mp member
  obtain ⟨found, named⟩ := List.mem_filter.mp kept
  rw [String.toList_ofList]
  exact ⟨named, plain segment found⟩

/-- The path of a text is in normal form. -/
theorem ofString_normal (text : String) : (ofString text).Normal :=
  normal_of_segments _ (slash_not_mem_segment text.toList)

/-- A text with something in front that is no slash starts where that does. -/
theorem anchorOf_of_plain {c : Char} (plain : c ≠ '/') (text : List Char) : anchorOf (c :: text) = .here := by
  unfold anchorOf
  split <;> simp_all

private theorem anchorOf_mark (anchor : Anchor) {c : Char} (plain : c ≠ '/') (text : List Char) :
    anchorOf ((mark anchor).toList ++ c :: text) = anchor := by
  cases anchor with
  | here => exact anchorOf_of_plain plain text
  | root => simp [mark, anchorOf, plain]
  | doubleRoot => simp [mark, anchorOf, plain]

theorem child_of_name (p : Path) {name : String} (leads : LeadsDown name) :
    p.child name = ⟨p.anchor, p.names ++ [name]⟩ := by
  have here : anchorOf name.toList = .here := by
    cases spelled : name.toList with
    | nil => rfl
    | cons c rest =>
      exact anchorOf_of_plain (not_mem_cons (spelled ▸ leads.plain)).1 rest
  simp only [child, ofString, here, join, segments_of_plain leads.plain, List.filter_cons, leads.named,
    List.filter_nil, ↓reduceIte, List.map_cons, List.map_nil, String.ofList_toList]

/-- A text with an underscore and no slash is a name that leads down. -/
theorem leadsDown_of_underscore {name : String} (marked : '_' ∈ name.toList) (plain : '/' ∉ name.toList) :
    LeadsDown name := by
  refine ⟨?_, plain, ?_⟩
  · have nonempty : name.toList ≠ [] := List.ne_nil_of_mem marked
    have undotted : name.toList ≠ ['.'] := by
      intro dot
      simp [dot] at marked
    simp only [isName, Bool.and_eq_true, bne_iff_ne]
    exact ⟨nonempty, undotted⟩
  · rintro rfl
    revert marked
    decide

theorem LeadsDown.something {name : String} (leads : LeadsDown name) : ¬(name = "" ∨ name = ".") := by
  rintro (rfl | rfl)
  · exact absurd leads.named (by decide)
  · exact absurd leads.named (by decide)

theorem Normal.child {p : Path} (normal : p.Normal) {name : String} (leads : LeadsDown name) :
    (p.child name).Normal := by
  intro other member
  rw [child_of_name p leads, List.mem_append, List.mem_singleton] at member
  rcases member with inside | rfl
  · exact normal other inside
  · exact ⟨leads.named, leads.plain⟩

/-- A path in normal form that goes somewhere is spelled by its mark and its names. -/
theorem toString_of_names {p : Path} (normal : p.Normal) {name : String} {names : List String}
    (spelled : p.names = name :: names) : ∃ c rest, c ≠ '/' ∧
      p.toString.toList = (mark p.anchor).toList ++ c :: rest ∧
      segments (c :: rest) = p.names.map String.toList := by
  obtain ⟨named, plain⟩ := normal name (by simp [spelled])
  cases first : name.toList with
  | nil => simp [isName, first] at named
  | cons c tail =>
    have joined : (String.intercalate "/" p.names).toList =
        ['/'].intercalate (p.names.map String.toList) := String.toList_intercalate
    obtain ⟨rest, begun⟩ : ∃ rest, ['/'].intercalate (p.names.map String.toList) = c :: rest := by
      rw [spelled, List.map_cons, first]
      cases names with
      | nil => exact ⟨tail, by simp⟩
      | cons next names => exact ⟨_, by rw [List.map_cons, List.intercalate_cons_cons, List.cons_append]; rfl⟩
    refine ⟨c, rest, (not_mem_cons (first ▸ plain)).1, ?_, ?_⟩
    · have nonempty : (mark p.anchor ++ String.intercalate "/" p.names).isEmpty = false := by
        rw [← Bool.not_eq_true, String.isEmpty_iff, ← String.toList_inj, String.toList_append, joined, begun]
        simp
      simp only [toString, nonempty, Bool.false_eq_true, ↓reduceIte, String.toList_append, joined, begun]
    · rw [← begun]
      refine segments_intercalate (by simp [spelled]) fun segment member => ?_
      obtain ⟨n, inside, rfl⟩ := List.mem_map.mp member
      exact (normal n inside).2

/-- The text of a path in normal form starts where the path does, and its segments are the path's
names after some that say nothing. -/
theorem spelling {p : Path} (normal : p.Normal) : anchorOf p.toString.toList = p.anchor ∧
    ∃ blank, (∀ segment ∈ blank, isName segment = false) ∧
      segments p.toString.toList = blank ++ p.names.map String.toList := by
  cases names : p.names with
  | nil =>
    obtain ⟨anchor, _⟩ := p
    obtain rfl : _ = [] := names
    cases anchor with
    | here => exact ⟨by decide, [['.']], by simp [isName], by decide⟩
    | root => exact ⟨by decide, [[], []], by simp [isName], by decide⟩
    | doubleRoot => exact ⟨by decide, [[], [], []], by simp [isName], by decide⟩
  | cons name rest =>
    obtain ⟨c, tail, plain, text, spelled⟩ := toString_of_names normal names
    rw [text, ← names, ← spelled]
    refine ⟨anchorOf_mark p.anchor plain tail, ?_⟩
    cases p.anchor with
    | here => exact ⟨[], by simp, rfl⟩
    | root => exact ⟨[[]], by simp [isName], rfl⟩
    | doubleRoot => exact ⟨[[], []], by simp [isName], rfl⟩

/-- Of segments that say nothing and names after them, the names are kept. -/
theorem names_of_segments {p : Path} (normal : p.Normal) {blank : List (List Char)}
    (nothing : ∀ segment ∈ blank, isName segment = false) {names : List String}
    (inside : ∀ name ∈ names, name ∈ p.names) :
    ((blank ++ names.map String.toList).filter isName).map String.ofList = names := by
  have dropped : blank.filter isName = [] := List.filter_eq_nil_iff.mpr fun segment member => by
    simp [nothing segment member]
  have kept : (names.map String.toList).filter isName = names.map String.toList := by
    refine List.filter_eq_self.mpr fun segment member => ?_
    obtain ⟨name, here, rfl⟩ := List.mem_map.mp member
    exact (normal name (inside name here)).1
  rw [List.filter_append, dropped, kept, List.nil_append, List.map_map]
  simp

/-- What goes after a text does not change where it starts, unless it goes on with a slash. -/
theorem anchorOf_append (text : List Char) {c : Char} (plain : c ≠ '/') (more : List Char) :
    anchorOf (text ++ c :: more) = anchorOf text := by
  match text with
  | [] => exact anchorOf_of_plain plain more
  | [a] => by_cases first : a = '/' <;> simp [anchorOf, first, plain]
  | [a, b] => by_cases first : a = '/' <;> by_cases second : b = '/' <;> simp [anchorOf, first, second, plain]
  | a :: b :: d :: text =>
    by_cases first : a = '/' <;> by_cases second : b = '/' <;> by_cases third : d = '/' <;>
      simp [anchorOf, first, second, third]

end Path

end NumberingPlan.Storage

namespace NumberingPlan
open Storage

/-- The folder of the parts that begin with a path: what its text names before the last slash. -/
def partFolder (start : Path) : Path :=
  ⟨Path.anchorOf start.toString.toList,
    ((segments start.toString.toList).dropLast.filter Path.isName).map String.ofList⟩

/-- What the names of all parts begin with that begin with a path. -/
def partStem (start : Path) : String :=
  String.ofList ((segments start.toString.toList).getLastD []) ++ "_"

/-- The folder of the parts that begin with a path in normal form is the parent of that path. -/
theorem partFolder_of_normal {start : Path} (normal : start.Normal) : partFolder start = start.parent := by
  obtain ⟨anchor, blank, nothing, spelled⟩ := Path.spelling normal
  have outer : ∃ blank', (∀ segment ∈ blank', Path.isName segment = false) ∧
      (segments start.toString.toList).dropLast = blank' ++ start.names.dropLast.map String.toList := by
    rw [spelled]
    by_cases none : start.names = []
    · exact ⟨blank.dropLast, fun segment member => nothing segment (List.dropLast_subset _ member),
        by simp [none]⟩
    · refine ⟨blank, nothing, ?_⟩
      rw [List.dropLast_append_of_ne_nil (by simpa using none), List.map_dropLast]
  obtain ⟨blank', nothing', spelled'⟩ := outer
  rw [partFolder, anchor, spelled', Path.names_of_segments normal nothing' fun name member =>
    List.dropLast_subset _ member, Path.parent]

theorem partFolder_normal (start : Path) : (partFolder start).Normal := by
  refine Path.normal_of_segments _ fun segment member => ?_
  exact slash_not_mem_segment start.toString.toList segment (List.dropLast_subset _ member)

/-- The name of a part under a key that holds no slash leads down. -/
theorem partName_leads (start : Path) {key : String} (plain : '/' ∉ key.toList) :
    Path.LeadsDown (partStem start ++ key) := by
  obtain ⟨outer, last, whole, -⟩ := segments_append start.toString.toList
  have unslashed : '/' ∉ last :=
    slash_not_mem_segment start.toString.toList last (by simp [whole])
  have spelled : (partStem start ++ key).toList = last ++ '_' :: key.toList := by
    simp [partStem, whole]
  exact Path.leadsDown_of_underscore (by simp [spelled]) (by simp [spelled, unslashed, plain])

/-- A part is a child of the folder of all parts. -/
theorem partPath_eq_child (start : Path) {key : String} (plain : '/' ∉ key.toList) :
    partPath start key = (partFolder start).child (partStem start ++ key) := by
  have leads := partName_leads start plain
  rw [Path.child_of_name _ leads]
  obtain ⟨outer, last, whole, append⟩ := segments_append start.toString.toList
  have text : (start.toString ++ "_" ++ key).toList = start.toString.toList ++ '_' :: key.toList := by
    simp
  have spelled : (partStem start ++ key).toList = last ++ '_' :: key.toList := by
    simp [partStem, whole]
  have anchor := Path.anchorOf_append start.toString.toList (by decide : '_' ≠ '/') key.toList
  have parts := append ('_' :: key.toList) (by simpa using plain)
  rw [partPath, Path.ofString, text, anchor, parts, ← spelled, List.filter_append, List.map_append]
  simp only [partFolder, whole, List.dropLast_concat, List.filter_cons, leads.named, List.filter_nil,
    ↓reduceIte, List.map_cons, List.map_nil, String.ofList_toList]

/-- A key can be read off the last of the names that lead to its part. -/
theorem key_of_last_name {stem key key' : String} {front front' : List String}
    (same : front ++ [stem ++ key] = front' ++ [stem ++ key']) : key = key' := by
  have alike : [stem ++ key].length = [stem ++ key'].length := by
    rw [List.length_singleton, List.length_singleton]
  have names := List.singleton_inj.mp (List.append_inj_right' same alike)
  have texts := congrArg String.toList names
  rw [String.toList_append, String.toList_append, List.append_cancel_left_eq] at texts
  exact String.toList_inj.mp texts

/-- Two parts have the same path exactly when they have the same key. -/
theorem partPath_inj (start : Path) {key key' : String} (plain : '/' ∉ key.toList)
    (plain' : '/' ∉ key'.toList) : partPath start key = partPath start key' ↔ key = key' := by
  constructor
  · intro same
    rw [partPath_eq_child start plain, partPath_eq_child start plain',
      Path.child_of_name _ (partName_leads start plain),
      Path.child_of_name _ (partName_leads start plain'), Storage.Path.mk.injEq] at same
    exact key_of_last_name same.2
  · rintro rfl
    rfl

end NumberingPlan
