import Mathlib.Data.List.Sort
import Mathlib.Data.String.Basic
import NumberingPlan.Proofs.DraftRuns

/-! The text of a source file determines what it was composed from. What is put into a line of the frame holds
no line feed, so it can be read off the line, and the text after the line is that of the parts that follow.
Whether there are imports shows in how the text goes on after the package. Beyond header, imports and body,
nothing of the draft's past has a part in the text. -/
namespace NumberingPlan.Source

/-- A text that does not end the line that it is put into. -/
def StaysOnLine (field : String) : Prop := '\n' ∉ field.toList

instance : DecidablePred StaysOnLine := fun field => inferInstanceAs (Decidable ('\n' ∉ field.toList))

/-- Two texts up to a line feed are equal if they are with all that follows. -/
theorem first_line_eq {line line' rest rest' : List Char} (plain : '\n' ∉ line) (plain' : '\n' ∉ line')
    (same : line ++ '\n' :: rest = line' ++ '\n' :: rest') : line = line' ∧ rest = rest' := by
  induction line generalizing line' with
  | nil =>
    cases line' with
    | nil => exact ⟨rfl, List.tail_eq_of_cons_eq same⟩
    | cons c line' =>
      obtain ⟨rfl, -⟩ := List.cons.inj same
      exact absurd List.mem_cons_self plain'
  | cons c line ih =>
    cases line' with
    | nil =>
      obtain ⟨rfl, -⟩ := List.cons.inj same
      exact absurd List.mem_cons_self plain
    | cons c' line' =>
      obtain ⟨rfl, more⟩ := List.cons.inj same
      obtain ⟨rfl, rests⟩ := ih (fun member => plain (List.mem_cons_of_mem _ member))
        (fun member => plain' (List.mem_cons_of_mem _ member)) more
      exact ⟨rfl, rests⟩

/-- A field and what comes after it can be told from the text that they are in, if the frame goes on with a
text that ends the line. -/
theorem field_eq {field field' after rest rest' : String} (plain : StaysOnLine field)
    (plain' : StaysOnLine field') (ends : '\n' ∈ after.toList)
    (same : field ++ (after ++ rest) = field' ++ (after ++ rest')) : field = field' ∧ rest = rest' := by
  obtain ⟨stop, more, split, first⟩ := List.eq_append_cons_of_mem ends
  have characters : field.toList ++ stop ++ '\n' :: (more ++ rest.toList) =
      field'.toList ++ stop ++ '\n' :: (more ++ rest'.toList) := by
    simpa [String.toList_append, split] using congrArg String.toList same
  have lined {text : String} (plain : StaysOnLine text) : '\n' ∉ text.toList ++ stop := by
    rw [List.mem_append, not_or]
    exact ⟨plain, first⟩
  obtain ⟨lines, rests⟩ := first_line_eq (lined plain) (lined plain') characters
  exact ⟨String.toList_inj.mp (List.append_cancel_right lines),
    String.toList_inj.mp (List.append_cancel_left rests)⟩

/-! ### The parts of the frame -/

/-- The digits of a number, after a sign if it is below zero. -/
theorem toList_toString (n : Int) : (toString n).toList =
    if n < 0 then '-' :: Nat.toDigits 10 n.natAbs else Nat.toDigits 10 n.natAbs := by
  cases n with
  | ofNat n => exact Nat.toList_repr
  | negSucc n =>
    rw [if_pos (Int.negSucc_lt_zero n), Int.natAbs_negSucc, ← Nat.toList_repr]
    exact String.toList_append

private theorem not_mem_digits {c : Char} (other : c.isDigit = false) (n : Nat) : c ∉ Nat.toDigits 10 n := by
  intro member
  have digit := Nat.isDigit_of_mem_toDigits (by decide) (by decide) member
  exact absurd (other.symm.trans digit) Bool.false_ne_true

private theorem toString_inj {n m : Int} (same : toString n = toString m) : n = m := by
  have spelled := congrArg String.toList same
  rw [toList_toString, toList_toString] at spelled
  have unsigned : ∀ n, '-' ∉ Nat.toDigits 10 n := not_mem_digits rfl
  have digits {n m : Nat} (same : Nat.toDigits 10 n = Nat.toDigits 10 m) : n = m := by
    have value := congrArg (Nat.ofDigitChars 10 · 0) same
    simpa only [Nat.ofDigitChars_ten_toDigits] using value
  by_cases negative : n < 0
  · by_cases negative' : m < 0
    · rw [if_pos negative, if_pos negative'] at spelled
      have magnitudes := digits (List.tail_eq_of_cons_eq spelled)
      omega
    · rw [if_pos negative, if_neg negative'] at spelled
      exact absurd (spelled ▸ List.mem_cons_self) (unsigned m.natAbs)
  · by_cases negative' : m < 0
    · rw [if_neg negative, if_pos negative'] at spelled
      exact absurd (spelled ▸ List.mem_cons_self) (unsigned n.natAbs)
    · rw [if_neg negative, if_neg negative'] at spelled
      have magnitudes := digits spelled
      omega

private theorem year_staysOnLine (year : Int) : StaysOnLine (toString year) := by
  intro member
  have plain : '\n' ∉ Nat.toDigits 10 year.natAbs := not_mem_digits rfl _
  rw [toList_toString] at member
  split at member
  · exact plain (List.mem_of_ne_of_mem (by decide) member)
  · exact plain member

private theorem notice_inj {year year' : Int} {rest rest' : String}
    (same : notice year ++ rest = notice year' ++ rest') : year = year' ∧ rest = rest' := by
  unfold notice at same
  simp only [String.append_assoc] at same
  have line := (String.append_right_inj _).mp ((String.append_right_inj _).mp same)
  obtain ⟨years, rests⟩ := field_eq (year_staysOnLine year) (year_staysOnLine year') (by decide) line
  repeat replace rests := (String.append_right_inj _).mp rests
  exact ⟨toString_inj years, rests⟩

private theorem generationComment_inj {generator generator' rest rest' : String} (plain : StaysOnLine generator)
    (plain' : StaysOnLine generator')
    (same : generationComment generator ++ rest = generationComment generator' ++ rest') :
    generator = generator' ∧ rest = rest' := by
  unfold generationComment at same
  simp only [String.append_assoc] at same
  obtain ⟨generators, rests⟩ := field_eq plain plain' (by simp) ((String.append_right_inj _).mp same)
  repeat replace rests := (String.append_right_inj _).mp rests
  exact ⟨generators, rests⟩

/-- Texts that begin with different characters are different. -/
theorem openings_differ {opening opening' : String} {c d : Char} (opens : opening.toList.head? = some c)
    (opens' : opening'.toList.head? = some d) (other : c ≠ d) (rest rest' : String) :
    opening ++ rest ≠ opening' ++ rest' := by
  intro same
  have heads := congrArg (fun text => text.toList.head?) same
  simp only [String.toList_append, List.head?_append, opens, opens', Option.some_or] at heads
  exact other (Option.some.inj heads)

def importLine (name : String) : String := "import " ++ name ++ ";\n"

private theorem importLine_inj {name name' rest rest' : String} (plain : StaysOnLine name) (plain' : StaysOnLine name')
    (same : importLine name ++ rest = importLine name' ++ rest') : name = name' ∧ rest = rest' := by
  unfold importLine at same
  simp only [String.append_assoc] at same
  exact field_eq plain plain' (by decide) ((String.append_right_inj _).mp same)

/-- An import line does not begin as what stands after the import lines. -/
theorem importLine_ne {opening : String} {c : Char} (opens : opening.toList.head? = some c) (other : 'i' ≠ c)
    (name rest rest' : String) : importLine name ++ rest ≠ opening ++ rest' := by
  unfold importLine
  rw [String.append_assoc, String.append_assoc]
  exact openings_differ rfl opens other _ _

/-- Import lines can be told from the blank line after them. -/
theorem importLines_inj {names names' : List String} {rest rest' : String}
    (plain : ∀ name ∈ names, StaysOnLine name) (plain' : ∀ name ∈ names', StaysOnLine name)
    (same : String.join (names.map importLine) ++ ("\n" ++ rest) =
      String.join (names'.map importLine) ++ ("\n" ++ rest')) : names = names' ∧ rest = rest' := by
  induction names generalizing names' with
  | nil =>
    cases names' with
    | nil => exact ⟨rfl, (String.append_right_inj _).mp ((String.append_right_inj _).mp same)⟩
    | cons name' names' =>
      rw [List.map_cons, String.join_cons, String.append_assoc, List.map_nil, String.join_nil,
        String.empty_append] at same
      exact absurd same.symm (importLine_ne rfl (by decide) _ _ _)
  | cons name names ih =>
    obtain ⟨here, later⟩ := List.forall_mem_cons.mp plain
    rw [List.map_cons, String.join_cons, String.append_assoc] at same
    cases names' with
    | nil =>
      rw [List.map_nil, String.join_nil, String.empty_append] at same
      exact absurd same (importLine_ne rfl (by decide) _ _ _)
    | cons name' names' =>
      obtain ⟨here', later'⟩ := List.forall_mem_cons.mp plain'
      rw [List.map_cons, String.join_cons, String.append_assoc] at same
      obtain ⟨rfl, more⟩ := importLine_inj here here' same
      obtain ⟨rfl, rests⟩ := ih later later' more
      exact ⟨rfl, rests⟩

private theorem importBlock_of_nonempty {names : List String} (some : names ≠ []) :
    importBlock names = String.join (names.map importLine) ++ "\n" := by
  unfold importBlock
  rw [if_neg (by simpa using some)]
  rfl

theorem importBlock_eq_empty_iff {names : List String} : importBlock names = "" ↔ names = [] := by
  constructor
  · intro empty
    by_cases none : names = []
    · exact none
    · rw [importBlock_of_nonempty none] at empty
      have ends : "\n" ≠ "" := by decide
      exact absurd (String.append_eq_empty_iff.mp empty).2 ends
  · rintro rfl
    rfl

/-- The imports can be told from the class that follows them, also where there are none. -/
theorem importBlock_inj {names names' : List String} {rest rest' : String}
    (plain : ∀ name ∈ names, StaysOnLine name) (plain' : ∀ name ∈ names', StaysOnLine name)
    (same : importBlock names ++ ("public class " ++ rest) =
      importBlock names' ++ ("public class " ++ rest')) : names = names' ∧ rest = rest' := by
  have apart {names : List String} {rest rest' : String} (some : names ≠ []) :
      importBlock names ++ rest ≠ "public class " ++ rest' := by
    obtain ⟨name, names, rfl⟩ := List.exists_cons_of_ne_nil some
    rw [importBlock_of_nonempty some, List.map_cons, String.join_cons, String.append_assoc,
      String.append_assoc]
    exact importLine_ne rfl (by decide) _ _ _
  by_cases none : names = []
  · by_cases none' : names' = []
    · rw [none, none'] at same ⊢
      exact ⟨rfl, (String.append_right_inj _).mp ((String.append_right_inj _).mp same)⟩
    · rw [importBlock_eq_empty_iff.mpr none, String.empty_append] at same
      exact absurd same.symm (apart none')
  · by_cases none' : names' = []
    · rw [importBlock_eq_empty_iff.mpr none', String.empty_append] at same
      exact absurd same (apart none)
    · rw [importBlock_of_nonempty none, importBlock_of_nonempty none', String.append_assoc,
        String.append_assoc] at same
      obtain ⟨imports, rests⟩ := importLines_inj plain plain' same
      exact ⟨imports, (String.append_right_inj _).mp rests⟩

/-- A header each of whose fields stays on its line. -/
structure Header.StaysOnLines (header : Header) : Prop where
  className : StaysOnLine header.className
  package : StaysOnLine header.package
  generatorName : StaysOnLine header.generatorName

/-- A framed text has one header, one list of imports and one body. -/
theorem frame_inj {header header' : Header} {imports imports' : List String} {body body' : String}
    (plain : header.StaysOnLines) (plain' : header'.StaysOnLines)
    (named : ∀ name ∈ imports, StaysOnLine name) (named' : ∀ name ∈ imports', StaysOnLine name)
    (same : frame header imports body = frame header' imports' body') :
    header = header' ∧ imports = imports' ∧ body = body' := by
  unfold frame at same
  simp only [String.append_assoc] at same
  obtain ⟨years, afterNotice⟩ := notice_inj same
  obtain ⟨generators, afterComment⟩ :=
    generationComment_inj plain.generatorName plain'.generatorName afterNotice
  obtain ⟨packages, afterPackage⟩ :=
    field_eq plain.package plain'.package (by decide) ((String.append_right_inj _).mp afterComment)
  obtain ⟨imports, afterImports⟩ := importBlock_inj named named' afterPackage
  obtain ⟨classNames, afterClass⟩ := field_eq plain.className plain'.className (by decide) afterImports
  refine ⟨?_, imports, (String.append_left_inj _).mp afterClass⟩
  cases header
  cases header'
  exact (Header.mk.injEq ..).mpr ⟨classNames, packages, generators, years⟩

/-! ### Composing in a run -/

/-- A text that composing answers in a run from a fresh draft: the header that it is given, and the steps
before it. -/
def Composed (header : Header) (earlier : List Step) (text : String) : Prop :=
  ∃ operations s later, course operations {} = earlier ++ s :: later ∧
    s.operation = .compose header ∧ s.answer = .ok (.text text)

/-- A composed text frames the names and the texts that were added before. -/
theorem Composed.text_eq {header : Header} {earlier : List Step} {text : String}
    (composed : Composed header earlier text) :
    ∃ names, ListsAdded earlier names ∧ text = frame header names (addedText earlier) := by
  obtain ⟨operations, s, later, split, composing, answer⟩ := composed
  obtain ⟨way, memory⟩ := remembers_earlier Remembers.fresh split
  rw [List.nil_append] at memory
  refine ⟨_, memory.lists_added, ?_⟩
  rw [← memory.added_text]
  cases way with
  | accepted =>
    subst composing
    exact (Answer.text.inj (Except.ok.inj answer)).symm
  | refused => cases answer
  | commented => cases answer
  | halfComposed => cases answer

private theorem ListsAdded.staysOnLine {earlier : List Step} {names : List String} (lists : ListsAdded earlier names)
    (named : ∀ s ∈ earlier, ∀ name ∈ s.acceptedNames, StaysOnLine name) : ∀ name ∈ names, StaysOnLine name := by
  intro name member
  obtain ⟨s, among, added⟩ := (lists.complete name).mp member
  exact named s among name added

/-- Two composed texts whose fields and import names stay on their lines are the same exactly if the headers
are the same, the same names were imported, and the texts added to the body come to the same; the order of
the imports, their repetitions and the cuts of the body have no part in it. The import lines stand in the
ascending order of their names, each once, and the block of them is absent exactly if nothing was
imported. -/
theorem composed_text_determines_its_parts {header header' : Header} {earlier earlier' : List Step}
    {text text' : String} (composed : Composed header earlier text)
    (composed' : Composed header' earlier' text') (plain : header.StaysOnLines)
    (plain' : header'.StaysOnLines) (named : ∀ s ∈ earlier, ∀ name ∈ s.acceptedNames, StaysOnLine name)
    (named' : ∀ s ∈ earlier', ∀ name ∈ s.acceptedNames, StaysOnLine name) :
    (text = text' ↔ header = header' ∧
      (∀ name, (∃ s ∈ earlier, name ∈ s.acceptedNames) ↔ ∃ s ∈ earlier', name ∈ s.acceptedNames) ∧
      addedText earlier = addedText earlier') ∧
    ∃ names block, ListsAdded earlier names ∧
      text = notice header.copyrightYear ++ generationComment header.generatorName ++
        "package " ++ header.package ++ ";\n\n" ++ block ++
        "public class " ++ header.className ++ " \x7b\n" ++ addedText earlier ++ "\x7d\n" ∧
      (block = "" ↔ ∀ s ∈ earlier, s.acceptedNames = []) ∧
      (block ≠ "" → block = String.join (names.map importLine) ++ "\n") := by
  obtain ⟨names, lists, framed⟩ := composed.text_eq
  obtain ⟨names', lists', framed'⟩ := composed'.text_eq
  refine ⟨⟨fun same => ?_, fun ⟨headers, imports, bodies⟩ => ?_⟩, names, importBlock names, lists, framed, ?_, ?_⟩
  · rw [framed, framed'] at same
    obtain ⟨headers, imports, bodies⟩ :=
      frame_inj plain plain' (lists.staysOnLine named) (lists'.staysOnLine named') same
    refine ⟨headers, fun name => ?_, bodies⟩
    rw [← lists.complete, ← lists'.complete, imports]
  · have same : names = names' := lists.ascending.eq_of_mem_iff lists'.ascending fun name => by
      rw [lists.complete, lists'.complete, imports]
    rw [framed, framed', headers, same, bodies]
  · rw [importBlock_eq_empty_iff, List.eq_nil_iff_forall_not_mem]
    simp only [lists.complete, List.eq_nil_iff_forall_not_mem]
    grind
  · intro present
    exact importBlock_of_nonempty (mt importBlock_eq_empty_iff.mpr present)

/-- A generator that looks like a blank of the frame, and a body that reads like imports. The same imports in
another order and one twice, and the same body in other pieces, give the same text. An import and a body
that begins with its line do not. -/
theorem lookalikes_are_told_apart :
    let header : Header := ⟨"C", "p", "\x7b\x7d", -1⟩
    let earlier := course [.addImport "b.B", .addText "import x;\n", .addImport "a.A", .addText "y"] {}
    let mixed := course [.addText "import x;", .addImport "a.A", .addImport "b.B", .addText "\ny",
      .addImport "a.A"] {}
    let imported := course [.addImport "a.A"] {}
    let pretended := course [.addText "import a.A;\n"] {}
    Composed header earlier (frame header ["a.A", "b.B"] (addedText earlier)) ∧
    Composed header mixed (frame header ["a.A", "b.B"] (addedText mixed)) ∧
    frame header ["a.A", "b.B"] (addedText earlier) = frame header ["a.A", "b.B"] (addedText mixed) ∧
    Composed header imported (frame header ["a.A"] (addedText imported)) ∧
    Composed header pretended (frame header [] (addedText pretended)) ∧
    frame header ["a.A"] (addedText imported) ≠ frame header [] (addedText pretended) := by
  intro header earlier mixed imported pretended
  have plain : header.StaysOnLines := ⟨by decide, by decide, by decide⟩
  have composed : Composed header earlier (frame header ["a.A", "b.B"] (addedText earlier)) :=
    ⟨[.addImport "b.B", .addText "import x;\n", .addImport "a.A", .addText "y", .compose header], _, [], rfl,
      rfl, rfl⟩
  have composedMixed : Composed header mixed (frame header ["a.A", "b.B"] (addedText mixed)) :=
    ⟨[.addText "import x;", .addImport "a.A", .addImport "b.B", .addText "\ny", .addImport "a.A",
      .compose header], _, [], rfl, rfl, rfl⟩
  have composedImported : Composed header imported (frame header ["a.A"] (addedText imported)) :=
    ⟨[.addImport "a.A", .compose header], _, [], rfl, rfl, rfl⟩
  have composedPretended : Composed header pretended (frame header [] (addedText pretended)) :=
    ⟨[.addText "import a.A;\n", .compose header], _, [], rfl, rfl, rfl⟩
  obtain ⟨same, -⟩ :=
    composed_text_determines_its_parts composed composedMixed plain plain (by decide) (by decide)
  obtain ⟨differ, -⟩ :=
    composed_text_determines_its_parts composedImported composedPretended plain plain (by decide) (by decide)
  refine ⟨composed, composedMixed, same.mpr ⟨rfl, ?_, rfl⟩, composedImported, composedPretended, ?_⟩
  · intro name
    have names : earlier.flatMap Step.acceptedNames = ["b.B", "a.A"] := rfl
    have namesMixed : mixed.flatMap Step.acceptedNames = ["a.A", "b.B", "a.A"] := rfl
    rw [← List.mem_flatMap, ← List.mem_flatMap, names, namesMixed]
    grind
  · intro equal
    have added : ∃ s ∈ pretended, "a.A" ∈ s.acceptedNames :=
      ((differ.mp equal).2.1 "a.A").mp ⟨_, List.mem_cons_self, List.mem_cons_self⟩
    revert added
    decide

end NumberingPlan.Source
