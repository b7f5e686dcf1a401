import NumberingPlan.Proofs.DraftSteps
import NumberingPlan.Source.Unit

/-! Runs of operations on one draft, in any order and of any length. Imports and body are each taken at
most once; what is taken, and whether an operation is refused, follows from the steps before it. -/
namespace NumberingPlan.Source

/-- One operation on a draft. -/
inductive Operation where
  | addImport (name : String)
  | addText (text : String)
  | addTemplate (template : String) (arguments : List Json)
  | emit (subject : Subject)
  | takeImports
  | takeBody
  | compose (header : Header)

/-- What an accepted operation answers. -/
inductive Answer where
  | nothing
  | names (names : List String)
  | text (text : String)
  deriving DecidableEq, Repr

namespace Operation

/-- An operation as a step on a draft. -/
def perform : Operation → Drafting Answer
  | addImport name => do Source.addImport name; return .nothing
  | addText text => do Source.addText text; return .nothing
  | addTemplate template arguments => do Source.addTemplate template arguments; return .nothing
  | emit subject => do emitSubject subject; return .nothing
  | takeImports => do return .names (← Source.takeImports)
  | takeBody => do return .text (← Source.takeBody)
  | compose header => do return .text (← Source.compose header)

/-- The import names that an operation brings. -/
def names : Operation → List String
  | addImport name => [name]
  | emit (.shape shape) => accessorImports shape
  | _ => []

/-- The texts that an operation brings. -/
def texts : Operation → List String
  | addText text => [text]
  | addTemplate template arguments => (Template.format template (.many arguments)).toOption.toList
  | emit (.shape shape) => [leadingComment shape, accessorCode shape]
  | _ => []

def takesImports : Operation → Bool
  | takeImports | compose _ => true
  | _ => false

def takesBody : Operation → Bool
  | takeBody | compose _ => true
  | _ => false

/-- Whether an operation asks something of the imports. -/
def touchesImports : Operation → Bool
  | addImport _ | emit (.shape _) | takeImports | compose _ => true
  | _ => false

/-- Whether an operation asks something of the body. -/
def touchesBody : Operation → Bool
  | addText _ | addTemplate _ _ | emit (.shape _) | takeBody | compose _ => true
  | _ => false

/-- Whether every draft refuses an operation: what is no shape has no accessor, and a template that
cannot be filled no text. -/
def unfit : Operation → Bool
  | emit (.value _) => true
  | addTemplate template arguments => !(Template.format template (.many arguments)).isOk
  | _ => false

end Operation

/-- An operation that was performed: the draft it met, its answer and the draft it left. -/
structure Step where
  operation : Operation
  before : Draft
  answer : Except Fault Answer
  after : Draft

def Operation.step (operation : Operation) (draft : Draft) : Step :=
  match operation.perform draft with
  | .ok answer after => ⟨operation, draft, .ok answer, after⟩
  | .error fault after => ⟨operation, draft, .error fault, after⟩

/-- The steps of a run. A refused operation does not end it. -/
def course : List Operation → Draft → List Step
  | [], _ => []
  | operation :: rest, draft =>
    operation.step draft :: course rest (operation.step draft).after

namespace Step

/-- Whether a step takes the imports. Composing takes them first, so it has them also where the body is
refused. -/
def takesImports (s : Step) : Bool :=
  match s.operation, s.answer with
  | operation, .ok _ => operation.takesImports
  | .compose _, .error .bodyTaken => true
  | _, .error _ => false

def takesBody (s : Step) : Bool :=
  match s.answer with
  | .ok _ => s.operation.takesBody
  | .error _ => false

/-- The import names that a step adds. -/
def acceptedNames (s : Step) : List String :=
  match s.answer with
  | .ok _ => s.operation.names
  | .error _ => []

/-- The texts that a step adds. An accessor whose imports are refused has left its comment. -/
def acceptedTexts (s : Step) : List String :=
  match s.operation, s.answer with
  | operation, .ok _ => operation.texts
  | .emit (.shape shape), .error .importsTaken => [leadingComment shape]
  | _, .error _ => []

end Step

/-! ### One step -/

/-- A draft after an operation that it accepts. -/
def Draft.accept (draft : Draft) (operation : Operation) : Draft where
  imports :=
    { names := operation.names.foldl (fun sofar name => insertName name sofar) draft.imports.names
      taken := operation.takesImports || draft.imports.taken }
  body :=
    { text := operation.texts.foldl (fun sofar text => sofar ++ text) draft.body.text
      taken := operation.takesBody || draft.body.taken }

private theorem Draft.accept_without_text {draft : Draft} {operation : Operation} (noText : operation.texts = [])
    (notTaking : operation.takesBody = false) :
    draft.accept operation = { draft with
      imports :=
        { names := operation.names.foldl (fun sofar name => insertName name sofar) draft.imports.names
          taken := operation.takesImports || draft.imports.taken } } := by
  simp [Draft.accept, noText, notTaking]

private theorem Draft.accept_without_names {draft : Draft} {operation : Operation}
    (noNames : operation.names = []) (notTaking : operation.takesImports = false) :
    draft.accept operation = { draft with
      body :=
        { text := operation.texts.foldl (fun sofar text => sofar ++ text) draft.body.text
          taken := operation.takesBody || draft.body.taken } } := by
  simp [Draft.accept, noNames, notTaking]

/-- What a draft answers to an operation that it accepts. -/
def Draft.reply (draft : Draft) : Operation → Answer
  | .takeImports => .names draft.imports.names
  | .takeBody => .text draft.body.text
  | .compose header => .text (frame header draft.imports.names draft.body.text)
  | _ => .nothing

/-- Why a draft refuses an operation. -/
def Operation.RefusedBy (operation : Operation) (draft : Draft) : Prop :=
  operation.unfit = true ∨
  operation.touchesImports = true ∧ draft.imports.taken = true ∨
  operation.touchesBody = true ∧ draft.body.taken = true

private theorem Operation.not_refusedBy {operation : Operation} {draft : Draft}
    (fit : operation.unfit = false)
    (imports : operation.touchesImports = true → draft.imports.taken = false)
    (body : operation.touchesBody = true → draft.body.taken = false) :
    ¬ operation.RefusedBy draft := by
  rintro (unfit | ⟨touches, taken⟩ | ⟨touches, taken⟩)
  · exact absurd (fit.symm.trans unfit) Bool.false_ne_true
  · exact absurd ((imports touches).symm.trans taken) Bool.false_ne_true
  · exact absurd ((body touches).symm.trans taken) Bool.false_ne_true

/-- The ways a step goes. It is accepted, or refused without a trace, with two exceptions: an accessor
whose imports alone are refused leaves its comment, and composing takes the imports before the body
refuses it. -/
inductive Step.Way : Step → Prop where
  | accepted {operation : Operation} {draft after : Draft}
      (fit : operation.unfit = false)
      (imports : operation.touchesImports = true → draft.imports.taken = false)
      (body : operation.touchesBody = true → draft.body.taken = false)
      (left : after = draft.accept operation) :
      Way ⟨operation, draft, .ok (draft.reply operation), after⟩
  | refused {operation : Operation} {draft : Draft} {fault : Fault}
      (why : operation.RefusedBy draft)
      (emitting : ∀ shape, operation = .emit (.shape shape) → fault = .bodyTaken)
      (composing : ∀ header, operation = .compose header →
        fault = .importsTaken ∧ draft.imports.taken = true) :
      Way ⟨operation, draft, .error fault, draft⟩
  | commented (shape : Shape) {draft : Draft} (imports : draft.imports.taken = true)
      (body : draft.body.taken = false) :
      Way ⟨.emit (.shape shape), draft, .error .importsTaken,
        { draft with body := { draft.body with text := draft.body.text ++ leadingComment shape } }⟩
  | halfComposed (header : Header) {draft : Draft} (imports : draft.imports.taken = false)
      (body : draft.body.taken = true) :
      Way ⟨.compose header, draft, .error .bodyTaken,
        { draft with imports := { draft.imports with taken := true } }⟩

private theorem Operation.step_of_ok {operation : Operation} {draft after : Draft} {answer : Answer}
    (run : operation.perform draft = .ok answer after) :
    operation.step draft = ⟨operation, draft, .ok answer, after⟩ := by
  simp only [Operation.step, run]

private theorem Operation.step_of_error {operation : Operation} {draft after : Draft} {fault : Fault}
    (run : operation.perform draft = .error fault after) :
    operation.step draft = ⟨operation, draft, .error fault, after⟩ := by
  simp only [Operation.step, run]

private theorem addTemplate_way (template : String) (arguments : List Json) (draft : Draft) :
    ((Operation.addTemplate template arguments).step draft).Way := by
  obtain ⟨imports, ⟨text, bodyTaken⟩⟩ := draft
  cases filled : Template.format template (.many arguments) with
  | error fault =>
    have run : (Operation.addTemplate template arguments).perform ⟨imports, ⟨text, bodyTaken⟩⟩ =
        .error (.badTemplate fault) ⟨imports, ⟨text, bodyTaken⟩⟩ := by
      simp only [Operation.perform, addTemplate, filled]
      rfl
    rw [Operation.step_of_error run]
    exact .refused (.inl (by simp [Operation.unfit, filled, Except.isOk, Except.toBool])) nofun nofun
  | ok added =>
    have run : (Operation.addTemplate template arguments).perform ⟨imports, ⟨text, bodyTaken⟩⟩ =
        (Operation.addText added).perform ⟨imports, ⟨text, bodyTaken⟩⟩ := by
      simp only [Operation.perform, addTemplate, filled]
    cases bodyTaken with
    | true =>
      rw [Operation.step_of_error run]
      exact .refused (.inr (.inr ⟨rfl, rfl⟩)) nofun nofun
    | false =>
      rw [Operation.step_of_ok run]
      exact .accepted (by simp [Operation.unfit, filled, Except.isOk, Except.toBool]) nofun (fun _ => rfl)
        (by simp [Draft.accept, Operation.names, Operation.texts, Operation.takesImports,
          Operation.takesBody, filled, Except.toOption])

private theorem emit_way (shape : Shape) (draft : Draft) :
    ((Operation.emit (.shape shape)).step draft).Way := by
  obtain ⟨⟨names, importsTaken⟩, ⟨text, bodyTaken⟩⟩ := draft
  cases bodyTaken with
  | true => exact .refused (.inr (.inr ⟨rfl, rfl⟩)) (fun _ _ => rfl) nofun
  | false =>
    cases importsTaken with
    | true => cases shape <;> exact .commented _ rfl rfl
    | false =>
      have run : (Operation.emit (.shape shape)).perform ⟨⟨names, false⟩, ⟨text, false⟩⟩ =
          .ok .nothing
            ⟨⟨(accessorImports shape).foldl (fun sofar name => insertName name sofar) names, false⟩,
              ⟨text ++ leadingComment shape ++ accessorCode shape, false⟩⟩ := by
        simp only [Operation.perform, emitSubject, bind, EStateM.bind, String.append_assoc,
          emit_run shape ⟨⟨names, false⟩, ⟨text, false⟩⟩ rfl rfl]
        rfl
      rw [Operation.step_of_ok run]
      exact .accepted rfl (fun _ => rfl) (fun _ => rfl) rfl

private theorem Operation.step_way (operation : Operation) (draft : Draft) : (operation.step draft).Way := by
  obtain ⟨⟨names, importsTaken⟩, ⟨text, bodyTaken⟩⟩ := draft
  cases operation with
  | addImport name =>
    cases importsTaken with
    | true => exact .refused (.inr (.inl ⟨rfl, rfl⟩)) nofun nofun
    | false => exact .accepted rfl (fun _ => rfl) nofun rfl
  | addText added =>
    cases bodyTaken with
    | true => exact .refused (.inr (.inr ⟨rfl, rfl⟩)) nofun nofun
    | false => exact .accepted rfl nofun (fun _ => rfl) rfl
  | addTemplate template arguments => exact addTemplate_way template arguments _
  | emit subject =>
    cases subject with
    | value value => exact .refused (.inl rfl) nofun nofun
    | shape shape => exact emit_way shape _
  | takeImports =>
    cases importsTaken with
    | true => exact .refused (.inr (.inl ⟨rfl, rfl⟩)) nofun nofun
    | false => exact .accepted rfl (fun _ => rfl) nofun rfl
  | takeBody =>
    cases bodyTaken with
    | true => exact .refused (.inr (.inr ⟨rfl, rfl⟩)) nofun nofun
    | false => exact .accepted rfl nofun (fun _ => rfl) rfl
  | compose header =>
    cases importsTaken with
    | true => exact .refused (.inr (.inl ⟨rfl, rfl⟩)) nofun (fun _ _ => ⟨rfl, rfl⟩)
    | false =>
      cases bodyTaken with
      | true => exact .halfComposed header rfl rfl
      | false => exact .accepted rfl (fun _ => rfl) (fun _ => rfl) rfl

/-! ### The draft as the memory of a run -/

private theorem Operation.brings_no_names {operation : Operation}
    (untouched : ¬ operation.touchesImports = true) :
    operation.names = [] ∧ operation.takesImports = false := by
  cases operation with
  | emit subject => cases subject <;> simp_all [names, takesImports, touchesImports]
  | _ => simp_all [names, takesImports, touchesImports]

private theorem Operation.brings_no_text {operation : Operation} (untouched : ¬ operation.touchesBody = true) :
    operation.texts = [] ∧ operation.takesBody = false := by
  cases operation with
  | emit subject => cases subject <;> simp_all [texts, takesBody, touchesBody]
  | _ => simp_all [texts, takesBody, touchesBody]

namespace Step.Way

variable {s : Step}

private theorem imports_stay (way : s.Way) (taken : s.before.imports.taken = true) :
    s.after.imports = s.before.imports := by
  cases way with
  | accepted fit imports body left =>
    have untouched := fun touches => Bool.false_ne_true ((imports touches).symm.trans taken)
    obtain ⟨noNames, notTaking⟩ := Operation.brings_no_names untouched
    rw [left, Draft.accept_without_names noNames notTaking]
  | refused => rfl
  | commented => rfl
  | halfComposed header imports body => exact absurd (imports.symm.trans taken) Bool.false_ne_true

private theorem body_stays (way : s.Way) (taken : s.before.body.taken = true) :
    s.after.body = s.before.body := by
  cases way with
  | accepted fit imports body left =>
    have untouched := fun touches => Bool.false_ne_true ((body touches).symm.trans taken)
    obtain ⟨noText, notTaking⟩ := Operation.brings_no_text untouched
    rw [left, Draft.accept_without_text noText notTaking]
  | refused => rfl
  | commented shape imports body => exact absurd (body.symm.trans taken) Bool.false_ne_true
  | halfComposed => rfl

private theorem names_after (way : s.Way) : s.after.imports.names =
    s.acceptedNames.foldl (fun sofar name => insertName name sofar) s.before.imports.names := by
  cases way with
  | accepted fit imports body left => rw [left]; rfl
  | refused => rfl
  | commented => rfl
  | halfComposed => rfl

private theorem text_after (way : s.Way) : s.after.body.text =
    s.acceptedTexts.foldl (fun sofar text => sofar ++ text) s.before.body.text := by
  cases way with
  | accepted fit imports body left => rw [left]; rfl
  | @refused operation draft fault why emitting composing =>
    have addsNothing : acceptedTexts ⟨operation, draft, .error fault, draft⟩ = [] := by
      cases operation with
      | emit subject =>
        cases subject with
        | value value => cases fault <;> rfl
        | shape shape => rw [emitting shape rfl]; rfl
      | _ => cases fault <;> rfl
    rw [addsNothing]
    rfl
  | commented => rfl
  | halfComposed => rfl

/-- The imports are taken once: a step that takes them meets a draft whose imports were not taken. -/
theorem imports_count (way : s.Way) :
    s.before.imports.taken.toNat + s.takesImports.toNat = s.after.imports.taken.toNat := by
  cases way with
  | @accepted operation draft after fit imports body left =>
    rw [left]
    by_cases touches : operation.touchesImports = true
    · have ready := imports touches
      simp [ready, Draft.accept, Step.takesImports]
    · obtain ⟨-, noTaking⟩ := Operation.brings_no_names touches
      simp [Draft.accept, Step.takesImports, noTaking]
  | @refused operation draft fault why emitting composing =>
    have takesNothing : takesImports ⟨operation, draft, .error fault, draft⟩ = false := by
      cases operation with
      | compose header => rw [(composing header rfl).1]; rfl
      | _ => cases fault <;> rfl
    rw [takesNothing]
    rfl
  | commented => simp [Step.takesImports]
  | halfComposed header imports body => simp [Step.takesImports, imports]

private theorem body_count (way : s.Way) :
    s.before.body.taken.toNat + s.takesBody.toNat = s.after.body.taken.toNat := by
  cases way with
  | @accepted operation draft after fit imports body left =>
    rw [left]
    by_cases touches : operation.touchesBody = true
    · have ready := body touches
      simp [ready, Draft.accept, Step.takesBody]
    · obtain ⟨-, noTaking⟩ := Operation.brings_no_text touches
      simp [Draft.accept, Step.takesBody, noTaking]
  | refused => simp [Step.takesBody]
  | commented => simp [Step.takesBody]
  | halfComposed => simp [Step.takesBody]

theorem refused_iff (way : s.Way) :
    (∃ fault, s.answer = .error fault) ↔ s.operation.RefusedBy s.before := by
  cases way with
  | accepted fit imports body left =>
    refine iff_of_false ?_ (Operation.not_refusedBy fit imports body)
    rintro ⟨fault, ⟨⟩⟩
  | refused why => exact iff_of_true ⟨_, rfl⟩ why
  | commented shape imports body => exact iff_of_true ⟨_, rfl⟩ (.inr (.inl ⟨rfl, imports⟩))
  | halfComposed header imports body => exact iff_of_true ⟨_, rfl⟩ (.inr (.inr ⟨rfl, body⟩))

private theorem answer_of_fresh (way : s.Way) (fit : s.operation.unfit = false)
    (imports : s.operation.touchesImports = true → s.before.imports.taken = false)
    (body : s.operation.touchesBody = true → s.before.body.taken = false) :
    s.answer = .ok (s.before.reply s.operation) := by
  have notRefused := mt way.refused_iff.mp (Operation.not_refusedBy fit imports body)
  cases way with
  | accepted => rfl
  | refused => exact absurd ⟨_, rfl⟩ notRefused
  | commented => exact absurd ⟨_, rfl⟩ notRefused
  | halfComposed => exact absurd ⟨_, rfl⟩ notRefused

private theorem half_composed (way : s.Way) {header : Header} (composing : s.operation = .compose header)
    (imports : s.before.imports.taken = false) (body : s.before.body.taken = true) :
    s.answer = .error .bodyTaken ∧ s.after.imports.taken = true := by
  cases way with
  | accepted fit _ fresh =>
    subst composing
    exact absurd ((fresh rfl).symm.trans body) Bool.false_ne_true
  | refused why _ composed =>
    exact absurd (imports.symm.trans (composed header composing).2) Bool.false_ne_true
  | commented => cases composing
  | halfComposed => exact ⟨rfl, rfl⟩

private theorem not_composed (way : s.Way) {header : Header} (composing : s.operation = .compose header)
    (imports : s.before.imports.taken = true) :
    s.answer = .error .importsTaken ∧ s.after.body = s.before.body := by
  cases way with
  | accepted fit fresh =>
    subst composing
    exact absurd ((fresh rfl).symm.trans imports) Bool.false_ne_true
  | refused why _ composed => exact ⟨congrArg _ (composed header composing).1, rfl⟩
  | commented => cases composing
  | halfComposed _ fresh => exact absurd (fresh.symm.trans imports) Bool.false_ne_true

private theorem not_emitted (way : s.Way) {subject : Subject} {fault : Fault}
    (emitting : s.operation = .emit subject) (refused : s.answer = .error fault) :
    s.after.imports = s.before.imports ∧
    (s.after.body = s.before.body ∨ ∃ shape, subject = .shape shape ∧
      s.before.imports.taken = true ∧ s.before.body.taken = false ∧
      s.after.body = { s.before.body with text := s.before.body.text ++ leadingComment shape }) := by
  cases way with
  | accepted => cases refused
  | refused => exact ⟨rfl, .inl rfl⟩
  | commented shape imports body =>
    exact ⟨rfl, .inr ⟨shape, (Operation.emit.inj emitting).symm, imports, body, rfl⟩⟩
  | halfComposed => cases emitting

end Step.Way

/-- What a draft remembers of the steps that led to it. -/
structure Remembers (draft : Draft) (past : List Step) : Prop where
  names : draft.imports.names =
    (past.flatMap Step.acceptedNames).foldl (fun sofar name => insertName name sofar) []
  importsTaken : draft.imports.taken.toNat = past.countP Step.takesImports
  text : draft.body.text =
    (past.flatMap Step.acceptedTexts).foldl (fun sofar text => sofar ++ text) ""
  bodyTaken : draft.body.taken.toNat = past.countP Step.takesBody

theorem Remembers.fresh : Remembers {} [] := ⟨rfl, rfl, rfl, rfl⟩

/-- One more step is remembered. -/
theorem Remembers.step {s : Step} {past : List Step} (memory : Remembers s.before past)
    (way : s.Way) : Remembers s.after (past ++ [s]) where
  names := by
    rw [way.names_after, memory.names, List.flatMap_append, List.flatMap_singleton, List.foldl_append]
  importsTaken := by
    rw [← way.imports_count, memory.importsTaken, List.countP_append, List.countP_singleton]
    cases s.takesImports <;> rfl
  text := by
    rw [way.text_after, memory.text, List.flatMap_append, List.flatMap_singleton, List.foldl_append]
  bodyTaken := by
    rw [← way.body_count, memory.bodyTaken, List.countP_append, List.countP_singleton]
    cases s.takesBody <;> rfl

private theorem Operation.step_before (operation : Operation) (draft : Draft) :
    (operation.step draft).before = draft := by
  unfold Operation.step
  split <;> rfl

/-- Within a run, each step meets a draft that remembers the steps before it. -/
theorem remembers_earlier {operations : List Operation} {draft : Draft} {past earlier later : List Step}
    {s : Step} (memory : Remembers draft past) (split : course operations draft = earlier ++ s :: later) :
    s.Way ∧ Remembers s.before (past ++ earlier) := by
  induction operations generalizing draft past earlier with
  | nil => exact absurd split (by simp [course])
  | cons operation rest ih =>
    have way := operation.step_way draft
    have met : Remembers (operation.step draft).before past := by
      rwa [operation.step_before draft]
    obtain ⟨rfl, here⟩ | ⟨between, rfl, there⟩ := List.cons_eq_append_iff.mp split
    · obtain ⟨rfl, -⟩ := List.cons.inj here
      rw [List.append_nil]
      exact ⟨way, met⟩
    · have found := ih (met.step way) there
      rwa [List.append_assoc] at found

/-- A run ends in a draft that remembers it. -/
theorem remembers_run (operations : List Operation) {draft : Draft} {past : List Step}
    (memory : Remembers draft past) : ∃ last, Remembers last (past ++ course operations draft) := by
  induction operations generalizing draft past with
  | nil => exact ⟨draft, by rwa [course, List.append_nil]⟩
  | cons operation rest ih =>
    have met : Remembers (operation.step draft).before past := by
      rwa [operation.step_before draft]
    obtain ⟨last, found⟩ := ih (met.step (operation.step_way draft))
    exact ⟨last, by rwa [List.append_assoc] at found⟩

private theorem any_of_count {past : List Step} {property : Step → Bool} {taken : Bool}
    (count : taken.toNat = past.countP property) : past.any property = taken := by
  cases taken with
  | true => exact List.any_eq_true.mpr (List.countP_pos_iff.mp (count ▸ Nat.one_pos))
  | false => exact List.any_eq_false.mpr (List.countP_eq_zero.mp count.symm)

/-! ### Runs from a fresh draft -/

/-- Names in ascending order, each once: those that the steps of a run have added. -/
structure ListsAdded (run : List Step) (names : List String) : Prop where
  ascending : names.Pairwise (· < ·)
  complete : ∀ name, name ∈ names ↔ ∃ s ∈ run, name ∈ s.acceptedNames

/-- The texts that the steps of a run have added, one after the other. -/
def addedText (run : List Step) : String := String.join (run.flatMap Step.acceptedTexts)

/-- How a step of a run goes, told by the steps before it. -/
structure Step.Follows (earlier : List Step) (s : Step) : Prop where
  /-- A step is refused if no draft takes it, or if it touches what an earlier step took. -/
  refused : (∃ fault, s.answer = .error fault) ↔
    s.operation.unfit = true ∨
    s.operation.touchesImports = true ∧ earlier.any Step.takesImports = true ∨
    s.operation.touchesBody = true ∧ earlier.any Step.takesBody = true
  importsTaken : s.operation = .takeImports → earlier.any Step.takesImports = false →
    ∃ names, ListsAdded earlier names ∧ s.answer = .ok (.names names)
  bodyTaken : s.operation = .takeBody → earlier.any Step.takesBody = false →
    s.answer = .ok (.text (addedText earlier))
  composed : ∀ header, s.operation = .compose header →
    earlier.any Step.takesImports = false → earlier.any Step.takesBody = false →
    ∃ names, ListsAdded earlier names ∧ s.answer = .ok (.text (frame header names (addedText earlier)))
  importsStay : earlier.any Step.takesImports = true → s.after.imports = s.before.imports
  bodyStays : earlier.any Step.takesBody = true → s.after.body = s.before.body
  /-- Where the body alone was taken, composing takes the imports all the same. -/
  halfComposed : ∀ header, s.operation = .compose header →
    earlier.any Step.takesImports = false → earlier.any Step.takesBody = true →
    s.answer = .error .bodyTaken ∧ s.after.imports.taken = true
  /-- Where the imports were taken, composing leaves the body as it was. -/
  notComposed : ∀ header, s.operation = .compose header → earlier.any Step.takesImports = true →
    s.answer = .error .importsTaken ∧ s.after.body = s.before.body
  /-- A refused accessor adds no import, and leaves its comment only where the imports alone were
  taken. -/
  notEmitted : ∀ subject fault, s.operation = .emit subject → s.answer = .error fault →
    s.after.imports = s.before.imports ∧
    (s.after.body = s.before.body ∨ ∃ shape, subject = .shape shape ∧
      earlier.any Step.takesImports = true ∧ earlier.any Step.takesBody = false ∧
      s.after.body = { s.before.body with text := s.before.body.text ++ leadingComment shape })

theorem Remembers.lists_added {draft : Draft} {past : List Step} (memory : Remembers draft past) :
    ListsAdded past draft.imports.names where
  ascending := memory.names ▸ insertNames_ascending _ List.Pairwise.nil
  complete name := by
    rw [memory.names, mem_insertNames, List.mem_flatMap]
    simp

theorem Remembers.added_text {draft : Draft} {past : List Step} (memory : Remembers draft past) :
    draft.body.text = addedText past := memory.text

/-- What the draft remembers decides how the next step goes. -/
theorem Step.Way.follows {s : Step} {earlier : List Step} (way : s.Way)
    (memory : Remembers s.before earlier) : s.Follows earlier := by
  have imports := any_of_count memory.importsTaken
  have body := any_of_count memory.bodyTaken
  have lists := memory.lists_added
  have text := memory.added_text
  exact
    { refused := by
        rw [imports, body]
        exact way.refused_iff
      importsTaken := by
        intro taking fresh
        have answer := way.answer_of_fresh (by rw [taking]; rfl) (fun _ => imports ▸ fresh)
          (by rw [taking]; exact nofun)
        exact ⟨_, lists, by rw [answer, taking]; rfl⟩
      bodyTaken := by
        intro taking fresh
        have answer := way.answer_of_fresh (by rw [taking]; rfl) (by rw [taking]; exact nofun)
          (fun _ => body ▸ fresh)
        rw [answer, taking, ← text]
        rfl
      composed := by
        intro header composing freshImports freshBody
        have answer := way.answer_of_fresh (by rw [composing]; rfl) (fun _ => imports ▸ freshImports)
          (fun _ => body ▸ freshBody)
        exact ⟨_, lists, by rw [answer, composing, ← text]; rfl⟩
      importsStay := fun taken => way.imports_stay (imports ▸ taken)
      bodyStays := fun taken => way.body_stays (body ▸ taken)
      halfComposed := fun _ composing fresh taken =>
        way.half_composed composing (imports ▸ fresh) (body ▸ taken)
      notComposed := fun _ composing taken => way.not_composed composing (imports ▸ taken)
      notEmitted := by
        intro subject fault emitting refused
        rw [imports, body]
        exact way.not_emitted emitting refused }

/-- Any operations in any order, from a fresh draft: imports and body are taken at most once each, the
imports as the ascending names that were added before, the body as the texts that were added before,
and nothing that touches a taken part is accepted or changes it. -/
theorem parts_are_taken_once (operations : List Operation) :
    (course operations {}).countP Step.takesImports ≤ 1 ∧
    (course operations {}).countP Step.takesBody ≤ 1 ∧
    ∀ earlier s later, course operations {} = earlier ++ s :: later → s.Follows earlier := by
  obtain ⟨last, memory⟩ := remembers_run operations Remembers.fresh
  rw [List.nil_append] at memory
  refine ⟨memory.importsTaken ▸ Bool.toNat_le _, memory.bodyTaken ▸ Bool.toNat_le _, ?_⟩
  intro earlier s later split
  obtain ⟨way, memory⟩ := remembers_earlier Remembers.fresh split
  exact way.follows memory

/-- Composing after the body was taken: it is refused, yet the imports are gone with it. -/
theorem composing_without_a_body :
    let header : Header := ⟨"CodeMap", "org.example", "Gen", 2010⟩
    let earlier := course [.addImport "org.A", .addText "x", .takeBody] {}
    let s := (Operation.compose header).step ⟨⟨["org.A"], false⟩, ⟨"x", true⟩⟩
    course [.addImport "org.A", .addText "x", .takeBody, .compose header, .addImport "org.B"] {} =
      earlier ++ s :: course [.addImport "org.B"] s.after ∧
    s.answer = .error .bodyTaken ∧ s.after.imports.taken = true := by
  intro header earlier s
  have split : course [.addImport "org.A", .addText "x", .takeBody, .compose header,
      .addImport "org.B"] {} = earlier ++ s :: course [.addImport "org.B"] s.after := rfl
  have follows := (parts_are_taken_once _).2.2 _ _ _ split
  exact ⟨split, follows.halfComposed header rfl rfl rfl⟩

end NumberingPlan.Source
