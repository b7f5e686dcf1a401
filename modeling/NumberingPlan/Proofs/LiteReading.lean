import NumberingPlan.Build
import NumberingPlan.Proofs.ListReading
import NumberingPlan.Proofs.SessionSteps

/-! Lite readings. Reading a source for a lite build fails exactly where reading it for a full build does,
with the same failure. Otherwise it gives the same territories without their example numbers. -/
namespace NumberingPlan

/-- A description without its example number. -/
def NumberDesc.withoutExample (d : NumberDesc) : NumberDesc := { d with exampleNumber := none }

/-- A territory without its example numbers. -/
def Territory.withoutExamples (t : Territory) : Territory :=
  { t with descriptions := t.descriptions.map fun (name, d) => (name, d.withoutExample) }

namespace Territory

private theorem descriptionOf_lite (e : Xml.Element) :
    descriptionOf true e = (descriptionOf false e).map NumberDesc.withoutExample := by
  unfold descriptionOf
  dsimp only
  cases lengthsIn (e.child? "possibleLengths") "national" with
  | error fault => rfl
  | ok lengths => cases lengthsIn (e.child? "possibleLengths") "localOnly" <;> rfl

private theorem descriptionsOf_lite (e : Xml.Element) (names : List String) : descriptionsOf true e names =
    (descriptionsOf false e names).map (List.map fun (name, d) => (name, d.withoutExample)) := by
  unfold descriptionsOf
  refine mapM_agrees (fun (name, child) => ?_) _
  dsimp only
  rw [descriptionOf_lite]
  cases descriptionOf false child <;> rfl

/-- The flag reaches nothing of an element but its descriptions. -/
theorem ofElement_lite (e : Xml.Element) : ofElement true e = (ofElement false e).map withoutExamples := by
  unfold ofElement
  dsimp only
  rw [descriptionsOf_lite]
  cases codeOf ((e.attribute? "id").getD "") (e.attribute? "countryCode") with
  | error fault => rfl
  | ok code =>
    cases descriptionsOf false e descriptionNames with
    | error fault => rfl
    | ok descriptions => cases (formatElements e).mapM formatOf <;> rfl

private theorem ofDocument_lite (root : Xml.Element) :
    ofDocument true root = (ofDocument false root).map (List.map withoutExamples) :=
  mapM_agrees ofElement_lite _

end Territory

theorem RegistryEntry.toTerritory_lite (e : RegistryEntry) :
    e.toTerritory true = (e.toTerritory false).withoutExamples := by
  rw [toTerritory, toTerritory, Territory.withoutExamples, List.map_map]
  rfl

namespace Registry

variable (registry : Registry)

private theorem region_lite (name : String) :
    registry.region true name = (registry.region false name).map Territory.withoutExamples := by
  unfold region
  cases registry.regions.lookup name with
  | none => rfl
  | some e => exact congrArg Except.ok e.toTerritory_lite

private theorem code_lite (number : Int) :
    registry.code true number = (registry.code false number).map Territory.withoutExamples := by
  unfold code
  cases registry.codes.lookup number with
  | none => rfl
  | some e => exact congrArg Except.ok e.toTerritory_lite

private theorem load_lite (regions : Option (List String)) (codes : Option (List Int)) :
    registry.load regions codes true =
      (registry.load regions codes false).map (List.map Territory.withoutExamples) := by
  unfold load
  rw [mapM_agrees registry.region_lite, mapM_agrees registry.code_lite]
  cases (registry.requestedRegions regions).mapM (registry.region false) with
  | error missing => rfl
  | ok first =>
    cases (registry.requestedCodes regions codes).mapM (registry.code false) with
    | error missing => rfl
    | ok second => exact congrArg Except.ok List.map_append.symm

end Registry

namespace Build

/-- Two readings end alike: both leave the files, and they fail with one failure or give territories that
differ in their example numbers at most, which the second leaves out. -/
inductive ReadsAlike (w w' : Workspace) : EStateM.Result Failure Workspace (List Territory) →
    EStateM.Result Failure Workspace (List Territory) → Prop where
  | read (ts : List Territory) (log log' : List Logging.Entry) :
      ReadsAlike w w' (.ok ts ⟨w.files, log⟩) (.ok (ts.map Territory.withoutExamples) ⟨w'.files, log'⟩)
  | failed (f : Failure) (log log' : List Logging.Entry) :
      ReadsAlike w w' (.error f ⟨w.files, log⟩) (.error f ⟨w'.files, log'⟩)

variable {w w' : Workspace}

theorem ReadsAlike.files (alike : ReadsAlike w w' result lite) :
    (Session.left result).files = w.files ∧ (Session.left lite).files = w'.files := by
  cases alike <;> exact ⟨rfl, rfl⟩

theorem loadFile_lite {path : Storage.Path}
    (same : w'.files.read path.toString = w.files.read path.toString) :
    ReadsAlike w w' ((loadFile path false).run w) ((loadFile path true).run w') := by
  obtain ⟨tree, log⟩ := w
  obtain ⟨tree', log'⟩ := w'
  unfold loadFile
  rw [EStateM.run_bind, EStateM.run_bind]
  cases held : tree.read path.toString with
  | error fault =>
    rw [Session.bytesAt_error held, Session.bytesAt_error (same.trans held)]
    exact .failed ..
  | ok bytes =>
    rw [Session.bytesAt_ok held, Session.bytesAt_ok (same.trans held)]
    dsimp only
    rw [EStateM.run_bind, EStateM.run_bind]
    cases Xml.parse bytes with
    | error fault => exact .failed ..
    | ok root =>
      rw [Session.lift_ok, Session.lift_ok]
      dsimp only
      rw [EStateM.run_bind, EStateM.run_bind, Territory.ofDocument_lite]
      cases Territory.ofDocument false root with
      | error fault => exact .failed ..
      | ok ts => exact .read ..

theorem loadRegistry_lite (registry : Registry) (regions : Option (List String))
    (codes : Option (List Int)) : ReadsAlike w w' ((loadRegistry registry regions codes false).run w)
      ((loadRegistry registry regions codes true).run w') := by
  unfold loadRegistry
  rw [EStateM.run_bind, EStateM.run_bind, registry.load_lite]
  cases registry.load regions codes false with
  | error missing => exact .failed ..
  | ok ts => exact .read ..

/-- What a build reads for its input is the same in two workspaces. -/
def SameInput (options : Options) (w w' : Workspace) : Prop :=
  options.bundled = true ∨ ∀ path, options.inputFile = some path →
    w'.files.read path.toString = w.files.read path.toString

theorem loadInput_lite (registry : Registry) {options : Options} (same : SameInput options w w') :
    ReadsAlike w w' ((loadInput registry { options with lite := false }).run w)
      ((loadInput registry { options with lite := true }).run w') := by
  unfold loadInput
  dsimp only
  cases bundled : options.bundled with
  | true => exact loadRegistry_lite registry none none
  | false =>
    cases input : options.inputFile with
    | none => exact .failed ..
    | some path =>
      have unbundled := same.resolve_left (by simp [bundled])
      exact loadFile_lite (unbundled path input)

/-- Reading the input of a build leaves the files alone. -/
theorem loadInput_files (registry : Registry) (options : Options) (w : Workspace) :
    (Session.left ((loadInput registry options).run w)).files = w.files := by
  have same : SameInput options w w := .inr fun _ _ => rfl
  obtain ⟨full, lite⟩ := (loadInput_lite registry same).files
  obtain ⟨inputFile, outputDir, dataPrefix, mappingClass, copyrightYear, flag, bundled⟩ := options
  cases flag with
  | false => exact full
  | true => exact lite

end Build

end NumberingPlan
