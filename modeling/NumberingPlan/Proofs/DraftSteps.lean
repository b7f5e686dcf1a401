import NumberingPlan.Source.Accessor

/-! What the steps on a draft do: text and imports are added until they are taken, and an accessor adds
its comment, its imports and its code. Names stay ascending, and each is there once. -/
namespace NumberingPlan.Source

private theorem mem_insertName {added name : String} {names : List String} :
    name ∈ insertName added names ↔ name = added ∨ name ∈ names := by
  induction names with
  | nil => simp [insertName]
  | cons first rest ih =>
    unfold insertName
    split
    · exact List.mem_cons
    · split
      next same => simp [same]
      next => simp only [List.mem_cons, ih]; exact or_left_comm

private theorem insertName_ascending {names : List String} (ascending : names.Pairwise (· < ·))
    (added : String) : (insertName added names).Pairwise (· < ·) := by
  induction names with
  | nil => exact List.pairwise_singleton _ _
  | cons first rest ih =>
    obtain ⟨above, tail⟩ := List.pairwise_cons.mp ascending
    unfold insertName
    split
    next before =>
      refine List.pairwise_cons.mpr ⟨?_, ascending⟩
      intro name member
      obtain rfl | member := List.mem_cons.mp member
      · exact before
      · exact String.lt_trans before (above name member)
    next notBefore =>
      split
      · exact ascending
      next other =>
        refine List.pairwise_cons.mpr ⟨?_, ih tail⟩
        intro name member
        obtain rfl | member := mem_insertName.mp member
        · exact Std.lt_of_le_of_ne (String.not_lt.mp notBefore) (Ne.symm other)
        · exact above name member

theorem mem_insertNames {name : String} (added names : List String) :
    name ∈ added.foldl (fun sofar name => insertName name sofar) names ↔
      name ∈ added ∨ name ∈ names := by
  induction added generalizing names with
  | nil => simp
  | cons first rest ih =>
    rw [List.foldl_cons, ih, mem_insertName, List.mem_cons]
    exact or_left_comm.trans or_assoc.symm

theorem insertNames_ascending (added : List String) {names : List String}
    (ascending : names.Pairwise (· < ·)) :
    (added.foldl (fun sofar name => insertName name sofar) names).Pairwise (· < ·) := by
  induction added generalizing names with
  | nil => exact ascending
  | cons first rest ih => exact ih (insertName_ascending ascending first)

private theorem addText_run (text : String) (draft : Draft) : addText text draft =
    if draft.body.taken then .error .bodyTaken draft
    else .ok () { draft with body := { draft.body with text := draft.body.text ++ text } } := by
  obtain ⟨imports, ⟨sofar, taken⟩⟩ := draft
  cases taken <;> rfl

private theorem addImport_run (name : String) (draft : Draft) : addImport name draft =
    if draft.imports.taken then .error .importsTaken draft
    else .ok () { draft with
      imports := { draft.imports with names := insertName name draft.imports.names } } := by
  obtain ⟨⟨names, taken⟩, body⟩ := draft
  cases taken <;> rfl

/-- Names are added one after the other while the imports are not taken. -/
theorem addImports_run (names : List String) (draft : Draft) (ready : draft.imports.taken = false) :
    names.forM addImport draft = .ok () { draft with imports := { draft.imports with
      names := names.foldl (fun sofar name => insertName name sofar) draft.imports.names } } := by
  induction names generalizing draft with
  | nil => rfl
  | cons name names ih =>
    have first := addImport_run name draft
    rw [ready] at first
    have rest := ih
      { draft with imports := { draft.imports with names := insertName name draft.imports.names } } ready
    show (addImport name >>= fun _ => names.forM addImport) draft = _
    simp only [bind, EStateM.bind, first]
    exact rest

/-- A shape's accessor is added to a draft of which nothing is taken. -/
theorem emit_run (shape : Shape) (draft : Draft) (imports : draft.imports.taken = false)
    (body : draft.body.taken = false) :
    emit shape draft = .ok () {
      imports := { draft.imports with
        names := (accessorImports shape).foldl (fun sofar name => insertName name sofar) draft.imports.names }
      body := { draft.body with
        text := draft.body.text ++ (leadingComment shape ++ accessorCode shape) } } := by
  obtain ⟨⟨names, importsTaken⟩, ⟨text, bodyTaken⟩⟩ := draft
  simp only at imports body
  subst imports body
  have first := addText_run (leadingComment shape) ⟨⟨names, false⟩, ⟨text, false⟩⟩
  have second := addImports_run (accessorImports shape)
    ⟨⟨names, false⟩, ⟨text ++ leadingComment shape, false⟩⟩ rfl
  have third := addText_run (accessorCode shape)
    ⟨⟨(accessorImports shape).foldl (fun sofar name => insertName name sofar) names, false⟩,
      ⟨text ++ leadingComment shape, false⟩⟩
  simp only [Bool.false_eq_true, ↓reduceIte, String.append_assoc] at first second third
  simp only [emit, bind, EStateM.bind, first, second]
  exact third

end NumberingPlan.Source
