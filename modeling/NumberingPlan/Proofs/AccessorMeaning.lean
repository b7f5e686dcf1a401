import NumberingPlan.Proofs.AccessorMethod
import NumberingPlan.Proofs.DraftSteps
import NumberingPlan.Proofs.NamedValues

/-! What an accessor does when it is run: it makes a fresh container, fills it entry by entry and returns
it, and the container then holds the data of the shape. -/
namespace NumberingPlan.Source
open Java (Token Value Object State)

def listOf (entry : Int × List String) : Object := .list entry.2.length (entry.2.map .text)

/-- What is put for entries whose lists are at consecutive addresses. -/
def bindings (address : Nat) (entries : RegionsByCode) : List (Value × Value) :=
  entries.mapIdx fun i entry => (.int entry.1, .reference (address + i))

/-- Where a map's accessor stands: what was put into the map, the lists that were made after it, and the
list that is being filled. -/
def filling (before : List Object) (size : Nat) (put : List (Value × Value)) (lists : List Object)
    (last : Option Value) : State :=
  ⟨before ++ .map size put :: lists,
    [("listWithRegionCode", last), ("countryCodeToRegionCodeMap", some (.reference before.length))]⟩

/-- The statements that add an entry. -/
def entryReading (entry : Int × List String) : List Java.Statement :=
  [.assign "listWithRegionCode" (.new "ArrayList" entry.2.length)] ++
    (entry.2.map fun region => .call "listWithRegionCode" "add" [.text region]) ++
    [.call "countryCodeToRegionCodeMap" "put" [.int entry.1, .name "listWithRegionCode"]]

private theorem reading_of_adds {α : Type} (make : α → Statement) (receiver : String)
    (operand : α → Java.Operand) (one : ∀ a, (make a).reading = [.call receiver "add" [operand a]])
    (items : List α) : (items.map make).flatMap Statement.reading =
      items.map fun a => .call receiver "add" [operand a] := by
  induction items with
  | nil => rfl
  | cons a items ih => simp [one, ih]

private theorem reading_of_entries (entries : RegionsByCode) :
    (fillSteps (.fullMap entries)).flatMap Statement.reading = entries.flatMap entryReading := by
  induction entries with
  | nil => rfl
  | cons entry entries ih =>
    have regions := reading_of_adds .addRegionToList _ .text (fun _ => rfl) entry.2
    simp only [fillSteps, List.flatMap_cons, List.flatMap_append, List.cons_append, List.append_assoc] at ih ⊢
    rw [ih, regions]
    simp [Statement.reading, entryReading]

private theorem heap_length (before : List Object) (middle : Object) (lists : List Object) :
    (before ++ middle :: lists).length = before.length + 1 + lists.length := by
  rw [List.length_append, List.length_cons]
  omega

private theorem heap_append (before : List Object) (middle last : Object) (lists : List Object) :
    (before ++ middle :: lists) ++ [last] = before ++ middle :: (lists ++ [last]) := by
  rw [List.append_assoc, List.cons_append]

private theorem heap_middle (before : List Object) (middle : Object) (lists : List Object) :
    (before ++ middle :: lists)[before.length]? = some middle := by
  rw [List.getElem?_append_right (Nat.le_refl _), Nat.sub_self, List.getElem?_cons_zero]

private theorem heap_set_middle (before : List Object) (middle next : Object) (lists : List Object) :
    (before ++ middle :: lists).set before.length next = before ++ next :: lists := by
  rw [List.set_append_right _ _ (Nat.le_refl _), Nat.sub_self, List.set_cons_zero]

private theorem heap_last (before : List Object) (middle last : Object) (lists : List Object) :
    (before ++ middle :: (lists ++ [last]))[before.length + 1 + lists.length]? = some last := by
  rw [← heap_append, ← heap_length before middle, List.getElem?_concat_length]

private theorem heap_set_last (before : List Object) (middle last next : Object) (lists : List Object) :
    (before ++ middle :: (lists ++ [last])).set (before.length + 1 + lists.length) next =
      before ++ middle :: (lists ++ [next]) := by
  rw [← heap_append, ← heap_length before middle, List.set_append_right _ _ (Nat.le_refl _), Nat.sub_self,
    List.set_cons_zero, heap_append]

/-- An entry is added by making a list at a fresh address, filling it and putting it under the code. -/
theorem entry_run (before : List Object) (size : Nat) (put : List (Value × Value)) (lists : List Object)
    (last : Option Value) (entry : Int × List String) :
    (entryReading entry).foldlM State.step? (filling before size put lists last) =
      some (filling before size (put ++ [(.int entry.1, .reference (before.length + 1 + lists.length))])
        (lists ++ [listOf entry]) (some (.reference (before.length + 1 + lists.length)))) := by
  have made : State.step? (filling before size put lists last)
      (.assign "listWithRegionCode" (.new "ArrayList" entry.2.length)) =
      some (filling before size put (lists ++ [.list entry.2.length []])
        (some (.reference (before.length + 1 + lists.length)))) := by
    rw [filling, filling, ← heap_append, ← heap_length before (.map size put)]
    rfl
  have added : (entry.2.map fun region => .call "listWithRegionCode" "add" [.text region]).foldlM
      State.step? (filling before size put (lists ++ [.list entry.2.length []])
        (some (.reference (before.length + 1 + lists.length)))) =
      some (filling before size put (lists ++ [listOf entry])
        (some (.reference (before.length + 1 + lists.length)))) := by
    have there := heap_last before (.map size put) (.list entry.2.length []) lists
    rw [filling, State.foldlM_adds (.list entry.2.length) (fun _ _ => rfl) (fun _ _ => rfl) rfl there,
      heap_set_last]
    rfl
  have bound : State.step? (filling before size put (lists ++ [listOf entry])
        (some (.reference (before.length + 1 + lists.length))))
      (.call "countryCodeToRegionCodeMap" "put" [.int entry.1, .name "listWithRegionCode"]) =
      some (filling before size (put ++ [(.int entry.1, .reference (before.length + 1 + lists.length))])
        (lists ++ [listOf entry]) (some (.reference (before.length + 1 + lists.length)))) := by
    have there := heap_middle before (.map size put) (lists ++ [listOf entry])
    rw [filling, State.step?_call rfl there rfl rfl, heap_set_middle]
    rfl
  simp only [entryReading, List.foldlM_append, List.foldlM_cons, List.foldlM_nil, made, added, bound,
    Option.bind_eq_bind, Option.bind_some, pure]

private theorem entries_run (before : List Object) (size : Nat) (done entries : RegionsByCode) (last : Option Value) :
    ∃ last', (entries.flatMap entryReading).foldlM State.step?
        (filling before size (bindings (before.length + 1) done) (done.map listOf) last) =
      some (filling before size (bindings (before.length + 1) (done ++ entries))
        ((done ++ entries).map listOf) last') := by
  induction entries generalizing done last with
  | nil => exact ⟨last, by simp⟩
  | cons entry entries ih =>
    have first := entry_run before size (bindings (before.length + 1) done) (done.map listOf) last entry
    obtain ⟨last', rest⟩ := ih (done ++ [entry]) (some (.reference (before.length + 1 + done.length)))
    refine ⟨last', ?_⟩
    have put : bindings (before.length + 1) (done ++ [entry]) = bindings (before.length + 1) done ++
        [(.int entry.1, .reference (before.length + 1 + done.length))] := by
      simp [bindings, List.mapIdx_append]
    rw [put, List.map_append, List.append_assoc] at rest
    rw [List.flatMap_cons, List.foldlM_append, first]
    simpa using rest

/-- The containers that an accessor makes, from an address on. The one that it returns comes first. -/
def objectsOf (start size : Nat) : Shape → List Object
  | .fullMap entries => .map size (bindings (start + 1) entries) :: entries.map listOf
  | .countryCodes codes => [.set size (codes.map .int)]
  | .regionCodes regions => [.set size (regions.map .text)]

/-- A set is filled by additions alone. -/
private theorem set_run {α : Type} (receiver type : String) (operand : α → Java.Operand) (value : α → Value)
    (denotes : ∀ (state : State) a, state.operand? (operand a) = some (value a)) (before : List Object)
    (size : Nat) (items : List α) :
    (Java.Statement.declare type receiver (some (.new "HashSet" size)) ::
        items.map fun a => .call receiver "add" [operand a]).foldlM State.step? ⟨before, []⟩ =
      some ⟨before ++ [.set size (items.map value)], [(receiver, some (.reference before.length))]⟩ := by
  have made : State.step? ⟨before, []⟩ (.declare type receiver (some (.new "HashSet" size))) =
      some ⟨before ++ [.set size []], [(receiver, some (.reference before.length))]⟩ := rfl
  have held : [(receiver, some (Value.reference before.length))].lookup receiver =
      some (some (.reference before.length)) := by
    simp
  have there : (before ++ [Object.set size []])[before.length]? = some (.set size []) := by
    simp
  have added := State.foldlM_adds (.set size) (fun _ _ => rfl) denotes held there items
  simp [made, added]

/-- An accessor makes the objects of its shape, leaves those from before and returns the first. -/
theorem accessor_run {method : Java.Method} (spelled : method.body = bodyOf size shape)
    (before : List Object) :
    method.run? before = some (.reference before.length, before ++ objectsOf before.length size shape) := by
  cases shape with
  | fullMap entries =>
    have declared : (declarations size (.fullMap entries)).foldlM State.step? ⟨before, []⟩ =
        some (filling before size (bindings (before.length + 1) []) [] none) := rfl
    obtain ⟨last, filled⟩ := entries_run before size [] entries none
    have ran : (declarations size (.fullMap entries) ++
        (fillSteps (.fullMap entries)).flatMap Statement.reading).foldlM State.step? ⟨before, []⟩ =
        some (filling before size (bindings (before.length + 1) entries) (entries.map listOf) last) := by
      rw [List.foldlM_append, declared, reading_of_entries]
      exact filled
    exact Java.Method.run?_of_foldlM spelled ran rfl
  | countryCodes codes =>
    have steps : (fillSteps (.countryCodes codes)).flatMap Statement.reading =
        codes.map fun code => .call "countryCodeSet" "add" [.int code] := by
      rw [fillSteps, List.flatMap_append, reading_of_adds .addCode "countryCodeSet" .int fun _ => rfl]
      simp [Statement.reading]
    have ran := set_run "countryCodeSet" "Set" .int .int (fun _ _ => rfl) before size codes
    rw [← steps] at ran
    exact Java.Method.run?_of_foldlM spelled ran rfl
  | regionCodes regions =>
    have steps : (fillSteps (.regionCodes regions)).flatMap Statement.reading =
        regions.map fun region => .call "regionCodeSet" "add" [.text region] := by
      rw [fillSteps, List.flatMap_append, reading_of_adds .addRegion "regionCodeSet" .text fun _ => rfl]
      simp [Statement.reading]
    have ran := set_run "regionCodeSet" "Set" .text .text (fun _ _ => rfl) before size regions
    rw [← steps] at ran
    exact Java.Method.run?_of_foldlM spelled ran rfl

/-- A capacity is never negative. -/
theorem capacity_natural (shape : Shape) : ∃ size : Nat, shape.capacity = size := by
  unfold Shape.capacity capacityFor
  cases Binary64.nearest? (shape.entryCount : Int).natAbs 1 with
  | none => exact ⟨0, rfl⟩
  | some count =>
    obtain ⟨m, e⟩ := count
    simp only
    cases Binary64.nearest? (4 * (Binary64.ratio m e).1) (3 * (Binary64.ratio m e).2) with
    | none => exact ⟨0, rfl⟩
    | some quotient =>
      obtain ⟨m, e⟩ := quotient
      refine ⟨Binary64.whole m e, ?_⟩
      have natural : ¬ (shape.entryCount : Int) < 0 := by omega
      simp [natural, Except.toOption]

/-- How containers hold a shape's data. The one at the given address was made with the shape's capacity.
A set had the elements added in order. A map had the codes put in order, each with the list of its own
entry, at an address that no other entry has and that was not in use before, and the size that the list
was made with is the number of regions added to it. -/
def Holds (heap : List Object) (start : Nat) (shape : Shape) : Prop :=
  ∃ (size : Nat) (container : Object), shape.capacity = size ∧ heap[start]? = some container ∧
    container.additions = shape.entryCount ∧
    match shape with
    | .fullMap entries => ∃ address : Nat → Nat,
      (∀ i, start < address i) ∧ (∀ i j, address i = address j → i = j) ∧
      container = .map size (entries.mapIdx fun i entry => (.int entry.1, .reference (address i))) ∧
      ∀ i entry, entries[i]? = some entry →
        container.bound? (.int entry.1) = some (.reference (address i)) ∧
        heap[address i]? = some (.list entry.2.length (entry.2.map .text))
    | .countryCodes codes => container = .set size (codes.map .int)
    | .regionCodes regions => container = .set size (regions.map .text)

private theorem keys_of_bindings (address : Nat) (entries : RegionsByCode) :
    (bindings address entries).map (·.1) = entries.map fun entry => .int entry.1 := by
  apply List.ext_getElem?
  intro i
  rw [List.getElem?_map, bindings, List.getElem?_mapIdx, List.getElem?_map, Option.map_map]
  rfl

/-- With distinct codes, each code is bound to the list of its own entry. -/
theorem bound?_bindings {entries : RegionsByCode} (distinct : (entries.map (·.1)).Nodup)
    (here : entries[i]? = some entry) :
    (Object.map size (bindings address entries)).bound? (.int entry.1) = some (.reference (address + i)) := by
  have keys : ((bindings address entries).map (·.1)).Nodup := by
    rw [keys_of_bindings, List.nodup_iff_pairwise_ne, List.pairwise_map]
    rw [List.nodup_iff_pairwise_ne, List.pairwise_map] at distinct
    exact distinct.imp fun other same => other (Value.int.inj same)
  have keys' : ((bindings address entries).reverse.map (·.1)).Nodup := by
    rw [List.map_reverse]
    exact keys.perm (List.reverse_perm _).symm
  refine (lookup_eq_some_iff_mem keys').mpr (List.mem_reverse.mpr ?_)
  refine List.mem_of_getElem? (i := i) ?_
  simp [bindings, here]

private theorem holds_objects (made : Shape.capacity shape = (size : Nat)) (distinct : (codesOf shape).Nodup)
    (before : List Object) : Holds (before ++ objectsOf before.length size shape) before.length shape := by
  cases shape with
  | fullMap entries =>
    refine ⟨size, .map size (bindings (before.length + 1) entries), made, ?_, ?_,
      fun i => before.length + 1 + i, ?_, ?_, rfl, ?_⟩
    · simp [objectsOf]
    · simp [Object.additions, bindings, Shape.entryCount]
    · intro i
      show before.length < before.length + 1 + i
      omega
    · intro i j same
      have same : before.length + 1 + i = before.length + 1 + j := same
      omega
    · intro i entry here
      refine ⟨bound?_bindings distinct here, ?_⟩
      have index : before.length + 1 + i - before.length = i + 1 := by omega
      show (before ++ objectsOf before.length size (.fullMap entries))[before.length + 1 + i]? = _
      rw [objectsOf, List.getElem?_append_right (by omega), index, List.getElem?_cons_succ, List.getElem?_map,
        here]
      rfl
  | countryCodes codes =>
    exact ⟨size, .set size (codes.map .int), made, by simp [objectsOf],
      by simp [Object.additions, Shape.entryCount], rfl⟩
  | regionCodes regions =>
    exact ⟨size, .set size (regions.map .text), made, by simp [objectsOf],
      by simp [Object.additions, Shape.entryCount], rfl⟩

/-- The text that is emitted for a shape is a method that builds the shape. No Unicode escape arises in
it, its string literals denote the regions, its comments state the number of entries, and running it
makes fresh containers that hold the shape's data. -/
theorem emitted_text_builds_its_shape (shape : Shape) (draft : Draft) (before : List Object)
    (imports : draft.imports.taken = false) (body : draft.body.taken = false)
    (distinct : (codesOf shape).Nodup) (small : ∀ code ∈ codesOf shape, IsInt code)
    (stays : ∀ region ∈ regionsOf shape, OnOneLine region) :
    ∃ text done tokens method made,
      emit shape draft = .ok () done ∧ done.body.text = draft.body.text ++ text ∧
      Java.escapes.read .plain text.toList = some text.toList ∧ Java.tokens? text = some tokens ∧
      tokens.filterMap Token.text? = regionsOf shape ∧
      tokens.filterMap statedEntries? = [shape.entryCount] ∧
      Java.method? (tokens.filter fun token => !token.isComment) = some method ∧
      method.run? before = some (.reference before.length, before ++ made) ∧
      Holds (before ++ made) before.length shape := by
  obtain ⟨size, sized⟩ := capacity_natural shape
  have reads := accessor_reads sized stays
  exact ⟨_, _, _, _, _, emit_run shape draft imports body, rfl, reads.escapes_read, reads.tokens?_eq,
    accessorTokens_texts size shape, accessorTokens_stated size shape, method?_accessor size shape small,
    accessor_run rfl before, holds_objects sized distinct before⟩

/-- Quotes, backslashes, what looks like a Unicode escape and the empty region, under the least code. -/
theorem emitted_literals_survive : ∃ text done tokens,
    emit (.fullMap [(1, ["A\"B", "\\u0022", ""]), (-2147483648, ["C\\"])]) {} = .ok () done ∧
    done.body.text = text ∧ Java.tokens? text = some tokens ∧
    tokens.filterMap Token.text? = ["A\"B", "\\u0022", "", "C\\"] := by
  obtain ⟨text, done, tokens, -, -, emitted, added, -, read, texts, -⟩ := emitted_text_builds_its_shape
    (.fullMap [(1, ["A\"B", "\\u0022", ""]), (-2147483648, ["C\\"])]) {} [] rfl rfl (by decide)
    (by simp [codesOf, IsInt]) (by unfold OnOneLine; decide)
  rw [show ({} : Draft).body.text = "" from rfl, String.empty_append] at added
  exact ⟨text, done, tokens, emitted, added, read, texts⟩

end NumberingPlan.Source
