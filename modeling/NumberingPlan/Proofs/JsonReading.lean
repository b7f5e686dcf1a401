import NumberingPlan.Proofs.JsonTokens
import NumberingPlan.Proofs.ObjectFields

/-! Reading what was written. The tokens of a value build the value again, inside whatever lists and objects
are unfinished around it; so the text of a value is read as the value. -/
namespace NumberingPlan.Json

variable {value : Json} {items : List Json} {fields earlier : List (String × Json)} {key : String}

/-- A value may come next. -/
inductive Expected.TakesValue : Expected → Prop where
  | value : TakesValue .value
  | valueOrClose : TakesValue .valueOrClose

/-- Whatever is unfinished, the tokens of a value put the value there. -/
def Builds (value : Json) : Prop := ∀ frames expected rest, expected.TakesValue →
  build ⟨frames, expected⟩ (tokens value ++ rest) = (Build.put frames value).bind (build · rest)

variable {frames : List Frame} {expected : Expected} {rest found : List Token} {token : Token} {next : Build}

private theorem build_cons (b : Build) : build b (token :: rest) = (b.step token).bind (build · rest) := by
  rw [build]
  cases b.step token <;> rfl

private theorem build_of_step {b : Build} (step : b.step token = some next) :
    build b (token :: rest) = build next rest := by
  rw [build_cons, step]
  rfl

/-- A token that closes nothing begins a value. -/
theorem step_begins (takes : expected.TakesValue) (opens : Build.close frames token = none) :
    Build.step ⟨frames, expected⟩ token = Build.begin frames token := by
  cases takes with
  | value => rfl
  | valueOrClose =>
    show (Build.close frames token <|> Build.begin frames token) = _
    rw [opens]
    rfl

/-- A list or an object that is closed at once is empty. -/
theorem step_closesEmpty (frames : List Frame) :
    Build.step ⟨.list [] :: frames, .valueOrClose⟩ .closeList = Build.put frames (arr []) ∧
      Build.step ⟨.object [] :: frames, .keyOrClose⟩ .closeObject = Build.put frames (obj []) := by
  have closed (done : Option Build) : (done <|> none) = done := by cases done <;> rfl
  exact ⟨closed _, closed _⟩

private theorem builds_scalar (alone : tokens value = [.scalar value]) : Builds value := by
  intro frames expected rest takes
  rw [alone, List.singleton_append, build_cons, step_begins takes rfl]
  rfl

private theorem build_itemTokens (read : List Json) (each : ∀ item ∈ items, Builds item) :
    build ⟨.list read :: frames, .more⟩ (itemTokens items ++ rest) =
      (Build.put frames (arr (read.reverse ++ items))).bind (build · rest) := by
  induction items generalizing read with
  | nil =>
    rw [List.append_nil]
    exact build_cons _
  | cons item items ih =>
    have comma : Build.step ⟨.list read :: frames, .more⟩ .comma = some ⟨.list read :: frames, .value⟩ := rfl
    have onward := ih (item :: read) fun other member => each other (List.mem_cons_of_mem _ member)
    rw [itemTokens, List.cons_append, build_of_step comma, List.append_assoc,
      each item List.mem_cons_self _ _ _ .value, Build.put, Option.bind_some, onward,
      List.reverse_cons, List.append_assoc, List.singleton_append]

/-- The tokens of a field after those before it. -/
theorem build_field (new : key ∉ earlier.map Prod.fst) (builds : Builds value) :
    build ⟨.object earlier :: frames, .colon key⟩ (.colon :: (tokens value ++ rest)) =
      build ⟨.object (earlier ++ [(key, value)]) :: frames, .more⟩ rest := by
  have colon : Build.step ⟨.object earlier :: frames, .colon key⟩ .colon =
      some ⟨.field earlier key :: frames, .value⟩ := rfl
  rw [build_of_step colon, builds _ _ _ .value, Build.put, Option.bind_some, setField_of_new new]

private theorem build_fieldTokens (distinct : ((earlier ++ fields).map Prod.fst).Nodup)
    (each : ∀ field ∈ fields, Builds field.2) :
    build ⟨.object earlier :: frames, .more⟩ (fieldTokens fields ++ rest) =
      (Build.put frames (obj (earlier ++ fields))).bind (build · rest) := by
  induction fields generalizing earlier with
  | nil =>
    rw [List.append_nil]
    exact build_cons _
  | cons field fields ih =>
    have comma : Build.step ⟨.object earlier :: frames, .more⟩ .comma = some ⟨.object earlier :: frames, .key⟩ := rfl
    have named : Build.step ⟨.object earlier :: frames, .key⟩ (.scalar (str field.1)) =
        some ⟨.object earlier :: frames, .colon field.1⟩ := rfl
    have new : field.1 ∉ earlier.map Prod.fst := by
      rw [List.map_append, List.map_cons] at distinct
      exact fun among => (List.nodup_append.mp distinct).2.2 _ among _ List.mem_cons_self rfl
    rw [← List.singleton_append, ← List.append_assoc] at distinct
    have onward := ih distinct fun other member => each other (List.mem_cons_of_mem _ member)
    rw [fieldTokens, List.cons_append, build_of_step comma, List.cons_append, build_of_step named, List.cons_append,
      List.append_assoc, build_field new (each field List.mem_cons_self), onward, List.append_assoc,
      List.singleton_append]

/-- The tokens of a value build it. -/
theorem builds_of_plain (plain : Plain value) : Builds value := by
  induction plain with
  | null | bool | int | str => exact builds_scalar rfl
  | @arr items _ ih =>
    intro frames expected rest takes
    have opened : Build.step ⟨frames, expected⟩ .openList = some ⟨.list [] :: frames, .valueOrClose⟩ :=
      step_begins takes rfl
    cases items with
    | nil =>
      rw [tokens, List.cons_append, build_of_step opened, List.cons_append, build_cons, (step_closesEmpty frames).1]
      rfl
    | cons item items =>
      have others : ∀ other ∈ items, Builds other := fun other member => ih other (List.mem_cons_of_mem _ member)
      rw [tokens, List.cons_append, build_of_step opened, List.append_assoc,
        ih item List.mem_cons_self _ _ _ .valueOrClose, Build.put, Option.bind_some, build_itemTokens [item] others]
      rfl
  | @obj fields distinct _ ih =>
    intro frames expected rest takes
    have opened : Build.step ⟨frames, expected⟩ .openObject = some ⟨.object [] :: frames, .keyOrClose⟩ :=
      step_begins takes rfl
    cases fields with
    | nil =>
      rw [tokens, List.cons_append, build_of_step opened, List.cons_append, build_cons, (step_closesEmpty frames).2]
      rfl
    | cons field fields =>
      have named : Build.step ⟨.object [] :: frames, .keyOrClose⟩ (.scalar (str field.1)) =
          some ⟨.object [] :: frames, .colon field.1⟩ := rfl
      have others : ∀ other ∈ fields, Builds other.2 := fun other member => ih other (List.mem_cons_of_mem _ member)
      rw [tokens, List.cons_append, build_of_step opened, List.cons_append, build_of_step named, List.cons_append,
        List.append_assoc, build_field List.not_mem_nil (ih field List.mem_cons_self)]
      exact build_fieldTokens distinct others

/-- The text of a value is read as the value. -/
theorem parse?_chars (plain : Plain value) : parse? (chars .unicode value) = some value := by
  have built := builds_of_plain plain [] .value [] .value
  rw [List.append_nil] at built
  rw [parse?, tokenize_chars plain]
  exact built

end NumberingPlan.Json
