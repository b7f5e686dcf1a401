import NumberingPlan.Proofs.JavaTokens

/-! What a Java method that builds a container says and does. It declares variables, makes lists, sets
and maps, adds to them and returns one. Type arguments are erased, as they are when a method runs.
The size that a container is made with is recorded and is otherwise without effect. -/
namespace NumberingPlan.Java

/-- What stands for a value without computing one. -/
inductive Operand where
  | name (name : String)
  | int (value : Int)
  | text (value : String)
  deriving DecidableEq, Repr

/-- What a variable is given. -/
inductive Expression where
  | operand (operand : Operand)
  | new (type : String) (size : Nat)
  deriving DecidableEq, Repr

inductive Statement where
  | declare (type name : String) (value : Option Expression)
  | assign (name : String) (value : Expression)
  | call (receiver method : String) (arguments : List Operand)
  | return (name : String)
  deriving DecidableEq, Repr

/-- A static method without parameters. -/
structure Method where
  type : String
  name : String
  body : List Statement
  deriving DecidableEq, Repr

/-- What follows type arguments, given how many of their brackets are open. -/
def afterTypeArguments? : Nat → List Token → Option (List Token)
  | 0, rest => some rest
  | depth + 1, .symbol '<' :: rest => afterTypeArguments? (depth + 2) rest
  | depth + 1, .symbol '>' :: rest => afterTypeArguments? depth rest
  | depth + 1, .symbol ',' :: rest => afterTypeArguments? (depth + 1) rest
  | depth + 1, .word _ :: rest => afterTypeArguments? (depth + 1) rest
  | _ + 1, _ => none

/-- A type without its arguments, and what follows it. -/
def type? : List Token → Option (String × List Token)
  | .word name :: .symbol '<' :: rest => (afterTypeArguments? 1 rest).map fun rest => (name, rest)
  | .word name :: rest => some (name, rest)
  | _ => none

/-- An operand, and what follows it. Integers are those of 32 bits. -/
def operand? : List Token → Option (Operand × List Token)
  | .word name :: rest => some (.name name, rest)
  | .number value :: rest => if value < 2147483648 then some (.int value, rest) else none
  | .symbol '-' :: .number value :: rest =>
    if value ≤ 2147483648 then some (.int (-value), rest) else none
  | .text value :: rest => some (.text value, rest)
  | _ => none

/-- The arguments of a call, one or two, with the bracket that closes them. -/
def arguments? (tokens : List Token) : Option (List Operand) := do
  let (first, rest) ← operand? tokens
  match rest with
  | [.symbol ')'] => some [first]
  | .symbol ',' :: rest => do
    let (second, rest) ← operand? rest
    if rest = [.symbol ')'] then some [first, second] else none
  | _ => none

/-- An expression. The size of a container may be any number: one beyond memory is not refused. -/
def expression? : List Token → Option Expression
  | .word "new" :: rest => do
    let (type, rest) ← type? rest
    match rest with
    | [.symbol '(', .number size, .symbol ')'] => some (.new type size)
    | _ => none
  | tokens => do
    let (operand, rest) ← operand? tokens
    if rest = [] then some (.operand operand) else none

/-- A statement without its semicolon. -/
def statement? : List Token → Option Statement
  | [.word "return", .word name] => some (.return name)
  | .word name :: .symbol '=' :: value => (expression? value).map (.assign name)
  | .word receiver :: .symbol '.' :: .word method :: .symbol '(' :: arguments =>
    (arguments? arguments).map (.call receiver method)
  | tokens => do
    let (type, rest) ← type? tokens
    match rest with
    | [.word name] => some (.declare type name none)
    | .word name :: .symbol '=' :: value =>
      (expression? value).map fun value => .declare type name (some value)
    | _ => none

/-- The statements of a block, with the brace that closes it, after the tokens of an open one. -/
def block? (sofar : List Token) : List Token → Option (List Statement)
  | [] => none
  | token :: rest =>
    if token = .symbol ';' then do
      let statement ← statement? sofar
      let more ← block? [] rest
      some (statement :: more)
    else if token = .symbol '\x7d' ∧ rest = [] then if sofar = [] then some [] else none
    else block? (sofar ++ [token]) rest

private theorem block?_sentence (plain : .symbol ';' ∉ sentence) :
    block? sofar (sentence ++ .symbol ';' :: rest) = (statement? (sofar ++ sentence)).bind fun statement =>
      (block? [] rest).map (statement :: ·) := by
  induction sentence generalizing sofar with
  | nil =>
    simp only [List.nil_append, List.append_nil, block?, ↓reduceIte]
    cases statement? sofar <;> cases block? [] rest <;> rfl
  | cons token sentence ih =>
    simp only [List.mem_cons, not_or] at plain
    rw [List.cons_append, block?, if_neg (Ne.symm plain.1), if_neg (by simp), ih plain.2,
      List.append_assoc, List.singleton_append]

/-- What stands before a semicolon is a statement of the block. -/
theorem block?_statement (sentence : List Token) (plain : .symbol ';' ∉ sentence)
    (spelled : statement? sentence = some statement) (rest : List Token) :
    block? [] (sentence ++ .symbol ';' :: rest) = (block? [] rest).map ([statement] ++ ·) := by
  rw [block?_sentence plain, List.nil_append, spelled]
  rfl

/-- A method, without its comments. -/
def method? : List Token → Option Method
  | .word "static" :: rest => do
    let (type, rest) ← type? rest
    match rest with
    | .word name :: .symbol '(' :: .symbol ')' :: .symbol '\x7b' :: rest =>
      (block? [] rest).map fun body => ⟨type, name, body⟩
    | _ => none
  | _ => none

/-- A value. Containers are known by their addresses. -/
inductive Value where
  | int (value : Int)
  | text (value : String)
  | reference (address : Nat)
  deriving DecidableEq, Repr

/-- A container: the size it was made with, and what was added to it since, in order. -/
inductive Object where
  | list (size : Nat) (added : List Value)
  | set (size : Nat) (added : List Value)
  | map (size : Nat) (put : List (Value × Value))
  deriving DecidableEq, Repr

/-- A container that was just made. -/
def Object.new? : String → Nat → Option Object
  | "ArrayList", size => some (.list size [])
  | "HashSet", size => some (.set size [])
  | "HashMap", size => some (.map size [])
  | _, _ => none

/-- A container after a call. -/
def Object.call? : Object → String → List Value → Option Object
  | .list size added, "add", [value] => some (.list size (added ++ [value]))
  | .set size added, "add", [value] => some (.set size (added ++ [value]))
  | .map size put, "put", [key, value] => some (.map size (put ++ [(key, value)]))
  | _, _, _ => none

/-- What a map binds a key to: what was put under it last. -/
def Object.bound? (key : Value) : Object → Option Value
  | .map _ put => put.reverse.lookup key
  | .list .. | .set .. => none

/-- The number of additions that were made to a container. -/
def Object.additions : Object → Nat
  | .list _ added | .set _ added => added.length
  | .map _ put => put.length

/-- The containers by address, and the variables with their values, if they have one. -/
structure State where
  heap : List Object
  locals : List (String × Option Value)
  deriving DecidableEq, Repr

/-- Variables after an assignment; an undeclared one cannot be assigned. -/
def assign? (name : String) (value : Value) :
    List (String × Option Value) → Option (List (String × Option Value))
  | [] => none
  | (other, old) :: rest =>
    if other = name then some ((other, some value) :: rest)
    else (assign? name value rest).map ((other, old) :: ·)

namespace State

/-- The value of an operand; a variable needs one. -/
def operand? (state : State) : Operand → Option Value
  | .name name => (state.locals.lookup name).join
  | .int value => some (.int value)
  | .text value => some (.text value)

/-- The value of an expression, and the state after it. A container is made at a fresh address. -/
def evaluate? (state : State) : Expression → Option (Value × State)
  | .operand operand => (state.operand? operand).map fun value => (value, state)
  | .new type size => (Object.new? type size).map fun object =>
    (.reference state.heap.length, { state with heap := state.heap ++ [object] })

/-- The state after a statement that does not return. -/
def step? (state : State) : Statement → Option State
  | .declare _ name value =>
    if (state.locals.lookup name).isSome then none
    else match value with
      | none => some { state with locals := (name, none) :: state.locals }
      | some value => do
        let (value, state) ← state.evaluate? value
        some { state with locals := (name, some value) :: state.locals }
  | .assign name value => do
    let (value, state) ← state.evaluate? value
    let locals ← assign? name value state.locals
    some { state with locals }
  | .call receiver method arguments => do
    let .reference address ← state.operand? (.name receiver) | none
    let object ← state.heap[address]?
    let values ← arguments.mapM state.operand?
    let object ← object.call? method values
    some { state with heap := state.heap.set address object }
  | .return _ => none

/-- A call replaces the receiver's container by what the call makes of it. -/
theorem step?_call {state : State} (held : state.operand? (.name receiver) = some (.reference address))
    (there : state.heap[address]? = some object) (known : arguments.mapM state.operand? = some values)
    (called : object.call? method values = some object') :
    state.step? (.call receiver method arguments) =
      some { state with heap := state.heap.set address object' } := by
  simp [step?, held, there, known, called]

/-- Additions to one container, one after the other, leave all else as it was. -/
theorem foldlM_adds {α : Type} (make : List Value → Object) {operand : α → Operand} {value : α → Value}
    {added : List Value} {heap : List Object} {locals : List (String × Option Value)}
    (adds : ∀ added value, (make added).call? "add" [value] = some (make (added ++ [value])))
    (denotes : ∀ (state : State) a, state.operand? (operand a) = some (value a))
    (held : locals.lookup receiver = some (some (.reference address)))
    (there : heap[address]? = some (make added)) (items : List α) :
    (items.map fun a => Statement.call receiver "add" [operand a]).foldlM step? ⟨heap, locals⟩ =
      some ⟨heap.set address (make (added ++ items.map value)), locals⟩ := by
  induction items generalizing heap added with
  | nil =>
    obtain ⟨inside, same⟩ := List.getElem?_eq_some_iff.mp there
    simp [← same]
  | cons a items ih =>
    obtain ⟨inside, -⟩ := List.getElem?_eq_some_iff.mp there
    have receives : (⟨heap, locals⟩ : State).operand? (.name receiver) = some (.reference address) := by
      simp [operand?, held]
    have known : [operand a].mapM (⟨heap, locals⟩ : State).operand? = some [value a] := by
      simp [denotes]
    have first : step? ⟨heap, locals⟩ (.call receiver "add" [operand a]) =
        some ⟨heap.set address (make (added ++ [value a])), locals⟩ :=
      step?_call receives there known (adds added (value a))
    have again : (heap.set address (make (added ++ [value a])))[address]? = some (make (added ++ [value a])) :=
      List.getElem?_set_self inside
    simp [first, ih again]

end State

/-- What a method returns when it is run, and the containers after it. It returns at its end. -/
def Method.run? (method : Method) (heap : List Object) : Option (Value × List Object) :=
  match method.body.getLast? with
  | some (.return name) => do
    let state ← method.body.dropLast.foldlM State.step? ⟨heap, []⟩
    let value ← state.operand? (.name name)
    some (value, state.heap)
  | _ => none

/-- A method that returns a variable at its end is run by running the statements before. -/
theorem Method.run?_of_foldlM {method : Method} {state : State}
    (spelled : method.body = statements ++ [.return result])
    (ran : statements.foldlM State.step? ⟨heap, []⟩ = some state)
    (held : state.locals.lookup result = some (some value)) :
    method.run? heap = some (value, state.heap) := by
  simp [run?, spelled, ran, State.operand?, held]

end NumberingPlan.Java
