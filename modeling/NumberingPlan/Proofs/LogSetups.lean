import NumberingPlan.Logging.Setup

/-! Setting the log up again and again. A call with an unknown level leaves the log as it was, and any other
makes it anew, whatever it was before; so after many calls it is as the last call with a known level made it. -/
namespace NumberingPlan.Logging

/-- A call that sets the log up: the name of a level, and whether lines are objects. -/
structure Call where
  levelName : String := "INFO"
  json : Bool := false
  deriving DecidableEq, Repr

namespace Call

/-- The level that a call names, in any case of letters. -/
def level? (call : Call) : Option Int := Logging.level? (Text.upper call.levelName)

/-- The style that a call asks for. -/
def style (call : Call) : Style := if call.json then .json else .plain

end Call

variable {H : Type} [DecidableEq H] {stream : Style → H} {call : Call} {level : Int}

/-- The change that a call makes, with the handlers that write in each style. -/
def Call.change (stream : Style → H) (call : Call) : Change H Unit :=
  Change.setUp call.levelName (stream call.style)

/-- The log that a call leaves, also where it fails. -/
def Setup.after (stream : Style → H) (setup : Setup H) (call : Call) : Setup H :=
  match (call.change stream).run setup with
  | .ok _ left | .error _ left => left

/-- The log as a call with a known level makes it, from nothing but the call. -/
def Call.made? (stream : Style → H) (call : Call) : Option (Setup H) :=
  call.level?.map fun level => ⟨level, [stream call.style]⟩

/-! ### One call -/

namespace Change

omit [DecidableEq H] in
private theorem setLevel_of_known {name : String} (known : Logging.level? name = some level) (setup : Setup H) :
    (setLevel name).run setup = .ok () ⟨level, setup.handlers⟩ := by
  rw [setLevel, known]
  rfl

omit [DecidableEq H] in
private theorem setLevel_of_unknown {name : String} (unknown : Logging.level? name = none) (setup : Setup H) :
    (setLevel name).run setup = .error ⟨name⟩ setup := by
  rw [setLevel, unknown]
  rfl

/-- Taking out the handlers of a list, in the order in which they stand there, leaves those after them. -/
theorem removeHandlers_run (level : Int) (handlers rest : List H) :
    (handlers.forM removeHandler).run ⟨level, handlers ++ rest⟩ = .ok () ⟨level, rest⟩ := by
  induction handlers with
  | nil => rfl
  | cons handler handlers ih =>
    have first : (removeHandler handler).run ⟨level, handler :: handlers ++ rest⟩ =
        .ok () ⟨level, handlers ++ rest⟩ := by
      show EStateM.Result.ok () (Setup.mk level ((handler :: (handlers ++ rest)).erase handler)) = _
      rw [List.erase_cons_head]
    show EStateM.run (removeHandler handler >>= fun _ => handlers.forM removeHandler) _ = _
    rw [EStateM.run_bind, first]
    exact ih

private theorem setUp_of_unknown {name : String} (unknown : Logging.level? (Text.upper name) = none) (handler : H)
    (setup : Setup H) : (setUp name handler).run setup = .error ⟨Text.upper name⟩ setup := by
  rw [setUp, EStateM.run_bind, setLevel_of_unknown unknown]

private theorem setUp_of_known {name : String} (known : Logging.level? (Text.upper name) = some level) (handler : H)
    (setup : Setup H) : (setUp name handler).run setup = .ok () ⟨level, [handler]⟩ := by
  have removed := removeHandlers_run level setup.handlers []
  rw [List.append_nil] at removed
  rw [setUp, EStateM.run_bind, setLevel_of_known known]
  show EStateM.run (setup.handlers.forM removeHandler >>= fun _ => addHandler handler) _ = _
  rw [EStateM.run_bind, removed]
  rfl

end Change

private theorem Call.change_of_unknown (unknown : call.level? = none) (setup : Setup H) :
    (call.change stream).run setup = .error ⟨Text.upper call.levelName⟩ setup :=
  Change.setUp_of_unknown unknown _ setup

private theorem Call.change_of_known (known : call.level? = some level) (setup : Setup H) :
    (call.change stream).run setup = .ok () ⟨level, [stream call.style]⟩ :=
  Change.setUp_of_known known _ setup

/-! ### Many calls -/

private theorem Setup.after_eq (setup : Setup H) (call : Call) :
    setup.after stream call = (call.made? stream).getD setup := by
  cases level : call.level? with
  | none => rw [after, Call.change_of_unknown level, Call.made?, level]; rfl
  | some level' => rw [after, Call.change_of_known level, Call.made?, level]; rfl

/-- A later call with a known level leaves nothing of an earlier one. -/
theorem Setup.foldl_after (setup : Setup H) (calls : List Call) :
    calls.foldl (after stream) setup = (calls.filterMap (Call.made? stream)).getLast?.getD setup := by
  induction calls generalizing setup with
  | nil => rfl
  | cons call later ih =>
    rw [List.foldl_cons, ih, after_eq]
    cases made : call.made? stream with
    | none => rw [List.filterMap_cons_none made]; rfl
    | some left => rw [List.filterMap_cons_some made, List.getLast?_cons]; rfl

/-- From every log, a call with an unknown level tells the level and leaves the log as it was, and any other
call leaves the named level and one handler alone, which writes in the style that is asked for. So the log
after many calls is the one that the last of those with a known level makes, and if there is none it is the
one from before. -/
theorem log_is_as_last_known_call_made_it (stream : Style → H) (setup : Setup H) :
    (∀ call : Call, call.level? = none →
      (call.change stream).run setup = .error ⟨Text.upper call.levelName⟩ setup) ∧
    (∀ (call : Call) (level : Int), call.level? = some level →
      (call.change stream).run setup = .ok () ⟨level, [stream call.style]⟩) ∧
    ∀ calls : List Call, calls.foldl (Setup.after stream) setup =
      (calls.filterMap (Call.made? stream)).getLast?.getD setup :=
  ⟨fun _ unknown => Call.change_of_unknown unknown setup,
    fun _ _ known => Call.change_of_known known setup, setup.foldl_after⟩

/-- Two calls with a known level between calls without, from a log with three handlers. -/
theorem mixed_calls_leave_last_known_call :
    ((⟨"loud", true⟩ : Call).change Handler.stream).run ⟨30, [.silent, .stream .plain, .silent]⟩ =
      .error ⟨"LOUD"⟩ ⟨30, [.silent, .stream .plain, .silent]⟩ ∧
    ((⟨"debug", false⟩ : Call).change Handler.stream).run ⟨30, [.silent, .stream .plain, .silent]⟩ =
      .ok () ⟨10, [.stream .plain]⟩ ∧
    [(⟨"loud", true⟩ : Call), ⟨"debug", false⟩, ⟨"", false⟩, ⟨"Error", true⟩, ⟨"5", false⟩].foldl
      (Setup.after Handler.stream) ⟨30, [.silent, .stream .plain, .silent]⟩ = ⟨40, [.stream .json]⟩ := by
  obtain ⟨unknown, known, run⟩ := log_is_as_last_known_call_made_it Handler.stream
    ⟨30, [.silent, .stream .plain, .silent]⟩
  refine ⟨unknown ⟨"loud", true⟩ rfl, known ⟨"debug", false⟩ 10 rfl, ?_⟩
  rw [run]
  rfl

end NumberingPlan.Logging
