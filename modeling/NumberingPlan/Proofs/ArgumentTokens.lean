import Mathlib.Data.List.TakeDrop
import NumberingPlan.Command.Request
import NumberingPlan.Proofs.ListReading

/-! Tokens of the command. The form of every token is looked at before any is read, so one bad token is
enough for a refusal, wherever it stands and whatever reads the others. The flags that are read are those that
stand among the tokens. -/
namespace NumberingPlan.Command

/-- The form of an option with a value: two dashes, a name that is not empty, the sign of equality and any
value, without a line feed in either. -/
def HasForm (token : String) : Prop :=
  ∃ name value : String, name ≠ "" ∧ '\n' ∉ name.toList ∧ '\n' ∉ value.toList ∧
    token = "--" ++ name ++ "=" ++ value

/-- After two dashes and a first character, a sign of equality is enough for a name and a value. -/
theorem isAssignment_cons (c : Char) (rest : List Char) : isAssignment ('-' :: '-' :: c :: rest) = true ↔
    c ≠ '\n' ∧ '=' ∈ rest ∧ '\n' ∉ rest := by
  simp [isAssignment, and_assoc]

theorem isAssignment_iff (token : String) : isAssignment token.toList = true ↔ HasForm token := by
  constructor
  · intro assigned
    have dashed : ∃ c rest, token.toList = '-' :: '-' :: c :: rest := by
      unfold isAssignment at assigned
      split at assigned
      · exact ⟨_, _, ‹_›⟩
      · cases assigned
    obtain ⟨c, rest, spelled⟩ := dashed
    rw [spelled, isAssignment_cons] at assigned
    obtain ⟨first, equals, unbroken⟩ := assigned
    obtain ⟨before, after, rfl⟩ := List.append_of_mem equals
    refine ⟨String.ofList (c :: before), String.ofList after, ?_, ?_, ?_, ?_⟩
    · simp [← String.toList_inj]
    · simp_all [eq_comm]
    · simp_all
    · simp [← String.toList_inj, spelled]
  · rintro ⟨name, value, something, unbroken, unbroken', rfl⟩
    have nonempty : name.toList ≠ [] := by simpa using something
    obtain ⟨c, rest, spelled⟩ := List.exists_cons_of_ne_nil nonempty
    rw [spelled] at unbroken
    have whole : ("--" ++ name ++ "=" ++ value).toList = '-' :: '-' :: c :: (rest ++ '=' :: value.toList) := by
      simp [spelled]
    rw [whole, isAssignment_cons]
    simp_all [eq_comm]

/-- A token is legal if it is a flag or has the form of an option with a value. -/
theorem isLegal_iff (token : String) :
    isLegal token = true ↔ token = "--help" ∨ token = "--version" ∨ HasForm token := by
  rw [isLegal, Bool.or_eq_true, isAssignment_iff, ← or_assoc, List.any_eq_true]
  refine or_congr_left ⟨?_, ?_⟩
  · rintro ⟨flag, -, named⟩
    rw [beq_iff_eq] at named
    cases flag with
    | help => exact .inl named.symm
    | version => exact .inr named.symm
  · rintro (rfl | rfl)
    · exact ⟨.help, by decide, rfl⟩
    · exact ⟨.version, by decide, rfl⟩

/-- Tokens are refused for one of them that is neither a flag nor of this form, wherever it stands. -/
theorem ofTokens_of_malformed {tokens : List String} (files : Storage.FileTree) (member : token ∈ tokens)
    (help : token ≠ "--help") (version : token ≠ "--version") (malformed : ¬HasForm token) (read : OptionReader) :
    ∃ fault, Request.ofTokens files tokens read = .error fault := by
  have illegal : isLegal token = false := by
    rw [← Bool.not_eq_true, isLegal_iff]
    exact not_or.mpr ⟨help, not_or.mpr ⟨version, malformed⟩⟩
  unfold Request.ofTokens
  cases found : tokens.find? (!isLegal ·) with
  | some other => exact ⟨.illegal other, rfl⟩
  | none =>
    have legal := List.find?_eq_none.mp found token member
    simp [illegal] at legal

private theorem ofToken_flag (flag : Flag) : Argument.ofToken flag.name = .ok (.flag flag) := by
  cases flag <;> decide

/-- Only the name of a flag is read as the flag. -/
theorem ofToken_eq_flag {token : String} {flag : Flag} (read : Argument.ofToken token = .ok (.flag flag)) :
    token = flag.name := by
  have whole : token.toList.takeWhile (· != '=') ++ token.toList.dropWhile (· != '=') = token.toList :=
    List.takeWhile_append_dropWhile
  unfold Argument.ofToken at read
  rw [List.span_eq_takeWhile_dropWhile] at read
  dsimp only at read
  split at read
  · cases read
  · rename_i f absent found
    split at read
    · rename_i nothing
      cases read
      have named := List.find?_some found
      rw [beq_iff_eq] at named
      rw [named, ← String.toList_inj, String.toList_ofList]
      rw [List.isEmpty_iff.mp nothing, List.append_nil] at whole
      exact whole.symm
    · cases read
  · cases read

theorem ofToken_flag_iff {token : String} {flag : Flag} :
    Argument.ofToken token = .ok (.flag flag) ↔ token = flag.name :=
  ⟨ofToken_eq_flag, fun named => named ▸ ofToken_flag flag⟩

/-- The flags among the arguments are those among the tokens. -/
theorem flag_mem_iff {tokens : List String} {arguments : List Argument}
    (each : List.Forall₂ (fun token argument => Argument.ofToken token = .ok argument) tokens arguments)
    (flag : Flag) : .flag flag ∈ arguments ↔ flag.name ∈ tokens := by
  induction each with
  | nil => simp
  | @cons token argument tokens arguments read _ ih =>
    have first : .flag flag = argument ↔ flag.name = token := by
      rw [eq_comm, @eq_comm _ flag.name, ← ofToken_flag_iff, read, Except.ok.injEq]
    rw [List.mem_cons, List.mem_cons, ih, first]

theorem firstFlag_eq_none_iff {tokens : List String} {arguments : List Argument}
    (read : tokens.mapM Argument.ofToken = .ok arguments) :
    firstFlag arguments = none ↔ "--help" ∉ tokens ∧ "--version" ∉ tokens := by
  have flagged := flag_mem_iff (mapM_eq_ok_iff.mp read)
  have none_iff : firstFlag arguments = none ↔ ∀ flag, .flag flag ∉ arguments := by
    rw [firstFlag, List.findSome?_eq_none_iff]
    constructor
    · intro nothing flag member
      cases nothing _ member
    · intro absent argument member
      cases argument with
      | value => rfl
      | flag flag => exact absurd member (absent flag)
  rw [none_iff]
  constructor
  · exact fun absent => ⟨mt (flagged .help).mpr (absent .help), mt (flagged .version).mpr (absent .version)⟩
  · rintro ⟨help, version⟩ flag member
    cases flag with
    | help => exact help ((flagged .help).mp member)
    | version => exact version ((flagged .version).mp member)

/-- Values ask for nothing but a build. -/
theorem request_eq_build {v : Values} {request : Request} (accepted : v.request = .ok request) :
    ∃ options config, request = .build options config := by
  unfold Values.request at accepted
  obtain ⟨outputDir, -, accepted⟩ := bind_eq_ok accepted
  obtain ⟨dataPrefix, -, accepted⟩ := bind_eq_ok accepted
  obtain ⟨mappingClass, -, accepted⟩ := bind_eq_ok accepted
  obtain ⟨copyright, -, accepted⟩ := bind_eq_ok accepted
  dsimp only at accepted
  split at accepted
  · cases accepted
  · cases accepted
    exact ⟨_, _, rfl⟩

/-- What is known of a reader of options. With a flag among the tokens it answers the flag or refuses them, and
without one it reads a build or refuses them. -/
structure OptionRules (read : OptionReader) : Prop where
  flagged : ∀ files tokens request, read files tokens = .ok request → "--help" ∈ tokens ∨ "--version" ∈ tokens →
    request = .help ∨ request = .version
  plain : ∀ files tokens request, read files tokens = .ok request → "--help" ∉ tokens → "--version" ∉ tokens →
    ∃ options config, request = .build options config

/-- The program's own reader keeps the rules. -/
theorem ofLegal_rules : OptionRules Request.ofLegal := by
  have cases (files : Storage.FileTree) (tokens : List String) (request : Request)
      (accepted : Request.ofLegal files tokens = .ok request) :
      (¬("--help" ∉ tokens ∧ "--version" ∉ tokens) ∧ (request = .help ∨ request = .version)) ∨
        ("--help" ∉ tokens ∧ "--version" ∉ tokens) ∧ ∃ options config, request = .build options config := by
    unfold Request.ofLegal at accepted
    split at accepted
    · cases accepted
    · rename_i arguments read
      have flags := firstFlag_eq_none_iff read
      split at accepted
      · rename_i found
        cases accepted
        exact .inl ⟨fun absent => (nomatch found.symm.trans (flags.mpr absent)), .inl rfl⟩
      · rename_i found
        cases accepted
        exact .inl ⟨fun absent => (nomatch found.symm.trans (flags.mpr absent)), .inr rfl⟩
      · rename_i nothing
        obtain ⟨values, -, asked⟩ := bind_eq_ok accepted
        exact .inr ⟨flags.mp nothing, request_eq_build asked⟩
  constructor
  · intro files tokens request accepted flag
    rcases cases files tokens request accepted with ⟨-, answer⟩ | ⟨absent, -⟩
    · exact answer
    · exact absurd flag (not_or.mpr absent)
  · intro files tokens request accepted help version
    rcases cases files tokens request accepted with ⟨flag, -⟩ | ⟨-, build⟩
    · exact absurd ⟨help, version⟩ flag
    · exact build

/-- Tokens that make a request are legal, and the reader makes that request of them. -/
theorem ofTokens_eq_ok {files : Storage.FileTree} {tokens : List String} {read : OptionReader} {request : Request}
    (accepted : Request.ofTokens files tokens read = .ok request) : read files tokens = .ok request := by
  unfold Request.ofTokens at accepted
  split at accepted
  · cases accepted
  · exact accepted

end NumberingPlan.Command
