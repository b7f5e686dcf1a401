import NumberingPlan.Session

/-! What one operation of a session does to a workspace: what it gives and what it leaves, also where
it fails. -/
namespace NumberingPlan.Session

variable {tree files : Storage.FileTree} {path : Storage.Path} {log : List Logging.Entry}

/-- A session that succeeds went through a workspace in which its first operation succeeded. -/
theorem bind_ok {α β : Type} {first : Session α} {next : α → Session β} {value : β} {w after : Workspace}
    (ran : (first >>= next).run w = .ok value after) :
    ∃ found between, first.run w = .ok found between ∧ (next found).run between = .ok value after := by
  rw [EStateM.run_bind] at ran
  cases begun : first.run w with
  | ok found between =>
    rw [begun] at ran
    exact ⟨found, between, rfl, ran⟩
  | error f between =>
    rw [begun] at ran
    cases ran

/-- The workspace that an operation leaves, also where it fails. -/
def left {α : Type} : EStateM.Result Failure Workspace α → Workspace
  | .ok _ w | .error _ w => w

theorem get_run (w : Workspace) : (get : Session Workspace).run w = .ok w w := rfl

theorem log_run (entry : Logging.Entry) (w : Workspace) :
    (Session.log entry).run w = .ok () ⟨w.files, w.log ++ [entry]⟩ := rfl

theorem store_ok (done : tree.write path.toString bytes = .ok files) :
    (store path bytes).run ⟨tree, log⟩ = .ok () ⟨files, log⟩ := by
  unfold store
  rw [EStateM.run_bind, get_run]
  simp only [done]
  rfl

theorem store_error (refused : tree.write path.toString bytes = .error fault) :
    (store path bytes).run ⟨tree, log⟩ = .error (.access fault) ⟨tree, log⟩ := by
  unfold store
  rw [EStateM.run_bind, get_run]
  simp only [refused]
  rfl

theorem store_eq_ok {w after : Workspace} (ran : (store path bytes).run w = .ok () after) :
    w.files.write path.toString bytes = .ok after.files := by
  obtain ⟨tree, log⟩ := w
  cases done : tree.write path.toString bytes with
  | ok files =>
    rw [store_ok done] at ran
    cases ran
    rfl
  | error fault =>
    rw [store_error done] at ran
    cases ran

theorem makeDirectories_ok (done : tree.makeDirectories path = (files, none)) :
    (makeDirectories path).run ⟨tree, log⟩ = .ok () ⟨files, log⟩ := by
  unfold makeDirectories
  rw [EStateM.run_bind, get_run]
  simp only [done]
  rfl

theorem makeDirectories_error (refused : tree.makeDirectories path = (files, some fault)) :
    (makeDirectories path).run ⟨tree, log⟩ = .error (.access fault) ⟨files, log⟩ := by
  unfold makeDirectories
  rw [EStateM.run_bind, get_run]
  simp only [refused]
  rfl

theorem makeDirectories_eq_ok {w after : Workspace} (ran : (makeDirectories path).run w = .ok () after) :
    w.files.makeDirectories path = (after.files, none) := by
  obtain ⟨tree, log⟩ := w
  rcases done : tree.makeDirectories path with ⟨files, _ | fault⟩
  · rw [makeDirectories_ok done] at ran
    cases ran
    rfl
  · rw [makeDirectories_error done] at ran
    cases ran

theorem bytesAt_ok (held : tree.read path.toString = .ok bytes) :
    (bytesAt path).run ⟨tree, log⟩ = .ok bytes ⟨tree, log⟩ := by
  unfold bytesAt look
  rw [EStateM.run_bind, get_run]
  simp only [held]
  rfl

theorem bytesAt_error (refused : tree.read path.toString = .error fault) :
    (bytesAt path).run ⟨tree, log⟩ = .error (.access fault) ⟨tree, log⟩ := by
  unfold bytesAt look
  rw [EStateM.run_bind, get_run]
  simp only [refused]
  rfl

theorem lift_ok {ε α : Type} (failure : ε → Failure) (value : α) (w : Workspace) :
    (lift failure (.ok value)).run w = .ok value w := rfl

theorem lift_error {ε α : Type} (failure : ε → Failure) (e : ε) (w : Workspace) :
    (lift failure (.error e) : Session α).run w = .error (failure e) w := rfl

theorem lift_eq_ok {ε α : Type} {failure : ε → Failure} {computed : Except ε α} {value : α}
    {w after : Workspace} (ran : (lift failure computed).run w = .ok value after) :
    computed = .ok value ∧ after = w := by
  cases computed with
  | ok found =>
    cases ran
    exact ⟨rfl, rfl⟩
  | error e => cases ran

end NumberingPlan.Session
