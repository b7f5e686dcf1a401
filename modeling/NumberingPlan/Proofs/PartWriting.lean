import NumberingPlan.Build
import NumberingPlan.Proofs.PartPayloads
import NumberingPlan.Proofs.SessionSteps
import NumberingPlan.Proofs.TreeAccess

/-! Writing the parts of a collection. Each part is encoded before its file is touched, so a run
that fails leaves exactly what a run on the territories before the failing one leaves. What a place
holds after parts are stored is what the last part stored there holds. -/
namespace NumberingPlan.Build
open Storage

/-- Parts are stored one after another, each at its path. -/
inductive Stored (start : Path) : FileTree → List Part → FileTree → Prop where
  | nil (tree : FileTree) : Stored start tree [] tree
  | cons {tree next after : FileTree} {part : Part} {ps : List Part}
      (first : tree.write (partPath start part.key).toString part.payload = .ok next)
      (rest : Stored start next ps after) : Stored start tree (part :: ps) after

/-- What parts leave at a place: the bytes of the last of them whose path names it. -/
def lastAt (tree : FileTree) (start : Path) (place : Place) : List Part → Option (List UInt8)
  | [] => none
  | part :: later => (lastAt tree start place later).or
      (if tree.place (partPath start part.key).toString = .ok place then some part.payload else none)

/-- What parts leave at a place is no matter of the tree, as long as the same paths name the place. -/
theorem lastAt_congr_of_places {tree tree' : FileTree} {start : Path} {place : Place} {ps : List Part}
    (same : ∀ part ∈ ps, tree.place (partPath start part.key).toString = .ok place ↔
      tree'.place (partPath start part.key).toString = .ok place) :
    lastAt tree start place ps = lastAt tree' start place ps := by
  induction ps with
  | nil => rfl
  | cons part ps ih =>
    have here := same part List.mem_cons_self
    have later := ih fun other member => same other (List.mem_cons_of_mem _ member)
    simp only [lastAt, later, here]

private theorem lastAt_congr {tree tree' : FileTree} (more : tree.Extends tree') (fewer : tree'.Extends tree)
    (start : Path) (place : Place) (ps : List Part) :
    lastAt tree start place ps = lastAt tree' start place ps :=
  lastAt_congr_of_places fun _ _ => ⟨fewer.place, more.place⟩

theorem lastAt_eq_none_iff {tree : FileTree} {start : Path} {place : Place} {ps : List Part} :
    lastAt tree start place ps = none ↔
      ∀ part ∈ ps, tree.place (partPath start part.key).toString ≠ .ok place := by
  induction ps with
  | nil => simp [lastAt]
  | cons part ps ih => simp [lastAt, ih, and_comm]

/-- Storing parts changes the files at their places and nothing else. -/
theorem Stored.effect (stored : Stored start tree ps after) : after.Extends tree ∧ tree.Extends after ∧
    ∀ place, after.file? place = (lastAt tree start place ps).or (tree.file? place) := by
  induction stored with
  | nil tree => exact ⟨.refl tree, .refl tree, fun place => rfl⟩
  | @cons tree next after part ps first rest ih =>
    obtain ⟨more, fewer, files⟩ := ih
    obtain ⟨here, found, more', fewer', written⟩ := FileTree.write_effect first
    refine ⟨more.trans more', fewer'.trans fewer, fun place => ?_⟩
    rw [files, written, lastAt, lastAt_congr more' fewer', found, Option.or_assoc]
    by_cases same : place = here
    · simp [same]
    · simp [same, Ne.symm same]

/-- Each part that was stored has a place. -/
theorem Stored.place (stored : Stored start tree ps after) :
    ∀ part ∈ ps, ∃ place, tree.place (partPath start part.key).toString = .ok place := by
  induction stored with
  | nil => simp
  | @cons tree next after part ps first rest ih =>
    obtain ⟨here, found, -, fewer, -⟩ := FileTree.write_effect first
    intro other member
    rcases List.mem_cons.mp member with rfl | later
    · exact ⟨here, found⟩
    · obtain ⟨place, found'⟩ := ih other later
      exact ⟨place, fewer.place found'⟩

/-- What is logged of a part whose file is replaced by it. -/
def overwriting (start : Path) (key : String) : Logging.Entry :=
  ⟨.warning, partLogger, "Output key " ++ key ++ " appears more than once; overwriting " ++
    (partPath start key).toString, none, false⟩

/-- What is logged of a part that is stored. -/
def written (start : Path) (part : Part) : Logging.Entry :=
  ⟨.debug, partLogger, s!"Wrote {part.payload.length} bytes to " ++ (partPath start part.key).toString,
    some part.key, false⟩

/-- The warning of a key, if it was seen before. -/
def warnings (start : Path) (seen : List String) (key : String) : List Logging.Entry :=
  if seen.contains key then [overwriting start key] else []

/-- What is logged of parts that are stored, where some keys were seen before. -/
def notices (start : Path) : List String → List Part → List Logging.Entry
  | _, [] => []
  | seen, part :: later =>
    warnings start seen part.key ++ written start part :: notices start (part.key :: seen) later

/-- What is logged at the end of a collection. -/
def summary (start : Path) (count : Nat) : Logging.Entry :=
  ⟨.info, partLogger, s!"Wrote {count} metadata files with prefix " ++ start.toString, none, false⟩

/-- Storing a part, once it has been warned of. -/
private theorem storing_ok {tree : FileTree} {start : Path} {part : Part}
    (done : tree.write (partPath start part.key).toString part.payload = .ok files) :
    (do
      Session.store (partPath start part.key) part.payload
      Session.log (written start part)
      return partPath start part.key : Session Path).run ⟨tree, log⟩ =
      .ok (partPath start part.key) ⟨files, log ++ [written start part]⟩ := by
  rw [EStateM.run_bind, Session.store_ok done]
  rfl

private theorem storing_error {tree : FileTree} {start : Path} {part : Part}
    (refused : tree.write (partPath start part.key).toString part.payload = .error fault) :
    (do
      Session.store (partPath start part.key) part.payload
      Session.log (written start part)
      return partPath start part.key : Session Path).run ⟨tree, log⟩ =
      .error (.access fault) ⟨tree, log⟩ := by
  rw [EStateM.run_bind, Session.store_error refused]

private theorem writePart_ok {tree : FileTree} {start : Path} {part : Part}
    (done : tree.write (partPath start part.key).toString part.payload = .ok files) :
    (writePart start seen part).run ⟨tree, log⟩ = .ok (partPath start part.key)
      ⟨files, log ++ warnings start seen part.key ++ [written start part]⟩ := by
  unfold writePart warnings
  dsimp only
  split
  · rw [EStateM.run_bind, Session.log_run]
    exact storing_ok done
  · rw [List.append_nil]
    exact storing_ok done

private theorem writePart_error {tree : FileTree} {start : Path} {part : Part}
    (refused : tree.write (partPath start part.key).toString part.payload = .error fault) :
    (writePart start seen part).run ⟨tree, log⟩ =
      .error (.access fault) ⟨tree, log ++ warnings start seen part.key⟩ := by
  unfold writePart warnings
  dsimp only
  split
  · rw [EStateM.run_bind, Session.log_run]
    exact storing_error refused
  · rw [List.append_nil]
    exact storing_error refused


variable {encoder : Encoder Failure}

/-- Why a territory stops the writing: it cannot be encoded, or its part cannot be stored. -/
inductive Stops (encoder : Encoder Failure) (start : Path) (files : FileTree) (t : Territory) :
    Failure → Prop where
  | encoding (failed : encoder t = .error f) : Stops encoder start files t f
  | storing (made : Part.ofTerritory encoder t = .ok part)
      (refused : files.write (partPath start part.key).toString part.payload = .error fault) :
      Stops encoder start files t (.access fault)

/-- Either all territories become parts that are stored, or there is a first that stops this, after
the parts before it are stored. -/
theorem stored_or_stopped (encoder : Encoder Failure) (start : Path) (tree : FileTree)
    (ts : List Territory) :
    (∃ ps after, PartsOf encoder ts ps ∧ Stored start tree ps after) ∨
      ∃ before t later ps reached f, ts = before ++ t :: later ∧ PartsOf encoder before ps ∧
        Stored start tree ps reached ∧ Stops encoder start reached t f := by
  induction ts generalizing tree with
  | nil => exact .inl ⟨[], tree, .nil, .nil tree⟩
  | cons t ts ih =>
    -- A part is made before its path is touched, so a failed encoding leaves the tree alone.
    cases made : Part.ofTerritory encoder t with
    | error f =>
      have failed := Part.ofTerritory_eq_error_iff.mp made
      exact .inr ⟨[], t, ts, [], tree, f, rfl, .nil, .nil tree, .encoding failed⟩
    | ok part =>
      cases first : tree.write (partPath start part.key).toString part.payload with
      | error fault =>
        exact .inr ⟨[], t, ts, [], tree, _, rfl, .nil, .nil tree, .storing made first⟩
      | ok next =>
        rcases ih next with ⟨ps, after, each, stored⟩ |
          ⟨before, stop, later, ps, reached, f, rfl, each, stored, stops⟩
        · exact .inl ⟨part :: ps, after, .cons made each, .cons first stored⟩
        · exact .inr ⟨t :: before, stop, later, part :: ps, reached, f, rfl, .cons made each,
            .cons first stored, stops⟩

private theorem writeEach_of_stored (each : PartsOf encoder ts ps) (stored : Stored start tree ps files)
    (seen : List String) (log : List Logging.Entry) : (writeEach encoder start seen ts).run ⟨tree, log⟩ =
      .ok (ps.map fun part => partPath start part.key) ⟨files, log ++ notices start seen ps⟩ := by
  induction each generalizing tree seen log with
  | nil =>
    cases stored
    rw [notices, List.append_nil]
    rfl
  | @cons t part ts ps made each ih =>
    cases stored with
    | cons first rest =>
      unfold writeEach
      rw [EStateM.run_bind, made, Session.lift_ok]
      dsimp only
      rw [EStateM.run_bind, writePart_ok first]
      dsimp only
      rw [EStateM.run_bind, ih rest, notices]
      simp [EStateM.run_pure]

private theorem writeEach_of_stopped (each : PartsOf encoder before ps) (stored : Stored start tree ps files)
    (stops : Stops encoder start files t f) (seen : List String) (log : List Logging.Entry) :
    ∃ after, (writeEach encoder start seen (before ++ t :: later)).run ⟨tree, log⟩ =
      .error f after ∧ after.files = files := by
  induction each generalizing tree seen log with
  | nil =>
    cases stored
    rw [List.nil_append]
    unfold writeEach
    rw [EStateM.run_bind]
    cases stops with
    | encoding failed =>
      rw [Part.ofTerritory_eq_error_iff.mpr failed, Session.lift_error]
      exact ⟨_, rfl, rfl⟩
    | storing made refused =>
      rw [made, Session.lift_ok]
      dsimp only
      rw [EStateM.run_bind, writePart_error refused]
      exact ⟨_, rfl, rfl⟩
  | @cons first part ts ps made each ih =>
    cases stored with
    | cons done rest =>
      obtain ⟨after, failed, same⟩ := ih rest (part.key :: seen)
        (log ++ warnings start seen part.key ++ [written start part])
      rw [List.cons_append]
      unfold writeEach
      rw [EStateM.run_bind, made, Session.lift_ok]
      dsimp only
      rw [EStateM.run_bind, writePart_ok done]
      dsimp only
      rw [EStateM.run_bind, failed]
      exact ⟨after, rfl, same⟩

theorem writeParts_of_stored (done : tree.makeDirectories start.parent = (made, none))
    (each : PartsOf encoder ts ps) (stored : Stored start made ps files) (log : List Logging.Entry) :
    (writeParts encoder start ts).run ⟨tree, log⟩ = .ok (ps.map fun part => partPath start part.key)
      ⟨files, log ++ notices start [] ps ++ [summary start ps.length]⟩ := by
  unfold writeParts
  rw [EStateM.run_bind, Session.makeDirectories_ok done]
  dsimp only
  rw [EStateM.run_bind, writeEach_of_stored each stored]
  dsimp only
  rw [EStateM.run_bind, Session.log_run, List.length_map]
  rfl

theorem writeParts_of_stopped (done : tree.makeDirectories start.parent = (made, none))
    (each : PartsOf encoder before ps) (stored : Stored start made ps files)
    (stops : Stops encoder start files t f) (later : List Territory) (log : List Logging.Entry) :
    ∃ after, (writeParts encoder start (before ++ t :: later)).run ⟨tree, log⟩ = .error f after ∧
      after.files = files := by
  obtain ⟨after, failed, same⟩ := writeEach_of_stopped each stored stops [] log
  refine ⟨after, ?_, same⟩
  unfold writeParts
  rw [EStateM.run_bind, Session.makeDirectories_ok done]
  dsimp only
  rw [EStateM.run_bind, failed]

theorem writeParts_of_refused (refused : tree.makeDirectories start.parent = (files, some fault))
    (encoder : Encoder Failure) (ts : List Territory) (log : List Logging.Entry) :
    (writeParts encoder start ts).run ⟨tree, log⟩ = .error (.access fault) ⟨files, log⟩ := by
  unfold writeParts
  rw [EStateM.run_bind, Session.makeDirectories_error refused]

/-- Writing a collection succeeds only if the folder can be made, and then every territory can be
encoded and its part stored. -/
theorem writeParts_ok {w after : Workspace} (ran : (writeParts encoder start ts).run w = .ok paths after) :
    ∃ made ps, w.files.makeDirectories start.parent = (made, none) ∧ PartsOf encoder ts ps ∧
      Stored start made ps after.files ∧ paths = ps.map (fun part => partPath start part.key) ∧
        after.log = w.log ++ notices start [] ps ++ [summary start ps.length] := by
  obtain ⟨tree, log⟩ := w
  rcases making : tree.makeDirectories start.parent with ⟨made, _ | fault⟩
  · rcases stored_or_stopped encoder start made ts with ⟨ps, files, each, stored⟩ |
      ⟨before, t, later, ps, files, f, rfl, each, stored, stops⟩
    · rw [writeParts_of_stored making each stored] at ran
      cases ran
      exact ⟨made, ps, rfl, each, stored, rfl, rfl⟩
    · obtain ⟨after', failed, -⟩ := writeParts_of_stopped making each stored stops later log
      rw [failed] at ran
      cases ran
  · rw [writeParts_of_refused making] at ran
    cases ran

/-- A run that fails because the folder of the parts cannot be made. -/
structure FolderRefused (start : Path) (w after : Workspace) (f : Failure) (fault : Fault) : Prop where
  refused : w.files.makeDirectories start.parent = (after.files, some fault)
  told : f = .access fault
  unchanged : ∀ place, after.files.file? place = w.files.file? place

/-- A run that fails at a territory `t`: what a run on the territories before it leaves is what is left. -/
structure StoppedAt (encoder : Encoder Failure) (start : Path) (w after : Workspace) (f : Failure)
    (made : FileTree) (before : List Territory) (t : Territory) (later : List Territory) (ps : List Part)
    (reached : Workspace) : Prop where
  folder : w.files.makeDirectories start.parent = (made, none)
  parts : PartsOf encoder before ps
  ran : (writeParts encoder start before).run w = .ok (ps.map fun part => partPath start part.key) reached
  stops : Stops encoder start reached.files t f
  kept : after.files = reached.files
  /-- Every place holds the last of the parts that were stored there, whole, or what it held at the start. -/
  held : ∀ place, after.files.file? place = (lastAt made start place ps).or (w.files.file? place)
  /-- So does the place of a later territory, which was not reached: an earlier one may share it. -/
  untouched : ∀ t' ∈ later, ∀ place, made.place (partPath start t'.outputKey).toString = .ok place →
    (∃ bytes, lastAt made start place ps = some bytes ∧ after.files.file? place = some bytes) ∨
      (∀ part ∈ ps, made.place (partPath start part.key).toString ≠ .ok place) ∧
        after.files.file? place = w.files.file? place

/-- A run that fails changes no file if the folder of the parts cannot be made. Otherwise there is a
first territory that cannot be encoded or stored, and the files are those that a run on the
territories before it leaves: at every place the last of their parts that was stored there, whole, or
what was there at the start. The place of a later territory is as it was at the start, unless a
territory before the failing one is stored there too: then it holds what that one left. -/
theorem failed_run_leaves_whole_parts {w after : Workspace}
    (failed : (writeParts encoder start ts).run w = .error f after) :
    (∃ fault, FolderRefused start w after f fault) ∨ ∃ made before t later ps reached,
      ts = before ++ t :: later ∧ StoppedAt encoder start w after f made before t later ps reached := by
  obtain ⟨tree, log⟩ := w
  rcases making : tree.makeDirectories start.parent with ⟨made, _ | fault⟩
  · have grown := tree.makeDirectories_grown start.parent
    rw [making] at grown
    rcases stored_or_stopped encoder start made ts with ⟨ps, files, each, stored⟩ |
      ⟨before, t, later, ps, files, f', rfl, each, stored, stops⟩
    · rw [writeParts_of_stored making each stored] at failed
      cases failed
    · obtain ⟨after', stopped, same⟩ := writeParts_of_stopped making each stored stops later log
      rw [stopped] at failed
      cases failed
      have held (place : Place) :
          after.files.file? place = (lastAt made start place ps).or (tree.file? place) := by
        obtain ⟨-, -, files⟩ := stored.effect
        rw [same, files, grown.files]
      refine .inr ⟨made, before, t, later, ps, _, rfl,
        { folder := making
          parts := each
          ran := writeParts_of_stored making each stored log
          stops := stops
          kept := same
          held := held
          untouched := fun _ _ place _ => ?_ }⟩
      cases last : lastAt made start place ps with
      | some bytes => exact .inl ⟨bytes, rfl, by rw [held, last, Option.some_or]⟩
      | none => exact .inr ⟨lastAt_eq_none_iff.mp last, by rw [held, last, Option.none_or]⟩
  · have grown := tree.makeDirectories_grown start.parent
    rw [making] at grown
    rw [writeParts_of_refused making] at failed
    cases failed
    exact .inl ⟨fault, making, rfl, grown.files⟩

/-- An encoder that writes calling codes as bytes and refuses main territories. -/
def codeUnlessMain : Encoder Failure := fun t =>
  if t.isMain then .error .noInput else .ok [t.countryCode.toNat.toUInt8]

set_option maxRecDepth 8000 in
/-- The second territory under a key cannot be encoded: the part of the first stays, and the territory
after them leaves nothing. -/
theorem failed_repeat_keeps_the_first_part : ∃ after reached before paths,
    (writeParts codeUnlessMain ⟨.here, ["p"]⟩ [⟨"A", 1, false, [], [], []⟩, ⟨"A", 2, true, [], [], []⟩,
      ⟨"B", 3, false, [], [], []⟩]).run ⟨⟨[], []⟩, []⟩ = .error .noInput after ∧
    (writeParts codeUnlessMain ⟨.here, ["p"]⟩ before).run ⟨⟨[], []⟩, []⟩ = .ok paths reached ∧
    after.files = reached.files ∧ after.files.file? ["p_A"] = some [1] ∧
      after.files.file? ["p_B"] = none := by
  obtain ⟨after, failed, kept, missing⟩ : ∃ after,
      (writeParts codeUnlessMain ⟨.here, ["p"]⟩ [⟨"A", 1, false, [], [], []⟩, ⟨"A", 2, true, [], [], []⟩,
        ⟨"B", 3, false, [], [], []⟩]).run ⟨⟨[], []⟩, []⟩ = .error .noInput after ∧
      after.files.file? ["p_A"] = some [1] ∧ after.files.file? ["p_B"] = none := ⟨_, rfl, rfl, rfl⟩
  obtain ⟨fault, folder⟩ | ⟨_, before, _, _, _, reached, -, stopped⟩ := failed_run_leaves_whole_parts failed
  · cases (Prod.mk.inj folder.refused).2
  · exact ⟨after, reached, before, _, failed, stopped.ran, stopped.kept, kept, missing⟩

end NumberingPlan.Build
