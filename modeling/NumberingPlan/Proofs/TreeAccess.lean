import NumberingPlan.Proofs.PathTexts
import NumberingPlan.Storage.FileTree

/-! What accesses see of a tree and what they change. A write changes one file and no directory, and
making directories changes no file, so what was found before is found after. A path in normal form
is followed name by name, and a child is found where its folder is. -/
namespace NumberingPlan.Storage.FileTree

/-- The bytes of the file at a place, if there is one. -/
def file? (tree : FileTree) (place : Place) : Option (List UInt8) :=
  match tree.node? place with
  | some (.file bytes) => some bytes
  | _ => none

theorem file?_eq_some_iff {tree : FileTree} {place : Place} {bytes : List UInt8} :
    tree.file? place = some bytes ↔ tree.node? place = some (.file bytes) := by
  unfold file?
  split
  · rename_i held same
    simp [same]
  · rename_i other
    constructor
    · rintro ⟨⟩
    · exact fun same => absurd same (other bytes)

@[simp] theorem node?_root (tree : FileTree) : tree.node? [] = some .directory := rfl

/-- A tree without nodes has no file. -/
theorem file?_bare (home place : Place) : file? ⟨[], home⟩ place = none := by
  cases place <;> rfl

private theorem lookup_replaced {place other : Place} (apart : other ≠ place)
    (entries : List (Place × Node)) :
    (entries.filter fun entry => entry.1 != place).lookup other = entries.lookup other := by
  induction entries with
  | nil => rfl
  | cons entry entries ih =>
    obtain ⟨here, node⟩ := entry
    by_cases replaced : here = place
    · have missed : (other == here) = false := beq_eq_false_iff_ne.mpr (replaced ▸ apart)
      have dropped : (here != place) = false := by simp [replaced]
      simp only [List.filter_cons, dropped, Bool.false_eq_true, ↓reduceIte, ih, List.lookup_cons, missed]
    · have kept : (here != place) = true := by simp [replaced]
      simp only [List.filter_cons, kept, ↓reduceIte, List.lookup_cons, ih]

private theorem node?_put (tree : FileTree) {place : Place} (node : Node) (below : place ≠ []) (other : Place) :
    (tree.put place node).node? other = if other = place then some node else tree.node? other := by
  by_cases root : other = []
  · subst root
    simp [Ne.symm below]
  · have inside : other.isEmpty = false := by simpa using root
    by_cases same : other = place
    · simp only [node?, put, same, List.lookup_cons_self, ↓reduceIte]
      simp [below]
    · have missed : (other == place) = false := beq_eq_false_iff_ne.mpr same
      simp only [node?, inside, put, List.lookup_cons, missed, lookup_replaced same, same,
        Bool.false_eq_true, ↓reduceIte]

/-- A tree has the directories of another and starts relative paths where that does. -/
structure Extends (after before : FileTree) : Prop where
  home : after.home = before.home
  directory : ∀ {place}, before.node? place = some .directory → after.node? place = some .directory

theorem Extends.refl (tree : FileTree) : tree.Extends tree := ⟨rfl, id⟩

theorem Extends.trans {a b c : FileTree} (later : a.Extends b) (earlier : b.Extends c) : a.Extends c :=
  ⟨later.home.trans earlier.home, fun held => later.directory (earlier.directory held)⟩

/-- Which place names lead to from a directory: the last may be missing, every other one that leads
down has to be a directory. -/
inductive Reaches (tree : FileTree) : Place → List String → Place → Prop where
  | done (start : Place) : Reaches tree start [] start
  | stay (nothing : name = "" ∨ name = ".") (rest : Reaches tree start names goal) :
      Reaches tree start (name :: names) goal
  | up (rest : Reaches tree start.dropLast names goal) : Reaches tree start (".." :: names) goal
  | last (something : ¬(name = "" ∨ name = ".")) (down : name ≠ "..")
      (short : (Utf8.encode name).length ≤ maxName) : Reaches tree start [name] (start ++ [name])
  | through (something : ¬(name = "" ∨ name = ".")) (down : name ≠ "..")
      (short : (Utf8.encode name).length ≤ maxName)
      (directory : tree.node? (start ++ [name]) = some .directory)
      (rest : Reaches tree (start ++ [name]) (next :: names) goal) :
      Reaches tree start (name :: next :: names) goal

theorem follow_eq_ok_iff (tree : FileTree) (names : List String) (start goal : Place) :
    tree.follow start names = .ok goal ↔ Reaches tree start names goal := by
  constructor
  · intro reached
    induction names generalizing start with
    | nil =>
      cases reached
      exact .done goal
    | cons name names ih =>
      unfold FileTree.follow at reached
      by_cases nothing : name = "" ∨ name = "."
      · rw [if_pos nothing] at reached
        exact .stay nothing (ih start reached)
      rw [if_neg nothing] at reached
      by_cases up : name = ".."
      · subst up
        rw [if_pos rfl] at reached
        exact .up (ih _ reached)
      rw [if_neg up] at reached
      by_cases long : maxName < (Utf8.encode name).length
      · rw [if_pos long] at reached
        cases reached
      rw [if_neg long] at reached
      have short : (Utf8.encode name).length ≤ maxName := Nat.le_of_not_lt long
      cases names with
      | nil =>
        cases reached
        exact .last nothing up short
      | cons next names =>
        simp only [List.isEmpty_cons, Bool.false_eq_true, ↓reduceIte] at reached
        split at reached
        · rename_i directory
          exact .through nothing up short directory (ih _ reached)
        · cases reached
        · cases reached
  · intro reaches
    induction reaches with
    | done => rfl
    | stay nothing _ ih => rwa [FileTree.follow, if_pos nothing]
    | up _ ih =>
      rw [FileTree.follow, if_neg (by decide), if_pos rfl]
      exact ih
    | last something down short =>
      rw [FileTree.follow, if_neg something, if_neg down, if_neg (Nat.not_lt_of_le short)]
      rfl
    | through something down short directory _ ih =>
      rw [FileTree.follow, if_neg something, if_neg down, if_neg (Nat.not_lt_of_le short)]
      simp only [List.isEmpty_cons, Bool.false_eq_true, ↓reduceIte, directory]
      exact ih

/-- Whatever is reached is reached the same way where there are more directories. -/
theorem Reaches.extends {after before : FileTree} (more : after.Extends before)
    (reaches : Reaches before start names goal) : Reaches after start names goal := by
  induction reaches with
  | done start => exact .done start
  | stay nothing _ ih => exact .stay nothing ih
  | up _ ih => exact .up ih
  | last something down short => exact .last something down short
  | through something down short directory _ ih =>
    exact .through something down short (more.directory directory) ih

/-- A last name that leads down is the last name of the place, and it is not too long. -/
theorem Reaches.last_name {tree : FileTree} {name : String} (something : ¬(name = "" ∨ name = "."))
    (down : name ≠ "..") (reaches : Reaches tree start (outer ++ [name]) goal) :
    (Utf8.encode name).length ≤ maxName ∧ ∃ folder, goal = folder ++ [name] := by
  induction outer generalizing start with
  | nil =>
    cases reaches with
    | stay nothing _ => exact absurd nothing something
    | up _ => exact absurd rfl down
    | last _ _ short => exact ⟨short, start, rfl⟩
  | cons first outer ih =>
    -- A single name that leads down is the last one, and here another follows.
    generalize spelled : first :: outer ++ [name] = names at reaches
    cases reaches with
    | done => cases spelled
    | stay _ rest =>
      cases spelled
      exact ih rest
    | up rest =>
      cases spelled
      exact ih rest
    | last _ _ _ => simp at spelled
    | through _ _ _ _ rest =>
      obtain ⟨rfl, more⟩ := List.cons.inj spelled
      rw [← more] at rest
      exact ih rest

/-- A name that leads down from a directory leads to a place in it. -/
theorem Reaches.child {tree : FileTree} {name : String} (something : ¬(name = "" ∨ name = "."))
    (down : name ≠ "..") (short : (Utf8.encode name).length ≤ maxName)
    (reaches : Reaches tree start outer folder) (directory : tree.node? folder = some .directory) :
    Reaches tree start (outer ++ [name]) (folder ++ [name]) := by
  induction reaches with
  | done start => exact .last something down short
  | stay nothing _ ih => exact .stay nothing (ih directory)
  | up _ ih => exact .up (ih directory)
  | last something' down' short' =>
    exact .through something' down' short' directory (.last something down short)
  | through something' down' short' directory' _ ih =>
    exact .through something' down' short' directory' (ih directory)

/-- Where paths with an anchor start. -/
def origin (tree : FileTree) (anchor : Anchor) : Place := if anchor = .here then tree.home else []

theorem Extends.origin {after before : FileTree} (more : after.Extends before) (anchor : Anchor) :
    after.origin anchor = before.origin anchor := by
  rw [FileTree.origin, FileTree.origin, more.home]

/-- A text names a place exactly when it may be a path and its segments lead there. -/
theorem place_eq_ok_iff (tree : FileTree) (path : String) (goal : Place) :
    tree.place path = .ok goal ↔ '\x00' ∉ path.toList ∧ path ≠ "" ∧
      (Utf8.encode path).length < pathBound ∧
        Reaches tree (tree.origin (Path.anchorOf path.toList)) ((segments path.toList).map String.ofList)
          goal := by
  rw [← follow_eq_ok_iff]
  unfold FileTree.place
  by_cases null : '\x00' ∈ path.toList
  · simp [null]
  by_cases empty : path = ""
  · simp [empty]
  by_cases long : pathBound ≤ (Utf8.encode path).length
  · simp [null, empty, long, Nat.not_lt_of_le long]
  have start : (if Path.anchorOf path.toList = .here then tree.home else []) =
      tree.origin (Path.anchorOf path.toList) := rfl
  simp only [List.contains_iff_mem, String.isEmpty_iff, null, empty, long, Nat.lt_of_not_le long, start,
    ↓reduceIte, not_false_eq_true, true_and, ne_eq]
  cases tree.follow _ _ <;> simp

/-- A text that names a place names it where there are more directories. -/
theorem Extends.place {after before : FileTree} (more : after.Extends before) {path : String}
    {goal : Place} (found : before.place path = .ok goal) : after.place path = .ok goal := by
  obtain ⟨clean, nonempty, short, reaches⟩ := (place_eq_ok_iff ..).mp found
  refine (place_eq_ok_iff ..).mpr ⟨clean, nonempty, short, ?_⟩
  rw [more.origin]
  exact reaches.extends more

private theorem follow_blank (tree : FileTree) (start : Place) {blank : List (List Char)}
    (nothing : ∀ segment ∈ blank, Path.isName segment = false) (names : List String) :
    tree.follow start (blank.map String.ofList ++ names) = tree.follow start names := by
  induction blank with
  | nil => rfl
  | cons segment blank ih =>
    have stays : String.ofList segment = "" ∨ String.ofList segment = "." := by
      have first := nothing segment List.mem_cons_self
      simp only [Path.isName, Bool.and_eq_false_iff, bne_eq_false_iff_eq] at first
      rcases first with rfl | rfl
      · exact .inl rfl
      · exact .inr rfl
    rw [List.map_cons, List.cons_append, FileTree.follow, if_pos stays]
    exact ih fun segment member => nothing segment (List.mem_cons_of_mem _ member)

private theorem toString_nonempty (p : Path) : p.toString ≠ "" := by
  unfold Path.toString
  dsimp only
  split
  · decide
  · rename_i something
    rwa [String.isEmpty_iff] at something

/-- A path in normal form names a place exactly when its text may be a path and its names lead
there. -/
theorem place_toString (tree : FileTree) {p : Path} (normal : p.Normal) (goal : Place) :
    tree.place p.toString = .ok goal ↔ '\x00' ∉ p.toString.toList ∧
      (Utf8.encode p.toString).length < pathBound ∧ Reaches tree (tree.origin p.anchor) p.names goal := by
  obtain ⟨anchor, blank, nothing, spelled⟩ := Path.spelling normal
  have names : (segments p.toString.toList).map String.ofList = blank.map String.ofList ++ p.names := by
    rw [spelled, List.map_append, List.map_map]
    simp
  rw [place_eq_ok_iff, anchor, names, ← follow_eq_ok_iff, follow_blank tree _ nothing, follow_eq_ok_iff]
  simp [toString_nonempty]

theorem look_eq_ok_iff (tree : FileTree) (path : String) (node : Node) :
    tree.look path = .ok node ↔ ∃ place, tree.place path = .ok place ∧ tree.node? place = some node := by
  unfold look
  cases found : tree.place path with
  | error fault => simp [bind, Except.bind]
  | ok place =>
    cases held : tree.node? place with
    | none => simp [bind, Except.bind, held, throw, throwThe, MonadExceptOf.throw]
    | some other => simp [bind, Except.bind, held, pure, Except.pure]

/-- A path reads as the bytes of the file at its place. -/
theorem read_eq_ok_iff (tree : FileTree) (path : String) (bytes : List UInt8) :
    tree.read path = .ok bytes ↔
      ∃ place, tree.place path = .ok place ∧ tree.file? place = some bytes := by
  have file : tree.read path = .ok bytes ↔ tree.look path = .ok (.file bytes) := by
    unfold read
    cases looked : tree.look path with
    | error fault => simp [bind, Except.bind]
    | ok node =>
      cases node with
      | directory => simp [bind, Except.bind, throw, throwThe, MonadExceptOf.throw]
      | file held => simp [bind, Except.bind, pure, Except.pure]
  simp only [file, look_eq_ok_iff, file?_eq_some_iff]

theorem isDirectory_iff (tree : FileTree) (path : String) :
    tree.isDirectory path = true ↔
      ∃ place, tree.place path = .ok place ∧ tree.node? place = some .directory := by
  rw [← look_eq_ok_iff]
  unfold isDirectory
  cases tree.look path with
  | error fault => simp
  | ok node => cases node <;> simp

/-- A write succeeds exactly when the path names a place that is no directory, and then puts the file
there. -/
theorem write_eq_ok_iff (tree : FileTree) (path : String) (bytes : List UInt8) (after : FileTree) :
    tree.write path bytes = .ok after ↔ ∃ place, tree.place path = .ok place ∧
      tree.node? place ≠ some .directory ∧ after = tree.put place (.file bytes) := by
  unfold write
  cases tree.place path with
  | error fault => simp [bind, Except.bind]
  | ok place =>
    simp only [bind, Except.bind, Except.ok.injEq, exists_eq_left']
    split
    · rename_i directory
      simp [directory, throw, throwThe, MonadExceptOf.throw]
    · rename_i other
      have free : tree.node? place ≠ some .directory := other
      simp only [pure, Except.pure, Except.ok.injEq, ne_eq, free, not_false_eq_true, true_and, eq_comm]

theorem makeDirectory_eq_ok_iff (tree : FileTree) (path : String) (after : FileTree) :
    tree.makeDirectory path = .ok after ↔ ∃ place, tree.place path = .ok place ∧
      tree.node? place = none ∧ after = tree.put place .directory := by
  unfold makeDirectory
  cases tree.place path with
  | error fault => simp [bind, Except.bind]
  | ok place =>
    cases held : tree.node? place with
    | none => simp [bind, Except.bind, held, pure, Except.pure, eq_comm]
    | some node => simp [bind, Except.bind, held, throw, throwThe, MonadExceptOf.throw]

/-- What a write changes: it makes no directory and removes none, and of the files only the one at
the path's place. -/
theorem write_effect {tree after : FileTree} {path : String} {bytes : List UInt8}
    (done : tree.write path bytes = .ok after) : ∃ place, tree.place path = .ok place ∧
      after.Extends tree ∧ tree.Extends after ∧
        ∀ other, after.file? other = if other = place then some bytes else tree.file? other := by
  obtain ⟨place, found, free, rfl⟩ := (write_eq_ok_iff ..).mp done
  have below : place ≠ [] := by
    rintro rfl
    exact free (node?_root tree)
  refine ⟨place, found, ⟨rfl, fun {other} held => ?_⟩, ⟨rfl, fun {other} held => ?_⟩, fun other => ?_⟩
  · have apart : other ≠ place := by
      rintro rfl
      exact free held
    rwa [node?_put tree _ below, if_neg apart]
  · rw [node?_put tree _ below] at held
    split at held
    · cases held
    · exact held
  · simp only [file?, node?_put tree _ below]
    by_cases same : other = place <;> simp [same]

/-- Trees with the same directories tell the same paths from those of directories. -/
theorem isDirectory_congr {tree tree' : FileTree} (more : tree.Extends tree') (fewer : tree'.Extends tree)
    (path : String) : tree.isDirectory path = tree'.isDirectory path := by
  rw [Bool.eq_iff_iff, isDirectory_iff, isDirectory_iff]
  constructor
  · rintro ⟨place, found, held⟩
    exact ⟨place, fewer.place found, fewer.directory held⟩
  · rintro ⟨place, found, held⟩
    exact ⟨place, more.place found, more.directory held⟩

/-- Whether a file can be written under a path depends on the directories alone. -/
theorem write_congr {tree tree' : FileTree} (more : tree'.Extends tree) (fewer : tree.Extends tree')
    {path : String} {bytes : List UInt8} (writes : ∃ after, tree.write path bytes = .ok after)
    (bytes' : List UInt8) : ∃ after, tree'.write path bytes' = .ok after := by
  obtain ⟨after, done⟩ := writes
  obtain ⟨place, found, free, -⟩ := (write_eq_ok_iff ..).mp done
  refine ⟨_, (write_eq_ok_iff ..).mpr ⟨place, more.place found, fun held => ?_, rfl⟩⟩
  exact free (fewer.directory held)

/-- What was written is read where the paths lead to the same place. -/
theorem read_written {tree after : FileTree} {path other : String} {bytes : List UInt8}
    (done : tree.write path bytes = .ok after) (same : after.place other = after.place path) :
    after.read other = .ok bytes := by
  obtain ⟨place, found, more, -, files⟩ := write_effect done
  refine (read_eq_ok_iff ..).mpr ⟨place, ?_, ?_⟩
  · rw [same]
    exact more.place found
  · rw [files, if_pos rfl]

/-- What is read elsewhere stays. -/
theorem read_elsewhere {tree after : FileTree} {path other : String} {bytes held : List UInt8}
    (done : tree.write path bytes = .ok after) (apart : after.place other ≠ after.place path)
    (before : tree.read other = .ok held) : after.read other = .ok held := by
  obtain ⟨place, found, more, -, files⟩ := write_effect done
  obtain ⟨elsewhere, found', held'⟩ := (read_eq_ok_iff ..).mp before
  refine (read_eq_ok_iff ..).mpr ⟨elsewhere, more.place found', ?_⟩
  have away : elsewhere ≠ place := by
    rintro rfl
    exact apart ((more.place found').trans (more.place found).symm)
  rw [files, if_neg away]
  exact held'

/-- Making a directory where nothing is changes no file. -/
theorem put_directory_effect {tree : FileTree} {place : Place} (free : tree.node? place = none) :
    (tree.put place .directory).Extends tree ∧
      (tree.put place .directory).node? place = some .directory ∧
        ∀ other, (tree.put place .directory).file? other = tree.file? other := by
  have below : place ≠ [] := by
    rintro rfl
    cases free
  refine ⟨⟨rfl, fun {other} held => ?_⟩, ?_, fun other => ?_⟩
  · rw [node?_put tree _ below]
    split <;> simp [held]
  · rw [node?_put tree _ below, if_pos rfl]
  · simp only [file?, node?_put tree _ below]
    by_cases same : other = place
    · simp [same, free]
    · simp [same]

/-- What making directories may do to a tree: add some, and change no file. -/
structure Grown (before after : FileTree) : Prop where
  more : after.Extends before
  files : ∀ place, after.file? place = before.file? place

theorem Grown.refl (tree : FileTree) : Grown tree tree := ⟨.refl tree, fun _ => rfl⟩

theorem Grown.trans {a b c : FileTree} (first : Grown a b) (second : Grown b c) : Grown a c :=
  ⟨second.more.trans first.more, fun place => (second.files place).trans (first.files place)⟩

private theorem ensureDirectory_effect {tree after : FileTree} {path : String}
    (done : tree.ensureDirectory path = .ok after) :
    Grown tree after ∧ after.isDirectory path = true := by
  unfold ensureDirectory at done
  split at done
  · rename_i made making
    cases done
    obtain ⟨place, found, free, rfl⟩ := (makeDirectory_eq_ok_iff ..).mp making
    obtain ⟨more, there, files⟩ := put_directory_effect free
    exact ⟨⟨more, files⟩, (isDirectory_iff ..).mpr ⟨place, more.place found, there⟩⟩
  · split at done
    · rename_i there
      cases done
      exact ⟨.refl tree, there⟩
    · cases done

private theorem makeAll_effect (anchor : Anchor) (names : List String) (tree : FileTree) :
    Grown tree (tree.makeAll anchor names).1 ∧ ((tree.makeAll anchor names).2 = none →
      (tree.makeAll anchor names).1.isDirectory (Path.toString ⟨anchor, names.reverse⟩) = true) := by
  induction names generalizing tree with
  | nil =>
    unfold makeAll
    split
    · rename_i made making
      obtain ⟨grown, there⟩ := ensureDirectory_effect making
      exact ⟨grown, fun _ => there⟩
    · exact ⟨.refl tree, by simp⟩
  | cons name outer ih =>
    unfold makeAll
    dsimp only
    split
    · rename_i made making
      obtain ⟨grown, there⟩ := ensureDirectory_effect making
      exact ⟨grown, fun _ => there⟩
    · obtain ⟨grown, -⟩ := ih tree
      split
      · rename_i partial_ fault stopped
        rw [stopped] at grown
        exact ⟨grown, by simp⟩
      · rename_i above stopped
        rw [stopped] at grown
        split
        · rename_i made making
          obtain ⟨more, there⟩ := ensureDirectory_effect making
          exact ⟨grown.trans more, fun _ => there⟩
        · exact ⟨grown, by simp⟩
    · exact ⟨.refl tree, by simp⟩

/-- Making directories changes no file, also where it fails half-way. -/
theorem makeDirectories_grown (tree : FileTree) (path : Path) : Grown tree (tree.makeDirectories path).1 :=
  (makeAll_effect path.anchor path.names.reverse tree).1

/-- Where making directories succeeds the directory is there. -/
theorem makeDirectories_made {tree made : FileTree} {path : Path}
    (done : tree.makeDirectories path = (made, none)) : made.isDirectory path.toString = true := by
  have effect := (makeAll_effect path.anchor path.names.reverse tree).2
  rw [← makeDirectories, done, List.reverse_reverse] at effect
  exact effect rfl

/-- A file can be stored under a path: no part of the path is beyond what paths may be, and there is
no directory of that name. -/
structure Storable (tree : FileTree) (path : Path) : Prop where
  clean : '\x00' ∉ path.toString.toList
  short : (Utf8.encode path.toString).length < pathBound
  name : ∀ name ∈ path.names.getLast?, (Utf8.encode name).length ≤ maxName
  free : tree.isDirectory path.toString = false

theorem Storable.congr {tree tree' : FileTree} (more : tree.Extends tree') (fewer : tree'.Extends tree)
    {path : Path} (storable : tree.Storable path) : tree'.Storable path :=
  ⟨storable.clean, storable.short, storable.name, isDirectory_congr more fewer path.toString ▸ storable.free⟩

theorem storable_iff {tree : FileTree} {path : Path} : tree.Storable path ↔
    '\x00' ∉ path.toString.toList ∧ (Utf8.encode path.toString).length < pathBound ∧
      (∀ name ∈ path.names.getLast?, (Utf8.encode name).length ≤ maxName) ∧
        tree.isDirectory path.toString = false := by
  constructor
  · rintro ⟨clean, short, name, free⟩
    exact ⟨clean, short, name, free⟩
  · rintro ⟨clean, short, name, free⟩
    exact ⟨clean, short, name, free⟩

instance (tree : FileTree) (path : Path) : Decidable (tree.Storable path) :=
  decidable_of_iff _ storable_iff.symm

variable {folder : Path} {name : String}

/-- A child is found in its folder, under its own name. -/
theorem place_child {tree : FileTree} (normal : folder.Normal) (leads : Path.LeadsDown name)
    (found : tree.place (folder.child name).toString = .ok goal) :
    (Utf8.encode name).length ≤ maxName ∧ ∃ above, goal = above ++ [name] := by
  obtain ⟨-, -, reaches⟩ := (place_toString tree (normal.child leads) goal).mp found
  rw [Path.child_of_name folder leads] at reaches
  exact reaches.last_name leads.something leads.down

/-- In a folder that is there a file can be written exactly where one can be stored. -/
theorem write_child_iff {tree : FileTree} (normal : folder.Normal) (leads : Path.LeadsDown name)
    (there : tree.isDirectory folder.toString = true) (bytes : List UInt8) :
    (∃ after, tree.write (folder.child name).toString bytes = .ok after) ↔
      tree.Storable (folder.child name) := by
  have normal' := normal.child leads
  constructor
  · rintro ⟨after, done⟩
    obtain ⟨place, found, free, -⟩ := (write_eq_ok_iff ..).mp done
    obtain ⟨clean, short, -⟩ := (place_toString tree normal' place).mp found
    obtain ⟨fits, -⟩ := place_child normal leads found
    refine ⟨clean, short, ?_, ?_⟩
    · rw [Path.child_of_name folder leads]
      simpa using fits
    · rw [← Bool.not_eq_true, isDirectory_iff]
      rintro ⟨other, same, directory⟩
      rw [found] at same
      cases same
      exact free directory
  · rintro ⟨clean, short, fits, free⟩
    obtain ⟨above, found, directory⟩ := (isDirectory_iff ..).mp there
    obtain ⟨-, -, reaches⟩ := (place_toString tree normal above).mp found
    have fits' : (Utf8.encode name).length ≤ maxName := by
      rw [Path.child_of_name folder leads] at fits
      simpa using fits
    have place : tree.place (folder.child name).toString = .ok (above ++ [name]) := by
      refine (place_toString tree normal' _).mpr ⟨clean, short, ?_⟩
      rw [Path.child_of_name folder leads]
      exact reaches.child leads.something leads.down fits' directory
    refine ⟨_, (write_eq_ok_iff ..).mpr ⟨_, place, fun held => ?_, rfl⟩⟩
    rw [← Bool.not_eq_true, isDirectory_iff] at free
    exact free ⟨_, place, held⟩

end NumberingPlan.Storage.FileTree
