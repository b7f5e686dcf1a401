import NumberingPlan.Proofs.TreeAccess

/-! What two trees agree on. The directories of a tree decide whether a path can be followed, but where
it leads is decided by its names and by where relative paths start. So trees with one home agree on the
place of every path that can be followed in both, and trees that also have the same directories and the
same files hold the same everywhere. -/
namespace NumberingPlan.Storage.FileTree

/-- Where a name leads from a place. -/
def leadOn (place : Place) (name : String) : Place :=
  if name = "" ∨ name = "." then place else if name = ".." then place.dropLast else place ++ [name]

/-- Where names lead from a place, one after another. -/
def leadTo (start : Place) (names : List String) : Place := names.foldl leadOn start

private theorem leadOn_of_down {name : String} (something : ¬(name = "" ∨ name = ".")) (down : name ≠ "..")
    (place : Place) : leadOn place name = place ++ [name] := by
  rw [leadOn, if_neg something, if_neg down]

private theorem leadTo_cons (start : Place) (name : String) (names : List String) :
    leadTo start (name :: names) = leadTo (leadOn start name) names := rfl

/-- Names that all lead down lead to the place that they spell below the start. -/
theorem leadTo_of_down {names : List String} (down : ∀ name ∈ names, Path.LeadsDown name) (start : Place) :
    leadTo start names = start ++ names := by
  induction names generalizing start with
  | nil => exact (List.append_nil start).symm
  | cons name names ih =>
    have first := down name List.mem_cons_self
    rw [leadTo_cons, leadOn_of_down first.something first.down,
      ih fun other member => down other (List.mem_cons_of_mem _ member), List.append_assoc,
      List.singleton_append]

/-- Where names lead that can be followed is no matter of the tree. -/
theorem Reaches.goal_eq {tree : FileTree} (reaches : Reaches tree start names goal) :
    goal = leadTo start names := by
  induction reaches with
  | done start => rfl
  | stay nothing _ ih => rw [ih, leadTo_cons, leadOn, if_pos nothing]
  | up _ ih => rw [ih, leadTo_cons, leadOn, if_neg (by decide), if_pos rfl]
  | last something down _ => rw [leadTo_cons, leadOn_of_down something down, leadTo, List.foldl_nil]
  | through something down _ _ _ ih => rw [ih, leadTo_cons _ _ (_ :: _), leadOn_of_down something down]

variable {tree tree' : FileTree}

/-- Trees with one home agree on the place of a path that can be followed in both. -/
theorem place_eq_of_home (home : tree'.home = tree.home) (found : tree.place path = .ok goal)
    (found' : tree'.place path = .ok goal') : goal' = goal := by
  obtain ⟨-, -, -, reaches⟩ := (place_eq_ok_iff ..).mp found
  obtain ⟨-, -, -, reaches'⟩ := (place_eq_ok_iff ..).mp found'
  rw [reaches.goal_eq, reaches'.goal_eq, origin, origin, home]

/-- Names that lead down from a folder lead to the place that they spell below it. -/
theorem place_below {folder : Path} (normal : folder.Normal) {names : List String}
    (down : ∀ name ∈ names, Path.LeadsDown name) (above : tree.place folder.toString = .ok base)
    (found : tree.place (Path.toString ⟨folder.anchor, folder.names ++ names⟩) = .ok goal) :
    goal = base ++ names := by
  have normal' : Path.Normal ⟨folder.anchor, folder.names ++ names⟩ := by
    intro name member
    rcases List.mem_append.mp member with outside | inside
    · exact normal name outside
    · exact ⟨(down name inside).named, (down name inside).plain⟩
  obtain ⟨-, -, reaches⟩ := (place_toString tree normal base).mp above
  obtain ⟨-, -, reaches'⟩ := (place_toString tree normal' goal).mp found
  rw [reaches'.goal_eq, reaches.goal_eq, leadTo, leadTo, List.foldl_append]
  exact leadTo_of_down down _

/-- What is a directory is one where there are more of them. -/
theorem Extends.isDirectory (more : tree'.Extends tree) {path : String}
    (there : tree.isDirectory path = true) : tree'.isDirectory path = true := by
  obtain ⟨place, found, held⟩ := (isDirectory_iff ..).mp there
  exact (isDirectory_iff ..).mpr ⟨place, more.place found, more.directory held⟩

/-- Nothing is made where the directory is there. -/
theorem makeDirectories_of_there {path : Path} (there : tree.isDirectory path.toString = true) :
    tree.makeDirectories path = (tree, none) := by
  have kept : tree.ensureDirectory path.toString = .ok tree := by
    obtain ⟨place, found, held⟩ := (isDirectory_iff ..).mp there
    unfold ensureDirectory
    split
    · rename_i made making
      obtain ⟨other, found', free, -⟩ := (makeDirectory_eq_ok_iff ..).mp making
      rw [found] at found'
      cases found'
      rw [held] at free
      cases free
    · rw [if_pos there]
  obtain ⟨anchor, names⟩ := path
  rw [makeDirectories]
  dsimp only
  cases outer : names.reverse with
  | nil =>
    rw [List.reverse_eq_nil_iff] at outer
    subst outer
    rw [makeAll, kept]
  | cons name outer' =>
    have whole : (name :: outer').reverse = names := by rw [← outer, List.reverse_reverse]
    rw [makeAll, whole, kept]

/-- Trees with the same directories and the same files hold the same everywhere. -/
theorem node?_congr (more : tree'.Extends tree) (fewer : tree.Extends tree')
    (files : ∀ place, tree'.file? place = tree.file? place) (place : Place) :
    tree'.node? place = tree.node? place := by
  have same := files place
  cases held : tree.node? place with
  | none =>
    cases held' : tree'.node? place with
    | none => rfl
    | some node =>
      cases node with
      | directory =>
        rw [fewer.directory held'] at held
        cases held
      | file bytes => simp [file?, held, held'] at same
  | some node =>
    cases node with
    | directory => exact more.directory held
    | file bytes => exact file?_eq_some_iff.mp (same.trans (file?_eq_some_iff.mpr held))

end NumberingPlan.Storage.FileTree
