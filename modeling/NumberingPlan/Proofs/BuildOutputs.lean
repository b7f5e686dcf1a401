import NumberingPlan.Proofs.BuildAgreement
import NumberingPlan.Proofs.TreeAgreement

/-! What a build leaves does not depend on what was there. Whatever its paths held before, they hold what
the collection, the options and the settings say, and every other file stays. A build on what the same
build left changes nothing. -/
namespace NumberingPlan.Build
open Storage

variable {ts : List Territory} {options : Options} {settings : Settings} {ps : List Part}

/-- The paths that a build has written to. -/
def Outcome.paths (outcome : Outcome) : List Path := outcome.territoryFiles ++ [outcome.mappingFile]

def outcomeOf (ts : List Territory) (options : Options) (settings : Settings) : Outcome where
  territoryFiles := ts.map fun t => partPath options.start t.outputKey
  mappingFile := options.mappingPath settings
  shape := Shape.select (RegionsByCode.ofTerritories ts)

theorem part_mem_paths (settings : Settings) (listed : t ∈ ts) :
    partPath options.start t.outputKey ∈ (outcomeOf ts options settings).paths :=
  List.mem_append_left _ (List.mem_map_of_mem listed)

theorem mapping_mem_paths (ts : List Territory) (options : Options) (settings : Settings) :
    options.mappingPath settings ∈ (outcomeOf ts options settings).paths :=
  List.mem_append_right _ List.mem_cons_self

/-- What holds of the path of every part and of the lookup holds of the paths of the build. -/
theorem forall_paths {p : Path → Prop} (parts : ∀ t ∈ ts, p (partPath options.start t.outputKey))
    (mapping : p (options.mappingPath settings)) : ∀ path ∈ (outcomeOf ts options settings).paths, p path :=
  List.forall_mem_append.mpr ⟨List.forall_mem_map.mpr parts, List.forall_mem_singleton.mpr mapping⟩

def lookupText (ts : List Territory) (options : Options) (settings : Settings) : String :=
  let shape := Shape.select (RegionsByCode.ofTerritories ts)
  Source.frame (options.header settings)
    ((Source.accessorImports shape).foldl (fun sofar name => Source.insertName name sofar) [])
    (Source.leadingComment shape ++ Source.accessorCode shape)

/-- What a build writes to a place: its lookup, or else the last part that is stored there. -/
def writtenAt (ts : List Territory) (options : Options) (settings : Settings) (tree : FileTree)
    (ps : List Part) (place : Place) : Option (List UInt8) :=
  if tree.place (options.mappingPath settings).toString = .ok place then
    some (Utf8.encode (lookupText ts options settings))
  else lastAt tree options.start place ps

/-- What a build writes at places is no matter of the tree, as long as the paths lead to the same. -/
theorem writtenAt_congr {tree tree' : FileTree} (each : PartsOf wire ts ps)
    (same : ∀ path ∈ (outcomeOf ts options settings).paths,
      tree'.place path.toString = tree.place path.toString) (place : Place) :
    writtenAt ts options settings tree' ps place = writtenAt ts options settings tree ps place := by
  have mapped := same _ (mapping_mem_paths ts options settings)
  have parts : lastAt tree' options.start place ps = lastAt tree options.start place ps := by
    refine lastAt_congr_of_places fun part member => ?_
    obtain ⟨t, listed, made⟩ := each.territory member
    rw [(Part.ofTerritory_eq_ok_iff.mp made).1, same _ (part_mem_paths settings listed)]
  rw [writtenAt, writtenAt, mapped, parts]

/-- Nothing is written exactly where no path of the build leads. -/
theorem writtenAt_eq_none_iff {tree : FileTree} (each : PartsOf wire ts ps) {place : Place} :
    writtenAt ts options settings tree ps place = none ↔
      ∀ path ∈ (outcomeOf ts options settings).paths, tree.place path.toString ≠ .ok place := by
  have parts : lastAt tree options.start place ps = none ↔
      ∀ path ∈ ts.map (fun t => partPath options.start t.outputKey), tree.place path.toString ≠ .ok place := by
    rw [lastAt_eq_none_iff, ← each.paths, List.forall_mem_map]
  rw [writtenAt, Outcome.paths, List.forall_mem_append, List.forall_mem_singleton]
  split
  · rename_i mapped
    simp [outcomeOf, mapped]
  · rename_i elsewhere
    simp [outcomeOf, parts, elsewhere]

/-- Making the folders of a build changes no file, and they are there then. -/
theorem folders_grown {before opened made : FileTree}
    (folder : before.makeDirectories options.outputDir = (opened, none))
    (parent : opened.makeDirectories options.start.parent = (made, none)) :
    FileTree.Grown before made ∧ made.isDirectory options.outputDir.toString = true ∧
      made.isDirectory options.start.parent.toString = true := by
  have first := before.makeDirectories_grown options.outputDir
  have second := opened.makeDirectories_grown options.start.parent
  rw [folder] at first
  rw [parent] at second
  exact ⟨first.trans second, second.more.isDirectory (FileTree.makeDirectories_made folder),
    FileTree.makeDirectories_made parent⟩

/-- What a build does to a tree: it makes directories, and then every place holds what was written there,
or else what it held before. -/
structure Leaves (ts : List Territory) (options : Options) (settings : Settings) (ps : List Part)
    (before made after : FileTree) : Prop where
  each : PartsOf wire ts ps
  folders : ∃ opened, before.makeDirectories options.outputDir = (opened, none) ∧
    opened.makeDirectories options.start.parent = (made, none)
  more : after.Extends made
  fewer : made.Extends after
  found : ∀ path ∈ (outcomeOf ts options settings).paths, ∃ place, made.place path.toString = .ok place
  files : ∀ place, after.file? place =
    (writtenAt ts options settings made ps place).or (before.file? place)

theorem Leaves.grown (leaves : Leaves ts options settings ps before made after) :
    FileTree.Grown before made ∧ made.isDirectory options.outputDir.toString = true ∧
      made.isDirectory options.start.parent.toString = true := by
  obtain ⟨opened, folder, parent⟩ := leaves.folders
  exact folders_grown folder parent

/-- A build that succeeds has one outcome and leaves what it wrote. -/
theorem fromTerritories_leaves {w after : Workspace} {outcome : Outcome}
    (ran : (fromTerritories ts options settings).run w = .ok outcome after) :
    outcome = outcomeOf ts options settings ∧
      ∃ ps made, Leaves ts options settings ps w.files made after.files := by
  obtain ⟨opened, made, ps, stored, text, folder, parent, each, sound, composed, mapped, rfl⟩ :=
    fromTerritories_ok ran
  rw [sourceText_eq] at composed
  obtain rfl : lookupText ts options settings = text := Except.ok.inj composed
  obtain ⟨more, fewer, parts⟩ := sound.effect
  obtain ⟨here, there, more', fewer', files⟩ := FileTree.write_effect mapped
  have there := fewer.place there
  obtain ⟨grown, -, -⟩ := folders_grown folder parent
  refine ⟨rfl, ps, made, each, ⟨opened, folder, parent⟩, more'.trans more, fewer.trans fewer', ?_, ?_⟩
  · refine forall_paths (fun t listed => ?_) ⟨here, there⟩
    obtain ⟨part, stored', made'⟩ := each.part listed
    rw [← (Part.ofTerritory_eq_ok_iff.mp made').1]
    exact sound.place part stored'
  · intro place
    rw [files, parts, grown.files, writtenAt, there]
    by_cases same : place = here
    · simp [same]
    · simp [same, Ne.symm same]

/-- Parts can be stored where each of their paths leads to a place that is no directory. -/
theorem stored_of_writable {start : Path} {tree : FileTree} (ps : List Part)
    (writable : ∀ part ∈ ps, ∃ place, tree.place (partPath start part.key).toString = .ok place ∧
      tree.node? place ≠ some .directory) : ∃ after, Stored start tree ps after := by
  induction ps generalizing tree with
  | nil => exact ⟨tree, .nil tree⟩
  | cons part ps ih =>
    obtain ⟨place, found, free⟩ := writable part List.mem_cons_self
    have done := (FileTree.write_eq_ok_iff tree _ part.payload _).mpr ⟨place, found, free, rfl⟩
    obtain ⟨-, -, more, fewer, -⟩ := FileTree.write_effect done
    -- The part's file is no directory, so the other paths lead to what they led to before.
    obtain ⟨after, rest⟩ := ih fun other member => by
      obtain ⟨place', found', free'⟩ := writable other (List.mem_cons_of_mem _ member)
      exact ⟨place', more.place found', fun held => free' (fewer.directory held)⟩
    exact ⟨after, .cons done rest⟩

/-- A build succeeds where its folders can be made and then each of its paths leads to a place that is no
directory. -/
theorem fromTerritories_of_writable {w : Workspace} {opened made : FileTree}
    (folder : w.files.makeDirectories options.outputDir = (opened, none))
    (parent : opened.makeDirectories options.start.parent = (made, none)) (each : PartsOf wire ts ps)
    (writable : ∀ path ∈ (outcomeOf ts options settings).paths, ∃ place,
      made.place path.toString = .ok place ∧ made.node? place ≠ some .directory) :
    ∃ after, (fromTerritories ts options settings).run w = .ok (outcomeOf ts options settings) after := by
  have parts : ∃ stored, Stored options.start made ps stored := stored_of_writable ps fun part member => by
    obtain ⟨t, listed, part'⟩ := each.territory member
    rw [(Part.ofTerritory_eq_ok_iff.mp part').1]
    exact writable _ (part_mem_paths settings listed)
  obtain ⟨stored, sound⟩ := parts
  obtain ⟨more, fewer, -⟩ := sound.effect
  obtain ⟨place, found, free⟩ := writable _ (mapping_mem_paths ts options settings)
  have done := (FileTree.write_eq_ok_iff stored _ (Utf8.encode (lookupText ts options settings)) _).mpr
    ⟨place, more.place found, fun held => free (fewer.directory held), rfl⟩
  obtain ⟨log, ran⟩ := fromTerritories_of_stored folder parent each sound (sourceText_eq _ _) done
  exact ⟨_, ran⟩

/-- After a build each of its paths leads to a file that holds what was written there. -/
theorem Leaves.held (leaves : Leaves ts options settings ps before made after) {path : Path}
    (member : path ∈ (outcomeOf ts options settings).paths) : ∃ place bytes,
      made.place path.toString = .ok place ∧ writtenAt ts options settings made ps place = some bytes ∧
        after.file? place = some bytes := by
  obtain ⟨place, found⟩ := leaves.found path member
  have files := leaves.files place
  cases written : writtenAt ts options settings made ps place with
  | none => exact absurd found ((writtenAt_eq_none_iff leaves.each).mp written path member)
  | some bytes =>
    rw [written, Option.some_or] at files
    exact ⟨place, bytes, found, written, files⟩

/-- After a build each of its files can be read. -/
theorem Leaves.readable (leaves : Leaves ts options settings ps before made after) {path : Path}
    (member : path ∈ (outcomeOf ts options settings).paths) : ∃ bytes, after.read path.toString = .ok bytes := by
  obtain ⟨place, bytes, found, -, file⟩ := leaves.held member
  exact ⟨bytes, (FileTree.read_eq_ok_iff ..).mpr ⟨place, leaves.more.place found, file⟩⟩

/-- A path of a build leads to no directory, neither once the folders are made nor after the build. -/
theorem Leaves.writable (leaves : Leaves ts options settings ps before made after) {path : Path}
    (member : path ∈ (outcomeOf ts options settings).paths) : ∃ place,
      (made.place path.toString = .ok place ∧ made.node? place ≠ some .directory) ∧
        after.place path.toString = .ok place ∧ after.node? place ≠ some .directory := by
  obtain ⟨place, bytes, found, -, file⟩ := leaves.held member
  have held := FileTree.file?_eq_some_iff.mp file
  have free : after.node? place ≠ some .directory := by simp [held]
  exact ⟨place, ⟨found, fun directory => free (leaves.more.directory directory)⟩,
    leaves.more.place found, free⟩

/-- Builds from one directory lead to one place under a path that both write to, whatever the trees are. -/
theorem Leaves.place_agrees (leaves : Leaves ts options settings ps before made after)
    (leaves' : Leaves ts' options settings ps' before' made' after') (home : before'.home = before.home)
    (member : path ∈ (outcomeOf ts options settings).paths)
    (member' : path ∈ (outcomeOf ts' options settings).paths) :
    made'.place path.toString = made.place path.toString := by
  obtain ⟨place, found⟩ := leaves.found path member
  obtain ⟨place', found'⟩ := leaves'.found path member'
  have homes : made'.home = made.home := by
    rw [leaves'.grown.1.more.home, leaves.grown.1.more.home, home]
  rw [found, found', FileTree.place_eq_of_home homes found found']

/-- The folders of a build are there after it, so making them again changes nothing. -/
theorem Leaves.folders_there (leaves : Leaves ts options settings ps before made after) :
    after.makeDirectories options.outputDir = (after, none) ∧
      after.makeDirectories options.start.parent = (after, none) := by
  obtain ⟨-, folder, parent⟩ := leaves.grown
  exact ⟨FileTree.makeDirectories_of_there (leaves.more.isDirectory folder),
    FileTree.makeDirectories_of_there (leaves.more.isDirectory parent)⟩

/-- A build on what the same build left succeeds, and everything is as it was. -/
theorem Leaves.again (leaves : Leaves ts options settings ps before made after) (log : List Logging.Entry) :
    ∃ again, (fromTerritories ts options settings).run ⟨after, log⟩ =
      .ok (outcomeOf ts options settings) again ∧ again.files.Extends after ∧ after.Extends again.files ∧
        ∀ place, again.files.file? place = after.file? place := by
  obtain ⟨folder, parent⟩ := leaves.folders_there
  obtain ⟨again, ran⟩ := fromTerritories_of_writable (w := ⟨after, log⟩) folder parent leaves.each
    fun path member => by
      obtain ⟨place, -, found, free⟩ := leaves.writable member
      exact ⟨place, found, free⟩
  obtain ⟨-, ps', made', leaves'⟩ := fromTerritories_leaves ran
  obtain rfl := leaves'.each.unique leaves.each
  obtain ⟨opened, folder', parent'⟩ := leaves'.folders
  rw [folder] at folder'
  cases folder'
  rw [parent] at parent'
  cases parent'
  have places : ∀ path ∈ (outcomeOf ts options settings).paths,
      after.place path.toString = made.place path.toString := by
    intro path member
    obtain ⟨place, ⟨found, -⟩, found', -⟩ := leaves.writable member
    exact found'.trans found.symm
  refine ⟨again, ran, leaves'.more, leaves'.fewer, fun place => ?_⟩
  have files := leaves.files place
  rw [leaves'.files, writtenAt_congr leaves'.each places, files, ← Option.or_assoc, Option.or_self]

/-- Builds of one collection, from one directory and on any two trees on which they succeed, have one
outcome and write the same bytes to the same places, whatever these held before. All other files stay as
they were. The same build on what it left succeeds too, and then nothing at all is changed. -/
theorem outputs_do_not_depend_on_what_was_there {nodes nodes' : List (Place × Node)} {home : Place}
    {log log' : List Logging.Entry} {outcome outcome' : Outcome} {after after' : Workspace}
    (ran : (fromTerritories ts options settings).run ⟨⟨nodes, home⟩, log⟩ = .ok outcome after)
    (ran' : (fromTerritories ts options settings).run ⟨⟨nodes', home⟩, log'⟩ = .ok outcome' after') :
    outcome' = outcome ∧
    (∀ path ∈ outcome.paths, ∃ place bytes,
      after.files.place path.toString = .ok place ∧ after'.files.place path.toString = .ok place ∧
        after.files.read path.toString = .ok bytes ∧ after'.files.read path.toString = .ok bytes) ∧
    (∀ place, (∀ path ∈ outcome.paths, after.files.place path.toString ≠ .ok place) →
      after.files.file? place = FileTree.file? ⟨nodes, home⟩ place ∧
        after'.files.file? place = FileTree.file? ⟨nodes', home⟩ place) ∧
    ∃ again, (fromTerritories ts options settings).run after = .ok outcome again ∧
      again.files.home = after.files.home ∧ ∀ place, again.files.node? place = after.files.node? place := by
  obtain ⟨rfl, ps, made, leaves⟩ := fromTerritories_leaves ran
  obtain ⟨rfl, ps', made', leaves'⟩ := fromTerritories_leaves ran'
  obtain rfl := leaves.each.unique leaves'.each
  have agree : ∀ path ∈ (outcomeOf ts options settings).paths,
      made'.place path.toString = made.place path.toString :=
    fun path member => leaves.place_agrees leaves' rfl member member
  have written : ∀ place, writtenAt ts options settings made' ps place =
      writtenAt ts options settings made ps place := writtenAt_congr leaves.each agree
  refine ⟨rfl, fun path member => ?_, fun place apart => ?_, ?_⟩
  · obtain ⟨place, bytes, found, here, file⟩ := leaves.held member
    have found' := (agree path member).trans found
    have file' := leaves'.files place
    rw [written, here, Option.some_or] at file'
    have there := leaves.more.place found
    have there' := leaves'.more.place found'
    exact ⟨place, bytes, there, there', (FileTree.read_eq_ok_iff ..).mpr ⟨place, there, file⟩,
      (FileTree.read_eq_ok_iff ..).mpr ⟨place, there', file'⟩⟩
  · have nothing : writtenAt ts options settings made ps place = none :=
      (writtenAt_eq_none_iff leaves.each).mpr fun path member found =>
        apart path member (leaves.more.place found)
    have files := leaves.files place
    have files' := leaves'.files place
    rw [nothing, Option.none_or] at files
    rw [written, nothing, Option.none_or] at files'
    exact ⟨files, files'⟩
  · obtain ⟨again, ran, more, fewer, files⟩ := leaves.again after.log
    exact ⟨again, ran, more.home, FileTree.node?_congr more fewer files⟩

/-- The small build succeeds where its folders can be made and its paths are free. -/
theorem smallBuild_succeeds (nodes opened made : List (Place × Node))
    (folder : FileTree.makeDirectories ⟨nodes, []⟩ smallBuild.outputDir = (⟨opened, []⟩, none))
    (parent : FileTree.makeDirectories ⟨opened, []⟩ smallBuild.start.parent = (⟨made, []⟩, none))
    (there : FileTree.isDirectory ⟨made, []⟩ (partFolder smallBuild.start).toString = true)
    (storable : ∀ t ∈ smallCollection, FileTree.Storable ⟨made, []⟩ (partPath smallBuild.start t.outputKey))
    (writable : ∃ files, FileTree.write ⟨made, []⟩ (smallBuild.mappingPath {}).toString [] = .ok files) :
    ∃ after, (fromTerritories smallCollection smallBuild {}).run ⟨⟨nodes, []⟩, []⟩ =
      .ok (outcomeOf smallCollection smallBuild {}) after ∧ after.files.Extends ⟨made, []⟩ := by
  have encodable : ∀ t ∈ smallCollection, ∃ payload, wire t = .ok payload :=
    encodable_of_toBool (by decide)
  exact fromTerritories_succeeds (w := ⟨⟨nodes, []⟩, []⟩) folder parent there (by decide) encodable storable
    writable

/-- What a build that stopped half-way may have left: a part that was cut short, an older lookup and a file
that no build writes. -/
def leftovers : List (Place × Node) := [(["o"], .directory), (["o", "d"], .directory),
  (["o", "d", "P_US"], .file [80, 78]), (["o", "M.java"], .file [47]), (["o", "d", "P_GB"], .file [7])]

set_option maxRecDepth 8000 in
/-- A build in an empty directory and one over the leftovers of another: the part that was cut short is
whole, and the file that no build writes is kept. -/
theorem leftovers_are_replaced : ∃ outcome after after' bytes,
    (fromTerritories smallCollection smallBuild {}).run ⟨⟨[], []⟩, []⟩ = .ok outcome after ∧
    (fromTerritories smallCollection smallBuild {}).run ⟨⟨leftovers, []⟩, []⟩ = .ok outcome after' ∧
    after.files.read "o/d/P_US" = .ok bytes ∧ after'.files.read "o/d/P_US" = .ok bytes ∧
    after'.files.file? ["o", "d", "P_GB"] = some [7] := by
  obtain ⟨after, ran, -⟩ := smallBuild_succeeds [] [(["o"], .directory)]
    [(["o", "d"], .directory), (["o"], .directory)] rfl rfl rfl (by decide) ⟨_, rfl⟩
  obtain ⟨after', ran', more⟩ := smallBuild_succeeds leftovers _ _ rfl rfl rfl (by decide) ⟨_, rfl⟩
  obtain ⟨-, same, stays, -⟩ := outputs_do_not_depend_on_what_was_there ran ran'
  obtain ⟨place, bytes, -, -, held, held'⟩ := same ⟨.here, ["o", "d", "P_US"]⟩ (by decide)
  have places : ∀ path ∈ (outcomeOf smallCollection smallBuild {}).paths, ∃ place ∈ [["o", "d", "P_CA"],
      ["o", "d", "P_US"], ["o", "d", "P_800"], ["o", "d", "P_44"], ["o", "M.java"]],
      FileTree.place ⟨leftovers, []⟩ path.toString = .ok place := by decide
  obtain ⟨-, kept⟩ := stays ["o", "d", "P_GB"] fun path member found => by
    obtain ⟨place', -, found', there, -⟩ := same path member
    obtain ⟨place, listed, found''⟩ := places path member
    rw [more.place found''] at there
    cases there
    rw [found'] at found
    cases found
    revert listed
    decide
  exact ⟨_, after, after', bytes, ran, ran', held, held', kept⟩

end NumberingPlan.Build
