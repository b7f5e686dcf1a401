import NumberingPlan.Proofs.BuildOutputs
import NumberingPlan.Proofs.LiteReading

/-! Lite builds. A lite build succeeds wherever the full build of the same input does, with the same outcome
and the same lookup, and each of its parts holds the territory of the full build without its example
numbers. -/
namespace NumberingPlan.Wire.Layout

variable {item : Item}

/-- A description without its example number is laid out as it is with it, but for the mark that there is
none. -/
theorem desc_withoutExample {d : NumberDesc} (member : item ∈ desc d.withoutExample) :
    item ∈ desc d ∨ item = .flag false := by
  simp only [desc, List.mem_flatten, List.mem_cons, List.not_mem_nil, or_false, exists_eq_or_imp,
    exists_eq_left] at member ⊢
  rcases member with pattern | marked | lengths | localLengths
  · exact .inl (.inl pattern)
  · exact .inr (List.mem_singleton.mp marked)
  · exact .inl (.inr (.inr (.inl lengths)))
  · exact .inl (.inr (.inr (.inr localLengths)))

private theorem descriptions_withoutExample {descriptions : List (String × NumberDesc)}
    (member : item ∈ counted namedDesc (descriptions.map fun (name, d) => (name, d.withoutExample))) :
    item ∈ counted namedDesc descriptions ∨ item = .flag false := by
  rw [counted, List.length_map, List.mem_cons] at member
  rcases member with count | inside
  · exact .inl (List.mem_cons.mpr (.inl count))
  · obtain ⟨_, erased, laid⟩ := List.mem_flatMap.mp inside
    obtain ⟨⟨name, d⟩, listed, rfl⟩ := List.mem_map.mp erased
    have whole (inside : item ∈ namedDesc (name, d)) : item ∈ counted namedDesc descriptions :=
      List.mem_cons_of_mem _ (List.mem_flatMap.mpr ⟨_, listed, inside⟩)
    simp only [namedDesc, List.flatten_cons, List.flatten_nil, List.append_nil, List.mem_append] at laid whole
    rcases laid with named | described
    · exact .inl (whole (.inl named))
    · exact (desc_withoutExample described).imp_left fun inside => whole (.inr inside)

private theorem territory_withoutExamples {t : Territory} (member : item ∈ territory t.withoutExamples) :
    item ∈ territory t ∨ item = .flag false := by
  simp only [territory, List.mem_flatten, List.mem_cons, List.not_mem_nil, or_false, exists_eq_or_imp,
    exists_eq_left] at member ⊢
  rcases member with id | code | isMain | attributes | descriptions | formats
  · exact .inl (.inl id)
  · exact .inl (.inr (.inl code))
  · exact .inl (.inr (.inr (.inl isMain)))
  · exact .inl (.inr (.inr (.inr (.inl attributes))))
  · exact (descriptions_withoutExample descriptions).imp_left fun inside =>
      .inr (.inr (.inr (.inr (.inl inside))))
  · exact .inl (.inr (.inr (.inr (.inr (.inr formats)))))

private theorem collection_withoutExamples {t : Territory} (member : item ∈ collection [t.withoutExamples]) :
    item ∈ collection [t] ∨ item = .flag false := by
  simp only [collection, List.length_singleton, List.flatMap_singleton, List.mem_cons] at member ⊢
  rcases member with magic | version | count | inside
  · exact .inl (.inl magic)
  · exact .inl (.inr (.inl version))
  · exact .inl (.inr (.inr (.inl count)))
  · exact (territory_withoutExamples inside).imp_left fun inside => .inr (.inr (.inr inside))

end NumberingPlan.Wire.Layout

namespace NumberingPlan

/-- A territory that can be encoded can be encoded without its example numbers. -/
theorem Wire.encode_withoutExamples {t : Territory} (encodable : ∃ payload, encode [t] = .ok payload) :
    ∃ payload, encode [t.withoutExamples] = .ok payload := by
  rw [encode_written, written_succeeds_iff] at encodable ⊢
  intro item member
  rcases Layout.collection_withoutExamples member with laid | rfl
  · exact encodable item laid
  · exact ⟨_, rfl⟩

/-- Example numbers are no matter of the regions under their codes. -/
theorem ofTerritories_withoutExamples (ts : List Territory) :
    RegionsByCode.ofTerritories (ts.map Territory.withoutExamples) = RegionsByCode.ofTerritories ts := by
  have same (codes : RegionsByCode) (t : Territory) : codes.add t.withoutExamples = codes.add t := by
    induction codes with
    | nil => rfl
    | cons entry rest ih =>
      obtain ⟨code, regions⟩ := entry
      rw [RegionsByCode.add, RegionsByCode.add, ih]
      rfl
  rw [RegionsByCode.ofTerritories, List.foldl_map]
  simp only [same]
  rfl

namespace Build
open Storage

variable {ts : List Territory} {options : Options} {settings : Settings}

private theorem outcomeOf_withoutExamples (ts : List Territory) (options : Options) (settings : Settings) :
    outcomeOf (ts.map Territory.withoutExamples) options settings = outcomeOf ts options settings := by
  rw [outcomeOf, ofTerritories_withoutExamples, List.map_map]
  rfl

private theorem lookupText_withoutExamples (ts : List Territory) (options : Options) (settings : Settings) :
    lookupText (ts.map Territory.withoutExamples) options settings = lookupText ts options settings := by
  rw [lookupText, ofTerritories_withoutExamples]
  rfl

/-- Payloads of one territory, the second without its example numbers. -/
def LitePayload (payload lite : List UInt8) : Prop :=
  ∃ t, wire t = .ok payload ∧ wire t.withoutExamples = .ok lite

/-- Parts of one territory, the second without its example numbers. -/
structure LitePart (part lite : Part) : Prop where
  key : lite.key = part.key
  payload : LitePayload part.payload lite.payload

/-- Territories that become parts do so without their example numbers too, under the same keys. -/
theorem parts_withoutExamples (each : PartsOf wire ts ps) :
    ∃ ps', PartsOf wire (ts.map Territory.withoutExamples) ps' ∧ List.Forall₂ LitePart ps ps' := by
  induction each with
  | nil => exact ⟨[], .nil, .nil⟩
  | @cons t part ts ps made each ih =>
    obtain ⟨ps', rest, related⟩ := ih
    obtain ⟨key, encoded⟩ := Part.ofTerritory_eq_ok_iff.mp made
    obtain ⟨payload, lite⟩ := Wire.encode_withoutExamples ⟨_, wire_eq_ok_iff.mp encoded⟩
    have lite := wire_eq_ok_iff.mpr lite
    refine ⟨⟨t.outputKey, payload⟩ :: ps', .cons ?_ rest, .cons ⟨key.symm, t, encoded, lite⟩ related⟩
    exact Part.ofTerritory_eq_ok_iff.mpr ⟨rfl, lite⟩

/-- What related parts leave at a place is related, as long as the paths lead to the same. -/
theorem lastAt_lite {tree tree' : FileTree} {start : Path} (related : List.Forall₂ LitePart ps ps')
    (same : ∀ part ∈ ps, tree'.place (partPath start part.key).toString =
      tree.place (partPath start part.key).toString) (place : Place) :
    Option.Rel LitePayload (lastAt tree start place ps) (lastAt tree' start place ps') := by
  induction related with
  | nil => exact .none
  | @cons part lite ps ps' first rest ih =>
    have here := same part List.mem_cons_self
    have later := ih fun other member => same other (List.mem_cons_of_mem _ member)
    rw [lastAt, lastAt, first.key, here]
    generalize lastAt tree start place ps = found at later ⊢
    generalize lastAt tree' start place ps' = found' at later ⊢
    cases later with
    | some related => exact .some related
    | none =>
      rw [Option.none_or, Option.none_or]
      split
      · exact .some first.payload
      · exact .none

/-- A tree that a build found, or that it left, lets a build to the same paths run. -/
theorem Leaves.ready (leaves : Leaves ts options settings ps before made after)
    (start : tree = before ∨ tree = after) : ∃ opened made',
    tree.makeDirectories options.outputDir = (opened, none) ∧
    opened.makeDirectories options.start.parent = (made', none) ∧
    ∀ path ∈ (outcomeOf ts options settings).paths, ∃ place,
      made'.place path.toString = .ok place ∧ made'.node? place ≠ some .directory := by
  rcases start with rfl | rfl
  · obtain ⟨opened, folder, parent⟩ := leaves.folders
    refine ⟨opened, made, folder, parent, fun path member => ?_⟩
    obtain ⟨place, writable, -⟩ := leaves.writable member
    exact ⟨place, writable⟩
  · obtain ⟨folder, parent⟩ := leaves.folders_there
    refine ⟨tree, tree, folder, parent, fun path member => ?_⟩
    obtain ⟨place, -, writable⟩ := leaves.writable member
    exact ⟨place, writable⟩

/-- Where a build succeeded, the lite build of its territories succeeds with its outcome, both in the tree
that the build found and in the one that it left. -/
theorem Leaves.lite_succeeds (leaves : Leaves ts options settings ps before made after) {w : Workspace}
    (start : w.files = before ∨ w.files = after) : ∃ done,
    (fromTerritories (ts.map Territory.withoutExamples) options settings).run w =
      .ok (outcomeOf ts options settings) done := by
  obtain ⟨ps', each, -⟩ := parts_withoutExamples leaves.each
  obtain ⟨opened, made', folder, parent, writable⟩ := leaves.ready start
  rw [← outcomeOf_withoutExamples] at writable ⊢
  exact fromTerritories_of_writable folder parent each writable

/-- A file that holds the payload of a territory holds it alone. -/
theorem holdsAlone_of_wire {tree : FileTree} {path : Path} (held : tree.read path.toString = .ok payload)
    (encoded : wire t = .ok payload) : HoldsAlone tree path t :=
  ⟨payload, held, (Wire.decode_eq_ok_iff payload [t]).mpr (Wire.encode_spells (wire_eq_ok_iff.mp encoded))⟩

/-- A file holds one territory alone at most. -/
theorem HoldsAlone.unique {tree : FileTree} {path : Path} (held : HoldsAlone tree path t)
    (held' : HoldsAlone tree path t') : t = t' := by
  obtain ⟨payload, read, decoded⟩ := held
  obtain ⟨payload', read', decoded'⟩ := held'
  obtain rfl : payload = payload' := Except.ok.inj (read.symm.trans read')
  exact List.singleton_inj.mp (Except.ok.inj (decoded.symm.trans decoded'))

/-- After a build and the lite build of its territories from the same directory, the lookup's path leads to
the same bytes, and every other path to a part whose second reading has no example numbers. -/
theorem Leaves.lite_files (leaves : Leaves ts options settings ps before made after)
    (leaves' : Leaves (ts.map Territory.withoutExamples) options settings ps' before' made' after')
    (home : before'.home = before.home) {path : Path} (member : path ∈ (outcomeOf ts options settings).paths) :
    (after.place path.toString = after.place (options.mappingPath settings).toString →
      ∃ bytes, after.read path.toString = .ok bytes ∧ after'.read path.toString = .ok bytes) ∧
    (after.place path.toString ≠ after.place (options.mappingPath settings).toString →
      ∃ t, HoldsAlone after path t ∧ HoldsAlone after' path t.withoutExamples) := by
  have agree : ∀ path ∈ (outcomeOf ts options settings).paths,
      made'.place path.toString = made.place path.toString := fun path member =>
    leaves.place_agrees leaves' home member (by rwa [outcomeOf_withoutExamples])
  have member' : path ∈ (outcomeOf (ts.map Territory.withoutExamples) options settings).paths := by
    rwa [outcomeOf_withoutExamples]
  obtain ⟨place, bytes, found, here, file⟩ := leaves.held member
  obtain ⟨place', bytes', found', here', file'⟩ := leaves'.held member'
  obtain rfl : place' = place := Except.ok.inj (found'.symm.trans ((agree path member).trans found))
  have there := leaves.more.place found
  have read := (FileTree.read_eq_ok_iff ..).mpr ⟨_, there, file⟩
  have read' := (FileTree.read_eq_ok_iff ..).mpr ⟨_, leaves'.more.place found', file'⟩
  obtain ⟨goal, mapped⟩ := leaves.found _ (mapping_mem_paths ts options settings)
  have mapped' := (agree _ (mapping_mem_paths ts options settings)).trans mapped
  rw [writtenAt, mapped] at here
  rw [writtenAt, mapped', lookupText_withoutExamples] at here'
  rw [there, leaves.more.place mapped]
  constructor
  · intro same
    rw [if_pos same.symm] at here here'
    obtain rfl : bytes' = bytes := Option.some.inj (here'.symm.trans here)
    exact ⟨bytes', read, read'⟩
  · intro apart
    rw [if_neg (Ne.symm apart)] at here here'
    obtain ⟨lite, each, related⟩ := parts_withoutExamples leaves.each
    obtain rfl := each.unique leaves'.each
    have places : ∀ part ∈ ps, made'.place (partPath options.start part.key).toString =
        made.place (partPath options.start part.key).toString := by
      intro part stored
      obtain ⟨t, listed, part'⟩ := leaves.each.territory stored
      rw [(Part.ofTerritory_eq_ok_iff.mp part').1]
      exact agree _ (part_mem_paths settings listed)
    have written := lastAt_lite related places place'
    rw [here, here'] at written
    cases written with
    | some payloads =>
      obtain ⟨t, encoded, encoded'⟩ := payloads
      exact ⟨t, holdsAlone_of_wire read encoded, holdsAlone_of_wire read' encoded'⟩

/-- The flag of a lite build reaches nothing but example numbers. Reading any source for a lite build fails
exactly where reading it for a full build does, with the same failure, and else gives the same territories
without their example numbers. Where a full build succeeds, so does the lite build in the tree that the full
one found, and in the one that it left unless it overwrote its input: with the same outcome and the same
lookup, byte for byte. And where a part has a file of its own, the file holds a territory alone, with its
example numbers after the full build and without them after the lite one. -/
theorem lite_build_only_loses_examples :
    (∀ (path : Path) (w w' : Workspace), w'.files.read path.toString = w.files.read path.toString →
      ReadsAlike w w' ((loadFile path false).run w) ((loadFile path true).run w')) ∧
    (∀ (registry : Registry) (regions : Option (List String)) (codes : Option (List Int)) (w w' : Workspace),
      ReadsAlike w w' ((loadRegistry registry regions codes false).run w)
        ((loadRegistry registry regions codes true).run w')) ∧
    ∀ (registry : Registry) (options : Options) (settings : Settings) (w w' : Workspace) (outcome : Outcome)
      (after : Workspace), (run registry { options with lite := false } settings).run w = .ok outcome after →
      (w'.files = w.files ∨ w'.files = after.files ∧ SameInput options w w') →
      ∃ after', (run registry { options with lite := true } settings).run w' = .ok outcome after' ∧
        (∃ bytes, after.files.read outcome.mappingFile.toString = .ok bytes ∧
          after'.files.read outcome.mappingFile.toString = .ok bytes) ∧
        ∀ path ∈ outcome.territoryFiles,
          after.files.place path.toString ≠ after.files.place outcome.mappingFile.toString →
          ∃ t, HoldsAlone after.files path t ∧ HoldsAlone after'.files path t.withoutExamples := by
  refine ⟨fun path w w' same => loadFile_lite same, fun registry regions codes w w' =>
    loadRegistry_lite registry regions codes, fun registry options settings w w' outcome after ran start => ?_⟩
  have same : SameInput options w w' := by
    rcases start with unchanged | ⟨-, same⟩
    · exact .inr fun path _ => by rw [unchanged]
    · exact same
  obtain ⟨ts, between, loaded, built⟩ := Session.bind_ok ran
  have alike := loadInput_lite registry same
  generalize lite : (loadInput registry { options with lite := true }).run w' = result at alike
  rw [loaded] at alike
  cases alike with
  | read ts log log' =>
    have built : (fromTerritories ts options settings).run ⟨w.files, log⟩ = .ok outcome after := built
    obtain ⟨rfl, ps, made, leaves⟩ := fromTerritories_leaves built
    have start : w'.files = w.files ∨ w'.files = after.files := start.imp_right And.left
    have succeeds : ∃ done, (fromTerritories (ts.map Territory.withoutExamples) options settings).run
      ⟨w'.files, log'⟩ = .ok (outcomeOf ts options settings) done := leaves.lite_succeeds start
    obtain ⟨after', done⟩ := succeeds
    obtain ⟨-, ps', made', leaves'⟩ := fromTerritories_leaves done
    have home : w'.files.home = w.files.home := by
      rcases start with unchanged | left
      · rw [unchanged]
      · rw [left, leaves.more.home, leaves.grown.1.more.home]
    have files {path : Path} (member : path ∈ (outcomeOf ts options settings).paths) :=
      leaves.lite_files leaves' home member
    refine ⟨after', ?_, (files (mapping_mem_paths ts options settings)).1 rfl, fun path member => ?_⟩
    · unfold run
      rw [EStateM.run_bind, lite]
      exact done
    · exact (files (List.mem_append_left _ member)).2

/-- A region whose mobile numbers have an example. -/
def oneEntry (id : String) : RegistryEntry :=
  ⟨id, some 1, true, false, [], [("mobile", ⟨none, some "201", [10], []⟩)], [], []⟩

def oneEntryRegistry (id : String) : Registry := ⟨[(id, oneEntry id)], [], [id], []⟩

private theorem oneEntryRegistry_load (id : String) (lite : Bool) :
    (oneEntryRegistry id).load none none lite = .ok [(oneEntry id).toTerritory lite] := by
  have regions : (oneEntryRegistry id).requestedRegions none = [id] := by
    simp [Registry.requestedRegions, Registry.ascendingRegions, oneEntryRegistry, List.eraseDups_cons]
  have codes : (oneEntryRegistry id).requestedCodes none none = [] := by
    simp [Registry.requestedCodes, Registry.ascendingCodes, oneEntryRegistry]
  have found : (oneEntryRegistry id).region lite id = .ok ((oneEntry id).toTerritory lite) := by
    rw [Registry.region, oneEntryRegistry, List.lookup_cons_self]
  rw [Registry.load, regions, codes, List.mapM_cons, found]
  rfl

/-- A build from a registry of one region is the build of its territory. -/
theorem run_oneEntry (id : String) (lite : Bool) (tree : FileTree) (options : Options) (settings : Settings) :
    ∃ log, (run (oneEntryRegistry id) { options with lite := lite, bundled := true } settings).run
      ⟨tree, []⟩ = (fromTerritories [(oneEntry id).toTerritory lite] options settings).run ⟨tree, log⟩ := by
  apply Exists.intro
  unfold run loadInput loadRegistry
  dsimp only
  rw [if_pos rfl, EStateM.run_bind, EStateM.run_bind, oneEntryRegistry_load, Session.lift_ok]
  rfl

set_option maxRecDepth 8000 in
/-- The small build of a registry of one region succeeds in an empty directory. -/
theorem oneEntry_builds : ∃ log after,
    (run (oneEntryRegistry "US") { smallBuild with bundled := true } {}).run ⟨⟨[], []⟩, []⟩ =
      (fromTerritories [(oneEntry "US").toTerritory false] smallBuild {}).run ⟨⟨[], []⟩, log⟩ ∧
    (fromTerritories [(oneEntry "US").toTerritory false] smallBuild {}).run ⟨⟨[], []⟩, log⟩ =
      .ok (outcomeOf [(oneEntry "US").toTerritory false] smallBuild {}) after ∧
    after.files.Extends ⟨[(["o", "d"], .directory), (["o"], .directory)], []⟩ := by
  have encodable : ∀ t ∈ [(oneEntry "US").toTerritory false], ∃ payload, wire t = .ok payload :=
    encodable_of_toBool (by decide)
  have folder : FileTree.makeDirectories ⟨[], []⟩ smallBuild.outputDir =
      (⟨[(["o"], .directory)], []⟩, none) := rfl
  have parent : FileTree.makeDirectories ⟨[(["o"], .directory)], []⟩ smallBuild.start.parent =
      (⟨[(["o", "d"], .directory), (["o"], .directory)], []⟩, none) := rfl
  have writable : ∃ files, FileTree.write ⟨[(["o", "d"], .directory), (["o"], .directory)], []⟩
      (smallBuild.mappingPath {}).toString [] = .ok files := ⟨_, rfl⟩
  obtain ⟨log, runs⟩ := run_oneEntry "US" false ⟨[], []⟩ smallBuild {}
  obtain ⟨after, ran, more⟩ := fromTerritories_succeeds (w := ⟨⟨[], []⟩, log⟩) folder parent rfl (by decide)
    encodable (by decide) writable
  exact ⟨log, after, runs, ran, more⟩

set_option maxRecDepth 8000 in
/-- A full build of a registry of one region, and the lite build over what it left: the example is gone. -/
theorem example_is_lost_in_a_lite_build : ∃ outcome after after',
    (run (oneEntryRegistry "US") { smallBuild with bundled := true } {}).run ⟨⟨[], []⟩, []⟩ =
      .ok outcome after ∧
    (run (oneEntryRegistry "US") { smallBuild with bundled := true, lite := true } {}).run after =
      .ok outcome after' ∧
    HoldsAlone after.files ⟨.here, ["o", "d", "P_US"]⟩ ((oneEntry "US").toTerritory false) ∧
    HoldsAlone after'.files ⟨.here, ["o", "d", "P_US"]⟩ ((oneEntry "US").toTerritory true) := by
  obtain ⟨log, after, runs, ran, more⟩ := oneEntry_builds
  have mapped : after.files.place (smallBuild.mappingPath {}).toString = .ok ["o", "M.java"] := more.place rfl
  have parted : after.files.place "o/d/P_US" = .ok ["o", "d", "P_US"] := more.place rfl
  have apart : after.files.place "o/d/P_US" ≠ after.files.place (smallBuild.mappingPath {}).toString := by
    rw [parted, mapped]
    simp
  -- The full build leaves the territory of the entry there.
  obtain ⟨-, made, ps, stored, text, -, -, each, sound, -, done, -⟩ := fromTerritories_ok ran
  obtain ⟨payload, encoded, held⟩ := sound.of_distinct_keys each (by decide) (by decide) List.mem_cons_self
  have full : HoldsAlone after.files ⟨.here, ["o", "d", "P_US"]⟩ ((oneEntry "US").toTerritory false) :=
    holdsAlone_of_wire (FileTree.read_elsewhere done apart held) encoded
  have ran := runs.trans ran
  obtain ⟨after', ran', -, parts⟩ := lite_build_only_loses_examples.2.2 _ { smallBuild with bundled := true }
    _ _ after _ _ ran (.inr ⟨rfl, .inl rfl⟩)
  obtain ⟨t, alone, lite⟩ := parts ⟨.here, ["o", "d", "P_US"]⟩ (by decide) apart
  obtain rfl := alone.unique full
  rw [← RegistryEntry.toTerritory_lite] at lite
  exact ⟨_, after, after', ran, ran', full, lite⟩

/-- A path that leads to the lookup holds no territory. -/
theorem Leaves.not_held_at_lookup (leaves : Leaves ts options settings ps before made after)
    (same : after.place path.toString = after.place (options.mappingPath settings).toString)
    (t : Territory) : ¬HoldsAlone after path t := by
  rintro ⟨payload, read, decoded⟩
  obtain ⟨place, bytes, found, written, file⟩ := leaves.held (mapping_mem_paths ts options settings)
  rw [writtenAt, if_pos found] at written
  have lookup := (FileTree.read_eq_ok_iff ..).mpr ⟨place, same.trans (leaves.more.place found), file⟩
  have first := head_of_decoded decoded
  rw [Except.ok.inj (read.symm.trans lookup), ← Option.some.inj written, lookupText, head_of_frame] at first
  cases first

set_option maxRecDepth 8000 in
/-- Different paths are not enough for a part to have a file of its own. A full build and the lite build of
the same input succeed with the same outcome, no path of a part is that of the lookup, and yet no part can
be read back. -/
theorem lookup_may_replace_a_lite_part : ∃ outcome after after',
    (run (oneEntryRegistry "US.java") { crossingBuild with bundled := true } {}).run ⟨⟨[], []⟩, []⟩ =
      .ok outcome after ∧
    (run (oneEntryRegistry "US.java") { crossingBuild with bundled := true, lite := true } {}).run
      ⟨⟨[], []⟩, []⟩ = .ok outcome after' ∧
    outcome.territoryFiles = [⟨.here, ["o", "x", "..", "M_US.java"]⟩] ∧
    outcome.mappingFile ∉ outcome.territoryFiles ∧
    ∀ t, ¬HoldsAlone after'.files ⟨.here, ["o", "x", "..", "M_US.java"]⟩ t := by
  have builds (lite : Bool) : ∃ after, (run (oneEntryRegistry "US.java")
      { crossingBuild with lite := lite, bundled := true } {}).run ⟨⟨[], []⟩, []⟩ =
        .ok (outcomeOf [(oneEntry "US.java").toTerritory lite] crossingBuild {}) after ∧
      ∀ t, ¬HoldsAlone after.files ⟨.here, ["o", "x", "..", "M_US.java"]⟩ t := by
    have encodable : ∀ t ∈ [(oneEntry "US.java").toTerritory lite], ∃ payload, wire t = .ok payload :=
      encodable_of_toBool (by cases lite <;> decide)
    have folder : FileTree.makeDirectories ⟨[], []⟩ crossingBuild.outputDir =
        (⟨[(["o"], .directory)], []⟩, none) := rfl
    have parent : FileTree.makeDirectories ⟨[(["o"], .directory)], []⟩ crossingBuild.start.parent =
        (⟨[(["o", "x"], .directory), (["o"], .directory)], []⟩, none) := rfl
    have writable : ∃ files, FileTree.write ⟨[(["o", "x"], .directory), (["o"], .directory)], []⟩
        (crossingBuild.mappingPath {}).toString [] = .ok files := ⟨_, rfl⟩
    obtain ⟨log, runs⟩ := run_oneEntry "US.java" lite ⟨[], []⟩ crossingBuild {}
    obtain ⟨after, ran, more⟩ := fromTerritories_succeeds (w := ⟨⟨[], []⟩, log⟩) folder parent rfl
      (by cases lite <;> decide) encodable (by cases lite <;> decide) writable
    obtain ⟨-, ps, made, leaves⟩ := fromTerritories_leaves ran
    have mapped : after.files.place (crossingBuild.mappingPath {}).toString = .ok ["o", "M_US.java"] :=
      more.place rfl
    have parted : after.files.place "o/x/../M_US.java" = .ok ["o", "M_US.java"] := more.place rfl
    exact ⟨after, runs.trans ran, leaves.not_held_at_lookup (parted.trans mapped.symm)⟩
  obtain ⟨after, ran, -⟩ := builds false
  obtain ⟨after', ran', replaced⟩ := builds true
  exact ⟨_, after, after', ran, ran', by decide, by decide, replaced⟩

end Build

end NumberingPlan
