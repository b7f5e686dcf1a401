import Mathlib.Data.List.Nodup
import NumberingPlan.Proofs.PartWriting
import NumberingPlan.Proofs.WireReading

/-! The files of a collection. Where the folder of the parts can be made, writing succeeds exactly when
a file can be stored under every output path. Then two territories share a file exactly when they share
a key, every file holds the last territory of its key, and all other files are as they were. -/
namespace NumberingPlan.Build
open Storage

variable {encoder : Encoder Failure} {start : Path} {tree : FileTree}

/-- In the folder of the parts a part can be written exactly where a file can be stored. -/
theorem write_part_iff (there : tree.isDirectory (partFolder start).toString = true) {key : String}
    (plain : '/' ∉ key.toList) (payload : List UInt8) :
    (∃ after, tree.write (partPath start key).toString payload = .ok after) ↔
      tree.Storable (partPath start key) := by
  rw [partPath_eq_child start plain]
  exact FileTree.write_child_iff (partFolder_normal start) (partName_leads start plain) there payload

/-- Parts that are found at one place have one key. -/
theorem key_of_place {key key' : String} (plain : '/' ∉ key.toList) (plain' : '/' ∉ key'.toList)
    (found : tree.place (partPath start key).toString = .ok place)
    (found' : tree.place (partPath start key').toString = .ok place) : key = key' := by
  rw [partPath_eq_child start plain] at found
  rw [partPath_eq_child start plain'] at found'
  obtain ⟨-, above, rfl⟩ :=
    FileTree.place_child (partFolder_normal start) (partName_leads start plain) found
  obtain ⟨-, above', same⟩ :=
    FileTree.place_child (partFolder_normal start) (partName_leads start plain') found'
  exact key_of_last_name same

/-- Parts that were stored could each be stored from the start. -/
theorem Stored.storable (stored : Stored start tree ps after)
    (there : tree.isDirectory (partFolder start).toString = true) :
    ∀ part ∈ ps, '/' ∉ part.key.toList → tree.Storable (partPath start part.key) := by
  induction stored with
  | nil => simp
  | @cons tree next after part ps first rest ih =>
    obtain ⟨_, _, more, fewer, _⟩ := FileTree.write_effect first
    intro other member plain
    -- A later part was stored after this one, and storing this one changed no directory.
    rcases List.mem_cons.mp member with rfl | later
    · exact (write_part_iff there plain other.payload).mp ⟨next, first⟩
    · rw [← FileTree.isDirectory_congr more fewer] at there
      exact (ih there other later plain).congr more fewer

/-- What the last part at a place leaves there. -/
theorem lastAt_of_last (here : tree.place (partPath start part.key).toString = .ok place)
    (last : ∀ other ∈ later, tree.place (partPath start other.key).toString ≠ .ok place)
    (earlier : List Part) : lastAt tree start place (earlier ++ part :: later) = some part.payload := by
  induction earlier with
  | nil => simp [lastAt, lastAt_eq_none_iff.mpr last, here]
  | cons first earlier ih => rw [List.cons_append, lastAt, ih, Option.some_or]

/-- Where the folder of the parts can be made, and every territory encoded, writing succeeds exactly when
a file can be stored under every output path. -/
theorem writeParts_succeeds_iff {ts : List Territory} {w : Workspace}
    (done : w.files.makeDirectories start.parent = (made, none))
    (there : made.isDirectory (partFolder start).toString = true)
    (plain : ∀ t ∈ ts, '/' ∉ t.outputKey.toList)
    (encodable : ∀ t ∈ ts, ∃ payload, encoder t = .ok payload) :
    (∃ paths after, (writeParts encoder start ts).run w = .ok paths after) ↔
      ∀ t ∈ ts, made.Storable (partPath start t.outputKey) := by
  constructor
  · rintro ⟨paths, after, ran⟩ t member
    obtain ⟨made', ps, done', each, stored, -, -⟩ := writeParts_ok ran
    rw [done] at done'
    cases done'
    obtain ⟨part, written, here⟩ := each.part member
    have key := (Part.ofTerritory_eq_ok_iff.mp here).1
    have storable := stored.storable there part written
    rw [key] at storable
    exact storable (plain t member)
  · intro storable
    obtain ⟨tree, log⟩ := w
    rcases stored_or_stopped encoder start made ts with ⟨ps, files, each, stored⟩ |
      ⟨before, t, later, ps, files, f, rfl, each, stored, stops⟩
    · exact ⟨_, _, writeParts_of_stored done each stored log⟩
    · have member : t ∈ before ++ t :: later := by simp
      exfalso
      cases stops with
      | encoding failed =>
        obtain ⟨payload, encoded⟩ := encodable t member
        rw [failed] at encoded
        cases encoded
      | @storing part fault here refused =>
        have key := (Part.ofTerritory_eq_ok_iff.mp here).1
        obtain ⟨more, fewer, -⟩ := stored.effect
        rw [← FileTree.isDirectory_congr more fewer] at there
        obtain ⟨after, done⟩ := (write_part_iff there (plain t member) part.payload).mpr
          ((storable t member).congr fewer more)
        rw [key] at refused
        rw [refused] at done
        cases done

/-- A run that wrote every part leaves the last territory of each key in the file of that key. -/
theorem Stored.last_of_key (each : PartsOf encoder (before ++ t :: later) ps)
    (stored : Stored start made ps files) (plain : ∀ t' ∈ before ++ t :: later, '/' ∉ t'.outputKey.toList)
    (last : ∀ t' ∈ later, t'.outputKey ≠ t.outputKey) :
    ∃ payload, encoder t = .ok payload ∧
      files.read (partPath start t.outputKey).toString = .ok payload := by
  obtain ⟨earlier, part, after, rfl, -, here, back⟩ := each.split
  obtain ⟨key, encoded⟩ := Part.ofTerritory_eq_ok_iff.mp here
  obtain ⟨place, found⟩ := stored.place part (by simp)
  obtain ⟨more, -, held⟩ := stored.effect
  -- Parts with other keys are elsewhere, so the part is the last at its place.
  have apart : ∀ other ∈ after, made.place (partPath start other.key).toString ≠ .ok place := by
    intro other member same
    obtain ⟨t', later', here'⟩ := back.territory member
    have key' := (Part.ofTerritory_eq_ok_iff.mp here').1
    refine last t' later' ?_
    rw [← key', ← key]
    refine key_of_place ?_ ?_ same found
    · rw [key']
      exact plain t' (by simp [later'])
    · rw [key]
      exact plain t (by simp)
  refine ⟨part.payload, encoded, (FileTree.read_eq_ok_iff ..).mpr ⟨place, ?_, ?_⟩⟩
  · rw [← key]
    exact more.place found
  · rw [held, lastAt_of_last found apart earlier, Option.some_or]

/-- Under distinct keys every territory is the last of its key. -/
theorem Stored.of_distinct_keys (each : PartsOf encoder ts ps) (stored : Stored start made ps files)
    (plain : ∀ t ∈ ts, '/' ∉ t.outputKey.toList) (distinct : (ts.map Territory.outputKey).Nodup)
    (member : t ∈ ts) : ∃ payload, encoder t = .ok payload ∧
      files.read (partPath start t.outputKey).toString = .ok payload := by
  obtain ⟨before, later, rfl⟩ := List.append_of_mem member
  rw [List.map_append, List.map_cons, List.nodup_middle, List.nodup_cons] at distinct
  have absent : t.outputKey ∉ later.map Territory.outputKey :=
    fun inside => distinct.1 (List.mem_append_right _ inside)
  exact stored.last_of_key each plain fun t' member' same => absent (same ▸ List.mem_map_of_mem member')

/-- Away from the paths of the territories nothing changes. -/
theorem Stored.elsewhere {place : Place} (stored : Stored start made ps files) (each : PartsOf encoder ts ps)
    (apart : ∀ t ∈ ts, made.place (partPath start t.outputKey).toString ≠ .ok place) :
    files.file? place = made.file? place := by
  obtain ⟨-, -, held⟩ := stored.effect
  have missed : lastAt made start place ps = none := by
    refine lastAt_eq_none_iff.mpr fun part member => ?_
    obtain ⟨t, listed, here⟩ := each.territory member
    rw [(Part.ofTerritory_eq_ok_iff.mp here).1]
    exact apart t listed
  rw [held, missed, Option.none_or]

/-- Files of parts with different keys are at different places. -/
theorem Stored.places_nodup (stored : Stored start made ps files)
    (plain : ∀ part ∈ ps, '/' ∉ part.key.toList) (distinct : (ps.map Part.key).Nodup) :
    ((ps.map fun part => partPath start part.key).map fun path => files.place path.toString).Nodup := by
  have byKey : (ps.map fun part => partPath start part.key).map (fun path => files.place path.toString) =
      (ps.map Part.key).map fun key => files.place (partPath start key).toString := by
    simp only [List.map_map, Function.comp_def]
  rw [byKey]
  refine List.Nodup.map_on (fun key listed key' listed' same => ?_) distinct
  obtain ⟨part, member, rfl⟩ := List.mem_map.mp listed
  obtain ⟨other, member', rfl⟩ := List.mem_map.mp listed'
  obtain ⟨place, found⟩ := stored.place part member
  obtain ⟨more, -, -⟩ := stored.effect
  have found := more.place found
  have found' := found
  rw [same] at found'
  exact key_of_place (plain part member) (plain other member') found found'

/-- The warnings and the other notices of a run, one group a part: a part is warned of exactly if its
key was seen before. -/
theorem notices_of_parts (start : Path) (seen : List String) (ps : List Part) :
    ∃ entries : List (List Logging.Entry), notices start seen ps = entries.flatten ∧
      entries.length = ps.length ∧
      ∀ before part later, ps = before ++ part :: later → entries[before.length]? =
        some (warnings start (before.map Part.key ++ seen) part.key ++ [written start part]) := by
  induction ps generalizing seen with
  | nil => exact ⟨[], rfl, rfl, by simp⟩
  | cons part ps ih =>
    obtain ⟨entries, flat, length, each⟩ := ih (part.key :: seen)
    refine ⟨(warnings start seen part.key ++ [written start part]) :: entries, ?_, ?_, ?_⟩
    · simp [notices, flat]
    · simp [length]
    · rintro (_ | ⟨first, before⟩) other later split
      · cases split
        rfl
      · obtain ⟨rfl, rest⟩ := List.cons.inj split
        rw [List.length_cons, List.getElem?_cons_succ, each before other later rest]
        -- The key of the first part is seen by now; where it stands among the seen keys is no matter.
        have same : (before.map Part.key ++ part.key :: seen).contains other.key =
            ((part :: before).map Part.key ++ seen).contains other.key := by
          rw [Bool.eq_iff_iff]
          simp only [List.contains_iff_mem, List.mem_append, List.mem_cons, List.map_cons, List.cons_append]
          tauto
        simp only [warnings, same]

/-- What is logged of the territories of a collection: a territory is warned of exactly if one before it
has its key. -/
theorem notices_of_territories (start : Path) (each : PartsOf encoder ts ps) :
    ∃ entries : List (List Logging.Entry), notices start [] ps = entries.flatten ∧
      entries.length = ts.length ∧ ∀ before t later, ts = before ++ t :: later → ∃ payload,
        encoder t = .ok payload ∧ entries[before.length]? = some
          (warnings start (before.map Territory.outputKey) t.outputKey ++
            [written start ⟨t.outputKey, payload⟩]) := by
  obtain ⟨entries, flat, groups, notice⟩ := notices_of_parts start [] ps
  refine ⟨entries, flat, groups.trans each.length_eq.symm, ?_⟩
  rintro before t later rfl
  obtain ⟨earlier, part, rest, rfl, front, here, -⟩ := each.split
  obtain ⟨key, encoded⟩ := Part.ofTerritory_eq_ok_iff.mp here
  have group := notice earlier part rest rfl
  rw [List.append_nil, front.keys, ← front.length_eq, key] at group
  refine ⟨part.payload, encoded, ?_⟩
  rw [group, ← key]

theorem encodable_of_toBool {encoder : Encoder ε} {ts : List Territory}
    (each : ∀ t ∈ ts, (encoder t).toBool = true) :
    ∀ t ∈ ts, ∃ payload, encoder t = .ok payload := by
  intro t member
  have succeeds := each t member
  cases encoded : encoder t with
  | ok payload => exact ⟨payload, rfl⟩
  | error e =>
    rw [encoded] at succeeds
    cases succeeds

/-- Encoding for the wire in a session is encoding for the wire. -/
theorem wire_eq_ok_iff {t : Territory} {payload : List UInt8} :
    wire t = .ok payload ↔ Wire.encode [t] = .ok payload := by
  unfold wire wireEncoder
  cases Wire.encode [t] <;> simp [Except.mapError]

private theorem readTerritories_run {path : Path} {log : List Logging.Entry}
    (held : tree.read path.toString = .ok payload) (decoded : Wire.decode payload = .ok ts) :
    (readTerritories path).run ⟨tree, log⟩ = .ok ts ⟨tree, log⟩ := by
  unfold readTerritories
  rw [EStateM.run_bind, Session.bytesAt_ok held]
  dsimp only
  rw [decoded, Session.lift_ok]

/-- Files that each hold one territory are read back in order. -/
theorem readTerritories_each {w : Workspace} {pathOf : Territory → Path} (ts : List Territory)
    (held : ∀ t ∈ ts, (readTerritories (pathOf t)).run w = .ok [t] w) :
    ((ts.map pathOf).mapM readTerritories).run w = .ok (ts.map fun t => [t]) w := by
  induction ts with
  | nil => rfl
  | cons t ts ih =>
    have rest := ih fun t' member => held t' (List.mem_cons_of_mem _ member)
    rw [List.map_cons, List.mapM_cons, EStateM.run_bind, held t List.mem_cons_self]
    dsimp only
    rw [EStateM.run_bind, rest]
    rfl

/-- Writing the territories of a collection for the wire, under keys that hold no slash and with a folder
that can be made, succeeds exactly when a file can be stored under every output path. Then there is one
path a territory in order, and two of them are the same exactly when the keys are. Every path holds the
last territory of its key, every other file is as it was, and a territory is warned of exactly if one
before it has its key. Under distinct keys there are as many files as territories, and reading them in
order gives the collection back. -/
theorem territories_are_stored_under_their_keys (text : String) {ts : List Territory} {w : Workspace}
    (encodable : ∀ t ∈ ts, ∃ payload, Wire.encode [t] = .ok payload)
    (plain : ∀ t ∈ ts, '/' ∉ t.outputKey.toList)
    (folder : w.files.makeDirectories (Path.ofString text).parent = (made, none)) :
    ((∃ paths after, (writeParts wire (Path.ofString text) ts).run w = .ok paths after) ↔
      ∀ t ∈ ts, made.Storable (partPath (Path.ofString text) t.outputKey)) ∧
    ∀ paths after, (writeParts wire (Path.ofString text) ts).run w = .ok paths after →
      paths = ts.map (fun t => partPath (Path.ofString text) t.outputKey) ∧
      (∀ t ∈ ts, ∀ t' ∈ ts, partPath (Path.ofString text) t.outputKey =
        partPath (Path.ofString text) t'.outputKey ↔ t.outputKey = t'.outputKey) ∧
      (∀ before t later, ts = before ++ t :: later → (∀ t' ∈ later, t'.outputKey ≠ t.outputKey) →
        ∃ payload, Wire.encode [t] = .ok payload ∧ Wire.decode payload = .ok [t] ∧
          after.files.read (partPath (Path.ofString text) t.outputKey).toString = .ok payload) ∧
      (∀ place, (∀ t ∈ ts, made.place (partPath (Path.ofString text) t.outputKey).toString ≠ .ok place) →
        after.files.file? place = w.files.file? place) ∧
      (∃ entries : List (List Logging.Entry),
        after.log = w.log ++ entries.flatten ++ [summary (Path.ofString text) ts.length] ∧
        entries.length = ts.length ∧ ∀ before t later, ts = before ++ t :: later → ∃ payload,
          Wire.encode [t] = .ok payload ∧ entries[before.length]? = some
            (warnings (Path.ofString text) (before.map Territory.outputKey) t.outputKey ++
              [written (Path.ofString text) ⟨t.outputKey, payload⟩])) ∧
      ((ts.map Territory.outputKey).Nodup → paths.length = ts.length ∧
        (paths.map fun path => after.files.place path.toString).Nodup ∧
          (paths.mapM readTerritories).run after = .ok (ts.map fun t => [t]) after) := by
  have there : made.isDirectory (partFolder (Path.ofString text)).toString = true := by
    rw [partFolder_of_normal (Path.ofString_normal text)]
    exact FileTree.makeDirectories_made folder
  have encodable' : ∀ t ∈ ts, ∃ payload, wire t = .ok payload := by
    intro t member
    obtain ⟨payload, encoded⟩ := encodable t member
    exact ⟨payload, wire_eq_ok_iff.mpr encoded⟩
  refine ⟨writeParts_succeeds_iff folder there plain encodable', fun paths after ran => ?_⟩
  obtain ⟨made', ps, folder', each, stored, rfl, log⟩ := writeParts_ok ran
  rw [folder] at folder'
  cases folder'
  have length := each.length_eq.symm
  refine ⟨each.paths _, ?_, ?_, fun place apart => ?_, ?_, fun distinct => ⟨?_, ?_, ?_⟩⟩
  · intro t member t' member'
    exact partPath_inj (Path.ofString text) (plain t member) (plain t' member')
  · rintro before t later rfl last
    obtain ⟨payload, encoded, held⟩ := stored.last_of_key each plain last
    have encoded := wire_eq_ok_iff.mp encoded
    exact ⟨payload, encoded, (Wire.decode_eq_ok_iff payload [t]).mpr (Wire.encode_spells encoded), held⟩
  · have grown := w.files.makeDirectories_grown (Path.ofString text).parent
    rw [folder] at grown
    rw [stored.elsewhere each apart, grown.files]
  · obtain ⟨entries, flat, groups, notice⟩ := notices_of_territories (Path.ofString text) each
    refine ⟨entries, by rw [log, flat, length], groups, fun before t later split => ?_⟩
    obtain ⟨payload, encoded, group⟩ := notice before t later split
    exact ⟨payload, wire_eq_ok_iff.mp encoded, group⟩
  · rw [List.length_map, length]
  · have plain' : ∀ part ∈ ps, '/' ∉ part.key.toList := by
      intro part member
      obtain ⟨t, listed, here⟩ := each.territory member
      rw [(Part.ofTerritory_eq_ok_iff.mp here).1]
      exact plain t listed
    rw [← each.keys] at distinct
    exact stored.places_nodup plain' distinct
  · rw [each.paths]
    refine readTerritories_each ts fun t member => ?_
    obtain ⟨payload, encoded, held⟩ := stored.of_distinct_keys each plain distinct member
    have spelled := Wire.encode_spells (wire_eq_ok_iff.mp encoded)
    exact readTerritories_run held ((Wire.decode_eq_ok_iff payload [t]).mpr spelled)

set_option maxRecDepth 4000 in
/-- Two territories of one key in a folder that is not there: both are written, and the second is kept. -/
theorem last_of_a_repeated_key_is_kept : ∃ after,
    (writeParts wire (Path.ofString "a/p") [⟨"A", 1, false, [], [], []⟩, ⟨"A", 2, true, [], [], []⟩]).run
      ⟨⟨[], []⟩, []⟩ = .ok [Path.ofString "a/p_A", Path.ofString "a/p_A"] after ∧
    ∃ payload, Wire.decode payload = .ok [⟨"A", 2, true, [], [], []⟩] ∧
      after.files.read "a/p_A" = .ok payload := by
  have encodable : ∀ t ∈ [⟨"A", 1, false, [], [], []⟩, ⟨"A", 2, true, [], [], []⟩],
      ∃ payload, Wire.encode [t] = .ok payload := encodable_of_toBool (by decide)
  have folder : FileTree.makeDirectories ⟨[], []⟩ (Path.ofString "a/p").parent =
      (⟨[(["a"], .directory)], []⟩, none) := rfl
  have storable : FileTree.Storable ⟨[(["a"], .directory)], []⟩ (partPath (Path.ofString "a/p") "A") := by
    decide
  obtain ⟨succeeds, held⟩ :=
    territories_are_stored_under_their_keys "a/p" (w := ⟨⟨[], []⟩, []⟩) encodable (by decide) folder
  obtain ⟨paths, after, ran⟩ :=
    succeeds.mpr (List.forall_mem_cons.mpr ⟨storable, List.forall_mem_singleton.mpr storable⟩)
  obtain ⟨rfl, -, last, -⟩ := held paths after ran
  obtain ⟨payload, -, decoded, stored⟩ := last [_] _ [] rfl (by simp)
  exact ⟨after, ran, payload, decoded, stored⟩

set_option maxRecDepth 4000 in
/-- A folder that can be made and output paths that are of no directory beforehand are not enough: making
the folder may make a directory of an output path, and a path may have a NUL. -/
theorem free_output_path_may_be_refused : ∃ t : Territory, (∃ payload, Wire.encode [t] = .ok payload) ∧
    '/' ∉ t.outputKey.toList ∧ '\x00' ∉ t.outputKey.toList ∧ ∀ text ∈ ["a_A/../a", "a\x00"],
      (FileTree.makeDirectories ⟨[], []⟩ (Path.ofString text).parent).2 = none ∧
      FileTree.isDirectory ⟨[], []⟩ (partPath (Path.ofString text) t.outputKey).toString = false ∧
      ¬∃ paths after, (writeParts wire (Path.ofString text) [t]).run ⟨⟨[], []⟩, []⟩ = .ok paths after := by
  have encodable : ∀ t ∈ [(⟨"A", 1, false, [], [], []⟩ : Territory)], ∃ payload, wire t = .ok payload :=
    encodable_of_toBool (by decide)
  obtain ⟨payload, encoded⟩ := encodable _ List.mem_cons_self
  refine ⟨⟨"A", 1, false, [], [], []⟩, ⟨payload, wire_eq_ok_iff.mp encoded⟩, by decide, by decide,
    fun text listed => ?_⟩
  rcases List.mem_pair.mp listed with rfl | rfl
  · have folder : FileTree.makeDirectories ⟨[], []⟩ (Path.ofString "a_A/../a").parent =
        (⟨[(["a_A"], .directory)], []⟩, none) := rfl
    have there : FileTree.isDirectory ⟨[(["a_A"], .directory)], []⟩
        (partFolder (Path.ofString "a_A/../a")).toString = true := rfl
    refine ⟨rfl, rfl, fun ran => ?_⟩
    have storable := (writeParts_succeeds_iff folder there (by decide) encodable).mp ran
    have free := (storable _ List.mem_cons_self).free
    cases free
  · have folder : FileTree.makeDirectories ⟨[], []⟩ (Path.ofString "a\x00").parent = (⟨[], []⟩, none) := rfl
    have there : FileTree.isDirectory ⟨[], []⟩ (partFolder (Path.ofString "a\x00")).toString = true := rfl
    refine ⟨rfl, rfl, fun ran => ?_⟩
    have storable := (writeParts_succeeds_iff folder there (by decide) encodable).mp ran
    exact (storable _ List.mem_cons_self).clean (by decide)

end NumberingPlan.Build
