import NumberingPlan.Proofs.DraftSteps
import NumberingPlan.Proofs.PartFiles
import NumberingPlan.Proofs.RegionLists

/-! A build writes the territories and the lookup in two passes over one collection. Where the output
keys differ and the lookup has a file of its own, the two agree: the regions under a code are those
whose files hold a territory of that code. -/
namespace NumberingPlan.Build
open Storage

variable {ts : List Territory} {options : Options} {settings : Settings}

/-- The path that all parts of a build begin with. -/
def Options.start (options : Options) : Path := options.outputDir.child options.dataPrefix

/-- Where a build writes its lookup. -/
def Options.mappingPath (options : Options) (settings : Settings) : Path :=
  options.outputDir.child (options.mappingClass ++ "." ++ settings.sourceExtension)

/-- The frame of a build's lookup. -/
def Options.header (options : Options) (settings : Settings) : Source.Header :=
  ⟨options.mappingClass, settings.javaPackage, settings.generatorName, options.copyrightYear⟩

/-- The text of a lookup is its accessor in the frame of a class. -/
theorem sourceText_eq (shape : Shape) (header : Source.Header) : sourceText shape header = .ok
    (Source.frame header
      ((Source.accessorImports shape).foldl (fun sofar name => Source.insertName name sofar) [])
      (Source.leadingComment shape ++ Source.accessorCode shape)) := by
  rw [← @String.empty_append (Source.leadingComment shape ++ Source.accessorCode shape)]
  have emitted : (Source.emit shape).run {} = _ := Source.emit_run shape {} rfl rfl
  unfold sourceText
  rw [EStateM.run_bind, emitted]
  rfl

/-- Writing a lookup comes down to writing its text, between two entries of the log. -/
theorem writeMapping_run {codes : RegionsByCode} (tree : FileTree)
    (composed : sourceText (Shape.select codes) (options.header settings) = .ok text)
    (log : List Logging.Entry) : ∃ selected generated,
    (writeMapping codes options.outputDir options.mappingClass options.copyrightYear settings).run ⟨tree, log⟩ =
      (writeSource (options.mappingPath settings) text >>= fun path => do
        Session.log generated
        return (path, Shape.select codes)).run ⟨tree, log ++ [selected]⟩ := by
  apply Exists.intro
  apply Exists.intro
  unfold writeMapping
  dsimp only
  rw [EStateM.run_bind, Session.log_run]
  dsimp only
  unfold Options.header at composed
  rw [EStateM.run_bind, composed, Session.lift_ok]
  rfl

private theorem writeMapping_ok {codes : RegionsByCode} {tree files : FileTree}
    (composed : sourceText (Shape.select codes) (options.header settings) = .ok text)
    (done : tree.write (options.mappingPath settings).toString (Utf8.encode text) = .ok files)
    (log : List Logging.Entry) : ∃ log',
    (writeMapping codes options.outputDir options.mappingClass options.copyrightYear settings).run
      ⟨tree, log⟩ = .ok (options.mappingPath settings, Shape.select codes) ⟨files, log'⟩ := by
  obtain ⟨selected, generated, written⟩ := writeMapping_run tree composed log
  apply Exists.intro
  rw [written]
  unfold writeSource
  rw [EStateM.run_bind, EStateM.run_bind, Session.store_ok done]
  rfl

/-- A lookup that cannot be written changes no file. -/
theorem writeMapping_error {codes : RegionsByCode} {tree : FileTree}
    (composed : sourceText (Shape.select codes) (options.header settings) = .ok text)
    (refused : tree.write (options.mappingPath settings).toString (Utf8.encode text) = .error fault)
    (log : List Logging.Entry) : ∃ log',
    (writeMapping codes options.outputDir options.mappingClass options.copyrightYear settings).run
      ⟨tree, log⟩ = .error (.access fault) ⟨tree, log'⟩ := by
  obtain ⟨selected, generated, written⟩ := writeMapping_run tree composed log
  apply Exists.intro
  rw [written]
  unfold writeSource
  rw [EStateM.run_bind, EStateM.run_bind, Session.store_error refused]

private theorem writeSource_eq_ok {path : Path} {w after : Workspace}
    (ran : (writeSource path text).run w = .ok found after) :
    w.files.write path.toString (Utf8.encode text) = .ok after.files ∧ found = path := by
  obtain ⟨⟨⟩, between, stored, logged⟩ := Session.bind_ok ran
  have done := Session.store_eq_ok stored
  have same : EStateM.Result.ok path ⟨between.files, _⟩ = EStateM.Result.ok found after := logged
  cases same
  exact ⟨done, rfl⟩

/-- A lookup that was written is the text of the shape of its codes. -/
theorem writeMapping_eq_ok {codes : RegionsByCode} {w after : Workspace}
    (ran : (writeMapping codes options.outputDir options.mappingClass options.copyrightYear settings).run w =
      .ok found after) : ∃ text, sourceText (Shape.select codes) (options.header settings) = .ok text ∧
    w.files.write (options.mappingPath settings).toString (Utf8.encode text) = .ok after.files ∧
      found = (options.mappingPath settings, Shape.select codes) := by
  obtain ⟨⟨⟩, selected, logged, emitting⟩ := Session.bind_ok ran
  obtain ⟨text, composed, lifted, writing⟩ := Session.bind_ok emitting
  obtain ⟨path, stored, wrote, ending⟩ := Session.bind_ok writing
  obtain ⟨emitted, rfl⟩ := Session.lift_eq_ok lifted
  obtain ⟨done, rfl⟩ := writeSource_eq_ok wrote
  cases logged
  cases ending
  exact ⟨text, emitted, done, rfl⟩

/-- A build that succeeds has stored every part and then written its lookup. -/
theorem fromTerritories_ok {w after : Workspace} {outcome : Outcome}
    (ran : (fromTerritories ts options settings).run w = .ok outcome after) :
    ∃ tree made ps stored text, w.files.makeDirectories options.outputDir = (tree, none) ∧
      tree.makeDirectories options.start.parent = (made, none) ∧ PartsOf wire ts ps ∧
      Stored options.start made ps stored ∧
      sourceText (Shape.select (RegionsByCode.ofTerritories ts)) (options.header settings) = .ok text ∧
      stored.write (options.mappingPath settings).toString (Utf8.encode text) = .ok after.files ∧
      outcome = ⟨ts.map fun t => partPath options.start t.outputKey, options.mappingPath settings,
        Shape.select (RegionsByCode.ofTerritories ts)⟩ := by
  unfold fromTerritories at ran
  obtain ⟨⟨⟩, opened, made, ran⟩ := Session.bind_ok ran
  obtain ⟨paths, parted, written, ran⟩ := Session.bind_ok ran
  obtain ⟨found, mapped, mapping, ran⟩ := Session.bind_ok ran
  have folder := Session.makeDirectories_eq_ok made
  obtain ⟨made, ps, parent, each, stored, rfl, -⟩ := writeParts_ok written
  obtain ⟨text, composed, done, rfl⟩ := writeMapping_eq_ok mapping
  cases ran
  rw [each.paths]
  exact ⟨_, made, ps, parted.files, text, folder, parent, each, stored, composed, done, rfl⟩

/-- Where the folders can be made, the parts stored and then the lookup written, a build succeeds. -/
theorem fromTerritories_of_stored {tree made stored files : FileTree} {w : Workspace}
    (folder : w.files.makeDirectories options.outputDir = (tree, none))
    (parent : tree.makeDirectories options.start.parent = (made, none)) (each : PartsOf wire ts ps)
    (sound : Stored options.start made ps stored)
    (composed : sourceText (Shape.select (RegionsByCode.ofTerritories ts)) (options.header settings) = .ok text)
    (done : stored.write (options.mappingPath settings).toString (Utf8.encode text) = .ok files) :
    ∃ log, (fromTerritories ts options settings).run w =
      .ok ⟨ts.map fun t => partPath options.start t.outputKey, options.mappingPath settings,
        Shape.select (RegionsByCode.ofTerritories ts)⟩ ⟨files, log⟩ := by
  obtain ⟨tree', log⟩ := w
  have written := writeParts_of_stored parent each sound log
  obtain ⟨log', mapping⟩ :=
    writeMapping_ok composed done (log ++ notices options.start [] ps ++ [summary options.start ps.length])
  refine ⟨log', ?_⟩
  unfold fromTerritories
  rw [EStateM.run_bind, Session.makeDirectories_ok folder]
  dsimp only
  unfold Options.start at written mapping
  rw [EStateM.run_bind, written]
  dsimp only
  rw [EStateM.run_bind, mapping, each.paths]
  rfl

/-- A build succeeds where the folders can be made, every territory can be encoded and stored, and the
lookup can be written. -/
theorem fromTerritories_succeeds {tree made : FileTree} {w : Workspace}
    (folder : w.files.makeDirectories options.outputDir = (tree, none))
    (parent : tree.makeDirectories options.start.parent = (made, none))
    (there : made.isDirectory (partFolder options.start).toString = true)
    (plain : ∀ t ∈ ts, '/' ∉ t.outputKey.toList)
    (encodable : ∀ t ∈ ts, ∃ payload, wire t = .ok payload)
    (storable : ∀ t ∈ ts, made.Storable (partPath options.start t.outputKey))
    (writable : ∃ files, made.write (options.mappingPath settings).toString [] = .ok files) :
    ∃ after, (fromTerritories ts options settings).run w =
      .ok ⟨ts.map fun t => partPath options.start t.outputKey, options.mappingPath settings,
        Shape.select (RegionsByCode.ofTerritories ts)⟩ after ∧ after.files.Extends made := by
  obtain ⟨paths, ⟨stored, log⟩, written⟩ :=
    (writeParts_succeeds_iff (w := ⟨tree, []⟩) parent there plain encodable).mpr storable
  obtain ⟨made', ps, parent', each, sound, -, -⟩ := writeParts_ok written
  rw [parent] at parent'
  cases parent'
  obtain ⟨more, fewer, -⟩ := sound.effect
  have composed := sourceText_eq (Shape.select (RegionsByCode.ofTerritories ts)) (options.header settings)
  obtain ⟨files, done⟩ := FileTree.write_congr more fewer writable (Utf8.encode _)
  obtain ⟨-, -, further, -⟩ := FileTree.write_effect done
  obtain ⟨log, ran⟩ := fromTerritories_of_stored folder parent each sound composed done
  exact ⟨⟨files, log⟩, ran, further.trans more⟩

/-- A file that holds one territory and nothing else. -/
def HoldsAlone (files : FileTree) (path : Path) (t : Territory) : Prop :=
  ∃ payload, files.read path.toString = .ok payload ∧ Wire.decode payload = .ok [t]

/-- The lookup and the files of a build agree, where no two territories have one output key and the
lookup has a file of its own. Every calling code is a key, and every territory with an id is listed
once under its own. No region is listed twice. The file of every region under a code holds a territory
of that region and code alone. Every file holds a territory that is listed, or that has no id and is
the first of its code. -/
theorem lookup_agrees_with_files {w after : Workspace} {outcome : Outcome}
    (distinct : (ts.map Territory.outputKey).Nodup) (plain : ∀ t ∈ ts, '/' ∉ t.outputKey.toList)
    (ran : (fromTerritories ts options settings).run w = .ok outcome after)
    (apart : ∀ path ∈ outcome.territoryFiles,
      after.files.place path.toString ≠ after.files.place outcome.mappingFile.toString) :
    (outcome.shape = Shape.select (RegionsByCode.ofTerritories ts) ∧
      ∃ text, sourceText outcome.shape (options.header settings) = .ok text ∧
        after.files.read outcome.mappingFile.toString = .ok (Utf8.encode text)) ∧
    ((RegionsByCode.ofTerritories ts).map (·.1)).Nodup ∧
    (∀ t ∈ ts, ∃ regions, (t.countryCode, regions) ∈ RegionsByCode.ofTerritories ts ∧
      (t.id ≠ "" → regions.count t.id = 1)) ∧
    (∀ code regions, (code, regions) ∈ RegionsByCode.ofTerritories ts → regions.Nodup ∧
      ∀ region ∈ regions, ∃ t, HoldsAlone after.files
        (partPath options.start (RegionsByCode.fileKey code region)) t ∧
          t.id = region ∧ t.countryCode = code) ∧
    ∀ path ∈ outcome.territoryFiles, ∃ t, HoldsAlone after.files path t ∧
      ((∃ regions, (t.countryCode, regions) ∈ RegionsByCode.ofTerritories ts ∧ t.id ∈ regions) ∨
        t.id = "" ∧ ts.find? (fun t' => t'.countryCode = t.countryCode) = some t) := by
  obtain ⟨tree, made, ps, stored, text, -, -, each, sound, composed, mapped, rfl⟩ := fromTerritories_ok ran
  -- The lookup is written after the parts and to another place, so they are still there.
  have held : ∀ t ∈ ts, HoldsAlone after.files (partPath options.start t.outputKey) t := by
    intro t member
    obtain ⟨payload, encoded, before⟩ := sound.of_distinct_keys each plain distinct member
    have path := apart _ (List.mem_map_of_mem member)
    have spelled := Wire.encode_spells (wire_eq_ok_iff.mp encoded)
    exact ⟨payload, FileTree.read_elsewhere mapped path before,
      (Wire.decode_eq_ok_iff payload [t]).mpr spelled⟩
  refine ⟨⟨rfl, text, composed, FileTree.read_written mapped rfl⟩, ?_, ?_, ?_, ?_⟩
  · exact List.pairwise_map.mpr
      ((RegionsByCode.ofTerritories_ascending ts).imp fun before => Int.ne_of_lt before)
  · intro t member
    obtain ⟨regions, entry, listed⟩ := RegionsByCode.listed_or_opens member
    refine ⟨regions, entry, fun named => ?_⟩
    rcases listed with listed | ⟨nameless, -⟩
    · exact List.count_eq_one_of_mem (RegionsByCode.regions_nodup distinct entry) listed
    · exact absurd nameless named
  · intro code regions entry
    refine ⟨RegionsByCode.regions_nodup distinct entry, fun region listed => ?_⟩
    obtain ⟨t, member, rfl, rfl⟩ := RegionsByCode.territory_of_region entry listed
    rw [RegionsByCode.fileKey_of_territory]
    exact ⟨t, held t member, rfl, rfl⟩
  · intro path written
    obtain ⟨t, member, rfl⟩ := List.mem_map.mp written
    obtain ⟨regions, entry, listed | opens⟩ := RegionsByCode.listed_or_opens member
    · exact ⟨t, held t member, .inl ⟨regions, entry, listed⟩⟩
    · exact ⟨t, held t member, .inr opens⟩

/-- A collection whose payload is read begins with the magic. -/
theorem head_of_decoded (decoded : Wire.decode payload = .ok ts) : payload.head? = some 0x50 := by
  obtain ⟨_, _, rfl, rfl, -⟩ := (Wire.decode_eq_ok_iff payload ts).mp decoded
  rfl

/-- A source file begins with a comment. -/
theorem head_of_frame (header : Source.Header) (imports : List String) (body : String) :
    (Utf8.encode (Source.frame header imports body)).head? = some 0x2F := by
  have opens : ∃ rest, Source.frame header imports body = "/*\n" ++ rest := by
    unfold Source.frame Source.notice
    simp only [String.append_assoc]
    exact ⟨_, rfl⟩
  obtain ⟨rest, framed⟩ := opens
  rw [framed, Utf8.encode, String.toList_append, List.flatMap_append, List.head?_append]
  rfl

/-- A region, the main one of its code, a code without a region, and a nameless territory. -/
def smallCollection : List Territory := [⟨"CA", 1, false, [], [], []⟩, ⟨"US", 1, true, [], [], []⟩,
  ⟨"001", 800, false, [], [], []⟩, ⟨"", 44, false, [], [], []⟩]

/-- A build into a folder of its own. -/
def smallBuild : Options := ⟨none, ⟨.here, ["o"]⟩, "d/P", "M", 2010, false, false⟩

set_option maxRecDepth 8000 in
/-- The main region is listed first, the code without a region has its file under the code, and the
nameless territory is not listed. -/
theorem small_build_agrees : ∃ outcome after,
    (fromTerritories smallCollection smallBuild {}).run ⟨⟨[], []⟩, []⟩ = .ok outcome after ∧
    outcome.shape = .fullMap [(1, ["US", "CA"]), (44, []), (800, ["001"])] ∧
    ∃ t, HoldsAlone after.files ⟨.here, ["o", "d", "P_800"]⟩ t ∧ t.id = "001" ∧ t.countryCode = 800 := by
  have encodable : ∀ t ∈ smallCollection, ∃ payload, wire t = .ok payload :=
    encodable_of_toBool (by decide)
  have folder : FileTree.makeDirectories ⟨[], []⟩ smallBuild.outputDir =
      (⟨[(["o"], .directory)], []⟩, none) := rfl
  have parent : FileTree.makeDirectories ⟨[(["o"], .directory)], []⟩ smallBuild.start.parent =
      (⟨[(["o", "d"], .directory), (["o"], .directory)], []⟩, none) := rfl
  have writable : ∃ files, FileTree.write ⟨[(["o", "d"], .directory), (["o"], .directory)], []⟩
      (smallBuild.mappingPath {}).toString [] = .ok files := ⟨_, rfl⟩
  obtain ⟨after, ran, more⟩ := fromTerritories_succeeds (w := ⟨⟨[], []⟩, []⟩) folder parent rfl (by decide)
    encodable (by decide) writable
  have mapped : after.files.place (smallBuild.mappingPath {}).toString = .ok ["o", "M.java"] := more.place rfl
  have apart : ∀ path ∈ smallCollection.map fun t => partPath smallBuild.start t.outputKey,
      after.files.place path.toString ≠ after.files.place (smallBuild.mappingPath {}).toString := by
    have places : ∀ t ∈ smallCollection, ∃ name,
        after.files.place (partPath smallBuild.start t.outputKey).toString = .ok ["o", "d", name] := by
      refine List.forall_mem_cons.mpr ⟨⟨"P_CA", more.place rfl⟩, ?_⟩
      refine List.forall_mem_cons.mpr ⟨⟨"P_US", more.place rfl⟩, ?_⟩
      refine List.forall_mem_cons.mpr ⟨⟨"P_800", more.place rfl⟩, ?_⟩
      exact List.forall_mem_singleton.mpr ⟨"P_44", more.place rfl⟩
    intro path written same
    obtain ⟨t, member, rfl⟩ := List.mem_map.mp written
    obtain ⟨name, found⟩ := places t member
    rw [found, mapped] at same
    simp at same
  obtain ⟨-, -, -, held, -⟩ := lookup_agrees_with_files (by decide) (by decide) ran apart
  obtain ⟨-, agree⟩ := held 800 ["001"] (by decide)
  obtain ⟨t, alone⟩ := agree "001" List.mem_cons_self
  exact ⟨_, after, ran, rfl, t, alone⟩

/-- A build whose lookup and whose one part have different paths to one file. -/
def crossingBuild : Options := ⟨none, ⟨.here, ["o"]⟩, "x/../M", "M_US", 2010, false, false⟩

set_option maxRecDepth 8000 in
/-- Different paths are not enough for the lookup to have a file of its own: one of them may step aside and
back. Then the lookup replaces the part. -/
theorem lookup_may_replace_a_part : ∃ t outcome after, '/' ∉ t.outputKey.toList ∧
    '\x00' ∉ t.outputKey.toList ∧
    (fromTerritories [t] crossingBuild {}).run ⟨⟨[], []⟩, []⟩ = .ok outcome after ∧
    outcome.mappingFile ∉ outcome.territoryFiles ∧
    ∀ path ∈ outcome.territoryFiles, ∀ t', ¬HoldsAlone after.files path t' := by
  have encodable : ∀ t ∈ [(⟨"US.java", 1, false, [], [], []⟩ : Territory)], ∃ payload, wire t = .ok payload :=
    encodable_of_toBool (by decide)
  have folder : FileTree.makeDirectories ⟨[], []⟩ crossingBuild.outputDir =
      (⟨[(["o"], .directory)], []⟩, none) := rfl
  have parent : FileTree.makeDirectories ⟨[(["o"], .directory)], []⟩ crossingBuild.start.parent =
      (⟨[(["o", "x"], .directory), (["o"], .directory)], []⟩, none) := rfl
  have writable : ∃ files, FileTree.write ⟨[(["o", "x"], .directory), (["o"], .directory)], []⟩
      (crossingBuild.mappingPath {}).toString [] = .ok files := ⟨_, rfl⟩
  obtain ⟨after, ran, more⟩ := fromTerritories_succeeds (w := ⟨⟨[], []⟩, []⟩) folder parent rfl (by decide)
    encodable (by decide) writable
  have mapped : after.files.place (crossingBuild.mappingPath {}).toString = .ok ["o", "M_US.java"] :=
    more.place rfl
  have parted : after.files.place (partPath crossingBuild.start "US.java").toString =
      .ok ["o", "M_US.java"] := more.place rfl
  obtain ⟨-, -, -, stored, text, -, -, -, -, composed, done, -⟩ := fromTerritories_ok ran
  have replaced := FileTree.read_written done (parted.trans mapped.symm)
  refine ⟨⟨"US.java", 1, false, [], [], []⟩, _, after, by decide, by decide, ran, by decide, ?_⟩
  refine List.forall_mem_singleton.mpr fun t' held => ?_
  obtain ⟨payload, read, decoded⟩ := held
  have same : payload = Utf8.encode text := Except.ok.inj (read.symm.trans replaced)
  have first := head_of_decoded decoded
  rw [sourceText_eq] at composed
  rw [same, ← Except.ok.inj composed, head_of_frame] at first
  cases first

end NumberingPlan.Build
