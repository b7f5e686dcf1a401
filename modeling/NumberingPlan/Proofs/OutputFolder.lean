import NumberingPlan.Proofs.BuildOutputs

/-! Where the parts of a build lie. If the prefix of the parts ends in a name, every part is below the output
folder, under the prefix, an underscore and its key. If it does not, the folder itself or a folder below
it gives the name that goes before the underscore, and the part lies a level higher than that. -/
namespace NumberingPlan.Storage.Path

def lastSegment (text : String) : String := String.ofList ((segments text.toList).getLastD [])

/-- The names in a text before its last segment. -/
def outerNames (text : String) : List String :=
  ((segments text.toList).dropLast.filter isName).map String.ofList

/-- Whether the last segment of a text is a name. -/
def endsInName (text : String) : Bool := isName ((segments text.toList).getLastD [])

/-- The names in a text are those before its last segment, and the last segment if it is one. -/
theorem names_ofString (text : String) : (ofString text).names =
    outerNames text ++ if endsInName text then [lastSegment text] else [] := by
  obtain ⟨outer, last, whole, -⟩ := segments_append text.toList
  simp only [ofString, outerNames, endsInName, lastSegment, whole, List.filter_append, List.map_append,
    List.dropLast_concat, List.getLastD_concat, List.filter_cons, List.filter_nil]
  split <;> rfl

/-- An underscore and a key without a slash go to the end of the last segment, which then is a name. -/
theorem names_ofString_suffixed (text : String) {key : String} (plain : '/' ∉ key.toList) :
    (ofString (text ++ "_" ++ key)).names = outerNames text ++ [lastSegment text ++ "_" ++ key] ∧
      LeadsDown (lastSegment text ++ "_" ++ key) := by
  obtain ⟨outer, last, whole, append⟩ := segments_append text.toList
  have parts := append ('_' :: key.toList) (by simpa using plain)
  have text_spelled : (text ++ "_" ++ key).toList = text.toList ++ '_' :: key.toList := by simp
  have spelled : (lastSegment text ++ "_" ++ key).toList = last ++ '_' :: key.toList := by
    simp [lastSegment, whole]
  have unslashed : '/' ∉ last := slash_not_mem_segment text.toList last (by simp [whole])
  have leads : LeadsDown (lastSegment text ++ "_" ++ key) :=
    leadsDown_of_underscore (by simp [spelled]) (by simp [spelled, unslashed, plain])
  refine ⟨?_, leads⟩
  rw [ofString, text_spelled, parts, ← spelled, List.filter_append, List.map_append]
  simp only [outerNames, whole, List.dropLast_concat, List.filter_cons, leads.named, List.filter_nil,
    ↓reduceIte, List.map_cons, List.map_nil, String.ofList_toList]

/-- A relative text names a path below another. -/
theorem child_of_relative (p : Path) {text : String} (relative : anchorOf text.toList = .here) :
    p.child text = ⟨p.anchor, p.names ++ (ofString text).names⟩ := by
  simp only [child, join, ofString, relative]

private theorem Normal.child_of_relative {p : Path} (normal : p.Normal) {text : String}
    (relative : anchorOf text.toList = .here) : (p.child text).Normal := by
  rw [p.child_of_relative relative]
  intro name member
  rcases List.mem_append.mp member with outside | inside
  · exact normal name outside
  · exact ofString_normal text name inside

end NumberingPlan.Storage.Path

namespace NumberingPlan
open Storage

variable {folder : Path} {text key : String}

/-- A part that begins with a path in normal form has the path's folders, and its last name before the
underscore. -/
theorem partPath_of_names {start : Path} (normal : start.Normal) (spelled : start.names = outer ++ [last])
    (plain : '/' ∉ key.toList) : partPath start key = ⟨start.anchor, outer ++ [last ++ "_" ++ key]⟩ := by
  obtain ⟨-, blank, -, segments⟩ := Path.spelling normal
  have stem : partStem start = last ++ "_" := by
    rw [partStem, segments, spelled, List.map_append, List.map_singleton, ← List.append_assoc,
      List.getLastD_concat, String.ofList_toList]
  rw [partPath_eq_child start plain, Path.child_of_name _ (partName_leads start plain),
    partFolder_of_normal normal, stem, Path.parent, spelled, List.dropLast_concat]

/-- A part lies beside the path that it begins with, not below it. -/
theorem part_not_below_its_start {start : Path} (normal : start.Normal) (some : start.names ≠ [])
    (plain : '/' ∉ key.toList) : ¬start.names <+: (partPath start key).names := by
  obtain ⟨outer, last, spelled⟩ := (List.eq_nil_or_concat start.names).resolve_left some
  rw [List.concat_eq_append] at spelled
  rw [partPath_of_names normal spelled plain, spelled]
  intro below
  -- Both have as many names, so the last name of the start would be the last name of the part.
  have last := List.append_cancel_left (below.eq_of_length (by simp))
  have longer := congrArg String.length (List.singleton_inj.mp last)
  simp only [String.length_append] at longer
  have underscore : "_".length = 1 := rfl
  omega

/-- The path of a relative text with an underscore and a key. -/
theorem child_suffixed (folder : Path) (relative : Path.anchorOf text.toList = .here)
    (plain : '/' ∉ key.toList) : folder.child (text ++ "_" ++ key) =
      ⟨folder.anchor, folder.names ++ (Path.outerNames text ++ [Path.lastSegment text ++ "_" ++ key])⟩ := by
  have suffixed : (text ++ "_" ++ key).toList = text.toList ++ '_' :: key.toList := by simp
  have relative' : Path.anchorOf (text ++ "_" ++ key).toList = .here := by
    rw [suffixed, Path.anchorOf_append text.toList (by decide) key.toList, relative]
  rw [folder.child_of_relative relative', (Path.names_ofString_suffixed text plain).1]

/-- If the prefix ends in a name, a part lies below the folder under the prefix, an underscore and its
key. -/
theorem partPath_of_endsInName (normal : folder.Normal) (relative : Path.anchorOf text.toList = .here)
    (named : Path.endsInName text = true) (plain : '/' ∉ key.toList) :
    partPath (folder.child text) key = folder.child (text ++ "_" ++ key) := by
  have spelled : (folder.child text).names =
      (folder.names ++ Path.outerNames text) ++ [Path.lastSegment text] := by
    rw [folder.child_of_relative relative, Path.names_ofString, if_pos named, List.append_assoc]
  rw [partPath_of_names (normal.child_of_relative relative) spelled plain, child_suffixed folder relative plain,
    folder.child_of_relative relative, List.append_assoc]

/-- If the prefix does not end in a name, a part lies a level too high: it has as many names as the folder
and the prefix have, and not one more. -/
theorem partPath_of_not_endsInName (normal : folder.Normal) (relative : Path.anchorOf text.toList = .here)
    (unnamed : Path.endsInName text = false) (some : folder.names ≠ []) (plain : '/' ∉ key.toList) :
    partPath (folder.child text) key ≠ folder.child (text ++ "_" ++ key) := by
  have whole : (folder.child text).names = folder.names ++ Path.outerNames text := by
    rw [folder.child_of_relative relative, Path.names_ofString, unnamed, if_neg Bool.false_ne_true,
      List.append_nil]
  have nonempty : (folder.child text).names ≠ [] := by simp [whole, some]
  have spelled := (List.dropLast_append_getLast nonempty).symm
  rw [partPath_of_names (normal.child_of_relative relative) spelled plain, child_suffixed folder relative plain]
  intro same
  have lengths := congrArg (fun path => path.names.length) same
  have positive := List.length_pos_iff.mpr some
  simp only [whole, List.length_append, List.length_dropLast, List.length_singleton] at lengths
  omega

end NumberingPlan

namespace NumberingPlan.Build
open Storage

variable {ts : List Territory} {options : Options} {settings : Settings}

/-- A build stops where its folder cannot be made. -/
theorem fromTerritories_of_refused {tree opened : FileTree}
    (refused : tree.makeDirectories options.outputDir = (opened, some fault)) (log : List Logging.Entry) :
    (fromTerritories ts options settings).run ⟨tree, log⟩ = .error (.access fault) ⟨opened, log⟩ := by
  unfold fromTerritories
  rw [EStateM.run_bind, Session.makeDirectories_error refused]

/-- A build stops where writing the parts does. -/
theorem fromTerritories_of_stopped {tree opened : FileTree}
    (folder : tree.makeDirectories options.outputDir = (opened, none))
    (stopped : (writeParts wire options.start ts).run ⟨opened, log⟩ = .error f after) :
    (fromTerritories ts options settings).run ⟨tree, log⟩ = .error f after := by
  unfold Options.start at stopped
  unfold fromTerritories
  rw [EStateM.run_bind, Session.makeDirectories_ok folder]
  dsimp only
  rw [EStateM.run_bind, stopped]

/-- A build whose lookup cannot be written leaves its parts. -/
theorem fromTerritories_of_unmapped {tree opened made stored : FileTree}
    (folder : tree.makeDirectories options.outputDir = (opened, none))
    (parent : opened.makeDirectories options.start.parent = (made, none)) (each : PartsOf wire ts ps)
    (sound : Stored options.start made ps stored)
    (refused : stored.write (options.mappingPath settings).toString
      (Utf8.encode (lookupText ts options settings)) = .error fault) (log : List Logging.Entry) :
    ∃ log', (fromTerritories ts options settings).run ⟨tree, log⟩ = .error (.access fault) ⟨stored, log'⟩ := by
  have written := writeParts_of_stored parent each sound log
  obtain ⟨log', unmapped⟩ := writeMapping_error (sourceText_eq _ _) refused
    (log ++ notices options.start [] ps ++ [summary options.start ps.length])
  refine ⟨log', ?_⟩
  unfold Options.start at written unmapped
  unfold fromTerritories
  rw [EStateM.run_bind, Session.makeDirectories_ok folder]
  dsimp only
  rw [EStateM.run_bind, written]
  dsimp only
  rw [EStateM.run_bind, unmapped]

/-- What a build does to a tree, also where it fails: it changes no file, or it makes its folders and stores
the parts of the first territories, and then perhaps the lookup. -/
theorem fromTerritories_course (ts : List Territory) (options : Options) (settings : Settings)
    (w : Workspace) :
    (∀ place, (Session.left ((fromTerritories ts options settings).run w)).files.file? place =
      w.files.file? place) ∨
    ∃ opened made front later ps stored, w.files.makeDirectories options.outputDir = (opened, none) ∧
      opened.makeDirectories options.start.parent = (made, none) ∧ ts = front ++ later ∧
      PartsOf wire front ps ∧ Stored options.start made ps stored ∧
      ((Session.left ((fromTerritories ts options settings).run w)).files = stored ∨
        stored.write (options.mappingPath settings).toString (Utf8.encode (lookupText ts options settings)) =
          .ok (Session.left ((fromTerritories ts options settings).run w)).files) := by
  obtain ⟨tree, log⟩ := w
  have opens := tree.makeDirectories_grown options.outputDir
  rcases folder : tree.makeDirectories options.outputDir with ⟨opened, _ | fault⟩
  · have makes := opened.makeDirectories_grown options.start.parent
    rw [folder] at opens
    rcases parent : opened.makeDirectories options.start.parent with ⟨made, _ | fault⟩
    · right
      rcases stored_or_stopped wire options.start made ts with ⟨ps, stored, each, sound⟩ |
        ⟨front, t, later, ps, reached, f, rfl, each, sound, stops⟩
      · refine ⟨opened, made, ts, [], ps, stored, rfl, parent, (List.append_nil ts).symm, each, sound, ?_⟩
        cases done : stored.write (options.mappingPath settings).toString
            (Utf8.encode (lookupText ts options settings)) with
        | ok files =>
          obtain ⟨log', ran⟩ := fromTerritories_of_stored (w := ⟨tree, log⟩) folder parent each sound
            (sourceText_eq _ _) done
          rw [ran]
          exact .inr rfl
        | error fault =>
          obtain ⟨log', ran⟩ := fromTerritories_of_unmapped folder parent each sound done log
          rw [ran]
          exact .inl rfl
      · obtain ⟨after, stopped, same⟩ := writeParts_of_stopped parent each sound stops later log
        refine ⟨opened, made, front, t :: later, ps, reached, rfl, parent, rfl, each, sound, .inl ?_⟩
        rw [fromTerritories_of_stopped folder stopped]
        exact same
    · left
      rw [parent] at makes
      rw [fromTerritories_of_stopped folder (writeParts_of_refused parent wire ts log)]
      exact (opens.trans makes).files
  · left
    rw [folder] at opens
    rw [fromTerritories_of_refused folder]
    exact opens.files

/-- The names of a part below the output folder: the prefix, an underscore and the key of the part. -/
def namesBelow (options : Options) (key : String) : List String :=
  (Path.ofString (options.dataPrefix ++ "_" ++ key)).names

/-- A prefix that does not step back and a key without a slash give names that lead down. -/
theorem namesBelow_lead_down {key : String} (inside : ".." ∉ (Path.ofString options.dataPrefix).names)
    (plain : '/' ∉ key.toList) : ∀ name ∈ namesBelow options key, Path.LeadsDown name := by
  obtain ⟨spelled, last⟩ := Path.names_ofString_suffixed options.dataPrefix plain
  rw [namesBelow, spelled]
  refine List.forall_mem_append.mpr ⟨fun name member => ?_, List.forall_mem_singleton.mpr last⟩
  have outer : name ∈ (Path.ofString options.dataPrefix).names := by
    rw [Path.names_ofString]
    exact List.mem_append_left _ member
  obtain ⟨named, unslashed⟩ := Path.ofString_normal _ name outer
  exact ⟨named, unslashed, fun back => inside (back ▸ outer)⟩

/-- Where the prefix ends in a name, the path of a part leads below the output folder. -/
theorem place_of_part {tree : FileTree} {key : String} (normal : options.outputDir.Normal)
    (relative : Path.anchorOf options.dataPrefix.toList = .here)
    (inside : ".." ∉ (Path.ofString options.dataPrefix).names)
    (named : Path.endsInName options.dataPrefix = true) (plain : '/' ∉ key.toList)
    (above : tree.place options.outputDir.toString = .ok base)
    (found : tree.place (partPath options.start key).toString = .ok goal) :
    goal = base ++ namesBelow options key := by
  have below : partPath options.start key =
      ⟨options.outputDir.anchor, options.outputDir.names ++ namesBelow options key⟩ := by
    rw [Options.start, partPath_of_endsInName normal relative named plain, child_suffixed _ relative plain,
      namesBelow, (Path.names_ofString_suffixed options.dataPrefix plain).1]
  rw [below] at found
  exact FileTree.place_below normal (namesBelow_lead_down inside plain) above found

/-- A build changes a file only where its lookup or a part leads, and then its folder is there. It may fail
before or after that. -/
theorem changed_where_a_path_leads {w : Workspace} {place : Place}
    (changed : (Session.left ((fromTerritories ts options settings).run w)).files.file? place ≠
      w.files.file? place) :
    (∃ base, (Session.left ((fromTerritories ts options settings).run w)).files.place
      options.outputDir.toString = .ok base) ∧
    ∃ path ∈ (outcomeOf ts options settings).paths,
      (Session.left ((fromTerritories ts options settings).run w)).files.place path.toString = .ok place := by
  rcases fromTerritories_course ts options settings w with
    kept | ⟨opened, made, front, later, ps, stored, folder, parent, rfl, each, sound, course⟩
  · exact absurd (kept place) changed
  · generalize Session.left ((fromTerritories (front ++ later) options settings).run w) = after at *
    obtain ⟨grown, there, -⟩ := folders_grown folder parent
    obtain ⟨base, above, -⟩ := (FileTree.isDirectory_iff ..).mp there
    obtain ⟨more, -, parts⟩ := sound.effect
    -- Where the parts changed something, one of them leads.
    have led (other : stored.file? place ≠ w.files.file? place) : ∃ path ∈
        (outcomeOf (front ++ later) options settings).paths, stored.place path.toString = .ok place := by
      rw [parts, grown.files] at other
      have some : lastAt made options.start place ps ≠ none := fun nothing => other (by rw [nothing]; rfl)
      rw [Ne, lastAt_eq_none_iff] at some
      push Not at some
      obtain ⟨part, stored', found⟩ := some
      obtain ⟨t, listed, made'⟩ := each.territory stored'
      rw [(Part.ofTerritory_eq_ok_iff.mp made').1] at found
      exact ⟨_, part_mem_paths settings (List.mem_append_left _ listed), more.place found⟩
    rcases course with unmapped | mapped
    · rw [unmapped] at changed ⊢
      exact ⟨⟨base, more.place above⟩, led changed⟩
    · obtain ⟨here, found, more', -, files⟩ := FileTree.write_effect mapped
      refine ⟨⟨base, more'.place (more.place above)⟩, ?_⟩
      by_cases same : place = here
      · subst same
        exact ⟨_, mapping_mem_paths .., more'.place found⟩
      · rw [files, if_neg same] at changed
        obtain ⟨path, member, leads⟩ := led changed
        exact ⟨path, member, more'.place leads⟩

/-- Where the prefix of the parts ends in a name, every part lies in the output folder, under the prefix, an
underscore and its key: a build that succeeds leaves a file there for each territory, and a build, also one
that fails, changes no other file but its lookup. Where the prefix does not end in a name, no part has that
path, and where it has no names at all, every part lies outside the folder. -/
theorem parts_stay_in_the_output_folder (settings : Settings) (w : Workspace)
    (normal : options.outputDir.Normal) (relative : Path.anchorOf options.dataPrefix.toList = .here)
    (inside : ".." ∉ (Path.ofString options.dataPrefix).names) (plain : ∀ t ∈ ts, '/' ∉ t.outputKey.toList) :
    (Path.endsInName options.dataPrefix = true →
      (∀ t ∈ ts, partPath options.start t.outputKey =
        options.outputDir.child (options.dataPrefix ++ "_" ++ t.outputKey)) ∧
      (∀ after, Session.left ((fromTerritories ts options settings).run w) = after → ∀ place,
        after.files.file? place ≠ w.files.file? place →
          after.files.place (options.mappingPath settings).toString = .ok place ∨
          ∃ t ∈ ts, ∃ base, after.files.place options.outputDir.toString = .ok base ∧
            place = base ++ namesBelow options t.outputKey) ∧
      ∀ outcome after, (fromTerritories ts options settings).run w = .ok outcome after →
        ∃ base, after.files.place options.outputDir.toString = .ok base ∧ ∀ t ∈ ts,
          (after.files.file? (base ++ namesBelow options t.outputKey)).isSome) ∧
    (Path.endsInName options.dataPrefix = false → options.outputDir.names ≠ [] → ∀ t ∈ ts,
      partPath options.start t.outputKey ≠
        options.outputDir.child (options.dataPrefix ++ "_" ++ t.outputKey) ∧
      ((Path.ofString options.dataPrefix).names = [] →
        ¬options.outputDir.names <+: (partPath options.start t.outputKey).names)) := by
  refine ⟨fun named => ⟨fun t listed => ?_, ?_, ?_⟩, fun unnamed some t listed => ⟨?_, fun nameless => ?_⟩⟩
  · exact partPath_of_endsInName normal relative named (plain t listed)
  · rintro after rfl place changed
    obtain ⟨⟨base, above⟩, path, member, found⟩ := changed_where_a_path_leads changed
    rcases List.mem_append.mp member with part | lookup
    · obtain ⟨t, listed, rfl⟩ := List.mem_map.mp part
      exact .inr ⟨t, listed, base, above,
        place_of_part normal relative inside named (plain t listed) above found⟩
    · rw [List.mem_singleton.mp lookup] at found
      exact .inl found
  · intro outcome after ran
    obtain ⟨rfl, ps, made, leaves⟩ := fromTerritories_leaves ran
    obtain ⟨base, above, -⟩ := (FileTree.isDirectory_iff ..).mp leaves.grown.2.1
    refine ⟨base, leaves.more.place above, fun t listed => ?_⟩
    obtain ⟨place, bytes, found, -, file⟩ := leaves.held (part_mem_paths settings listed)
    obtain rfl := place_of_part normal relative inside named (plain t listed) above found
    rw [file]
    rfl
  · exact partPath_of_not_endsInName normal relative unnamed some (plain t listed)
  · have same : options.start = options.outputDir := by
      rw [Options.start, options.outputDir.child_of_relative relative, nameless, List.append_nil]
    rw [same]
    exact part_not_below_its_start normal some (plain t listed)

set_option maxRecDepth 8000 in
/-- The small build has its parts below its folder, and changes nothing else but its lookup. -/
theorem small_build_stays_in_its_folder : ∃ outcome after,
    (fromTerritories smallCollection smallBuild {}).run ⟨⟨[], []⟩, []⟩ = .ok outcome after ∧
    (after.files.file? ["o", "d", "P_US"]).isSome ∧
    ∀ place, after.files.file? place ≠ none → place = ["o", "M.java"] ∨ ["o", "d"] <+: place := by
  obtain ⟨after, ran, more⟩ := smallBuild_succeeds [] [(["o"], .directory)]
    [(["o", "d"], .directory), (["o"], .directory)] rfl rfl rfl (by decide) ⟨_, rfl⟩
  have above : after.files.place "o" = .ok ["o"] := more.place rfl
  have mapped : after.files.place (smallBuild.mappingPath {}).toString = .ok ["o", "M.java"] := more.place rfl
  have normal : smallBuild.outputDir.Normal := List.forall_mem_singleton.mpr (by decide)
  have plain : ∀ t ∈ smallCollection, '/' ∉ t.outputKey.toList := by decide
  have below := parts_stay_in_the_output_folder {} ⟨⟨[], []⟩, []⟩ normal (by decide) (by decide) plain
  obtain ⟨-, changes, succeeds⟩ := below.1 (by decide)
  obtain ⟨base, above', held⟩ := succeeds _ _ ran
  obtain rfl : base = ["o"] := Except.ok.inj (above'.symm.trans above)
  refine ⟨_, after, ran, held ⟨"US", 1, true, [], [], []⟩ (by decide), fun place file => ?_⟩
  have changed : after.files.file? place ≠ FileTree.file? ⟨[], []⟩ place := by
    rwa [FileTree.file?_bare]
  rcases changes after (by rw [ran]; rfl) place changed with lookup | ⟨t, listed, base, above', rfl⟩
  · exact .inl (Except.ok.inj (lookup.symm.trans mapped))
  · obtain rfl : base = ["o"] := Except.ok.inj (above'.symm.trans above)
    have inside : ∀ t ∈ smallCollection, ["o", "d"] <+: ["o"] ++ namesBelow smallBuild t.outputKey := by decide
    exact .inr (inside t listed)

/-- A build into a folder, with parts that begin with a given prefix. -/
def buildUnder (text : String) : Options := ⟨none, ⟨.here, ["out"]⟩, text, "M", 2010, false, false⟩

/-- The lookup of such a build. -/
theorem buildUnder_mappingPath (text : String) :
    (buildUnder text).mappingPath {} = ⟨.here, ["out", "M.java"]⟩ := by
  have closed : Path.child ⟨.here, ["out"]⟩ ("M" ++ "." ++ "java") = ⟨.here, ["out", "M.java"]⟩ := by decide
  exact closed

/-- A prefix that leads to the folder itself has the build store its one part beside the folder. -/
theorem buildUnder_succeeds (start : (buildUnder text).start = ⟨.here, ["out"]⟩) : ∃ after,
    (fromTerritories [⟨"US", 1, true, [], [], []⟩] (buildUnder text) {}).run ⟨⟨[], []⟩, []⟩ =
      .ok (outcomeOf [⟨"US", 1, true, [], [], []⟩] (buildUnder text) {}) after ∧
    after.files.Extends ⟨[(["out"], .directory)], []⟩ := by
  have encodable : ∀ t ∈ [(⟨"US", 1, true, [], [], []⟩ : Territory)], ∃ payload, wire t = .ok payload :=
    encodable_of_toBool (by decide)
  have folder : FileTree.makeDirectories ⟨[], []⟩ ⟨.here, ["out"]⟩ =
      (⟨[(["out"], .directory)], []⟩, none) := rfl
  have parent : FileTree.makeDirectories ⟨[(["out"], .directory)], []⟩ (Path.parent ⟨.here, ["out"]⟩) =
      (⟨[(["out"], .directory)], []⟩, none) := rfl
  have there : FileTree.isDirectory ⟨[(["out"], .directory)], []⟩
      (partFolder ⟨.here, ["out"]⟩).toString = true := rfl
  have storable : ∀ t ∈ [(⟨"US", 1, true, [], [], []⟩ : Territory)], FileTree.Storable
      ⟨[(["out"], .directory)], []⟩ (partPath ⟨.here, ["out"]⟩ t.outputKey) := by decide
  have writable : ∃ files, FileTree.write ⟨[(["out"], .directory)], []⟩
      (Path.toString ⟨.here, ["out", "M.java"]⟩) [] = .ok files := ⟨_, rfl⟩
  rw [← start] at parent there storable
  rw [← buildUnder_mappingPath text] at writable
  exact fromTerritories_succeeds (w := ⟨⟨[], []⟩, []⟩) folder parent there (by decide) encodable storable
    writable

/-- The build under a prefix succeeds, and its part lies beside the folder and not in it. -/
def PartBeside (text : String) : Prop := ∃ outcome after,
  (fromTerritories [⟨"US", 1, true, [], [], []⟩] (buildUnder text) {}).run ⟨⟨[], []⟩, []⟩ =
    .ok outcome after ∧
  after.files.place "out" = .ok ["out"] ∧ (after.files.file? ["out_US"]).isSome ∧
  after.files.file? (["out"] ++ namesBelow (buildUnder text) "US") = none

private theorem partBeside_of_start (start : (buildUnder text).start = ⟨.here, ["out"]⟩)
    (other : ["out"] ++ namesBelow (buildUnder text) "US" ∉ [["out_US"], ["out", "M.java"]]) :
    PartBeside text := by
  unfold PartBeside
  generalize ["out"] ++ namesBelow (buildUnder text) "US" = place at other ⊢
  obtain ⟨after, ran, more⟩ := buildUnder_succeeds start
  obtain ⟨-, ps, made, leaves⟩ := fromTerritories_leaves ran
  have parted : after.files.place (partPath (buildUnder text).start "US").toString = .ok ["out_US"] := by
    rw [start]
    exact more.place rfl
  have mapped : after.files.place ((buildUnder text).mappingPath {}).toString = .ok ["out", "M.java"] := by
    rw [buildUnder_mappingPath]
    exact more.place rfl
  refine ⟨_, after, ran, more.place rfl, ?_, ?_⟩
  · obtain ⟨goal, bytes, found, -, file⟩ := leaves.held (part_mem_paths {} List.mem_cons_self)
    obtain rfl : goal = ["out_US"] := Except.ok.inj ((leaves.more.place found).symm.trans parted)
    rw [file]
    rfl
  · have nothing : writtenAt [⟨"US", 1, true, [], [], []⟩] (buildUnder text) {} made ps place = none := by
      refine (writtenAt_eq_none_iff leaves.each).mpr (forall_paths (fun t listed found => ?_) fun found => ?_)
      · rw [List.mem_singleton.mp listed] at found
        have same := (leaves.more.place found).symm.trans parted
        cases same
        exact other List.mem_cons_self
      · have same := (leaves.more.place found).symm.trans mapped
        cases same
        exact other (List.mem_cons_of_mem _ List.mem_cons_self)
    rw [leaves.files, nothing, FileTree.file?_bare]
    rfl

/-- Neither the empty prefix nor the current directory as a prefix ends in a name: the part goes beside the
output folder, under the name of the folder, an underscore and the key. -/
theorem part_beside_the_output_folder : PartBeside "" ∧ PartBeside "." :=
  ⟨partBeside_of_start (by decide) (by decide), partBeside_of_start (by decide) (by decide)⟩

end NumberingPlan.Build
