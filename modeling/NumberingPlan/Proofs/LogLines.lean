import NumberingPlan.Logging.Record
import NumberingPlan.Proofs.JsonReading
import NumberingPlan.Proofs.ListReading

/-! Lines of the log. A line is one object on one line of text: the fields of its record, and over them the
further attributes, so that an attribute takes the place of a field with its name. -/
namespace NumberingPlan.Logging

open Json (Plain)

variable {r : Record} {time text line name : String} {value : Json} {fields : List (String × Json)}

/-- What a line should say of the record itself: when it was made, how severe it is, who logged it and its
message. -/
def Record.described (r : Record) (time text : String) : List (String × Json) :=
  [("ts", .str time), ("level", r.levelName), ("logger", r.logger), ("msg", .str text)]

/-- What a line says before the further attributes. -/
def Record.head (r : Record) (time text : String) : List (String × Json) :=
  r.described time text ++ (r.report.map fun report => ("exc_info", .str report)).toList

/-- The further attributes that a line says. -/
def Record.shown (r : Record) : List (String × Json) := r.extra.filter fun added => isShown added.1

/-- What a line says: each further attribute takes the place of what has its name, or comes last. -/
def Record.said (r : Record) (time text : String) : List (String × Json) :=
  Json.setFields (r.head time text) r.shown

private theorem Record.distinct_head (r : Record) (time text : String) : ((r.head time text).map Prod.fst).Nodup := by
  unfold Record.head
  cases r.report <;> simp [Record.described]

private theorem Record.distinct_said (r : Record) (time text : String) : ((r.said time text).map Prod.fst).Nodup :=
  Json.distinct_setFields r.shown (r.distinct_head time text)

/-- The fields of a line are what it says. -/
theorem fields_eq_ok_iff : r.fields = .ok fields ↔ ∃ time text, r.time = .ok time ∧ r.text = .ok text ∧
    fields = r.said time text := by
  have payload_eq (time text : String) : payload time r.levelName r.logger text r.report r.extra =
      r.said time text := by
    unfold payload Record.said Record.head
    cases r.report <;> rfl
  constructor
  · intro found
    obtain ⟨time, timed, found⟩ := bind_eq_ok found
    obtain ⟨text, told, found⟩ := bind_eq_ok found
    cases found
    exact ⟨time, text, timed, told, payload_eq time text⟩
  · rintro ⟨time, text, timed, told, rfl⟩
    rw [Record.fields, timed, told, ← payload_eq]
    rfl

/-- A record has a line exactly if it has fields, and every number in them can be written. -/
theorem format_eq_ok_iff : r.format = .ok line ↔
    ∃ fields, r.fields = .ok fields ∧ (Json.obj fields).isWritable = true ∧ line = Logging.line fields := by
  constructor
  · intro formatted
    obtain ⟨fields, found, formatted⟩ := bind_eq_ok formatted
    split at formatted
    · rename_i writable
      cases formatted
      exact ⟨fields, found, writable, rfl⟩
    · cases formatted
  · rintro ⟨fields, found, writable, rfl⟩
    rw [Record.format, found]
    exact if_pos writable

/-! ### One line -/

/-- The fields of a line are values that text can hold if the level, the logger and the further attributes are. -/
theorem plain_fields (level : Plain r.levelName) (logger : Plain r.logger)
    (attributes : ∀ added ∈ r.extra, Plain added.2) (found : r.fields = .ok fields) : Plain (.obj fields) := by
  obtain ⟨time, text, -, -, rfl⟩ := fields_eq_ok_iff.mp found
  refine .obj (r.distinct_said time text) (Json.forall_mem_setFields ?_ ?_)
  · intro field member
    rcases List.mem_append.mp member with own | report
    · simp only [Record.described, List.mem_cons, List.not_mem_nil, or_false] at own
      rcases own with rfl | rfl | rfl | rfl
      · exact .str time
      · exact level
      · exact logger
      · exact .str text
    · obtain ⟨text, -, rfl⟩ := Option.map_eq_some_iff.mp (Option.mem_toList.mp report)
      exact .str _
  · exact fun added member => attributes added (List.mem_filter.mp member).1

private theorem parse?_line (plain : Plain (.obj fields)) :
    Json.parse? (Logging.line fields).toList = some (.obj fields) := by
  rw [Logging.line, Json.render, String.toList_ofList]
  exact Json.parse?_chars plain

private theorem line_unbroken (plain : Plain (.obj fields)) : ∀ c ∈ (Logging.line fields).toList, 0x20 ≤ c.toNat := by
  rw [Logging.line, Json.render, String.toList_ofList]
  exact (Json.chars_reads plain).unbroken

/-- A line has no line break and no other control character in it, whatever the message, the report of an error and the
names and values of the attributes are; and it is read back as one object with exactly its fields, each once. -/
theorem line_is_one_object (r : Record) (line : String) (level : Plain r.levelName) (logger : Plain r.logger)
    (attributes : ∀ added ∈ r.extra, Plain added.2) (formatted : r.format = .ok line) :
    (∀ c ∈ line.toList, 0x20 ≤ c.toNat) ∧ ∃ fields, r.fields = .ok fields ∧
      (fields.map Prod.fst).Nodup ∧ Json.parse? line.toList = some (.obj fields) := by
  obtain ⟨fields, found, -, rfl⟩ := format_eq_ok_iff.mp formatted
  have plain := plain_fields level logger attributes found
  refine ⟨line_unbroken plain, fields, found, ?_, parse?_line plain⟩
  cases plain with
  | obj distinct _ => exact distinct

/-- The report of a raised error, with the line that raised it and an error of two lines. -/
def brokenReport : String :=
  "Traceback (most recent call last):\n  File \"a.py\", line 1, in f\n    g('\x02')\n" ++
    "phonemeta.io.codec.CodecError: 3\r\n4"

/-- A record with line breaks, quotes and control characters in its message, its report and its attributes. -/
def broken : Record where
  logger := .str "a\tb"
  levelName := .str "INFO"
  message := .str "1\n\"2\" %s"
  arguments := some (.many [.str "\\\x01"])
  created := .int 0
  report := some brokenReport
  extra := [("k\n", .arr [.null, .int (-5), .obj [("\"", .bool true), ("", .str "é\x1f")]])]

private theorem broken_fields : broken.fields = .ok ([("ts", .str "1970-01-01T00:00:00+00:00"), ("level", .str "INFO"),
    ("logger", .str "a\tb"), ("msg", .str "1\n\"2\" \\\x01"),
    ("exc_info", .str brokenReport)] ++ broken.extra) := by
  have timed : broken.time = .ok "1970-01-01T00:00:00+00:00" := rfl
  have told : broken.text = .ok "1\n\"2\" \\\x01" := rfl
  have shown : broken.shown = broken.extra := by simp [Record.shown, broken, isShown, reservedNames]
  refine fields_eq_ok_iff.mpr ⟨_, _, timed, told, ?_⟩
  rw [Record.said, shown]
  rfl

/-- The record is told on one line, from which its message, its report and its attribute are read back. -/
theorem broken_record_is_told_on_one_line : ∃ line fields, broken.format = .ok line ∧ Plain broken.levelName ∧
    Plain broken.logger ∧ (∀ added ∈ broken.extra, Plain added.2) ∧ (∀ c ∈ line.toList, 0x20 ≤ c.toNat) ∧
    Json.parse? line.toList = some (.obj fields) ∧ ("msg", .str "1\n\"2\" \\\x01") ∈ fields ∧
    ("exc_info", .str brokenReport) ∈ fields ∧
    ("k\n", .arr [.null, .int (-5), .obj [("\"", .bool true), ("", .str "é\x1f")]]) ∈ fields := by
  have level : Plain broken.levelName := .str _
  have logger : Plain broken.logger := .str _
  have attributes : ∀ added ∈ broken.extra, Plain added.2 := by
    have inner : Plain (.obj [("\"", .bool true), ("", .str "é\x1f")]) :=
      .obj (by decide) (by simp [Plain.bool, Plain.str])
    exact List.forall_mem_singleton.mpr (.arr (by simp [Plain.null, Plain.int, inner]))
  have formatted := format_eq_ok_iff.mpr ⟨_, broken_fields, rfl, rfl⟩
  obtain ⟨unbroken, fields, found, -, read⟩ := line_is_one_object broken _ level logger attributes formatted
  cases broken_fields.symm.trans found
  exact ⟨_, _, formatted, level, logger, attributes, unbroken, read, by simp, by simp, by simp [broken]⟩

/-! ### Attributes over fields -/

/-- The names of the fields that a further attribute may take the place of. -/
def replaceable : List String := ["ts", "level", "logger"]

private theorem isShown_of_replaceable (member : name ∈ replaceable) : isShown name = true := by
  have each : ∀ name ∈ replaceable, isShown name = true := by simp [replaceable, isShown, reservedNames]
  exact each name member

private theorem Record.names_described (r : Record) (time text : String) :
    (r.described time text).map Prod.fst = replaceable ++ ["msg"] := rfl

/-- A further attribute that is not shown takes no place, so the message is safe. -/
theorem Record.msg_not_shown (r : Record) : "msg" ∉ r.shown.map Prod.fst := by
  intro among
  obtain ⟨added, member, same⟩ := List.mem_map.mp among
  have shown := (List.mem_filter.mp member).2
  rw [same] at shown
  cases shown

section Said

variable {field added : String × Json}

variable (distinct : (r.extra.map Prod.fst).Nodup)

include distinct

theorem Record.mem_said_iff : (name, value) ∈ r.said time text ↔
    (name, value) ∈ r.shown ∨ name ∉ r.shown.map Prod.fst ∧ (name, value) ∈ r.head time text :=
  Json.mem_setFields_iff (r.distinct_head time text) (distinct.sublist (List.filter_sublist.map _))

private theorem Record.said_of_shown (member : added ∈ r.extra) (shown : isShown added.1 = true) :
    added ∈ r.said time text :=
  (mem_said_iff distinct).mpr (.inl (List.mem_filter.mpr ⟨member, shown⟩))

private theorem Record.said_of_described (member : field ∈ r.described time text)
    (absent : field.1 ∉ r.shown.map Prod.fst) : field ∈ r.said time text :=
  (mem_said_iff distinct).mpr (.inr ⟨absent, List.mem_append_left _ member⟩)

/-- What describes the record is said, all of it, exactly if no attribute in the place of one of its fields has
another value than the field. -/
theorem Record.all_described_iff : (∀ field ∈ r.described time text, field ∈ r.said time text) ↔
    ∀ added ∈ r.extra, added.1 ∈ replaceable → added ∈ r.described time text := by
  constructor
  · intro describes added member place
    -- The field of the record with the same name is there too, and a name is there once.
    obtain ⟨field, own, same⟩ : ∃ field ∈ r.described time text, field.1 = added.1 := by
      have named : added.1 ∈ (r.described time text).map Prod.fst := by
        rw [r.names_described]
        exact List.mem_append_left _ place
      exact List.mem_map.mp named
    have among : added ∈ r.said time text := said_of_shown distinct member (isShown_of_replaceable place)
    rw [← List.inj_on_of_nodup_map (r.distinct_said time text) (describes field own) among same]
    exact own
  · intro agree field own
    by_cases taken : field.1 ∈ r.shown.map Prod.fst
    · obtain ⟨added, member, same⟩ := List.mem_map.mp taken
      obtain ⟨among, shown⟩ := List.mem_filter.mp member
      have named : field.1 ∈ (r.described time text).map Prod.fst := List.mem_map.mpr ⟨field, own, rfl⟩
      rw [r.names_described, List.mem_append, List.mem_singleton] at named
      have place : field.1 ∈ replaceable := named.resolve_right fun msg => r.msg_not_shown (msg ▸ taken)
      have told : added ∈ r.described time text := agree added among (same ▸ place)
      have names : ((r.described time text).map Prod.fst).Nodup := by
        rw [r.names_described]
        decide
      rw [← List.inj_on_of_nodup_map names told own same]
      exact said_of_shown distinct among shown
    · exact said_of_described distinct own taken

end Said

/-- What a line says. Every further attribute whose name is not reserved is there with its value. The message is
there, and of the time, the level and the logger each whose name no attribute has; so a line describes its
record exactly if no attribute under one of these names has another value. -/
theorem line_describes_record_iff (r : Record) (line : String) (distinct : (r.extra.map Prod.fst).Nodup)
    (formatted : r.format = .ok line) :
    ∃ time text fields, r.time = .ok time ∧ r.text = .ok text ∧ r.fields = .ok fields ∧ line = Logging.line fields ∧
      (fields.map Prod.fst).Nodup ∧
      (∀ added ∈ r.extra, isShown added.1 = true → added ∈ fields) ∧
      ("msg", .str text) ∈ fields ∧
      (∀ field ∈ r.described time text, field.1 ∉ r.extra.map Prod.fst → field ∈ fields) ∧
      ((∀ field ∈ r.described time text, field ∈ fields) ↔
        ∀ added ∈ r.extra, added.1 ∈ replaceable → added ∈ r.described time text) := by
  obtain ⟨fields, found, -, rfl⟩ := format_eq_ok_iff.mp formatted
  obtain ⟨time, text, timed, told, rfl⟩ := fields_eq_ok_iff.mp found
  refine ⟨time, text, _, timed, told, found, rfl, r.distinct_said time text, ?_, ?_, ?_, ?_⟩
  · exact fun added => Record.said_of_shown distinct
  · exact Record.said_of_described distinct (by simp [Record.described]) r.msg_not_shown
  · intro field member absent
    refine Record.said_of_described distinct member fun among => absent ?_
    exact (List.filter_sublist.map Prod.fst).mem among
  · exact Record.all_described_iff distinct

/-- A record with an attribute that has the name of the level's field, and one that has not. -/
def relabelled : Record where
  logger := .str "phonemeta"
  levelName := .str "INFO"
  message := .str "Wrote %d files"
  arguments := some (.many [.int 3])
  created := .int 0
  report := none
  extra := [("level", .str "L"), ("output_key", .str "US")]

private theorem relabelled_fields : relabelled.fields = .ok [("ts", .str "1970-01-01T00:00:00+00:00"),
    ("level", .str "L"), ("logger", .str "phonemeta"), ("msg", .str "Wrote 3 files"), ("output_key", .str "US")] := by
  have timed : relabelled.time = .ok "1970-01-01T00:00:00+00:00" := rfl
  have told : relabelled.text = .ok "Wrote 3 files" := rfl
  have shown : relabelled.shown = relabelled.extra := by simp [Record.shown, relabelled, isShown, reservedNames]
  refine fields_eq_ok_iff.mpr ⟨_, _, timed, told, ?_⟩
  rw [Record.said, shown]
  rfl

/-- The key and the message are told, and the level is not the record's. -/
theorem key_is_told_and_level_is_not : ∃ line fields, relabelled.format = .ok line ∧ line = Logging.line fields ∧
    (relabelled.extra.map Prod.fst).Nodup ∧ ("output_key", .str "US") ∈ fields ∧
    ("msg", .str "Wrote 3 files") ∈ fields ∧ ∃ time, relabelled.time = .ok time ∧
    ¬∀ field ∈ relabelled.described time "Wrote 3 files", field ∈ fields := by
  have told : relabelled.text = .ok "Wrote 3 files" := rfl
  have distinct : (relabelled.extra.map Prod.fst).Nodup := by decide
  have formatted := format_eq_ok_iff.mpr ⟨_, relabelled_fields, rfl, rfl⟩
  obtain ⟨time, text, fields, timed, told', -, same, -, shows, message, -, describes⟩ :=
    line_describes_record_iff relabelled _ distinct formatted
  cases told.symm.trans told'
  refine ⟨_, fields, formatted, same, distinct, ?_, message, time, timed, fun all => ?_⟩
  · exact shows _ (by simp [relabelled]) (by simp [isShown, reservedNames])
  · have agreed := describes.mp all ("level", .str "L") (by simp [relabelled]) (by decide)
    simp [Record.described, relabelled] at agreed

/-- What is read back from a line may have another level than its record. -/
theorem level_of_attribute_is_told : ∃ line fields, relabelled.format = .ok line ∧
    Json.parse? line.toList = some (.obj fields) ∧ ("level", relabelled.levelName) ∉ fields := by
  have attributes : ∀ added ∈ relabelled.extra, Plain added.2 := by simp [relabelled, Plain.str]
  have plain := plain_fields (.str _) (.str _) attributes relabelled_fields
  refine ⟨_, _, format_eq_ok_iff.mpr ⟨_, relabelled_fields, rfl, rfl⟩, parse?_line plain, ?_⟩
  simp [relabelled]

end NumberingPlan.Logging
