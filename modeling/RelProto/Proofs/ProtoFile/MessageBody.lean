import RelProto.Proofs.ProtoFile

/-! The body of a message: one line for each field, numbered by its position. Every field is paired
with the type that its line shows, and a relation, which has none, with none. -/
namespace RelProto

/-- The line of a field under its number, with the type that it is paired with. No line is for a
column without a type. -/
inductive ShowsField (version : ProtoVersion) (number : Nat) :
    Field → Option ProtoType → String → Prop
  | reference {column : Column} {target : Reference} {name : String} :
      ShowsField version number (.reference column target name) none
        ("    optional " ++ target.relation.foreignSchema ++ "." ++
          Text.upperCamel target.relation.foreignTable ++ " " ++ name ++ " = " ++ toString number ++
          "; // => " ++ target.localKeys)
  | repeated {column : Column} {type : ProtoType} (isArray : column.isArray = true) :
      ShowsField version number (.plain column) (some type)
        ("    repeated " ++ type.name ++ " " ++ column.name ++ " = " ++ toString number ++ ";")
  | optional {column : Column} {type : ProtoType} (isSingle : column.isArray = false)
      (version_eq : version = .proto2) : ShowsField version number (.plain column) (some type)
        ("    optional " ++ type.name ++ " " ++ column.name ++ " = " ++ toString number ++ ";")
  | unlabeled {column : Column} {type : ProtoType} (isSingle : column.isArray = false)
      (version_eq : version = .proto3) : ShowsField version number (.plain column) (some type)
        ("    " ++ type.name ++ " " ++ column.name ++ " = " ++ toString number ++ ";")

lemma showsField_line (version : ProtoVersion) (field : Field) (number : Nat) :
    ShowsField version number field field.type? (field.line version number) := by
  cases field with
  | reference column target name => exact .reference
  | plain column =>
    have hline : (Field.plain column).line version number =
        "    " ++ (version.label column).text ++
          (ProtoType.mapped column.nativeType).name ++ " " ++ column.name ++ " = " ++
          toString number ++ ";" := rfl
    rw [hline, ProtoVersion.label]
    cases harray : column.isArray with
    | true => exact .repeated harray
    | false =>
      cases version with
      | proto2 => exact .optional harray rfl
      | proto3 =>
        simp only [Bool.false_eq_true, if_false, ProtoVersion.requiresLabel]
        exact .unlabeled harray rfl

namespace ShowsField

variable {version : ProtoVersion} {number : Nat} {field : Field} {type? : Option ProtoType}
  {line : String} (h : ShowsField version number field type? line)
include h

/-- No type can be mistaken for the label of an array. -/
lemma begins_repeated_iff : "    repeated ".toList <+: line.toList ↔
    ∃ column, field = .plain column ∧ column.isArray = true := by
  cases h with
  | reference => simp
  | repeated isArray => simp [isArray]
  | optional isSingle => simp [isSingle]
  | @unlabeled column type isSingle =>
    cases type <;> simp [isSingle, ProtoType.name]

lemma begins_optional_iff : "    optional ".toList <+: line.toList ↔ field.isReference = true ∨
    ∃ column, field = .plain column ∧ column.isArray = false ∧ version = .proto2 := by
  cases h with
  | reference => simp [Field.isReference]
  | repeated isArray => simp [isArray, Field.isReference]
  | optional isSingle version_eq => simp [isSingle, version_eq, Field.isReference]
  | @unlabeled column type isSingle version_eq =>
    cases type <;> simp [version_eq, ProtoType.name, Field.isReference]

end ShowsField

/-- The lines of the fields: each field is paired with its type, and has one line, which is numbered
by the position of the field. -/
structure IsBody (version : ProtoVersion) (fields : List Field) (types : List (Option ProtoType))
    (lines : List String) : Prop where
  length_types : types.length = fields.length
  length_lines : lines.length = fields.length
  shows : ∀ (i : Nat) (field : Field), fields[i]? = some field →
    ∃ type? line, types[i]? = some type? ∧ lines[i]? = some line ∧
      ShowsField version (i + 1) field type? line
  repeated_iff : ∀ (i : Nat) (line : String), lines[i]? = some line →
    ("    repeated ".toList <+: line.toList ↔
      ∃ column, fields[i]? = some (.plain column) ∧ column.isArray = true)
  optional_iff : ∀ (i : Nat) (line : String), lines[i]? = some line →
    ("    optional ".toList <+: line.toList ↔
      (∃ column target name, fields[i]? = some (.reference column target name)) ∨
      ∃ column, fields[i]? = some (.plain column) ∧ column.isArray = false ∧ version = .proto2)

namespace Table

variable {table : Table} {settings : ProtoSettings} {fields : List Field}

lemma getElem?_line (version : ProtoVersion) (fields : List Field) (i : Nat) :
    (fields.zipIdx.map fun (field, i) => field.line version (i + 1))[i]? =
      fields[i]?.map fun field => field.line version (i + 1) := by
  simp [List.getElem?_map, Option.map_map, Function.comp_def]

theorem isBody_lines (version : ProtoVersion) (fields : List Field) :
    IsBody version fields (fields.map Field.type?)
      (fields.zipIdx.map fun (field, i) => field.line version (i + 1)) where
  length_types := by rw [List.length_map]
  length_lines := by rw [List.length_map, List.length_zipIdx]
  shows i field hfield := by
    refine ⟨_, _, ?_, ?_, showsField_line version field (i + 1)⟩
    · rw [List.getElem?_map, hfield]
      rfl
    · rw [getElem?_line, hfield]
      rfl
  repeated_iff i line hline := by
    rw [getElem?_line, Option.map_eq_some_iff] at hline
    obtain ⟨field, hfield, rfl⟩ := hline
    simp only [(showsField_line version field (i + 1)).begins_repeated_iff, hfield,
      Option.some.injEq]
  optional_iff i line hline := by
    rw [getElem?_line, Option.map_eq_some_iff] at hline
    obtain ⟨field, hfield, rfl⟩ := hline
    simp only [(showsField_line version field (i + 1)).begins_optional_iff, hfield,
      Option.some.injEq]
    cases field <;> simp [Field.isReference]

lemma text_fileOf (table : Table) (settings : ProtoSettings) (fields : List Field) :
    (table.fileOf settings fields).text = String.join
      (((table.fileOf settings fields).above ++
        ("message " ++ Text.upperCamel table.name ++ " \x7b") ::
          ((fields.zipIdx.map fun (field, i) => field.line settings.version (i + 1)) ++
            ["\x7d"])).map (· ++ "\n")) := by
  rw [ProtoFile.text, ProtoFile.lines_eq_above, ProtoFile.messageLines, map_line_entries]
  rfl

/-- No field is without its type: the pairs are as many as the fields, in their order, and a column is
paired with a type. -/
structure IsPaired (fields : List Field) (types : List (Option ProtoType)) : Prop where
  length_types : types.length = fields.length
  fields_zip : ((numberFields fields).zip types).map Prod.fst = numberFields fields
  typed : ∀ number column, ((number, .plain column), none) ∉ (numberFields fields).zip types

theorem isPaired_types (fields : List Field) : IsPaired fields (fields.map Field.type?) where
  length_types := by rw [List.length_map]
  fields_zip := by
    rw [zip_numberFields, List.map_map]
    exact List.map_id _
  typed number column hmem := by
    rw [zip_numberFields] at hmem
    obtain ⟨⟨_, field⟩, _, hpair⟩ := List.mem_map.mp hmem
    obtain ⟨hfield, htype⟩ := Prod.mk.inj hpair
    cases hfield
    cases htype

/-- The text of a table's file ends with its message, which has one line for each field: line `i` is
for field `i`, carries the number `i`, and has the label that the field asks for. The lines are
written for the numbered fields that are paired with their types; none is lost by that, and no column
is left without a type, whose line would be missing. -/
theorem render_message (table : Table) (settings : ProtoSettings) (embed : Bool) (text : String)
    (h : (table.render settings embed).result = .ok text) :
    ∃ fields types file lines, (table.fields embed).result = .ok fields ∧
      (fields.mapM Field.mapType : Logged RelationFault (List (Option ProtoType))).result =
        .ok types ∧
      (table.protoFile settings embed).result = .ok file ∧
      file = .of table settings fields types ∧ IsPaired fields types ∧
      file.entries.length = fields.length ∧ lines = file.entries.map Entry.line ∧
      text = String.join ((file.above ++ ("message " ++ Text.upperCamel table.name ++ " \x7b") ::
        (lines ++ ["\x7d"])).map (· ++ "\n")) ∧
      IsBody settings.version fields types lines := by
  obtain ⟨fields, hfields, hfile, rfl⟩ := exists_fields_of_render h
  refine ⟨fields, _, _, _, hfields, result_types fields, hfile, rfl, isPaired_types fields, ?_,
    (map_line_entries table settings fields).symm, text_fileOf table settings fields,
    isBody_lines settings.version fields⟩
  rw [entries_fileOf, List.length_map, numberFields, List.length_map, List.length_zipIdx]

/-- A booking of two persons. The time at which it opens belongs to a foreign key. -/
def booking : Table :=
  let plain := ofNames "shop" "booking" ["host", "opens", "guest", "closes"] [
    ⟨"fk_guest", "crm", "person", .zeroOneOrMore, [⟨1, "guest", "id"⟩]⟩,
    ⟨"fk_host", "crm", "person", .zeroOneOrMore, [⟨1, "host", "id"⟩]⟩,
    ⟨"fk_slot", "shop", "slot", .zeroOneOrMore, [⟨1, "opens", "time"⟩]⟩]
  { plain with columns := plain.columns.map fun column =>
      if column.name ∈ ["opens", "closes"] then { column with nativeType := "timestamp[]" }
      else column }

def proto2 : ProtoSettings := { version := .proto2 }

def bookingText : String := (booking.fileOf proto2 (booking.fieldsFor booking.embeddings)).text

lemma render_booking : (booking.render proto2 true).result = .ok bookingText :=
  result_render_of_resolvable proto2 (by decide)

theorem render_message_booking : (booking.render proto2 true).result = .ok bookingText ∧
    ∃ fields types file lines, (booking.fields true).result = .ok fields ∧
      (booking.protoFile proto2 true).result = .ok file ∧
      file = .of booking proto2 fields types ∧ IsPaired fields types ∧
      file.entries.length = fields.length ∧ lines = file.entries.map Entry.line ∧
      IsBody .proto2 fields types lines := by
  obtain ⟨fields, types, file, lines, hfields, -, hfile, hof, hpaired, hcount, hlines, -, hbody⟩ :=
    render_message booking proto2 true bookingText render_booking
  exact ⟨render_booking, fields, types, file, lines, hfields, hfile, hof, hpaired, hcount, hlines,
    hbody⟩

example : (booking.fileOf proto2 (booking.fieldsFor booking.embeddings)).messageLines =
    ["message Booking \x7b",
     "    optional crm.Person person = 1; // => host",
     "    optional shop.Slot slot = 2; // => opens",
     "    optional crm.Person person2 = 3; // => guest",
     "    repeated google.protobuf.Timestamp closes = 4;",
     "\x7d"] := by decide +kernel

end Table

end RelProto
