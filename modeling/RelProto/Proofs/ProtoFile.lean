import RelProto.Proofs.Field.View
import RelProto.Proofs.List
import RelProto.ProtoFile

/-! The file of a table as a function of its fields, and what it shows of them. -/
namespace RelProto

/-- The type that a native type is written as. -/
def ProtoType.mapped (typeName : String) : ProtoType := (ofNative? typeName).getD bytes

lemma ProtoType.result_ofNative {ε : Type} (typeName : String) :
    (ofNative typeName : Logged ε ProtoType).result = .ok (mapped typeName) := by
  rw [ofNative, mapped]
  cases ofNative? typeName with
  | none => rfl
  | some type => rfl

namespace Field

/-- The type that the field is paired with. -/
def type? : Field → Option ProtoType
  | plain column => some (.mapped column.nativeType)
  | reference .. => none

lemma result_mapType {ε : Type} (field : Field) :
    (mapType field : Logged ε (Option ProtoType)).result = .ok field.type? := by
  cases field with
  | plain column => simp [mapType, ProtoType.result_ofNative, type?, Except.map]
  | reference column target name => rfl

/-- The entry of the field under its number. -/
def entry (version : ProtoVersion) (number : Nat) : Field → Entry
  | plain column =>
    .plain (version.label column) (.mapped column.nativeType) column.name number
  | reference _ target name =>
    .reference target.relation.foreignSchema (Text.upperCamel target.relation.foreignTable) name
      number target.localKeys

/-- The line of the field under its number. -/
def line (version : ProtoVersion) (field : Field) (number : Nat) : String :=
  (field.entry version number).line

lemma of?_type? (version : ProtoVersion) (number : Nat) (field : Field) :
    Entry.of? version ((number, field), field.type?) = some (field.entry version number) := by
  cases field <;> rfl

end Field

/-- Fields and their types are as many, so each of them is paired. -/
lemma zip_numberFields (fields : List Field) :
    (numberFields fields).zip (fields.map Field.type?) =
      (numberFields fields).map fun numbered => (numbered, numbered.2.type?) := by
  have htypes : fields.map Field.type? = fields.zipIdx.map fun indexed => indexed.1.type? := by
    conv_lhs => rw [← List.zipIdx_map_fst 0 fields, List.map_map]
    rfl
  rw [numberFields, htypes, List.zip_map', List.map_map]
  rfl

namespace Table

/-- The file that shows the fields. -/
def fileOf (table : Table) (settings : ProtoSettings) (fields : List Field) : ProtoFile :=
  .of table settings fields (fields.map Field.type?)

lemma result_types (fields : List Field) :
    (fields.mapM Field.mapType : Logged RelationFault (List (Option ProtoType))).result =
      .ok (fields.map Field.type?) :=
  Logged.result_mapM Field.result_mapType fields

/-- Once the fields are known, nothing can fail. -/
theorem result_protoFile (table : Table) (settings : ProtoSettings) (embed : Bool) :
    (table.protoFile settings embed).result =
      (table.fields embed).result.map (table.fileOf settings) := by
  rw [protoFile]
  obtain ⟨cause | fields, log⟩ := table.fields embed
  · rfl
  · rw [Logged.ok_bind]
    apply Logged.result_bind_eq_ok_iff.mpr
    exact ⟨_, result_types fields, rfl⟩

lemma exists_fields {table : Table} {settings : ProtoSettings} {embed : Bool} {file : ProtoFile}
    (h : (table.protoFile settings embed).result = .ok file) :
    ∃ fields, (table.fields embed).result = .ok fields ∧ file = table.fileOf settings fields := by
  rw [result_protoFile] at h
  rcases hfields : (table.fields embed).result with cause | fields
  · simp [hfields, Except.map] at h
  · rw [hfields] at h
    exact ⟨fields, rfl, (Except.ok.inj h).symm⟩

theorem result_render (table : Table) (settings : ProtoSettings) (embed : Bool) :
    (table.render settings embed).result =
      ((table.fields embed).result.mapError RelationFault.fault).map fun fields =>
        (table.fileOf settings fields).text := by
  rw [render, Logged.result_map, Logged.result_mapError, result_protoFile]
  cases (table.fields embed).result with
  | ok fields => rfl
  | error cause => rfl

/-- Every field has its entry. -/
theorem entries_fileOf (table : Table) (settings : ProtoSettings) (fields : List Field) :
    (table.fileOf settings fields).entries =
      (numberFields fields).map fun (number, field) => field.entry settings.version number := by
  have hentries : (table.fileOf settings fields).entries =
      ((numberFields fields).zip (fields.map Field.type?)).filterMap
        (Entry.of? settings.version) := rfl
  rw [hentries, zip_numberFields, List.filterMap_map, ← List.filterMap_eq_map]
  congr 1
  funext ⟨number, field⟩
  exact Field.of?_type? settings.version number field

/-- A number is the place of its field. -/
lemma mem_entries_fileOf {table : Table} {settings : ProtoSettings} {fields : List Field}
    {entry : Entry} : entry ∈ (table.fileOf settings fields).entries ↔
      ∃ (i : ℕ) (field : Field), fields[i]? = some field ∧
        field.entry settings.version (i + 1) = entry := by
  rw [entries_fileOf, numberFields, List.map_map, List.mem_map]
  constructor
  · rintro ⟨⟨field, i⟩, hmem, rfl⟩
    exact ⟨i, field, List.mem_zipIdx_iff_getElem?.mp hmem, rfl⟩
  · rintro ⟨i, field, hfield, rfl⟩
    exact ⟨(field, i), List.mem_zipIdx_iff_getElem?.mpr hfield, rfl⟩

lemma map_line_entries (table : Table) (settings : ProtoSettings) (fields : List Field) :
    (table.fileOf settings fields).entries.map Entry.line =
      fields.zipIdx.map fun (field, i) => field.line settings.version (i + 1) := by
  rw [entries_fileOf, numberFields, List.map_map, List.map_map]
  rfl

variable {table : Table} {settings : ProtoSettings} {embed : Bool}

lemma exists_fields_of_render {text : String}
    (h : (table.render settings embed).result = .ok text) :
    ∃ fields, (table.fields embed).result = .ok fields ∧
      (table.protoFile settings embed).result = .ok (table.fileOf settings fields) ∧
      (table.fileOf settings fields).text = text := by
  rw [result_render] at h
  rw [result_protoFile]
  cases hfields : (table.fields embed).result with
  | error cause => simp [hfields, Except.map, Except.mapError] at h
  | ok fields =>
    rw [hfields] at h
    exact ⟨fields, rfl, rfl, Except.ok.inj h⟩

lemma result_render_of_resolvable (settings : ProtoSettings) (h : table.Resolvable) :
    (table.render settings true).result =
      .ok (table.fileOf settings (table.fieldsFor table.embeddings)).text := by
  rw [result_render, Table.fields, if_pos rfl, resolvedFields_of_resolvable h]
  rfl

end Table

namespace ProtoFile

/-- The lines above the imports, in which no field shows. -/
def front (file : ProtoFile) : List String :=
  header ++
  ["syntax = \"" ++ file.version.name ++ "\";",
   "",
   "package " ++ file.package ++ ";",
   "",
   "option cc_enable_arenas = true;",
   "option java_package = \"" ++ file.javaPackage ++ "." ++ file.package ++ "\";",
   "option java_outer_classname = \"" ++ file.message ++ "Proto\";",
   "option objc_class_prefix = \"" ++ file.objcPrefix ++ "\";",
   ""]

/-- The lines above the message. -/
def above (file : ProtoFile) : List String :=
  file.front ++ (importSection "// Foreign Key Imports" file.foreignImports ++
    importSection "// Other Datatype Imports" file.typeImports)

def messageLines (file : ProtoFile) : List String :=
  ("message " ++ file.message ++ " \x7b") :: (file.entries.map Entry.line ++ ["\x7d"])

lemma lines_eq_parts (file : ProtoFile) :
    file.lines = file.front ++
      (importSection "// Foreign Key Imports" file.foreignImports ++
      (importSection "// Other Datatype Imports" file.typeImports ++ file.messageLines)) := by
  simp only [lines, front, messageLines, List.append_assoc, List.cons_append, List.nil_append]

lemma lines_eq_above (file : ProtoFile) : file.lines = file.above ++ file.messageLines := by
  rw [lines_eq_parts, above, List.append_assoc, List.append_assoc]

end ProtoFile

namespace Field

/-- The fields show the same in a file of that version: two columns with one name, label and type,
or two references with one name, foreign schema, foreign message and list of local key columns. -/
inductive ShownAlike (version : ProtoVersion) : Field → Field → Prop
  | plain {column column' : Column} (name : column.name = column'.name)
      (label : version.label column = version.label column')
      (type : ProtoType.mapped column.nativeType = ProtoType.mapped column'.nativeType) :
      ShownAlike version (.plain column) (.plain column')
  | reference {column column' : Column} {target target' : Reference} {name : String}
      (schema : target.relation.foreignSchema = target'.relation.foreignSchema)
      (message : Text.upperCamel target.relation.foreignTable =
        Text.upperCamel target'.relation.foreignTable)
      (keys : target.localColumns = target'.localColumns) :
      ShownAlike version (.reference column target name) (.reference column' target' name)

variable {version : ProtoVersion} {field field' : Field}

@[simp] theorem ShownAlike.refl (version : ProtoVersion) (field : Field) :
    ShownAlike version field field := by
  cases field with
  | plain column => exact .plain rfl rfl rfl
  | reference column target name => exact .reference rfl rfl rfl

/-- Everything the file shows of a field is in its view. -/
lemma shownAlike_of_view (version : ProtoVersion) (h : field.view = field'.view) :
    ShownAlike version field field' := by
  obtain rfl | ⟨column, target, target', name, rfl, rfl, hview⟩ := eq_or_reference_of_view h
  · exact .refl version field
  · exact .reference (foreignSchema_eq_of_view hview)
      (congrArg Text.upperCamel (foreignTable_eq_of_view hview))
      (localColumns_eq_of_view hview)

lemma foreignImport?_eq_of_view (h : field.view = field'.view) :
    field.foreignImport? = field'.foreignImport? := by
  obtain rfl | ⟨column, target, target', name, rfl, rfl, hview⟩ := eq_or_reference_of_view h
  · rfl
  · simp only [foreignImport?, foreignSchema_eq_of_view hview, foreignTable_eq_of_view hview]

lemma ShownAlike.entry_eq (h : ShownAlike version field field') (number : Nat) :
    field.entry version number = field'.entry version number := by
  cases h with
  | plain name label type => simp only [entry, name, label, type]
  | @reference column column' target target' name schema message keys =>
    have hkeys : target.localKeys = target'.localKeys := congrArg (", ".intercalate ·) keys
    simp only [entry, schema, message, hkeys]

lemma ShownAlike.type?_eq (h : ShownAlike version field field') : field.type? = field'.type? := by
  cases h with
  | plain _ _ type => exact congrArg some type
  | reference => rfl

end Field

namespace Table

variable {table table' : Table} {settings : ProtoSettings} {fields fields' : List Field}

/-- Fields that show the same give one file, up to the tables' own names and the imports of foreign
tables. -/
theorem fileOf_eq_of_shownAlike (hschema : table.schema = table'.schema)
    (hmessage : Text.upperCamel table.name = Text.upperCamel table'.name)
    (himports : (table.fileOf settings fields).foreignImports =
      (table'.fileOf settings fields').foreignImports)
    (halike : List.Forall₂ (Field.ShownAlike settings.version) fields fields') :
    table.fileOf settings fields = table'.fileOf settings fields' := by
  have htypes : fields.map Field.type? = fields'.map Field.type? :=
    map_eq_of_forall₂ (fun _ _ h => h.type?_eq) halike
  have hentry : (fields.map fun field number => field.entry settings.version number) =
      fields'.map fun field number => field.entry settings.version number :=
    map_eq_of_forall₂ (fun _ _ h => funext h.entry_eq) halike
  have hentries : (table.fileOf settings fields).entries =
      (table'.fileOf settings fields').entries := by
    have hnumbered := congrArg (fun entries => entries.zipIdx.map fun (entry, i) => entry (i + 1)) hentry
    simp only [List.zipIdx_map, List.map_map] at hnumbered
    rw [entries_fileOf, entries_fileOf, numberFields, numberFields, List.map_map, List.map_map]
    exact hnumbered
  rw [fileOf, fileOf, ProtoFile.of, ProtoFile.of, ProtoFile.mk.injEq]
  exact ⟨rfl, hschema, rfl, hmessage, rfl, himports, by rw [htypes], hentries⟩

/-- Fields with the same views give one file. -/
theorem fileOf_eq_of_view (table : Table) (settings : ProtoSettings)
    (h : fields.map Field.view = fields'.map Field.view) :
    table.fileOf settings fields = table.fileOf settings fields' := by
  rw [← List.forall₂_eq_eq_eq, List.forall₂_map_left_iff, List.forall₂_map_right_iff] at h
  apply fileOf_eq_of_shownAlike rfl rfl
  · exact congrArg distinct
      (filterMap_eq_of_forall₂ (fun _ _ h => Field.foreignImport?_eq_of_view h) h)
  · exact h.imp fun _ _ h => Field.shownAlike_of_view settings.version h

end Table

end RelProto
