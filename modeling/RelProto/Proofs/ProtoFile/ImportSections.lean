import RelProto.Proofs.ProtoFile.Imports
import RelProto.Proofs.ProtoFile.MessageBody

/-! The import sections of a file: the files of the foreign tables that its fields refer to, in the
order of first use, and the one for timestamps if a field has that type. -/
namespace RelProto

/-- The second list has every text of the first one once, in the order of first use. -/
structure ListsUses (uses listed : List String) : Prop where
  mem_iff : ∀ text, text ∈ listed ↔ text ∈ uses
  nodup : listed.Nodup
  inOrder : listed.Pairwise fun first second => uses.idxOf first < uses.idxOf second

lemma pairwise_idxOf_distinct_go (seen texts : List String) :
    (distinct.go seen texts).Pairwise fun first second =>
      texts.idxOf first < texts.idxOf second := by
  induction texts generalizing seen with
  | nil => exact .nil
  | cons text rest ih =>
    -- Behind its first occurrence a text is not listed again, so the others move up by one place.
    have hrest : ∀ {seen : List String}, text ∈ seen →
        (distinct.go seen rest).Pairwise fun first second =>
          (text :: rest).idxOf first < (text :: rest).idxOf second := by
      intro seen hseen
      apply (ih seen).imp_of_mem
      intro first second hfirst hsecond hlt
      have hne : ∀ other ∈ distinct.go seen rest, text ≠ other := by
        rintro other hother rfl
        exact (mem_distinct_go.mp hother).2 hseen
      rw [List.idxOf_cons_ne _ (hne first hfirst), List.idxOf_cons_ne _ (hne second hsecond)]
      omega
    rw [distinct.go]
    by_cases hseen : text ∈ seen
    · rw [if_pos (by simpa using hseen)]
      exact hrest hseen
    · rw [if_neg (by simpa using hseen), List.pairwise_cons]
      refine ⟨?_, hrest List.mem_cons_self⟩
      intro other hother
      have hne : text ≠ other := by
        rintro rfl
        exact (mem_distinct_go.mp hother).2 List.mem_cons_self
      rw [List.idxOf_cons_self, List.idxOf_cons_ne _ hne]
      omega

theorem listsUses_distinct (texts : List String) : ListsUses texts (distinct texts) where
  mem_iff _ := mem_distinct
  nodup := by
    apply (pairwise_idxOf_distinct_go [] texts).imp
    rintro first second hlt rfl
    exact lt_irrefl _ hlt
  inOrder := pairwise_idxOf_distinct_go [] texts

/-- The lines show the imports under the comment; without any there are no lines. -/
inductive ShowsImports (comment : String) : List String → List String → Prop
  | absent : ShowsImports comment [] []
  | present {paths : List String} (ne_nil : paths ≠ []) : ShowsImports comment paths
      (comment :: "" :: (paths.map (fun path => "import \"" ++ path ++ "\";") ++ [""]))

lemma showsImports_importSection (comment : String) (paths : List String) :
    ShowsImports comment paths (ProtoFile.importSection comment paths) := by
  cases paths with
  | nil => exact .absent
  | cons path paths => exact .present (List.cons_ne_nil path paths)

def timestampPath : String := "google/protobuf/timestamp.proto"

/-- Some plain field of the message is a timestamp, or an array of them. -/
def ProtoFile.ShowsTimestamp (file : ProtoFile) : Prop :=
  ∃ label name number, .plain label .timestamp name number ∈ file.entries

/-- The path of the file for the foreign table of a relation field. -/
def Field.importPath? (field : Field) : Option String :=
  field.reference?.map (·.relation.importPath)

/-- The imports of a file are those that its fields use. -/
structure ImportsUses (table : Table) (embed : Bool) (fields : List Field) (file : ProtoFile) :
    Prop where
  foreignImports : ListsUses (fields.filterMap Field.importPath?) file.foreignImports
  typeImports : (file.ShowsTimestamp ∧ file.typeImports = [timestampPath]) ∨
    (¬ file.ShowsTimestamp ∧ file.typeImports = [])
  showsTimestamp_iff : file.ShowsTimestamp ↔ ∃ column ∈ table.columns,
    (embed = true → table.Plain column) ∧ ProtoType.mapped column.nativeType = .timestamp
  unembedded : embed = false → file.foreignImports = []

namespace Table

variable {table : Table} {settings : ProtoSettings} {embed : Bool} {fields : List Field}

lemma foreignImports_fileOf :
    (table.fileOf settings fields).foreignImports =
      distinct (fields.filterMap Field.importPath?) := by
  have himports : (table.fileOf settings fields).foreignImports =
      distinct (fields.filterMap Field.foreignImport?) := rfl
  rw [himports]
  congr 1
  apply List.filterMap_congr
  rintro (column | ⟨column, target, name⟩) _ <;> rfl

/-- The plain fields are columns of their own, in either layout. -/
lemma plain_mem_fields_iff (hfields : (table.fields embed).result = .ok fields) {column : Column} :
    .plain column ∈ fields ↔ column ∈ table.columns ∧ (embed = true → table.Plain column) := by
  cases embed with
  | false =>
    obtain rfl : table.plainFields = fields := Except.ok.inj hfields
    simp [plainFields]
  | true => simpa using plain_mem_iff hfields

lemma plain_mem_entries_iff {label : Label} {type : ProtoType} {name : String} :
    (∃ number, .plain label type name number ∈ (table.fileOf settings fields).entries) ↔
      ∃ column, .plain column ∈ fields ∧ label = settings.version.label column ∧
        type = .mapped column.nativeType ∧ name = column.name := by
  simp only [mem_entries_fileOf]
  constructor
  · rintro ⟨number, i, field, hfield, hentry⟩
    cases field with
    | plain column =>
      cases hentry
      exact ⟨column, List.mem_of_getElem? hfield, rfl, rfl, rfl⟩
    | reference => cases hentry
  · rintro ⟨column, hfield, rfl, rfl, rfl⟩
    obtain ⟨i, hi⟩ := List.mem_iff_getElem?.mp hfield
    exact ⟨i + 1, i, _, hi, rfl⟩

lemma showsTimestamp_fileOf : (table.fileOf settings fields).ShowsTimestamp ↔
    ∃ column, .plain column ∈ fields ∧ ProtoType.mapped column.nativeType = .timestamp := by
  constructor
  · rintro ⟨label, name, hentry⟩
    obtain ⟨column, hfield, -, htype, -⟩ := plain_mem_entries_iff.mp hentry
    exact ⟨column, hfield, htype.symm⟩
  · rintro ⟨column, hfield, htype⟩
    exact ⟨_, _, plain_mem_entries_iff.mpr ⟨column, hfield, rfl, htype.symm, rfl⟩⟩

lemma importPath?_eq_some_iff {type : ProtoType} {path : String} :
    type.importPath? = some path ↔ type = .timestamp ∧ path = timestampPath := by
  cases type <;> simp [ProtoType.importPath?, timestampPath, eq_comm]

/-- No other type needs an import. -/
lemma mem_typeImports_fileOf {path : String} :
    path ∈ (table.fileOf settings fields).typeImports ↔
      (table.fileOf settings fields).ShowsTimestamp ∧ path = timestampPath := by
  rw [showsTimestamp_fileOf, fileOf, ProtoFile.of, mem_distinct, List.filterMap_map,
    List.filterMap_filterMap, List.mem_filterMap]
  constructor
  · rintro ⟨_ | ⟨_, target, name⟩, hfield, hpath⟩
    · obtain ⟨htype, rfl⟩ := importPath?_eq_some_iff.mp hpath
      exact ⟨⟨_, hfield, htype⟩, rfl⟩
    · cases hpath
  · rintro ⟨⟨column, hfield, htype⟩, rfl⟩
    exact ⟨_, hfield, importPath?_eq_some_iff.mpr ⟨htype, rfl⟩⟩

lemma typeImports_fileOf :
    ((table.fileOf settings fields).ShowsTimestamp ∧
      (table.fileOf settings fields).typeImports = [timestampPath]) ∨
    (¬ (table.fileOf settings fields).ShowsTimestamp ∧
      (table.fileOf settings fields).typeImports = []) := by
  have hnodup : (table.fileOf settings fields).typeImports.Nodup := (listsUses_distinct _).nodup
  by_cases hshows : (table.fileOf settings fields).ShowsTimestamp
  · left
    refine ⟨hshows, List.perm_singleton.mp ?_⟩
    apply (List.perm_ext_iff_of_nodup hnodup (List.nodup_singleton _)).mpr
    intro path
    rw [mem_typeImports_fileOf, and_iff_right hshows, List.mem_singleton]
  · right
    refine ⟨hshows, List.eq_nil_iff_forall_not_mem.mpr ?_⟩
    intro path hpath
    exact hshows (mem_typeImports_fileOf.mp hpath).1

theorem importsUses_fileOf (hfields : (table.fields embed).result = .ok fields) :
    ImportsUses table embed fields (table.fileOf settings fields) where
  foreignImports := foreignImports_fileOf ▸ listsUses_distinct _
  typeImports := typeImports_fileOf
  showsTimestamp_iff := by
    simp only [showsTimestamp_fileOf, plain_mem_fields_iff hfields, and_assoc]
  unembedded := by
    rintro rfl
    obtain rfl : table.plainFields = fields := Except.ok.inj hfields
    have hnone : table.plainFields.filterMap Field.importPath? = [] := by
      rw [plainFields, List.filterMap_map]
      exact List.filterMap_eq_nil_iff.mpr fun _ _ => rfl
    rw [foreignImports_fileOf, hnone]
    rfl

/-- The text of a table's file has a section for the files of foreign tables and one for timestamps,
each only if there is something to import, and imports exactly what the fields use. -/
theorem render_imports (table : Table) (settings : ProtoSettings) (embed : Bool) (text : String)
    (h : (table.render settings embed).result = .ok text) :
    ∃ fields file foreignLines typeLines, (table.fields embed).result = .ok fields ∧
      (table.protoFile settings embed).result = .ok file ∧ ImportsUses table embed fields file ∧
      ShowsImports "// Foreign Key Imports" file.foreignImports foreignLines ∧
      ShowsImports "// Other Datatype Imports" file.typeImports typeLines ∧
      text = String.join
        ((file.front ++ (foreignLines ++ (typeLines ++ file.messageLines))).map (· ++ "\n")) := by
  obtain ⟨fields, hfields, hfile, rfl⟩ := exists_fields_of_render h
  exact ⟨fields, _, _, _, hfields, hfile, importsUses_fileOf hfields,
    showsImports_importSection _ _, showsImports_importSection _ _,
    by rw [ProtoFile.text, ProtoFile.lines_eq_parts]⟩

theorem render_imports_booking : (booking.render proto2 true).result = .ok bookingText ∧
    ∃ fields file, (booking.fields true).result = .ok fields ∧
      (booking.protoFile proto2 true).result = .ok file ∧ ImportsUses booking true fields file := by
  obtain ⟨fields, file, -, -, hfields, hfile, huses, -⟩ :=
    render_imports booking proto2 true bookingText render_booking
  exact ⟨render_booking, fields, file, hfields, hfile, huses⟩

example : (booking.fileOf proto2 (booking.fieldsFor booking.embeddings)).foreignImports =
    ["crm/person.proto", "shop/slot.proto"] := by decide +kernel

end Table

end RelProto
