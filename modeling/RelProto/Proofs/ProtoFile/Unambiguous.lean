import RelProto.Proofs.ProtoFile.Imports
import RelProto.Proofs.ProtoFile.Legible

/-! If all names are words, the text of a file determines what the file shows of its table: no two
lists of fields, imports or key columns run together to one text. -/
namespace RelProto

open Text (IsWord isWordCharacter)

namespace Field

/-- The names that the file shows for the field are words, and a reference has key columns. -/
inductive InWords : Field → Prop
  | plain {column : Column} (name : IsWord column.name) : InWords (.plain column)
  | reference {column : Column} {target : Reference} {name : String}
      (schema : IsWord target.relation.foreignSchema) (table : IsWord target.relation.foreignTable)
      (name_isWord : IsWord name) (keys_ne_nil : target.keys ≠ [])
      (keys : ∀ key ∈ target.keys, IsWord key.localColumn) : InWords (.reference column target name)

variable {version : ProtoVersion} {field field' : Field} {number : Nat}

lemma eq_of_localKeys_eq {target target' : Reference} (hne : target.keys ≠ [])
    (hne' : target'.keys ≠ []) (hkeys : ∀ key ∈ target.keys, IsWord key.localColumn)
    (hkeys' : ∀ key ∈ target'.keys, IsWord key.localColumn)
    (h : target.localKeys = target'.localKeys) :
    target.localColumns = target'.localColumns := by
  have hcomma : ∀ {target : Reference}, (∀ key ∈ target.keys, IsWord key.localColumn) →
      ∀ text ∈ target.localColumns, ',' ∉ text.toList := by
    intro target hkeys text htext
    obtain ⟨key, hkey, rfl⟩ := List.mem_map.mp htext
    exact (hkeys key hkey).notMem (by decide)
  apply Text.eq_of_intercalate_eq _ _ (hcomma hkeys) (hcomma hkeys') h
  · simpa [Reference.localColumns] using hne
  · simpa [Reference.localColumns] using hne'

lemma notMem_line (h : field.InWords) : '\n' ∉ (field.line version number).toList := by
  cases h with
  | plain name => exact Entry.notMem_line_plain name (.inl rfl)
  | reference schema table name keys_ne_nil keys =>
    have hfeed : isWordCharacter '\n' = false := by decide
    apply Entry.notMem_line_reference (schema.notMem hfeed)
      (Text.notMem_upperCamel table (by decide)) (name.notMem hfeed)
    intro hmem
    obtain hseparator | ⟨key, hkey, hmem⟩ := Text.mem_toList_intercalate hmem
    · exact absurd hseparator (by decide)
    · obtain ⟨part, hpart, rfl⟩ := List.mem_map.mp hkey
      exact (keys part hpart).notMem hfeed hmem

/-- Only the line of a reference has a slash. -/
lemma plain_line_ne {column column' : Column} {target : Reference} {name : String}
    (hname : IsWord column.name) :
    (plain column).line version number ≠ (reference column' target name).line version number := by
  intro hline
  have hslash : '/' ∈ ((reference column' target name).line version number).toList :=
    Entry.slash_mem_line_reference
  rw [← hline] at hslash
  exact Entry.notMem_line_plain hname (.inr rfl) hslash

/-- Fields whose names are words and that have one line under one number show the same. -/
theorem shownAlike_of_line_eq (h : field.InWords) (h' : field'.InWords)
    (hline : field.line version number = field'.line version number) :
    ShownAlike version field field' := by
  cases h with
  | plain name =>
    cases h' with
    | plain name' =>
      obtain ⟨hlabel, htype, hname⟩ := Entry.plain_line_inj name name' hline
      exact .plain hname hlabel htype
    | reference => exact absurd hline (plain_line_ne name)
  | reference schema table name keys_ne_nil keys =>
    cases h' with
    | plain name' => exact absurd hline.symm (plain_line_ne name')
    | reference schema' table' name' keys_ne_nil' keys' =>
      have hdot : isWordCharacter '.' = false := by decide
      have hspace : isWordCharacter ' ' = false := by decide
      obtain ⟨hschema, hmessage, rfl, hkeys⟩ := Entry.reference_line_inj (schema.notMem hdot)
        (schema'.notMem hdot) (Text.notMem_upperCamel table (by decide))
        (Text.notMem_upperCamel table' (by decide)) (name.notMem hspace) (name'.notMem hspace) hline
      exact .reference hschema hmessage (eq_of_localKeys_eq keys_ne_nil keys_ne_nil' keys keys' hkeys)

end Field

namespace Table

/-- The names of the table, of its columns and of the tables that it refers to are words. -/
structure InWords (table : Table) : Prop where
  schema : IsWord table.schema
  name : IsWord table.name
  columns : ∀ column ∈ table.columns, IsWord column.name
  foreignSchemas : ∀ relation ∈ table.relations, IsWord relation.foreignSchema
  foreignTables : ∀ relation ∈ table.relations, IsWord relation.foreignTable

instance (table : Table) : Decidable table.InWords :=
  decidable_of_iff (IsWord table.schema ∧ IsWord table.name ∧
      (∀ column ∈ table.columns, IsWord column.name) ∧
      (∀ relation ∈ table.relations, IsWord relation.foreignSchema) ∧
      ∀ relation ∈ table.relations, IsWord relation.foreignTable)
    ⟨fun h => ⟨h.1, h.2.1, h.2.2.1, h.2.2.2.1, h.2.2.2.2⟩,
      fun h => ⟨h.schema, h.name, h.columns, h.foreignSchemas, h.foreignTables⟩⟩

variable {table table' : Table} {settings : ProtoSettings} {embed : Bool} {fields fields' : List Field}

section Words

lemma exists_numberedName {taken : List String} {counts : List (String × Nat)}
    {placed : List (Column × Option Reference)} {column : Column} {target : Reference} {name : String}
    (h : .reference column target name ∈ nameFields taken counts placed) :
    ∃ n, name = Text.numberedName target.relation.foreignTable n := by
  fun_induction nameFields taken counts placed with
  | case1 => cases h
  | case2 counts other rest ih =>
    rcases List.mem_cons.mp h with heq | hrest
    · cases heq
    · exact ih hrest
  | case3 counts other reference rest base n ih =>
    rcases List.mem_cons.mp h with heq | hrest
    · cases heq
      exact ⟨n, rfl⟩
    · exact ih hrest

/-- Numbers keep the names of references words. -/
theorem inWords_of_mem_fields (hwords : table.InWords)
    (hfields : (table.fields embed).result = .ok fields) : ∀ field ∈ fields, field.InWords := by
  intro field hfield
  cases embed with
  | false =>
    obtain rfl : table.plainFields = fields := Except.ok.inj hfields
    obtain ⟨column, hcolumn, rfl⟩ := List.mem_map.mp hfield
    exact .plain (hwords.columns column hcolumn)
  | true =>
    have hresolved : table.resolvedFields.result = .ok fields := hfields
    cases field with
    | plain column => exact .plain (hwords.columns column ((plain_mem_iff hresolved).mp hfield).1)
    | reference column target name =>
      obtain ⟨_, htarget, _⟩ := (reference_mem_iff hresolved).mp ⟨name, hfield⟩
      obtain ⟨relation, hrelation, hembeds, rfl⟩ := mem_embeddings.mp htarget
      obtain ⟨_, rfl⟩ := (resolvedFields_eq_ok_iff table fields).mp hresolved
      obtain ⟨n, rfl⟩ := exists_numberedName hfield
      have hforeign := hwords.foreignTables relation hrelation
      refine .reference (hwords.foreignSchemas relation hrelation) hforeign
        (Text.isWord_numberedName hforeign n) hembeds.2 ?_
      intro key hkey
      obtain ⟨column, hcolumn, hname⟩ := List.mem_map.mp (mem_presentKeys.mp hkey).2
      exact hname ▸ hwords.columns column hcolumn

lemma notMem_foreignImports (hfields : ∀ field ∈ fields, field.InWords) :
    ∀ path ∈ (table.fileOf settings fields).foreignImports, '\n' ∉ path.toList := by
  intro path hpath
  obtain ⟨column, target, name, hfield, rfl⟩ := mem_foreignImports_fileOf.mp hpath
  have hfeed : isWordCharacter '\n' = false := by decide
  cases hfields _ hfield with
  | reference schema foreign =>
    have hschema := schema.notMem hfeed
    have hforeign := foreign.notMem hfeed
    simp [Relation.importPath, RelProto.importPath, hschema, hforeign]

lemma notMem_typeImports :
    ∀ path ∈ (table.fileOf settings fields).typeImports, '\n' ∉ path.toList := by
  intro path hpath
  rw [fileOf, ProtoFile.of, mem_distinct, List.mem_filterMap] at hpath
  obtain ⟨type, _, himport⟩ := hpath
  cases type with
  | timestamp =>
    cases himport
    decide
  | _ => cases himport

theorem legible_fileOf (hwords : table.InWords) (hfields : ∀ field ∈ fields, field.InWords) :
    (table.fileOf settings fields).Legible where
  package := hwords.schema.notMem (by decide)
  message := Text.notMem_upperCamel hwords.name (by decide)
  lines := by
    intro line hline
    simp only [ProtoFile.body, List.mem_append, List.mem_cons, List.not_mem_nil, or_false,
      map_line_entries] at hline
    obtain hforeign | htype | rfl | hentry | rfl := hline
    · exact ProtoFile.notMem_of_mem_importSection (by decide) (notMem_foreignImports hfields) _ hforeign
    · exact ProtoFile.notMem_of_mem_importSection (by decide) notMem_typeImports _ htype
    · have hmessage : '\n' ∉ (Text.upperCamel table.name).toList :=
        Text.notMem_upperCamel hwords.name (by decide)
      simp [fileOf, ProtoFile.of, hmessage]
    · obtain ⟨⟨field, i⟩, hfield, rfl⟩ := List.mem_map.mp hentry
      exact Field.notMem_line (hfields field (List.fst_mem_of_mem_zipIdx hfield))
    · decide

end Words

section Alike

/-- The texts of two tables of words are the same exactly if the tables have the same schema, the
same message name, the same imports in the same order, and as many fields, which show the same one
by one. -/
theorem render_eq_iff_shownAlike {text text' : String} (hwords : table.InWords)
    (hwords' : table'.InWords) (h : (table.render settings embed).result = .ok text)
    (h' : (table'.render settings embed).result = .ok text') :
    ∃ fields fields' file file',
      (table.fields embed).result = .ok fields ∧ (table'.fields embed).result = .ok fields' ∧
      (table.protoFile settings embed).result = .ok file ∧
      (table'.protoFile settings embed).result = .ok file' ∧
      (text = text' ↔ table.schema = table'.schema ∧
        Text.upperCamel table.name = Text.upperCamel table'.name ∧
        file.foreignImports = file'.foreignImports ∧
        List.Forall₂ (Field.ShownAlike settings.version) fields fields') := by
  obtain ⟨fields, hfields, hfile, rfl⟩ := exists_fields_of_render h
  obtain ⟨fields', hfields', hfile', rfl⟩ := exists_fields_of_render h'
  refine ⟨fields, fields', _, _, hfields, hfields', hfile, hfile', ?_⟩
  have hin := inWords_of_mem_fields hwords hfields
  have hin' := inWords_of_mem_fields hwords' hfields'
  constructor
  · intro htext
    obtain ⟨hschema, hmessage, hbody⟩ := ProtoFile.eq_of_text_eq (by rfl) (by rfl) (by rfl)
      (legible_fileOf hwords hin) (legible_fileOf hwords' hin') htext
    obtain ⟨himports, hlines⟩ := ProtoFile.eq_of_body_eq hbody
    rw [map_line_entries, map_line_entries] at hlines
    refine ⟨hschema, hmessage, himports, forall₂_of_zipIdx_map_eq ?_ hlines⟩
    intro field hfield field' hfield' i hline
    exact Field.shownAlike_of_line_eq (hin field hfield) (hin' field' hfield') hline
  · rintro ⟨hschema, hmessage, himports, halike⟩
    exact congrArg ProtoFile.text (fileOf_eq_of_shownAlike hschema hmessage himports halike)

end Alike

/-- A rental of a car, which the maker and the model identify. -/
def rental : Table :=
  ofNames "shop" "car_rental" ["id", "maker", "model"] [
    ⟨"fk_car", "shop", "car", .zeroOneOrMore,
     [⟨1, "maker", "maker"⟩, ⟨2, "model", "model"⟩]⟩]

/-- The rental under another name, with a key that the model leads. -/
def renamedRental : Table :=
  ofNames "shop" "carRental" ["id", "maker", "model"] [
    ⟨"fk_vehicle", "shop", "car", .zeroOneOrMore,
     [⟨2, "maker", "brand"⟩, ⟨1, "model", "kind"⟩]⟩]

def rentalText : String := (rental.fileOf {} (rental.fieldsFor rental.embeddings)).text

lemma render_rental : (rental.render {} true).result = .ok rentalText :=
  result_render_of_resolvable {} (by decide)

lemma render_renamedRental : (renamedRental.render {} true).result = .ok rentalText := by
  have htext : (renamedRental.fileOf {} (renamedRental.fieldsFor renamedRental.embeddings)).text =
      rentalText := by
    decide +kernel
  rw [result_render_of_resolvable {} (by decide), htext]

theorem render_eq_iff_shownAlike_rental :
    rental.InWords ∧ renamedRental.InWords ∧ (rental.render {} true).result = .ok rentalText ∧
    (renamedRental.render {} true).result = .ok rentalText ∧
    ∃ fields fields' file file',
      (rental.fields true).result = .ok fields ∧ (renamedRental.fields true).result = .ok fields' ∧
      (rental.protoFile {} true).result = .ok file ∧
      (renamedRental.protoFile {} true).result = .ok file' ∧
      file.foreignImports = file'.foreignImports ∧
      List.Forall₂ (Field.ShownAlike .proto3) fields fields' := by
  obtain ⟨fields, fields', file, file', hfields, hfields', hfile, hfile', hiff⟩ :=
    render_eq_iff_shownAlike (by decide) (by decide) render_rental render_renamedRental
  exact ⟨by decide, by decide, render_rental, render_renamedRental, fields, fields', file, file',
    hfields, hfields', hfile, hfile', (hiff.mp rfl).2.2⟩

end Table

end RelProto
