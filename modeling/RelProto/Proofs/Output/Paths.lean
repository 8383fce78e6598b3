import RelProto.Proofs.Output
import RelProto.Proofs.ProtoFile.Imports

/-! Where the file of a table is written, and where other files look for it. The paths agree unless
a slash at the start of a name, or at the end of a schema's name, changes the one and not the other. -/
namespace RelProto

namespace Path

/-- What stands in front of every path below `base`. -/
def stem (base : String) : String :=
  if base.isEmpty || endsInSlash base then base else base ++ "/"

/-- The path below `base`, even if it looks like a path from the root. -/
def below (base path : String) : String := stem base ++ path

lemma join_eq (base path : String) :
    join base path = if startsAtRoot path then path else below base path := by
  rw [join, below, stem]
  by_cases hstem : base.isEmpty || endsInSlash base
  · rw [if_pos hstem, if_pos hstem]
  · rw [if_neg hstem, if_neg hstem]

@[simp] theorem stem_eq_empty_iff {base : String} : stem base = "" ↔ base = "" := by
  rw [stem]
  split_ifs with h
  · rfl
  · constructor
    · intro hempty
      exact (String.append_eq_empty_iff.mp hempty).1
    · rintro rfl
      simp at h

lemma stem_append (base : String) {name : String} (h : name ≠ "") :
    stem (base ++ name) = base ++ stem name := by
  have hlast : endsInSlash (base ++ name) = endsInSlash name := by
    have hne : name.toList ≠ [] := by simpa using h
    rw [endsInSlash, endsInSlash, String.toList_append, List.getLast?_append_of_ne_nil _ hne]
  have hempty : (base ++ name).isEmpty = name.isEmpty := by
    have hne : base ++ name ≠ "" := fun hboth => h (String.append_eq_empty_iff.mp hboth).2
    rw [Bool.eq_iff_iff, String.isEmpty_iff, String.isEmpty_iff]
    exact iff_of_false hne h
  rw [stem, stem, hlast, hempty]
  split_ifs with hstem
  · rfl
  · exact String.append_assoc

lemma startsAtRoot_append {name : String} (h : name ≠ "") (rest : String) :
    startsAtRoot (name ++ rest) = startsAtRoot name := by
  have hne : name.toList ≠ [] := by simpa using h
  rw [startsAtRoot, startsAtRoot, String.toList_append, List.head?_append_of_ne_nil _ hne]

lemma stem_eq_append_slash_iff {name : String} (h : name ≠ "") :
    stem name = name ++ "/" ↔ endsInSlash name = false := by
  have hne : name ≠ name ++ "/" := by
    intro hsame
    simpa using String.append_eq_left_iff.mp hsame.symm
  rw [stem]
  cases hends : endsInSlash name with
  | false => simp [h]
  | true => simpa using hne

/-- A name is put below `base` unless it is a path from the root. -/
lemma join_eq_below_iff {base name : String} :
    join base name = below base name ↔ (startsAtRoot name → base = "") := by
  rw [join_eq]
  by_cases hroot : startsAtRoot name
  · rw [if_pos hroot, below, eq_comm, String.append_eq_right_iff, stem_eq_empty_iff]
    simp [hroot]
  · simp [hroot]

/-- Paths in the directory of a schema start with its name and a slash below `base`, unless the name
ends in a slash or is a path from the root. -/
lemma stem_join_iff {base schema : String} (h : schema ≠ "") :
    stem (join base schema) = stem base ++ (schema ++ "/") ↔
      endsInSlash schema = false ∧ (startsAtRoot schema → base = "") := by
  rw [join_eq]
  by_cases hroot : startsAtRoot schema
  · rw [if_pos hroot]
    cases hends : endsInSlash schema with
    | false =>
      rw [(stem_eq_append_slash_iff h).mpr hends, eq_comm, String.append_eq_right_iff,
        stem_eq_empty_iff]
      simp [hroot]
    | true =>
      have hstem : stem schema = schema := by simp [stem, hends]
      simp only [hstem, Bool.true_eq_false, false_and, iff_false]
      intro hsame
      have hlength := congrArg String.length hsame
      simp only [String.length_append] at hlength
      have hslash : "/".length = 1 := rfl
      omega
  · rw [if_neg hroot, below, stem_append (stem base) h, String.append_right_inj,
      stem_eq_append_slash_iff h]
    simp [hroot]

/-- A file named after a table, in a directory named after a schema, is where its import path leads
below `base`, unless a slash at the start or the end of a name prevents it. -/
theorem join_join_eq_below_iff {base schema table : String} (hschema : schema ≠ "")
    (htable : table ≠ "") :
    join (join base schema) (table ++ ".proto") = below base (importPath schema table) ↔
      startsAtRoot table = false ∧ endsInSlash schema = false ∧ (startsAtRoot schema → base = "") := by
  rw [join_eq (join base schema), startsAtRoot_append htable]
  by_cases hroot : startsAtRoot table
  · rw [if_pos hroot]
    simp only [hroot, Bool.true_eq_false, false_and, iff_false]
    intro hsame
    -- The import path is longer, at least by the slash after the schema.
    have hlength := congrArg String.length hsame
    simp only [below, importPath, String.length_append] at hlength
    have hslash : "/".length = 1 := rfl
    omega
  · have hpath : below base (importPath schema table) =
        stem base ++ (schema ++ "/") ++ (table ++ ".proto") := by
      simp only [below, importPath, String.append_assoc]
    rw [if_neg hroot, hpath, below, String.append_left_inj, stem_join_iff hschema]
    simp [hroot]

end Path

namespace OutputStep

lemma directory_mem_ofDatabase_iff {settings : ProtoSettings} {root path : String}
    {database : Database} : .directory path ∈ ofDatabase settings root database ↔
      ∃ schema ∈ database.schemas, path = Path.join (Path.join root settings.path) schema.name := by
  simp [ofDatabase, ofSchema]

lemma file_mem_ofDatabase_iff {settings : ProtoSettings} {root path : String} {database : Database}
    {table : Table} : .file path table ∈ ofDatabase settings root database ↔
      ∃ schema ∈ database.schemas, table ∈ schema.tables ∧
        path = Path.join (Path.join (Path.join root settings.path) schema.name)
          (table.name ++ ".proto") := by
  simp only [ofDatabase, ofSchema, List.mem_flatMap, List.mem_cons, List.mem_map, reduceCtorEq,
    false_or, file.injEq]
  constructor
  · rintro ⟨schema, hschema, other, hother, rfl, rfl⟩
    exact ⟨schema, hschema, hother, rfl⟩
  · rintro ⟨schema, hschema, htable, rfl⟩
    exact ⟨schema, hschema, table, htable, rfl, rfl⟩

end OutputStep

namespace Table

variable {table : Table} {settings : ProtoSettings} {file : ProtoFile}

lemma package_eq {embed : Bool} (h : (table.protoFile settings embed).result = .ok file) :
    file.package = table.schema := by
  obtain ⟨fields, _, rfl⟩ := exists_fields h
  rfl

lemma message_eq {embed : Bool} (h : (table.protoFile settings embed).result = .ok file) :
    file.message = Text.upperCamel table.name := by
  obtain ⟨fields, _, rfl⟩ := exists_fields h
  rfl

/-- Every reference field has an entry, whose type is the message of its foreign table. -/
lemma exists_entry {fields : List Field} {column : Column} {target : Reference} {name : String}
    (h : .reference column target name ∈ fields) :
    ∃ number, .reference target.relation.foreignSchema
        (Text.upperCamel target.relation.foreignTable) name number target.localKeys ∈
      (table.fileOf settings fields).entries := by
  obtain ⟨i, hi⟩ := List.mem_iff_getElem?.mp h
  exact ⟨i + 1, mem_entries_fileOf.mpr ⟨i, _, hi, rfl⟩⟩

end Table

namespace Catalog

variable {σ : Type} {catalog : Catalog σ} {settings : GeneratorSettings} {world after : σ}
  {database : Database} (hread : (catalog.readDatabase settings).Returns world database after)
include hread

lemma names_ne_empty {table : Table} (htable : table ∈ database.tables) :
    table.schema ≠ "" ∧ table.name ≠ "" := by
  obtain ⟨_, before, between, htable⟩ := readTable_of_mem_tables hread htable
  obtain ⟨hne, hne', _⟩ := readTable_returns_iff.mp htable
  exact ⟨hne, hne'⟩

/-- The file of a table is written to one path, in the directory of its own schema. -/
lemma file_mem_iff {table : Table} (htable : table ∈ database.tables) (proto : ProtoSettings)
    (root path : String) : .file path table ∈ OutputStep.ofDatabase proto root database ↔
      path = Path.join (Path.join (Path.join root proto.path) table.schema)
        (table.name ++ ".proto") := by
  rw [OutputStep.file_mem_ofDatabase_iff]
  constructor
  · rintro ⟨schema, hschema, hmem, rfl⟩
    rw [(readTable_of_mem hread hschema hmem).1]
  · rintro rfl
    obtain ⟨schema, hschema, hmem⟩ := List.mem_flatMap.mp htable
    refine ⟨schema, hschema, hmem, ?_⟩
    rw [(readTable_of_mem hread hschema hmem).1]

/-- A reference field and the file of its foreign table: the field's type is the message of that
file, in its package, and the file is imported. It is written to the imported path exactly if the
table's name does not start with a slash and the schema's name neither ends nor starts with one; the
directory is named like the package exactly if the schema's name does not start with a slash. -/
theorem reference_agrees_iff {table other : Table} (hother : other ∈ database.tables)
    (proto : ProtoSettings) (root : String) {fields : List Field}
    (hfields : table.resolvedFields.result = .ok fields) {column : Column} {target : Reference}
    {name : String} (hfield : .reference column target name ∈ fields)
    (hschema : other.schema = target.relation.foreignSchema)
    (hname : other.name = target.relation.foreignTable) :
    let base := Path.join root proto.path
    let directory := Path.join base other.schema
    let path := Path.join directory (other.name ++ ".proto")
    (∃ file, (table.protoFile proto true).result = .ok file ∧
      target.relation.importPath ∈ file.foreignImports ∧
      ∀ otherFile, (other.protoFile proto true).result = .ok otherFile →
        otherFile.package = other.schema ∧
        ∃ number, .reference otherFile.package otherFile.message name number target.localKeys ∈
          file.entries) ∧
    .directory directory ∈ OutputStep.ofDatabase proto root database ∧
    (∀ written, .file written other ∈ OutputStep.ofDatabase proto root database ↔
      written = path) ∧
    (path = Path.below base target.relation.importPath ↔
      Path.startsAtRoot other.name = false ∧ Path.endsInSlash other.schema = false ∧
        (Path.startsAtRoot other.schema → base = "")) ∧
    (directory = Path.below base other.schema ↔ (Path.startsAtRoot other.schema → base = "")) := by
  intro base directory path
  obtain ⟨hschemaNe, hnameNe⟩ := names_ne_empty hread hother
  refine ⟨⟨table.fileOf proto fields, ?_, ?_, ?_⟩, ?_, ?_, ?_, Path.join_eq_below_iff⟩
  · rw [Table.result_protoFile, Table.fields, if_pos rfl, hfields]
    rfl
  · exact Table.mem_foreignImports_fileOf.mpr ⟨column, target, name, hfield, rfl⟩
  · intro otherFile hotherFile
    rw [Table.package_eq hotherFile, Table.message_eq hotherFile, hschema, hname]
    exact ⟨rfl, Table.exists_entry hfield⟩
  · obtain ⟨schema, hmem, hother⟩ := List.mem_flatMap.mp hother
    have hsame := (readTable_of_mem hread hmem hother).1
    exact OutputStep.directory_mem_ofDatabase_iff.mpr ⟨schema, hmem, by rw [← hsame]⟩
  · intro written
    exact file_mem_iff hread hother proto root written
  · rw [Relation.importPath, ← hschema, ← hname]
    exact Path.join_join_eq_below_iff hschemaNe hnameNe

end Catalog

namespace Database

/-- The address of a customer, in a table with this name. -/
def addressKey (address : String) : Relation :=
  ⟨"fk_address", "shop", address, .zeroOneOrMore, [⟨1, "address_id", "id"⟩]⟩

def customerTable (address : String) : Table :=
  .ofNames "crm" "customer" ["id", "address_id"] [addressKey address]

def addressTable (address : String) : Table := .ofNames "shop" address ["id"] []

def customers (address : String) : Database :=
  ⟨"sqlite", [⟨"crm", [customerTable address]⟩, ⟨"shop", [addressTable address]⟩]⟩

def customersCatalog (address : String) : Catalog Unit :=
  (CatalogScript.ofTables (customers address).tables).catalog

def crmAndShop : GeneratorSettings where
  schemas := ["crm", "shop"]
  embedRelationships := true

/-- The field for the address and the file of the address agree. -/
theorem reference_agrees_address :
    ∃ file otherFile name, ((customerTable "address").protoFile {} true).result = .ok file ∧
      ((addressTable "address").protoFile {} true).result = .ok otherFile ∧
      "shop/address.proto" ∈ file.foreignImports ∧
      (∃ number, .reference otherFile.package otherFile.message name number "address_id" ∈
        file.entries) ∧
      ∀ written,
        .file written (addressTable "address") ∈ OutputStep.ofDatabase {} "out" (customers "address") ↔
          written = Path.below "out/proto" "shop/address.proto" := by
  have hread : ((customersCatalog "address").readDatabase crmAndShop).Returns ()
      (customers "address") () := rfl
  have hfields := Table.resolvedFields_of_resolvable
    (show (customerTable "address").Resolvable by decide)
  obtain ⟨column, name, hfield⟩ := Table.exists_reference_mem hfields
    (List.mem_singleton_self (addressKey "address")) (by decide)
  have hother : addressTable "address" ∈ (customers "address").tables := by decide
  obtain ⟨otherFile, hotherFile⟩ := Table.exists_protoFile {}
    (show (addressTable "address").Resolvable by decide)
  obtain ⟨⟨file, hfile, himport, hentry⟩, _, hwritten, hpath, _⟩ :=
    Catalog.reference_agrees_iff hread hother {} "out" hfields hfield rfl rfl
  refine ⟨file, otherFile, name, hfile, hotherFile, himport, (hentry otherFile hotherFile).2, ?_⟩
  have hbelow := hpath.mpr ⟨by decide, by decide, by decide⟩
  intro written
  rw [hwritten, hbelow]
  exact Iff.rfl

/-- The file of a table whose name is a path from the root is not where its import leads. -/
theorem not_reference_agrees_missing :
    ¬ ∀ (σ : Type) (catalog : Catalog σ) (settings : GeneratorSettings) (proto : ProtoSettings)
      (root : String) (world after : σ) (database : Database),
      (catalog.readDatabase settings).Returns world database after →
      ∀ table ∈ database.tables, ∀ fields, table.resolvedFields.result = .ok fields →
      ∀ column target name, .reference column target name ∈ fields →
      ∀ other ∈ database.tables, other.schema = target.relation.foreignSchema →
        other.name = target.relation.foreignTable →
        ∀ path, .file path other ∈ OutputStep.ofDatabase proto root database →
          path = Path.below (Path.join root proto.path) target.relation.importPath := by
  intro h
  let address := "/missing/address"
  have hread : ((customersCatalog address).readDatabase crmAndShop).Returns ()
      (customers address) () := rfl
  have hfields := Table.resolvedFields_of_resolvable
    (show (customerTable address).Resolvable by decide)
  obtain ⟨column, name, hfield⟩ := Table.exists_reference_mem hfields
    (List.mem_singleton_self (addressKey address)) (by decide)
  have hstep : .file "/missing/address.proto" (addressTable address) ∈
      OutputStep.ofDatabase {} "out" (customers address) := by decide
  have hpath := h Unit _ crmAndShop {} "out" () () _ hread (customerTable address) (by decide) _
    hfields column _ name hfield (addressTable address) (by decide) rfl rfl _ hstep
  revert hpath
  decide

end Database

end RelProto
