import RelProto.Proofs.Reading.Once
import RelProto.Proofs.Text.Spelling

/-! The messages of the tables of one schema, which share a package. Nothing compares their names:
two of them are the same exactly if the names of the tables are spelled alike. -/
namespace RelProto

open RelProto.Action

namespace Catalog

variable {σ : Type} {catalog : Catalog σ} {settings : GeneratorSettings} {world after : σ}
  {database : Database}

/-- Different tables of one schema have different names, if each schema is configured once. -/
lemma name_ne_of_ne (hread : (catalog.readDatabase settings).Returns world database after)
    (hschemas : settings.schemas.Nodup) (hlists : catalog.ListsOnce settings) {table other : Table}
    (htable : table ∈ database.tables) (hother : other ∈ database.tables)
    (hschema : table.schema = other.schema) (hne : table ≠ other) : table.name ≠ other.name := by
  intro hname
  have hapart : database.Apart := Database.apart_of_nodup (by rwa [map_name_schemas hread])
  have hnodup := (Database.nodup_names_iff_apart fun _ => nodup_tables hread hlists).mpr hapart
  obtain ⟨holder, hholder, htable⟩ := List.mem_flatMap.mp htable
  obtain ⟨holder', hholder', hother⟩ := List.mem_flatMap.mp hother
  have hentries : (holder, table) = (holder', other) := by
    refine List.inj_on_of_nodup_map hnodup (Database.mem_listed_iff.mpr ⟨hholder, htable⟩)
      (Database.mem_listed_iff.mpr ⟨hholder', hother⟩) ?_
    rw [← (readTable_of_mem hread hholder htable).1, ← (readTable_of_mem hread hholder' hother).1,
      hschema, hname]
  exact hne (congrArg Prod.snd hentries)

/-- Two tables of one schema have their messages in one package. With ASCII names these messages
have the same name exactly if the names of the tables are spelled alike, and in snake case never. -/
theorem messages_differ_iff
    (hread : (catalog.readDatabase settings).Returns world database after)
    (hschemas : settings.schemas.Nodup) (hlists : catalog.ListsOnce settings) {table other : Table}
    (htable : table ∈ database.tables) (hother : other ∈ database.tables)
    (hschema : table.schema = other.schema) (hne : table ≠ other) (proto : ProtoSettings)
    (embed : Bool) {file otherFile : ProtoFile}
    (hfile : (table.protoFile proto embed).result = .ok file)
    (hotherFile : (other.protoFile proto embed).result = .ok otherFile) :
    file.package = otherFile.package ∧
    (Text.IsAscii table.name → Text.IsAscii other.name →
      (file.message ≠ otherFile.message ↔
        Text.spelling table.name ≠ Text.spelling other.name)) ∧
    (Text.IsSnakeCase table.name → Text.IsSnakeCase other.name →
      file.message ≠ otherFile.message) := by
  rw [Table.package_eq hfile, Table.package_eq hotherFile, Table.message_eq hfile,
    Table.message_eq hotherFile]
  refine ⟨hschema, ?_, ?_⟩
  · intro hascii hascii'
    rw [ne_eq, Text.upperCamel_eq_iff hascii hascii']
  · intro hsnake hsnake' hsame
    have hname := name_ne_of_ne hread hschemas hlists htable hother hschema hne
    exact hname (hsnake.eq_of_upperCamel_eq hsnake' hsame)

end Catalog

namespace Database

/-- Two tables of addresses. -/
def addressTables (address other : String) : Database :=
  ⟨"sqlite", [⟨"shop", [addressTable address, addressTable other]⟩]⟩

def addressTablesCatalog (address other : String) : Catalog Unit :=
  (CatalogScript.ofTables (addressTables address other).tables).catalog

def onlyShop : GeneratorSettings := { schemas := ["shop"], embedRelationships := true }

theorem messages_differ_oldAddress : ∃ file otherFile,
    ((addressTable "address").protoFile {} true).result = .ok file ∧
    ((addressTable "old_address").protoFile {} true).result = .ok otherFile ∧
    file.package = otherFile.package ∧ file.message ≠ otherFile.message := by
  have hread : ((addressTablesCatalog "address" "old_address").readDatabase onlyShop).Returns ()
      (addressTables "address" "old_address") () := rfl
  have hlists : (addressTablesCatalog "address" "old_address").ListsOnce onlyShop :=
    CatalogScript.listsOnce_ofTables (by decide) onlyShop
  obtain ⟨file, hfile⟩ := Table.exists_protoFile {}
    (show (addressTable "address").Resolvable by decide)
  obtain ⟨otherFile, hotherFile⟩ := Table.exists_protoFile {}
    (show (addressTable "old_address").Resolvable by decide)
  obtain ⟨hpackage, _, hmessage⟩ := Catalog.messages_differ_iff hread (by decide) hlists
    (show addressTable "address" ∈ _ by decide) (show addressTable "old_address" ∈ _ by decide)
    rfl (by decide) {} true hfile hotherFile
  exact ⟨file, otherFile, hfile, hotherFile, hpackage, hmessage (by decide) (by decide)⟩

/-- The names `address2` and `address_2` give the same message. -/
theorem not_messages_differ_address2 :
    ¬ ∀ (σ : Type) (catalog : Catalog σ) (settings : GeneratorSettings) (world after : σ)
      (database : Database) (proto : ProtoSettings) (embed : Bool),
      (catalog.readDatabase settings).Returns world database after →
      settings.schemas.Nodup → catalog.ListsOnce settings →
      ∀ table ∈ database.tables, ∀ other ∈ database.tables, table.schema = other.schema →
      table ≠ other → ∀ file otherFile, (table.protoFile proto embed).result = .ok file →
      (other.protoFile proto embed).result = .ok otherFile →
      file.message ≠ otherFile.message := by
  intro h
  have hread : ((addressTablesCatalog "address2" "address_2").readDatabase onlyShop).Returns ()
      (addressTables "address2" "address_2") () := rfl
  have hlists : (addressTablesCatalog "address2" "address_2").ListsOnce onlyShop :=
    CatalogScript.listsOnce_ofTables (by decide) onlyShop
  obtain ⟨file, hfile⟩ := Table.exists_protoFile {}
    (show (addressTable "address2").Resolvable by decide)
  obtain ⟨otherFile, hotherFile⟩ := Table.exists_protoFile {}
    (show (addressTable "address_2").Resolvable by decide)
  have hmessage := h Unit _ onlyShop () () _ {} true hread (by decide) hlists
    (addressTable "address2") (by decide) (addressTable "address_2") (by decide) rfl (by decide)
    file otherFile hfile hotherFile
  rw [Table.message_eq hfile, Table.message_eq hotherFile] at hmessage
  revert hmessage
  decide +kernel

end Database

end RelProto
