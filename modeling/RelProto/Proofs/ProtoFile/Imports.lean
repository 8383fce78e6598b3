import Mathlib.Data.Finset.Card
import Mathlib.Logic.Relation
import RelProto.Proofs.ProtoFile
import RelProto.Proofs.Reading

/-! A file imports the files of the foreign tables that its relations refer to. The imports of all
files have no cycle exactly if the tables can be ranked along their foreign keys. -/
namespace RelProto

/-- The path under which the file of a table is imported. -/
def importPath (schema table : String) : String := schema ++ "/" ++ table ++ ".proto"

def Table.importPath (table : Table) : String := RelProto.importPath table.schema table.name

def Relation.importPath (relation : Relation) : String :=
  RelProto.importPath relation.foreignSchema relation.foreignTable

lemma mem_distinct_go {seen texts : List String} {s : String} :
    s ∈ distinct.go seen texts ↔ s ∈ texts ∧ s ∉ seen := by
  induction texts generalizing seen with
  | nil => simp [distinct.go]
  | cons first rest ih =>
    rw [distinct.go]
    by_cases hseen : first ∈ seen
    · rw [if_pos (by simpa using hseen), ih]
      constructor
      · rintro ⟨hrest, hs⟩
        exact ⟨List.mem_cons_of_mem first hrest, hs⟩
      · rintro ⟨hs, hnot⟩
        rcases List.mem_cons.mp hs with rfl | hrest
        · exact absurd hseen hnot
        · exact ⟨hrest, hnot⟩
    · rw [if_neg (by simpa using hseen), List.mem_cons, ih, List.mem_cons, List.mem_cons]
      by_cases hs : s = first
      · simp [hs, hseen]
      · simp [hs]

/-- No text is lost. -/
@[simp] theorem mem_distinct {texts : List String} {s : String} : s ∈ distinct texts ↔ s ∈ texts := by
  simp [distinct, mem_distinct_go]

namespace Table

variable {table : Table} {settings : ProtoSettings} {file : ProtoFile}

lemma exists_protoFile (settings : ProtoSettings) (h : table.Resolvable) :
    ∃ file, (table.protoFile settings true).result = .ok file := by
  rw [result_protoFile, fields, if_pos rfl, resolvedFields_of_resolvable h]
  exact ⟨_, rfl⟩

lemma exists_resolvedFields (h : (table.protoFile settings true).result = .ok file) :
    ∃ fields, table.resolvedFields.result = .ok fields ∧ file = table.fileOf settings fields :=
  exists_fields h

/-- Every embedded relation has its field. -/
lemma exists_reference_mem {fields : List Field} (h : table.resolvedFields.result = .ok fields)
    {relation : Relation} (hrelation : relation ∈ table.relations)
    (hembeds : table.Embeds relation) :
    ∃ column name, .reference column (table.reference relation) name ∈ fields := by
  have htarget := mem_embeddings.mpr ⟨relation, hrelation, hembeds, rfl⟩
  obtain ⟨column, hcolumn, hrepresents⟩ := exists_represents htarget
  obtain ⟨name, hfield⟩ := (reference_mem_iff h).mpr ⟨hcolumn, htarget, hrepresents⟩
  exact ⟨column, name, hfield⟩

/-- The imports are those of the reference fields. -/
lemma mem_foreignImports_fileOf {fields : List Field} {path : String} :
    path ∈ (table.fileOf settings fields).foreignImports ↔
      ∃ column target name, .reference column target name ∈ fields ∧
        target.relation.importPath = path := by
  rw [fileOf, ProtoFile.of, mem_distinct, List.mem_filterMap]
  constructor
  · rintro ⟨_ | ⟨column, target, name⟩, hfield, hpath⟩
    · cases hpath
    · exact ⟨column, target, name, hfield, Option.some.inj hpath⟩
  · rintro ⟨column, target, name, hfield, rfl⟩
    exact ⟨_, hfield, rfl⟩

/-- A file imports the files of the foreign tables of all its embedded relations, and no others. -/
theorem mem_foreignImports_iff (h : (table.protoFile settings true).result = .ok file)
    {path : String} : path ∈ file.foreignImports ↔
      ∃ relation ∈ table.relations, table.Embeds relation ∧ relation.importPath = path := by
  obtain ⟨fields, hfields, rfl⟩ := exists_resolvedFields h
  rw [mem_foreignImports_fileOf]
  constructor
  · rintro ⟨column, target, name, hfield, rfl⟩
    obtain ⟨_, htarget, _⟩ := (reference_mem_iff hfields).mp ⟨name, hfield⟩
    obtain ⟨relation, hrelation, hembeds, rfl⟩ := mem_embeddings.mp htarget
    exact ⟨relation, hrelation, hembeds, rfl⟩
  · rintro ⟨relation, hrelation, hembeds, rfl⟩
    obtain ⟨column, name, hfield⟩ := exists_reference_mem hfields hrelation hembeds
    exact ⟨column, _, name, hfield, rfl⟩

end Table

/-- A relation without cycles that leads to finitely many targets decreases some rank: the number of
targets that can still be reached. -/
lemma exists_rank {α : Type} {edge : α → α → Prop} {targets : Finset α}
    (htargets : ∀ a b, edge a b → b ∈ targets)
    (hacyclic : ∀ a, ¬ Relation.TransGen edge a a) :
    ∃ rank : α → ℕ, ∀ a b, edge a b → rank b < rank a := by
  classical
  let reached (a : α) : Finset α := targets.filter (Relation.TransGen edge a)
  refine ⟨fun a => (reached a).card, ?_⟩
  intro a b hedge
  apply Finset.card_lt_card
  have hsubset : reached b ⊆ reached a := by
    intro c hc
    obtain ⟨hmem, hpath⟩ := Finset.mem_filter.mp hc
    exact Finset.mem_filter.mpr ⟨hmem, .head hedge hpath⟩
  rw [Finset.ssubset_iff_of_subset hsubset]
  refine ⟨b, Finset.mem_filter.mpr ⟨htargets a b hedge, .single hedge⟩, ?_⟩
  intro hb
  exact hacyclic b (Finset.mem_filter.mp hb).2

lemma rank_lt_of_transGen {α : Type} {edge : α → α → Prop} {rank : α → ℕ}
    (hrank : ∀ a b, edge a b → rank b < rank a) {a b : α} (h : Relation.TransGen edge a b) :
    rank b < rank a := by
  induction h with
  | single hedge => exact hrank _ _ hedge
  | tail _ hedge ih => exact (hrank _ _ hedge).trans ih

/-- The file of one of the tables, at `path`, has an import of `imported`. -/
def Imports (settings : ProtoSettings) (tables : List Table) (path imported : String) : Prop :=
  ∃ table ∈ tables, table.importPath = path ∧
    ∃ file, (table.protoFile settings true).result = .ok file ∧ imported ∈ file.foreignImports

section Imports

variable {settings : ProtoSettings} {tables : List Table}
  (hfiles : ∀ table ∈ tables, ∃ file, (table.protoFile settings true).result = .ok file)
include hfiles

lemma imports_iff {path imported : String} : Imports settings tables path imported ↔
    ∃ table ∈ tables, table.importPath = path ∧
      ∃ relation ∈ table.relations, table.Embeds relation ∧ relation.importPath = imported := by
  constructor
  · rintro ⟨table, htable, hpath, file, hfile, himported⟩
    exact ⟨table, htable, hpath, (Table.mem_foreignImports_iff hfile).mp himported⟩
  · rintro ⟨table, htable, hpath, hrelation⟩
    obtain ⟨file, hfile⟩ := hfiles table htable
    exact ⟨table, htable, hpath, file, hfile, (Table.mem_foreignImports_iff hfile).mpr hrelation⟩

/-- The imports of files that all exist have no cycle exactly if every embedded foreign key leads
down in some ranking of the files; and no file imports itself exactly if no foreign key leads from a
table to that table. -/
theorem acyclic_imports_iff :
    ((∀ path, ¬ Relation.TransGen (Imports settings tables) path path) ↔
      ∃ rank : String → ℕ, ∀ table ∈ tables, ∀ relation ∈ table.relations, table.Embeds relation →
        rank relation.importPath < rank table.importPath) ∧
    ((∀ path, ¬ Imports settings tables path path) ↔
      ∀ table ∈ tables, ∀ relation ∈ table.relations, table.Embeds relation →
        relation.importPath ≠ table.importPath) := by
  constructor
  · constructor
    · intro hacyclic
      let targets := ((tables.flatMap (·.relations)).map Relation.importPath).toFinset
      have htargets : ∀ path imported, Imports settings tables path imported →
          imported ∈ targets := by
        intro path imported h
        obtain ⟨table, htable, _, relation, hrelation, _, rfl⟩ := (imports_iff hfiles).mp h
        rw [List.mem_toFinset]
        exact List.mem_map_of_mem (List.mem_flatMap.mpr ⟨table, htable, hrelation⟩)
      obtain ⟨rank, hrank⟩ := exists_rank htargets hacyclic
      refine ⟨rank, ?_⟩
      intro table htable relation hrelation hembeds
      apply hrank
      exact (imports_iff hfiles).mpr ⟨table, htable, rfl, relation, hrelation, hembeds, rfl⟩
    · rintro ⟨rank, hrank⟩ path hcycle
      have hedge : ∀ path imported, Imports settings tables path imported →
          rank imported < rank path := by
        intro path imported h
        obtain ⟨table, htable, rfl, relation, hrelation, hembeds, rfl⟩ := (imports_iff hfiles).mp h
        exact hrank table htable relation hrelation hembeds
      exact (rank_lt_of_transGen hedge hcycle).false
  · constructor
    · intro hself table htable relation hrelation hembeds hsame
      apply hself table.importPath
      exact (imports_iff hfiles).mpr ⟨table, htable, rfl, relation, hrelation, hembeds, hsame⟩
    · intro hnone path hself
      obtain ⟨table, htable, rfl, relation, hrelation, hembeds, hsame⟩ :=
        (imports_iff hfiles).mp hself
      exact hnone table htable relation hrelation hembeds hsame

end Imports

namespace Table

/-- A customer with an address. -/
def customer : Table :=
  ofNames "shop" "customer" ["id", "address_id"] [
    ⟨"fk_address", "shop", "address", .zeroOneOrMore, [⟨1, "address_id", "id"⟩]⟩]

/-- An order of a customer. -/
def order : Table :=
  ofNames "shop" "order" ["id", "customer_id"] [
    ⟨"fk_customer", "shop", "customer", .zeroOneOrMore, [⟨1, "customer_id", "id"⟩]⟩]

def orders : List Table := [order, customer, ofNames "shop" "address" ["id"] []]

def orderRank (path : String) : ℕ :=
  if path = "shop/order.proto" then 2 else if path = "shop/customer.proto" then 1 else 0

theorem acyclic_imports_orders :
    (∀ table ∈ orders, ∃ file, (table.protoFile {} true).result = .ok file) ∧
      ∀ path, ¬ Relation.TransGen (Imports {} orders) path path := by
  have hresolvable : ∀ table ∈ orders, table.Resolvable := by decide
  have hfiles : ∀ table ∈ orders, ∃ file, (table.protoFile {} true).result = .ok file :=
    fun table htable => exists_protoFile {} (hresolvable table htable)
  exact ⟨hfiles, (acyclic_imports_iff hfiles).1.mpr ⟨orderRank, by decide +kernel⟩⟩

/-- A category with the category that it is part of. -/
def category : Table :=
  ofNames "shop" "category" ["id", "parent_id"] [
    ⟨"fk_parent", "shop", "category", .zeroOneOrMore, [⟨1, "parent_id", "id"⟩]⟩]

/-- The file of a table that refers to itself imports itself. -/
theorem not_acyclic_imports_category :
    ¬ ∀ (σ : Type) (catalog : Catalog σ) (settings : GeneratorSettings) (proto : ProtoSettings)
      (world after : σ) (database : Database),
      (catalog.readDatabase settings).Returns world database after →
      ∀ tables : List Table, (∀ table ∈ tables, table ∈ database.tables ∧
          ∃ file, (table.protoFile proto true).result = .ok file) →
        ∀ path, ¬ Relation.TransGen (Imports proto tables) path path := by
  intro h
  let settings : GeneratorSettings := { schemas := ["shop"], embedRelationships := true }
  have hread : ((CatalogScript.ofTables [category]).catalog.readDatabase settings).Returns ()
      ⟨"sqlite", [⟨"shop", [category]⟩]⟩ () := rfl
  have hfile : ∃ file, (category.protoFile {} true).result = .ok file :=
    exists_protoFile {} (by decide)
  have hself : Imports {} [category] "shop/category.proto" "shop/category.proto" := by
    obtain ⟨file, hfile⟩ := hfile
    refine ⟨category, List.mem_singleton_self _, by decide, file, hfile, ?_⟩
    rw [mem_foreignImports_iff hfile]
    decide
  refine h Unit _ settings {} () () _ hread [category] ?_ _ (.single hself)
  intro table htable
  rw [List.mem_singleton.mp htable]
  exact ⟨List.mem_singleton_self _, hfile⟩

end Table

end RelProto
