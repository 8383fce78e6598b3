import Mathlib.Data.List.Basic
import Mathlib.Data.List.TakeDrop
import Mathlib.Data.List.TakeWhile
import Mathlib.Tactic.Lemma
import RelProto.Config.Document
import RelProto.Proofs.Except

/-! What a configuration satisfies that can be loaded: exactly the rules, as a structure. -/
namespace RelProto

@[simp] theorem refuseIf_eq_ok_iff {condition : Bool} {cause : ConfigFault} :
    refuseIf condition cause = .ok () ↔ condition = false := by
  cases condition <;> simp [refuseIf]

/-- A server has a name, a user and no port zero; a file needs only a name. -/
structure DatabaseSettings.Valid (settings : DatabaseSettings) : Prop where
  provider : settings.provider ≠ none
  database : settings.database ≠ ""
  host : settings.provider ≠ some .sqlite → settings.host ≠ ""
  user : settings.provider ≠ some .sqlite → settings.user ≠ ""
  port : settings.provider ≠ some .sqlite → settings.port ≠ some 0

/-- The table is a schema and a name with a dot between them, the first one. -/
structure ExcludedColumns.Valid (entry : ExcludedColumns) : Prop where
  qualified : ∃ schema name, schema ≠ "" ∧ name ≠ "" ∧ '.' ∉ schema.toList ∧
    entry.table = schema ++ "." ++ name
  columns : ∀ column ∈ entry.columns, column ≠ ""

structure GeneratorSettings.Valid (settings : GeneratorSettings) : Prop where
  listed : settings.schemas ≠ []
  schemas : ∀ name ∈ settings.schemas, name ≠ ""
  excludedTables : ∀ name ∈ settings.excludedTables, name ≠ ""
  excludedColumns : ∀ entry ∈ settings.excludedColumns, entry.Valid

structure Config.Valid (config : Config) : Prop where
  database : config.database.Valid
  protoPath : config.proto.path ≠ ""
  generator : config.generator.Valid

lemma isEmpty_eq_false_iff {text : String} : text.isEmpty = false ↔ text ≠ "" := by
  rw [← Bool.not_eq_true, String.isEmpty_iff]

lemma any_isEmpty_eq_false_iff {texts : List String} :
    texts.any String.isEmpty = false ↔ ∀ text ∈ texts, text ≠ "" := by
  rw [List.any_eq_false]
  simp only [Bool.not_eq_true, isEmpty_eq_false_iff]

theorem DatabaseSettings.validate_eq_ok_iff {settings : DatabaseSettings} :
    settings.validate = .ok () ↔ settings.Valid := by
  rw [validate]
  rcases hprovider : settings.provider with _ | provider
  · constructor
    · nofun
    · intro hvalid
      exact absurd hprovider hvalid.provider
  · simp only [andThen_eq_ok_iff, refuseIf_eq_ok_iff, isEmpty_eq_false_iff, validateServer]
    by_cases hsqlite : provider = .sqlite
    · subst hsqlite
      constructor
      · rintro ⟨hdatabase, _⟩
        exact ⟨by simp [hprovider], hdatabase, absurd hprovider, absurd hprovider, absurd hprovider⟩
      · intro hvalid
        exact ⟨hvalid.database, rfl⟩
    · have hserver : settings.provider ≠ some .sqlite := by simpa [hprovider] using hsqlite
      simp only [hsqlite, if_false, andThen_eq_ok_iff, refuseIf_eq_ok_iff, isEmpty_eq_false_iff,
        beq_eq_false_iff_ne]
      constructor
      · rintro ⟨hdatabase, hhost, huser, hport⟩
        exact ⟨by simp [hprovider], hdatabase, fun _ => hhost, fun _ => huser, fun _ => hport⟩
      · intro hvalid
        exact ⟨hvalid.database, hvalid.host hserver, hvalid.user hserver, hvalid.port hserver⟩

lemma isQualified_iff {text : String} : isQualified text = true ↔
    ∃ schema name, schema ≠ "" ∧ name ≠ "" ∧ '.' ∉ schema.toList ∧
      text = schema ++ "." ++ name := by
  constructor
  · intro h
    rw [isQualified, List.span_eq_takeWhile_dropWhile] at h
    have hparts := List.takeWhile_append_dropWhile (p := (· != '.')) (l := text.toList)
    have hdotless : '.' ∉ text.toList.takeWhile (· != '.') := fun hdot => by
      simpa using List.mem_takeWhile_imp hdot
    rcases hrest : text.toList.dropWhile (· != '.') with _ | ⟨dot, name⟩
    · simp [hrest] at h
    · have hdot := List.head_dropWhile_not (· != '.') (l := text.toList) (by simp [hrest])
      simp only [hrest, List.head_cons, bne_eq_false_iff_eq] at hdot
      subst hdot
      rw [hrest] at h hparts
      obtain ⟨hschema, hname⟩ : text.toList.takeWhile (· != '.') ≠ [] ∧ name ≠ [] := by
        simpa using h
      refine ⟨.ofList (text.toList.takeWhile (· != '.')), .ofList name, ?_, ?_, ?_, ?_⟩
      · simpa using hschema
      · simpa using hname
      · rwa [String.toList_ofList]
      · rw [String.ext_iff]
        simp [hparts]
  · rintro ⟨schema, name, hschema, hname, hdotless, rfl⟩
    have hall : ∀ c ∈ schema.toList, (c != '.') = true := by
      intro c hc
      rw [bne_iff_ne]
      rintro rfl
      exact hdotless hc
    rw [isQualified, List.span_eq_takeWhile_dropWhile]
    simp only [String.toList_append, List.append_assoc, List.takeWhile_append_of_pos hall,
      List.dropWhile_append_of_pos hall]
    simp [hschema, hname]

theorem ExcludedColumns.validate_eq_ok_iff {entry : ExcludedColumns} :
    entry.validate = .ok () ↔ entry.Valid := by
  rw [validate]
  simp only [andThen_eq_ok_iff, refuseIf_eq_ok_iff, Bool.not_eq_false', isQualified_iff,
    any_isEmpty_eq_false_iff]
  constructor
  · rintro ⟨hqualified, hcolumns⟩
    exact ⟨hqualified, hcolumns⟩
  · intro hvalid
    exact ⟨hvalid.qualified, hvalid.columns⟩

lemma ExcludedColumns.isFor_iff {entry : ExcludedColumns} {schema name : String} :
    entry.isFor schema name = true ↔ entry.table = schema ++ "." ++ name := by
  have htext : entry.table = schema ++ "." ++ name ↔
      schema.toList ++ '.' :: name.toList = entry.table.toList := by
    rw [String.ext_iff, eq_comm]
    simp
  rw [htext, ← List.isPrefixOf?_eq_some_iff_append_eq, isFor]
  split
  · next rest hrest => simp [hrest]
  · next hnone => simpa using fun h => hnone _ h

/-- An entry excludes its columns from a table that has a name and a schema. -/
lemma ExcludedColumns.Valid.exists_isFor {entry : ExcludedColumns} (h : entry.Valid) :
    ∃ schema name, schema ≠ "" ∧ name ≠ "" ∧ entry.isFor schema name = true := by
  obtain ⟨schema, name, hschema, hname, _, htable⟩ := h.qualified
  exact ⟨schema, name, hschema, hname, isFor_iff.mpr htable⟩

theorem GeneratorSettings.validate_eq_ok_iff {settings : GeneratorSettings} :
    settings.validate = .ok () ↔ settings.Valid := by
  rw [validate]
  simp only [andThen_eq_ok_iff, refuseIf_eq_ok_iff, any_isEmpty_eq_false_iff,
    List.isEmpty_eq_false_iff, forM_eq_ok_iff, ExcludedColumns.validate_eq_ok_iff]
  constructor
  · rintro ⟨hlisted, hschemas, htables, hcolumns⟩
    exact ⟨hlisted, hschemas, htables, hcolumns⟩
  · intro hvalid
    exact ⟨hvalid.listed, hvalid.schemas, hvalid.excludedTables, hvalid.excludedColumns⟩

namespace Config

variable {config : Config}

lemma validate_of_ofYaml {text : String} (h : ofYaml text = .ok config) :
    config.validate = .ok () := by
  rw [ofYaml] at h
  split at h
  · cases h
  · obtain ⟨_, hvalid, hsame⟩ := bind_eq_ok_iff.mp h
    cases hsame
    exact hvalid

/-- A configuration that can be loaded satisfies all rules. -/
theorem validate_of_load {tree : FileTree} {path : String} (h : load tree path = .ok config) :
    config.validate = .ok () := by
  rw [load] at h
  rcases hread : tree.readFile path with fault | text
  · rw [hread] at h
    cases h
  · rw [hread, ofFile] at h
    rcases hyaml : ofYaml text with fault | other
    · rw [hyaml] at h
      cases h
    · rw [hyaml] at h
      cases h
      exact validate_of_ofYaml hyaml

/-- The rules accept exactly the valid configurations. -/
theorem validate_eq_ok_iff : config.validate = .ok () ↔ config.Valid := by
  rw [validate]
  simp only [andThen_eq_ok_iff, refuseIf_eq_ok_iff, isEmpty_eq_false_iff,
    DatabaseSettings.validate_eq_ok_iff, GeneratorSettings.validate_eq_ok_iff]
  constructor
  · rintro ⟨hdatabase, hpath, hgenerator⟩
    exact ⟨hdatabase, hpath, hgenerator⟩
  · intro hvalid
    exact ⟨hvalid.database, hvalid.protoPath, hvalid.generator⟩

/-- At least one schema is configured, and none without a name. -/
theorem schemas_of_validate (h : config.validate = .ok ()) :
    config.generator.schemas ≠ [] ∧ ∀ name ∈ config.generator.schemas, name ≠ "" := by
  have hvalid := (validate_eq_ok_iff.mp h).generator
  exact ⟨hvalid.listed, hvalid.schemas⟩

end Config

end RelProto
