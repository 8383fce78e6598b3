import RelProto.Proofs.Config
import RelProto.Proofs.Text.Split
import RelProto.Table

/-! Which columns are left out. An entry is for the tables whose qualified name it has, and the names
that are refused are those that no table with a schema can have. -/
namespace RelProto

/-- A schema has a name, which does not begin with a dot. -/
def IsSchemaName (schema : String) : Prop := schema ≠ "" ∧ schema.toList.head? ≠ some '.'

instance (schema : String) : Decidable (IsSchemaName schema) := inferInstanceAs (Decidable (_ ∧ _))

variable {schema name text : String}

lemma isSchemaName_of_notMem (hschema : schema ≠ "") (hdotless : '.' ∉ schema.toList) :
    IsSchemaName schema :=
  ⟨hschema, fun hfirst => hdotless (List.mem_of_head? hfirst)⟩

/-- Whatever dots the names have, something stands before the first dot and something behind it. -/
lemma IsSchemaName.isQualified (h : IsSchemaName schema) (hname : name ≠ "") :
    isQualified (schema ++ "." ++ name) = true := by
  rw [isQualified_iff]
  by_cases hdot : '.' ∈ schema.toList
  · obtain ⟨front, back, hchars, hdotless⟩ := List.eq_append_cons_of_mem hdot
    have hfront : front ≠ [] := by
      rintro rfl
      exact h.2 (by rw [hchars]; rfl)
    refine ⟨.ofList front, .ofList back ++ "." ++ name, ?_, ?_, ?_, ?_⟩
    · simpa using hfront
    · simp [hname]
    · rwa [String.toList_ofList]
    · rw [String.ext_iff]
      simp [hchars]
  · exact ⟨schema, name, h.1, hname, hdot, rfl⟩

/-- The names that are accepted are those that a table with a schema can have. -/
theorem isQualified_iff_exists : isQualified text = true ↔
    ∃ schema name, IsSchemaName schema ∧ name ≠ "" ∧ text = schema ++ "." ++ name := by
  constructor
  · intro h
    obtain ⟨schema, name, hschema, hname, hdotless, htext⟩ := isQualified_iff.mp h
    exact ⟨schema, name, isSchemaName_of_notMem hschema hdotless, hname, htext⟩
  · rintro ⟨schema, name, hschema, hname, rfl⟩
    exact hschema.isQualified hname

lemma ExcludedColumns.validate_eq_unqualified_iff {entry : ExcludedColumns} :
    entry.validate = .error (.unqualifiedTable entry.table) ↔ isQualified entry.table = false := by
  rw [validate]
  cases isQualified entry.table <;> cases entry.columns.any String.isEmpty <;>
    simp [refuseIf, bind, Except.bind]

lemma GeneratorSettings.excludesColumn_iff {settings : GeneratorSettings} {column : String} :
    settings.excludesColumn schema name column = true ↔
      ∃ entry ∈ settings.excludedColumns, entry.table = schema ++ "." ++ name ∧
        column ∈ entry.columns := by
  rw [excludesColumn, List.any_eq_true]
  simp only [Bool.and_eq_true, ExcludedColumns.isFor_iff, List.contains_iff_mem]

/-- A name is cut at its first dot, so it belongs to one table among those in schemas without dots.
-/
lemma ExcludedColumns.eq_of_isFor {entry : ExcludedColumns} {schema' name' : String}
    (hschema : '.' ∉ schema.toList) (hschema' : '.' ∉ schema'.toList)
    (h : entry.isFor schema name = true) (h' : entry.isFor schema' name' = true) :
    schema = schema' ∧ name = name' := by
  have hsame := (isFor_iff.mp h).symm.trans (isFor_iff.mp h')
  rw [String.append_assoc, String.append_assoc] at hsame
  exact Text.append_separator_inj rfl hschema hschema' hsame

/-- A column is left out exactly if an entry has the qualified name of its table and lists it. Every
table in a schema without dots can be named, and no entry is for two such tables. The names that are
refused are exactly those that no table has whose schema has a name. -/
theorem GeneratorSettings.excludesColumn_by_qualifiedName :
    (∀ (settings : GeneratorSettings) (table : Table) (column : String),
      settings.excludesColumn table.schema table.name column = true ↔
        ∃ entry ∈ settings.excludedColumns, entry.table = table.qualifiedName ∧
          column ∈ entry.columns) ∧
    (∀ schema name, schema ≠ "" → '.' ∉ schema.toList → name ≠ "" → ∀ columns,
      (ExcludedColumns.mk (schema ++ "." ++ name) columns).validate = .ok () ↔
        ∀ column ∈ columns, column ≠ "") ∧
    (∀ (entry : ExcludedColumns) (table other : Table), '.' ∉ table.schema.toList →
      '.' ∉ other.schema.toList →
      (table.schema, table.name) ≠ (other.schema, other.name) →
      ¬ (entry.isFor table.schema table.name = true ∧
        entry.isFor other.schema other.name = true)) ∧
    ∀ entry : ExcludedColumns, entry.validate = .error (.unqualifiedTable entry.table) ↔
      ∀ schema name, IsSchemaName schema → name ≠ "" → entry.isFor schema name = false := by
  refine ⟨?_, ?_, ?_, ?_⟩
  · intro settings table column
    exact excludesColumn_iff
  · intro schema name hschema hdotless hname columns
    rw [ExcludedColumns.validate_eq_ok_iff]
    constructor
    · intro hvalid
      exact hvalid.columns
    · intro hcolumns
      exact ⟨⟨schema, name, hschema, hname, hdotless, rfl⟩, hcolumns⟩
  · rintro entry table other htable hother hne ⟨hfor, hfor'⟩
    obtain ⟨hschema, hname⟩ := ExcludedColumns.eq_of_isFor htable hother hfor hfor'
    exact hne (Prod.ext hschema hname)
  · intro entry
    rw [ExcludedColumns.validate_eq_unqualified_iff, ← Bool.not_eq_true, isQualified_iff_exists]
    simp only [← Bool.not_eq_true, ExcludedColumns.isFor_iff]
    constructor
    · intro hnone schema name hschema hname htable
      exact hnone ⟨schema, name, hschema, hname, htable⟩
    · rintro hnone ⟨schema, name, hschema, hname, htable⟩
      exact hnone schema name hschema hname htable

/-- One entry for a table whose name has a dot, and one that no table can match. -/
def measureExclusions : GeneratorSettings where
  excludedColumns := [⟨"läden.größe.alt", ["note"]⟩, ⟨".größe", ["id"]⟩]

def oldMeasures : Table := ⟨"läden", "größe.alt", [], [], []⟩

def measures : Table := ⟨"läden", "größe", [], [], []⟩

theorem GeneratorSettings.excludesColumn_by_qualifiedName_oldMeasures :
    measureExclusions.excludesColumn oldMeasures.schema oldMeasures.name "note" = true ∧
      (ExcludedColumns.mk ("läden" ++ "." ++ "größe.alt") ["note"]).validate = .ok () ∧
      (∀ entry : ExcludedColumns, ¬ (entry.isFor oldMeasures.schema oldMeasures.name = true ∧
        entry.isFor measures.schema measures.name = true)) ∧
      (ExcludedColumns.mk ".größe" ["id"]).validate = .error (.unqualifiedTable ".größe") ∧
      (ExcludedColumns.mk ".größe" ["id"]).isFor "läden" "größe" = false := by
  obtain ⟨hexcludes, hvalid, happart, hrefused⟩ := excludesColumn_by_qualifiedName
  have hentry : (ExcludedColumns.mk ".größe" ["id"]).validate =
      .error (.unqualifiedTable ".größe") := by decide +kernel
  refine ⟨?_, ?_, ?_, hentry, ?_⟩
  · exact (hexcludes measureExclusions oldMeasures "note").mpr
      ⟨⟨"läden.größe.alt", ["note"]⟩, by decide, by decide +kernel, by decide⟩
  · exact (hvalid "läden" "größe.alt" (by decide) (by decide) (by decide) ["note"]).mpr (by decide)
  · intro entry
    exact happart entry oldMeasures measures (by decide) (by decide) (by decide)
  · exact (hrefused _).mp hentry "läden" "größe" (by decide) (by decide)

end RelProto
