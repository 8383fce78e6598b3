import RelProto.Proofs.Field.Layout
import RelProto.Proofs.Text.FreshName

/-! The names of relation fields: for each foreign table the first numbered names that no plain
column has. Names for one table differ, but those for two tables can meet. -/
namespace RelProto

open Text (freeAmong freeNames)

namespace Field

/-- The field stands for a relation to the foreign table. -/
def isFor (foreignTable : String) : Field → Bool
  | plain _ => false
  | reference _ target _ => target.relation.foreignTable == foreignTable

@[simp] theorem isFor_foreignTable (column : Column) (target : Reference) (name : String) :
    (reference column target name).isFor target.relation.foreignTable = true :=
  beq_self_eq_true _

/-- The names of the fields for relations to the foreign table. -/
def namesFor (foreignTable : String) (fields : List Field) : List String :=
  (fields.filter (isFor foreignTable)).map Field.name

section NamesFor

variable {foreignTable : String} {fields : List Field} {column : Column}

@[simp] theorem namesFor_plain :
    namesFor foreignTable (plain column :: fields) = namesFor foreignTable fields := by
  rw [namesFor, List.filter_cons_of_neg (by simp [isFor])]
  rfl

lemma namesFor_reference_of_eq {target : Reference} {name : String}
    (h : target.relation.foreignTable = foreignTable) :
    namesFor foreignTable (reference column target name :: fields) =
      name :: namesFor foreignTable fields := by
  rw [namesFor, List.filter_cons_of_pos (by simpa [isFor] using h)]
  rfl

lemma namesFor_reference_of_ne {target : Reference} {name : String}
    (h : target.relation.foreignTable ≠ foreignTable) :
    namesFor foreignTable (reference column target name :: fields) =
      namesFor foreignTable fields := by
  rw [namesFor, List.filter_cons_of_neg (by simpa [isFor] using h)]
  rfl

end NamesFor

end Field

namespace Table

/-- How many of the references are to the foreign table. -/
def countFor (foreignTable : String) (references : List Reference) : Nat :=
  references.countP (·.relation.foreignTable = foreignTable)

/-- How many names the counters hold for the foreign table. -/
def tried (foreignTable : String) (counts : List (String × Nat)) : Nat :=
  (counts.lookup foreignTable).getD 0

section Counters

variable {foreignTable : String} {target : Reference} {rest : List Reference}

lemma countFor_cons_of_eq (h : target.relation.foreignTable = foreignTable) :
    countFor foreignTable (target :: rest) = countFor foreignTable rest + 1 :=
  List.countP_cons_of_pos (by simpa using h)

lemma countFor_cons_of_ne (h : target.relation.foreignTable ≠ foreignTable) :
    countFor foreignTable (target :: rest) = countFor foreignTable rest :=
  List.countP_cons_of_neg (by simpa using h)

lemma length_namesFor (foreignTable : String) (fields : List Field) :
    (Field.namesFor foreignTable fields).length =
      countFor foreignTable (fields.filterMap Field.reference?) := by
  induction fields with
  | nil => rfl
  | cons field rest ih =>
    cases field with
    | plain column => rw [Field.namesFor_plain, ih]; rfl
    | reference column target name =>
      have hcons : (Field.reference column target name :: rest).filterMap Field.reference? =
          target :: rest.filterMap Field.reference? := rfl
      rw [hcons]
      by_cases hbase : target.relation.foreignTable = foreignTable
      · rw [Field.namesFor_reference_of_eq hbase, countFor_cons_of_eq hbase, List.length_cons, ih]
      · rw [Field.namesFor_reference_of_ne hbase, countFor_cons_of_ne hbase, ih]

@[simp] theorem tried_nil : tried foreignTable [] = 0 := rfl

@[simp] theorem tried_cons_self (n : Nat) (counts : List (String × Nat)) :
    tried foreignTable ((foreignTable, n) :: counts) = n := by
  simp [tried]

lemma tried_cons_of_ne {base : String} (h : base ≠ foreignTable) (n : Nat)
    (counts : List (String × Nat)) :
    tried foreignTable ((base, n) :: counts) = tried foreignTable counts := by
  have hne : (foreignTable == base) = false := by simpa using h.symm
  rw [tried, List.lookup_cons, hne]
  rfl

end Counters

/-- The place of the next name for the foreign table. -/
def nextIndex (taken : List String) (counts : List (String × Nat)) (foreignTable : String) : Nat :=
  Text.freshIndex foreignTable taken (tried foreignTable counts)

lemma nameFields_reference (taken : List String) (counts : List (String × Nat)) (column : Column)
    (target : Reference) (rest : List (Column × Option Reference)) :
    nameFields taken counts ((column, some target) :: rest) =
      .reference column target (Text.numberedName target.relation.foreignTable
        (nextIndex taken counts target.relation.foreignTable)) ::
      nameFields taken ((target.relation.foreignTable,
        nextIndex taken counts target.relation.foreignTable + 1) :: counts) rest := rfl

/-- The counters that are left when all places have their names. -/
def countsAfter (taken : List String) (counts : List (String × Nat)) :
    List (Column × Option Reference) → List (String × Nat)
  | [] => counts
  | (_, none) :: rest => countsAfter taken counts rest
  | (_, some target) :: rest =>
    let base := target.relation.foreignTable
    countsAfter taken ((base, nextIndex taken counts base + 1) :: counts) rest

/-- Naming goes on with these counters. -/
theorem nameFields_append (taken : List String) (counts : List (String × Nat))
    (placed more : List (Column × Option Reference)) :
    nameFields taken counts (placed ++ more) =
      nameFields taken counts placed ++ nameFields taken (countsAfter taken counts placed) more := by
  induction placed generalizing counts with
  | nil => rfl
  | cons place rest ih =>
    obtain ⟨column, _ | target⟩ := place
    · rw [List.cons_append, nameFields, nameFields, ih, List.cons_append]
      rfl
    · rw [List.cons_append, nameFields_reference, nameFields_reference, ih, List.cons_append]
      rfl

/-- The counter of one foreign table is moved by its own relations only. They get the names that are
free among all that were tried. -/
theorem namesFor_nameFields (foreignTable : String) (taken : List String)
    (counts : List (String × Nat)) (placed : List (Column × Option Reference)) :
    ∃ n, tried foreignTable (countsAfter taken counts placed) = tried foreignTable counts + n ∧
      Field.namesFor foreignTable (nameFields taken counts placed) =
        freeAmong foreignTable taken (tried foreignTable counts) n := by
  induction placed generalizing counts with
  | nil => exact ⟨0, rfl, rfl⟩
  | cons place rest ih =>
    obtain ⟨column, _ | target⟩ := place
    · exact ih counts
    · rw [nameFields_reference, countsAfter]
      by_cases hbase : target.relation.foreignTable = foreignTable
      · subst hbase
        obtain ⟨skipped, hskipped⟩ := Nat.exists_eq_add_of_le
          (Text.le_freshIndex target.relation.foreignTable taken
            (tried target.relation.foreignTable counts))
        obtain ⟨n, htried, hnames⟩ := ih ((target.relation.foreignTable,
          nextIndex taken counts target.relation.foreignTable + 1) :: counts)
        rw [tried_cons_self] at htried hnames
        rw [nextIndex, hskipped] at htried hnames
        refine ⟨skipped + 1 + n, ?_, ?_⟩
        · rw [nextIndex, hskipped, htried]
          omega
        · rw [Field.namesFor_reference_of_eq rfl, nextIndex, hskipped, hnames,
            Text.freeAmong_append, Text.freeAmong_of_freshIndex_eq hskipped]
          rfl
      · obtain ⟨n, htried, hnames⟩ := ih ((target.relation.foreignTable,
          nextIndex taken counts target.relation.foreignTable + 1) :: counts)
        rw [tried_cons_of_ne hbase] at htried hnames
        exact ⟨n, htried, by rw [Field.namesFor_reference_of_ne hbase, hnames]⟩

lemma plainNames_embeddings (table : Table) :
    plainNames table.embeddings table.columns = table.plainColumns.map (·.name) := by
  rw [plainNames, List.filter_map, plainColumns]
  congr 1
  apply List.filter_congr
  intro column hcolumn
  rw [Function.comp_apply, Bool.eq_iff_iff, decide_eq_true_iff, plain_iff hcolumn]
  simp

/-- The names that relations to the foreign table get: as many as the table has such relations, the
first ones that no plain column has. -/
def relationNames (table : Table) (foreignTable : String) : List String :=
  freeNames foreignTable (table.plainColumns.map (·.name)) (countFor foreignTable table.embeddings)

section Fields

variable {table : Table} {fields : List Field} (h : table.resolvedFields.result = .ok fields)
  (hnames : (table.columns.map (·.name)).Nodup)
include h hnames

lemma length_namesFor_eq (foreignTable : String) :
    (Field.namesFor foreignTable fields).length = countFor foreignTable table.embeddings := by
  rw [length_namesFor]
  exact (references_perm h hnames).countP_eq _

theorem namesFor_eq (foreignTable : String) :
    Field.namesFor foreignTable fields = table.relationNames foreignTable := by
  have hlength := length_namesFor_eq h hnames foreignTable
  obtain ⟨_, rfl⟩ := (resolvedFields_eq_ok_iff table fields).mp h
  obtain ⟨n, _, hfree⟩ := namesFor_nameFields foreignTable
    (plainNames table.embeddings table.columns) []
    (table.columns.filterMap (placement table.embeddings))
  rw [fieldsFor] at hlength ⊢
  rw [hfree, tried_nil] at hlength ⊢
  rw [relationNames, ← hlength, ← plainNames_embeddings, Text.freeNames_length_freeAmong]

lemma mem_relationNames {field : Field} {foreignTable : String} (hfield : field ∈ fields)
    (hfor : field.isFor foreignTable) : field.name ∈ table.relationNames foreignTable := by
  rw [← namesFor_eq h hnames]
  exact List.mem_map_of_mem (List.mem_filter.mpr ⟨hfield, hfor⟩)

/-- Two fields for one foreign table have different names. -/
lemma eq_of_isFor_of_name_eq {field other : Field} {foreignTable : String} (hfield : field ∈ fields)
    (hother : other ∈ fields) (hfor : field.isFor foreignTable) (hfor' : other.isFor foreignTable)
    (hname : field.name = other.name) : field = other := by
  have hnodup : (Field.namesFor foreignTable fields).Nodup := by
    rw [namesFor_eq h hnames]
    exact Text.nodup_freeNames _ _ _
  exact List.inj_on_of_nodup_map hnodup (List.mem_filter.mpr ⟨hfield, hfor⟩)
    (List.mem_filter.mpr ⟨hother, hfor'⟩) hname

lemma nodup_fields : fields.Nodup := (nodup_column_names h hnames).of_map

omit hnames in
lemma mem_plainColumns_names {column : Column} (hfield : .plain column ∈ fields) :
    column.name ∈ table.plainColumns.map (·.name) := by
  obtain ⟨hcolumn, hplain⟩ := (plain_mem_iff h).mp hfield
  exact List.mem_map_of_mem (List.mem_filter.mpr ⟨hcolumn, by simpa using hplain⟩)

/-- A relation field is not called like a plain one. -/
lemma notMem_plainColumns_names {column : Column} {target : Reference} {name : String}
    (hfield : .reference column target name ∈ fields) :
    name ∉ table.plainColumns.map (·.name) :=
  Text.notMem_of_mem_freeNames
    (mem_relationNames h hnames hfield (Field.isFor_foreignTable column target name))

lemma disjoint_relationNames (hnodup : (fields.map Field.name).Nodup) {first second : String}
    (hne : first ≠ second) : (table.relationNames first).Disjoint (table.relationNames second) := by
  intro name hname hname'
  rw [← namesFor_eq h hnames] at hname hname'
  obtain ⟨field, hfield, rfl⟩ := List.mem_map.mp hname
  obtain ⟨other, hother, hsame⟩ := List.mem_map.mp hname'
  obtain ⟨hmem, hfor⟩ := List.mem_filter.mp hfield
  obtain ⟨hmem', hfor'⟩ := List.mem_filter.mp hother
  obtain rfl := List.inj_on_of_nodup_map hnodup hmem' hmem hsame
  cases other with
  | plain column => simp [Field.isFor] at hfor
  | reference column target name =>
    simp only [Field.isFor, beq_iff_eq] at hfor hfor'
    exact hne (hfor.symm.trans hfor')

end Fields

/-- The field names of a table with distinct column names are distinct exactly if no name for one
foreign table is also one for another. -/
theorem nodup_names_iff (table : Table) (fields : List Field)
    (hnames : (table.columns.map (·.name)).Nodup) (h : table.resolvedFields.result = .ok fields) :
    (fields.map Field.name).Nodup ↔
      ∀ first ∈ table.embeddings, ∀ second ∈ table.embeddings,
        first.relation.foreignTable ≠ second.relation.foreignTable →
          (table.relationNames first.relation.foreignTable).Disjoint
            (table.relationNames second.relation.foreignTable) := by
  constructor
  · intro hnodup first _ second _ hne
    exact disjoint_relationNames h hnames hnodup hne
  · intro hdisjoint
    apply (nodup_fields h hnames).map_on
    intro field hfield other hother hname
    cases field with
    | plain column =>
      cases other with
      | plain column' =>
        have hcolumn := ((plain_mem_iff h).mp hfield).1
        have hcolumn' := ((plain_mem_iff h).mp hother).1
        rw [List.inj_on_of_nodup_map hnames hcolumn hcolumn' hname]
      | reference column' target' name' =>
        obtain rfl : column.name = name' := hname
        exact absurd (mem_plainColumns_names h hfield) (notMem_plainColumns_names h hnames hother)
    | reference column target name =>
      cases other with
      | plain column' =>
        obtain rfl : name = column'.name := hname
        exact absurd (mem_plainColumns_names h hother) (notMem_plainColumns_names h hnames hfield)
      | reference column' target' name' =>
        obtain rfl : name = name' := hname
        have hfor := Field.isFor_foreignTable column target name
        have hfor' := Field.isFor_foreignTable column' target' name
        by_cases hsame : target.relation.foreignTable = target'.relation.foreignTable
        · exact eq_of_isFor_of_name_eq h hnames hfield hother hfor (hsame ▸ hfor') rfl
        · have hmem := ((reference_mem_iff h).mp ⟨name, hfield⟩).2.1
          have hmem' := ((reference_mem_iff h).mp ⟨name, hother⟩).2.1
          have hin : name ∈ table.relationNames target.relation.foreignTable :=
            mem_relationNames h hnames hfield hfor
          have hin' : name ∈ table.relationNames target'.relation.foreignTable :=
            mem_relationNames h hnames hother hfor'
          exact (hdisjoint target hmem target' hmem' hsame hin hin').elim

/-- Two relations to one table, and one to a table that is called like the second of them. -/
def parcel : Table :=
  ofNames "shop" "parcel" ["payer", "receiver", "sender"] [
    ⟨"fk_payer", "shop", "address", .zeroOneOrMore, [⟨1, "payer", "id"⟩]⟩,
    ⟨"fk_receiver", "shop", "address", .zeroOneOrMore, [⟨1, "receiver", "id"⟩]⟩,
    ⟨"fk_sender", "shop", "address2", .zeroOneOrMore, [⟨1, "sender", "id"⟩]⟩]

lemma resolvedFields_parcel :
    parcel.resolvedFields.result = .ok (parcel.fieldsFor parcel.embeddings) :=
  resolvedFields_of_resolvable (by decide)

theorem nodup_names_iff_parcel :
    (parcel.columns.map (·.name)).Nodup ∧
    parcel.resolvedFields.result = .ok (parcel.fieldsFor parcel.embeddings) ∧
    (((parcel.fieldsFor parcel.embeddings).map Field.name).Nodup ↔
      ∀ first ∈ parcel.embeddings, ∀ second ∈ parcel.embeddings,
        first.relation.foreignTable ≠ second.relation.foreignTable →
          (parcel.relationNames first.relation.foreignTable).Disjoint
            (parcel.relationNames second.relation.foreignTable)) :=
  ⟨by decide, resolvedFields_parcel, nodup_names_iff parcel _ (by decide) resolvedFields_parcel⟩

/-- The second address and the sender have one name, though the column names are distinct. -/
theorem not_nodup_names_parcel :
    (parcel.columns.map (·.name)).Nodup ∧
    ∃ fields, parcel.resolvedFields.result = .ok fields ∧
      fields.map Field.name = ["address", "address2", "address2"] ∧
      ¬ (fields.map Field.name).Nodup :=
  ⟨by decide, parcel.fieldsFor parcel.embeddings, resolvedFields_parcel, by decide +kernel,
    by decide +kernel⟩

end Table

end RelProto
