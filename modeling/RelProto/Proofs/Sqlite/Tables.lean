import Mathlib.Data.List.Sort
import Mathlib.Data.List.TakeWhile
import Mathlib.Data.String.Basic
import RelProto.Proofs.Sqlite.Query
import RelProto.Sqlite.Catalog
import RelProto.Sqlite.Pragma

/-! The tables of a SQLite schema. All names are listed in their order but those that match a pattern,
which is meant for the names that SQLite keeps for itself and takes in some others. -/
namespace RelProto.Sqlite

section Pattern

/-- A text matches a pattern: a percent sign stands for any text, an underscore for any one
character, and a letter of ASCII for both cases of it. -/
inductive Matches : List Char → List Char → Prop
  | nil : Matches [] []
  | any {pattern chars : List Char} (skipped : List Char) (rest : Matches pattern chars) :
      Matches ('%' :: pattern) (skipped ++ chars)
  | one {pattern chars : List Char} (c : Char) (rest : Matches pattern chars) :
      Matches ('_' :: pattern) (c :: chars)
  | same {p c : Char} {pattern chars : List Char} (hp : p ≠ '%' ∧ p ≠ '_')
      (hsame : p.toLower = c.toLower) (rest : Matches pattern chars) :
      Matches (p :: pattern) (c :: chars)

/-- What a pattern is matched with: a text ends at its first NUL. -/
def visible (name : String) : List Char := name.toList.takeWhile (· != '\x00')

/-- The name begins with the letters of `sqlite`, in any case. -/
def BeginsReserved (name : String) : Prop :=
  (name.toList.take 6).map Char.toLower = "sqlite".toList

/-- The letters are followed by an underscore. SQLite keeps these names for itself. -/
def IsReserved (name : String) : Prop := BeginsReserved name ∧ name.toList[6]? = some '_'

/-- The letters are followed by another character. -/
def IsMistaken (name : String) : Prop :=
  BeginsReserved name ∧ ∃ c ∈ name.toList[6]?, c ≠ '_' ∧ c ≠ '\x00'

instance (name : String) : Decidable (BeginsReserved name) := inferInstanceAs (Decidable (_ = _))

instance (name : String) : Decidable (IsReserved name) := inferInstanceAs (Decidable (_ ∧ _))

instance (name : String) : Decidable (IsMistaken name) :=
  decidable_of_iff
    (BeginsReserved name ∧ (name.toList[6]?).any fun c => c ≠ '_' ∧ c ≠ '\x00')
    (by simp only [IsMistaken, Option.any_eq_true, decide_eq_true_eq]; rfl)

variable {pattern chars : List Char} {name : String}

/-- A word in front of a pattern is matched letter by letter. -/
lemma matches_append_iff {word : List Char} (hword : ∀ p ∈ word, p ≠ '%' ∧ p ≠ '_') :
    Matches (word ++ pattern) chars ↔ ∃ front rest, chars = front ++ rest ∧
      front.map Char.toLower = word.map Char.toLower ∧ Matches pattern rest := by
  induction word generalizing chars with
  | nil => simp
  | cons p word ih =>
    rw [List.forall_mem_cons] at hword
    constructor
    · intro h
      cases h with
      | any skipped rest => exact absurd rfl hword.1.1
      | one c rest => exact absurd rfl hword.1.2
      | @same _ c _ _ hp hsame hmore =>
        obtain ⟨front, rest, rfl, hfront, hrest⟩ := (ih hword.2).mp hmore
        exact ⟨c :: front, rest, rfl, by simp [hsame, hfront], hrest⟩
    · rintro ⟨_ | ⟨c, front⟩, rest, rfl, hfront, hrest⟩
      · cases hfront
      · obtain ⟨hsame, hfront⟩ := List.cons.inj hfront
        exact .same hword.1 hsame.symm ((ih hword.2).mpr ⟨front, rest, rfl, hfront, hrest⟩)

lemma matches_oneOrMore_iff : Matches ['_', '%'] chars ↔ chars ≠ [] := by
  constructor
  · rintro h rfl
    cases h
  · intro h
    obtain ⟨c, rest, rfl⟩ := List.exists_cons_of_ne_nil h
    have hrest : Matches ['%'] (rest ++ []) := .any rest .nil
    exact .one c (by simpa using hrest)

lemma matchesReserved_iff : Value.matchesReserved name = true ↔
    ((visible name).take 6).map Char.toLower = "sqlite".toList ∧ 6 < (visible name).length := by
  rw [Value.matchesReserved, Bool.and_eq_true, beq_iff_eq, decide_eq_true_iff]
  rfl

/-- The names that are passed over are those that match the pattern. -/
theorem matchesReserved_iff_matches :
    Value.matchesReserved name = true ↔ Matches "sqlite_%".toList (visible name) := by
  have hpattern : "sqlite_%".toList = "sqlite".toList ++ ['_', '%'] := by decide
  rw [matchesReserved_iff, hpattern, matches_append_iff (by simp)]
  simp only [matches_oneOrMore_iff]
  constructor
  · rintro ⟨hletters, hlength⟩
    refine ⟨(visible name).take 6, (visible name).drop 6, ?_, hletters, ?_⟩
    · rw [List.take_append_drop]
    · rw [Ne, List.drop_eq_nil_iff]
      omega
  · rintro ⟨front, rest, hname, hletters, hrest⟩
    have hfront : front.length = 6 := by simpa using congrArg List.length hletters
    have hpositive := List.length_pos_of_ne_nil hrest
    rw [hname, List.take_left' hfront, List.length_append]
    exact ⟨hletters, by omega⟩

/-- Where the letters are there, the pattern sees them, and what follows unless it is a NUL. -/
lemma begins_visible_iff :
    ((visible name).take 6).map Char.toLower = "sqlite".toList ∧ 6 < (visible name).length ↔
      BeginsReserved name ∧ ∃ c ∈ name.toList[6]?, c ≠ '\x00' := by
  constructor
  · rintro ⟨hletters, hlength⟩
    have hname : name.toList = visible name ++ name.toList.dropWhile (· != '\x00') :=
      List.takeWhile_append_dropWhile.symm
    have hseen : ∀ c ∈ visible name, c ≠ '\x00' := by
      intro c hc
      simpa using List.mem_takeWhile_imp hc
    refine ⟨?_, (visible name)[6], ?_, hseen _ (List.getElem_mem hlength)⟩
    · rwa [BeginsReserved, hname, List.take_append_of_le_length hlength.le]
    · rw [hname, List.getElem?_append_left hlength, List.getElem?_eq_getElem hlength]
      rfl
  · rintro ⟨hletters, c, hc, hnul⟩
    have hfront : (name.toList.take 6).length = 6 :=
      List.length_map Char.toLower ▸ congrArg List.length hletters
    have hname : name.toList = name.toList.take 6 ++ c :: name.toList.drop 7 := by
      obtain ⟨hlength, rfl⟩ := List.getElem?_eq_some_iff.mp hc
      rw [← List.drop_eq_getElem_cons, List.take_append_drop]
    have hall : ∀ d ∈ name.toList.take 6, (d != '\x00') = true := by
      intro d hd
      have hmem : d.toLower ∈ "sqlite".toList := hletters ▸ List.mem_map_of_mem hd
      rw [bne_iff_ne]
      rintro rfl
      revert hmem
      decide
    have hvisible : visible name =
        name.toList.take 6 ++ c :: (name.toList.drop 7).takeWhile (· != '\x00') := by
      rw [visible]
      conv_lhs => rw [hname]
      rw [List.takeWhile_append_of_pos hall, List.takeWhile_cons_of_pos (by simpa using hnul)]
    rw [hvisible, List.take_left' hfront, List.length_append, hfront]
    exact ⟨hletters, by simp⟩

/-- The pattern takes in more than the names that are reserved. -/
theorem matchesReserved_iff_or :
    Value.matchesReserved name = true ↔ IsReserved name ∨ IsMistaken name := by
  rw [matchesReserved_iff, begins_visible_iff, IsReserved, IsMistaken, ← and_or_left]
  apply and_congr_right
  intro _
  constructor
  · rintro ⟨c, hc, hnul⟩
    by_cases hunderscore : c = '_'
    · exact .inl (hunderscore ▸ hc)
    · exact .inr ⟨c, hc, hunderscore, hnul⟩
  · rintro (hc | ⟨c, hc, -, hnul⟩)
    · exact ⟨'_', hc, by decide⟩
    · exact ⟨c, hc, hnul⟩

lemma IsMistaken.not_isReserved (h : IsMistaken name) : ¬ IsReserved name := by
  obtain ⟨-, c, hc, hunderscore, -⟩ := h
  rintro ⟨-, hc'⟩
  exact hunderscore (Option.some.inj (hc.symm.trans hc'))

end Pattern

/-- The text of a name that is one. -/
def TableListRow.nameText (row : TableListRow) : String :=
  match row.name with
  | .text name => name
  | _ => ""

namespace Pragmas

/-- The names of the tables in the schema, in no particular order. -/
def tableNames (pragmas : Pragmas) (schema : String) : List String :=
  (pragmas.tableList.filter fun row =>
    row.schema.equals (.text schema) && row.type.equals (.text "table")).map TableListRow.nameText

/-- All objects have a text as their name. -/
def NamesObjects (pragmas : Pragmas) : Prop :=
  ∀ row ∈ pragmas.tableList, row.name = .text row.nameText

variable {pragmas : Pragmas} {schema : String}

/-- The names in the order of the answer. -/
def sortedNames (names : List String) : List String :=
  names.mergeSort fun name next => (compare name next).isLE

lemma pairwise_sortedNames (names : List String) : (sortedNames names).Pairwise (· ≤ ·) := by
  have hle : (fun name next : String => (compare name next).isLE) =
      fun name next => decide (name ≤ next) := by
    funext name next
    rw [Bool.eq_iff_iff, decide_eq_true_iff]
    exact Std.LawfulBCmp.isLE_iff_le
  rw [sortedNames, hle]
  exact List.pairwise_mergeSort' _ _

/-- The answer has the names that do not match the pattern. -/
lemma tableRows_eq (h : pragmas.NamesObjects) : pragmas.tableRows (.text schema) =
    (sortedNames ((pragmas.tableNames schema).filter (!Value.matchesReserved ·))).map
      fun name => [.text name] := by
  let listed (row : TableListRow) : Bool :=
    row.schema.equals (.text schema) && row.type.equals (.text "table")
  let rows := pragmas.tableList.filter fun row => listed row && row.name.isUnreserved
  have hname : ∀ row ∈ rows, row.name = .text row.nameText :=
    fun row hrow => h row (List.mem_of_mem_filter hrow)
  have hnames : rows.map TableListRow.nameText =
      (pragmas.tableNames schema).filter (!Value.matchesReserved ·) := by
    rw [tableNames, List.filter_map, List.filter_filter]
    congr 1
    apply List.filter_congr
    intro row hrow
    rw [h row hrow, Bool.and_comm]
    rfl
  have hsorted : (sortedOn (fun row => [row.name]) rows).map TableListRow.nameText =
      sortedNames (rows.map TableListRow.nameText) := by
    apply List.map_mergeSort
    intro row hrow next hnext
    simp only [sortedOn.order, hname row hrow, hname next hnext, Value.order, Ordering.then_eq]
  rw [← hnames, ← hsorted, List.map_map]
  apply List.map_congr_left
  intro row hrow
  rw [hname row ((List.mergeSort_perm _ _).mem_iff.mp hrow)]
  rfl

/-- The names that are listed, in their order. -/
def listedNames (pragmas : Pragmas) (schema : String) (excluded : List String) : List String :=
  (sortedNames ((pragmas.tableNames schema).filter (!Value.matchesReserved ·))).filter
    (!excluded.contains ·)

lemma perm_listedNames (pragmas : Pragmas) (schema : String) (excluded : List String) :
    (pragmas.listedNames schema excluded).Perm ((pragmas.tableNames schema).filter fun name =>
      ¬ IsReserved name ∧ ¬ IsMistaken name ∧ name ∉ excluded) := by
  refine ((List.mergeSort_perm _ _).filter _).trans (.of_eq ?_)
  rw [List.filter_filter]
  apply List.filter_congr
  intro name _
  rw [Bool.eq_iff_iff]
  simp only [Bool.and_eq_true, Bool.not_eq_true', ← Bool.not_eq_true, List.contains_iff_mem,
    matchesReserved_iff_or, decide_eq_true_iff, not_or, and_comm, and_assoc]

lemma tables_eq (h : pragmas.NamesObjects) (excluded : List String) :
    pragmas.connection.tables schema excluded = .ok (pragmas.listedNames schema excluded) := by
  have hanswer : pragmas.connection.answer (.tables schema) = .ok _ :=
    congrArg Except.ok (tableRows_eq h)
  rw [Connection.tables, Connection.select_eq_ok hanswer fun name _ => Cells.text_eq rfl, List.map_id']
  rfl

/-- The tables of a schema are listed in the order of their names, unless they are left out or their
names match the pattern. That is so of the names that are reserved, and of those with another
character instead of the underscore: exactly when one of these is not left out anyway, a table is
missing. -/
theorem tables_perm_iff (pragmas : Pragmas) (schema : String) (excluded : List String)
    (hnames : pragmas.NamesObjects) :
    (∀ name, Matches "sqlite_%".toList (visible name) ↔ IsReserved name ∨ IsMistaken name) ∧
    ∃ names, pragmas.connection.tables schema excluded = .ok names ∧ names.Pairwise (· ≤ ·) ∧
      names.Perm ((pragmas.tableNames schema).filter fun name =>
        ¬ IsReserved name ∧ ¬ IsMistaken name ∧ name ∉ excluded) ∧
      (names.Perm ((pragmas.tableNames schema).filter fun name =>
          ¬ IsReserved name ∧ name ∉ excluded) ↔
        ∀ name ∈ pragmas.tableNames schema, IsMistaken name → name ∈ excluded) := by
  have hpattern : ∀ name, Matches "sqlite_%".toList (visible name) ↔
      IsReserved name ∨ IsMistaken name :=
    fun name => matchesReserved_iff_matches.symm.trans matchesReserved_iff_or
  have hperm := perm_listedNames pragmas schema excluded
  refine ⟨hpattern, _, tables_eq hnames excluded, (pairwise_sortedNames _).filter _, hperm, ?_⟩
  constructor
  · intro hall name hname hmistaken
    by_contra hkept
    have hmem := hall.mem_iff.mpr
      (List.mem_filter.mpr ⟨hname, decide_eq_true ⟨hmistaken.not_isReserved, hkept⟩⟩)
    have hlisted := (List.mem_filter.mp (hperm.mem_iff.mp hmem)).2
    exact (of_decide_eq_true hlisted).2.1 hmistaken
  · intro hnone
    refine hperm.trans (.of_eq (List.filter_congr fun name hname => ?_))
    rw [decide_eq_decide]
    constructor
    · rintro ⟨hreserved, -, hkept⟩
      exact ⟨hreserved, hkept⟩
    · rintro ⟨hreserved, hkept⟩
      exact ⟨hreserved, fun hmistaken => hkept (hnone name hname hmistaken), hkept⟩

/-- Objects of one schema: their names with their types. -/
def ofObjects (schema : String) (objects : List (String × String)) : Pragmas :=
  { empty with
    tableList := objects.map fun (name, type) =>
      ⟨.text schema, .text name, .text type, .integer 0⟩ }

lemma namesObjects_ofObjects (schema : String) (objects : List (String × String)) :
    (ofObjects schema objects).NamesObjects := by
  intro row hrow
  obtain ⟨⟨name, type⟩, -, rfl⟩ := List.mem_map.mp hrow
  rfl

/-- Tables with a view, and a table of SQLite. -/
def storeObjects : Pragmas := ofObjects "main"
  [("part", "table"), ("recent_part", "view"), ("address", "table"), ("SQLite_stat1", "table"),
    ("note", "table")]

theorem tables_perm_iff_storeObjects :
    storeObjects.NamesObjects ∧ ∃ names,
      storeObjects.connection.tables "main" ["note"] = .ok names ∧ names.Pairwise (· ≤ ·) ∧
      names.Perm ["part", "address"] := by
  have hnames : storeObjects.NamesObjects := namesObjects_ofObjects _ _
  obtain ⟨-, names, hlisted, hsorted, -, hperm⟩ :=
    tables_perm_iff storeObjects "main" ["note"] hnames
  exact ⟨hnames, names, hlisted, hsorted, hperm.mpr (by decide +kernel)⟩

/-- A table with a name that SQLite does not keep for itself. -/
def cacheObjects : Pragmas := ofObjects "main" [("sqlite3_cache", "table")]

/-- The table is not listed, though nothing leaves it out. -/
theorem not_tables_perm_cacheObjects :
    cacheObjects.NamesObjects ∧ cacheObjects.tableNames "main" = ["sqlite3_cache"] ∧
      ¬ IsReserved "sqlite3_cache" ∧ cacheObjects.connection.tables "main" [] = .ok [] := by
  have hnames : cacheObjects.NamesObjects := namesObjects_ofObjects _ _
  refine ⟨hnames, by decide +kernel, by decide, ?_⟩
  rw [tables_eq hnames]
  decide +kernel

end Pragmas

end RelProto.Sqlite
