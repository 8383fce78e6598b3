import Mathlib.Data.Int.Order.Basic
import Mathlib.Data.Prod.Lex
import Mathlib.Data.String.Basic
import RelProto.Proofs.CatalogRow
import RelProto.Proofs.Sqlite.Query
import RelProto.Proofs.Text.FreshName
import RelProto.Proofs.Text.Word
import RelProto.Sqlite.Catalog

/-! The foreign keys of a SQLite table. They have numbers instead of names, and come in the order of
the tables that they refer to; each of them makes up one relation with all its column pairs. -/
namespace RelProto.Sqlite

/-- A column pair of the foreign key `id`. It may not be known which column it refers to. -/
structure ForeignKeyPart where
  id : Int64
  table : String
  target : Option String
  source : String
  sequence : Int64
  deriving DecidableEq

namespace ForeignKeyPart

/-- The row of the answer. -/
def row (part : ForeignKeyPart) : Row :=
  [.integer part.id, .text part.table, part.target.elim .null .text, .text part.source,
    (Value.integer part.sequence).plusOne]

/-- The part when the column that it refers to is called like the one that refers to it, unless it
has a name. -/
def named (part : ForeignKeyPart) : ForeignKeyPart :=
  { part with target := some (part.target.getD part.source) }

/-- Whether the place of the part, counted from one, is a number of 32 bits. -/
def Fits (part : ForeignKeyPart) : Prop := part.sequence.toInt + 1 < UInt32.size

instance (part : ForeignKeyPart) : Decidable part.Fits := inferInstanceAs (Decidable (_ < _))

def keyPart (part : ForeignKeyPart) : KeyPart :=
  ⟨(part.sequence.toInt + 1).toNat.toUInt32, part.source, part.target.getD part.source⟩

end ForeignKeyPart

/-- The name that a foreign key is given. -/
def constraintName (table : String) (id : Int64) : String := table ++ "_fk" ++ toString id.toInt

/-- The sign of a number is none of its digits. -/
lemma repr_ne_neg_repr (m n : ℕ) : m.repr ≠ "-" ++ n.repr := by
  intro h
  have hsign : '-' ∉ (toString m).toList := Text.notMem_toString (by decide)
  rw [Nat.toString_eq_repr, h, String.toList_append] at hsign
  exact hsign List.mem_cons_self

lemma repr_injective : Function.Injective Int.repr := by
  intro m n h
  cases m with
  | ofNat m =>
    cases n with
    | ofNat n => exact congrArg Int.ofNat (Text.toString_injective h)
    | negSucc n => exact absurd h (repr_ne_neg_repr m (n + 1))
  | negSucc m =>
    cases n with
    | ofNat n => exact absurd h.symm (repr_ne_neg_repr n (m + 1))
    | negSucc n =>
      have hnumber := Text.toString_injective ((String.append_right_inj "-").mp h)
      exact congrArg Int.negSucc (Nat.succ.inj hnumber)

theorem constraintName_injective (table : String) : Function.Injective (constraintName table) := by
  intro id id' h
  have hnumber : id.toInt.repr = id'.toInt.repr := (String.append_right_inj _).mp h
  exact Int64.toInt_inj.mp (repr_injective hnumber)

/-- The parts of one foreign key. -/
def partsOf (parts : List ForeignKeyPart) (id : Int64) : List ForeignKeyPart :=
  parts.filter fun part => part.id = id

/-- The parts come in the order of the tables that they refer to, the foreign keys, and their places.
A foreign key refers to one table, and the places of its parts are counted from zero. -/
structure ListsForeignKeys (parts : List ForeignKeyPart) : Prop where
  ordered : parts.Pairwise fun part next =>
    toLex (part.table, toLex (part.id.toInt, part.sequence.toInt)) ≤
      toLex (next.table, toLex (next.id.toInt, next.sequence.toInt))
  table_eq : ∀ part ∈ parts, ∀ other ∈ parts, part.id = other.id → part.table = other.table
  sequences : ∀ part ∈ parts, (partsOf parts part.id).map (·.sequence.toInt) =
    (List.range (partsOf parts part.id).length).map (↑)

/-- The relation is the foreign key `id`: it has all parts of it, in their order, and nothing else.
-/
structure IsForeignKey (schema table : String) (parts : List ForeignKeyPart) (id : Int64)
    (relation : Relation) : Prop where
  name_eq : relation.name = constraintName table id
  foreignSchema_eq : relation.foreignSchema = schema
  foreignTable_eq : ∀ part ∈ partsOf parts id, relation.foreignTable = part.table
  multiplicity_eq : relation.multiplicity = .zeroOneOrMore
  keys_eq : relation.keys = (partsOf parts id).map ForeignKeyPart.keyPart
  ordinals_eq : relation.keys.map (·.ordinal.toNat) = List.range' 1 (partsOf parts id).length

variable {schema table : String} {parts : List ForeignKeyPart} {part : ForeignKeyPart}

section Decoding

/-- The row that the part is decoded to. -/
def ForeignKeyPart.decoded (schema table : String) (part : ForeignKeyPart) : ForeignKeyRow :=
  ⟨constraintName table part.id, schema, part.table, part.keyPart.foreignColumn,
    part.keyPart.localColumn, part.keyPart.ordinal⟩

lemma toInt_add_one {n : Int64} (h : n ≠ Int64.maxValue) : (n + 1).toInt = n.toInt + 1 := by
  have hlower := n.le_toInt
  have hupper := n.toInt_lt
  have hne : n.toInt ≠ 2 ^ 63 - 1 := fun hmax => h (Int64.toInt_inj.mp hmax)
  rw [Int64.toInt_add, Int64.toInt_one]
  apply Int.bmod_eq_of_le <;> omega

/-- The last cell is the place of the part, if that is a number of 32 bits. -/
lemma word_row_eq_ok_iff (names : List String) (h : 0 ≤ part.sequence.toInt) {ordinal : UInt32} :
    (Cells.mk names part.row).word 4 = .ok ordinal ↔
      part.Fits ∧ ordinal = part.keyPart.ordinal := by
  by_cases hmax : part.sequence = Int64.maxValue
  · -- The sum is too large for an integer, and becomes a floating-point number.
    have hlast : part.row[4]? = some (.real (part.sequence.toFloat + 1)) :=
      congrArg some (if_pos hmax)
    have hfits : ¬ part.Fits := by
      rw [ForeignKeyPart.Fits, hmax]
      decide
    have hinteger : (Cells.mk names part.row).integer 4 = .error _ :=
      Cells.cell_eq_error hlast rfl
    rw [Cells.word, hinteger]
    simp [bind, Except.bind, hfits]
  · have hlast : part.row[4]? = some (.integer (part.sequence + 1)) :=
      congrArg some (if_neg hmax)
    have hlow : 0 ≤ part.sequence.toInt + 1 := by omega
    rw [Cells.word_eq hlast, toInt_add_one hmax, ForeignKeyPart.Fits]
    simp only [hlow, true_and]
    split_ifs with hfits
    · rw [Except.ok.injEq, and_iff_right hfits, eq_comm]
      rfl
    · refine iff_of_false (fun hok => ?_) fun hrow => hfits hrow.1
      cases hok

lemma foreignKeyOf_row_eq_ok_iff (names : List String) (h : 0 ≤ part.sequence.toInt)
    {row : ForeignKeyRow} : foreignKeyOf schema table ⟨names, part.row⟩ = .ok row ↔
      part.Fits ∧ row = part.decoded schema table := by
  have hid : (Cells.mk names part.row).integer 0 = .ok part.id := Cells.integer_eq rfl
  have hsource : (Cells.mk names part.row).text 3 = .ok part.source := Cells.text_eq rfl
  have htable : (Cells.mk names part.row).text 1 = .ok part.table := Cells.text_eq rfl
  have htarget : (Cells.mk names part.row).optionalText 2 = .ok part.target :=
    Cells.optionalText_eq rfl
  rw [foreignKeyOf, hid, hsource, htable, htarget]
  simp only [bind_eq_ok_iff, Except.ok.injEq, exists_eq_left', word_row_eq_ok_iff names h]
  constructor
  · rintro ⟨ordinal, ⟨hfits, rfl⟩, hrow⟩
    exact ⟨hfits, (Except.ok.inj hrow).symm⟩
  · rintro ⟨hfits, rfl⟩
    exact ⟨_, ⟨hfits, rfl⟩, rfl⟩

/-- All parts are decoded, or none if a foreign key has too many of them. -/
lemma foreignKeyRows_eq_ok_iff {connection : Connection}
    (hanswer : connection.answer (.foreignKeys schema table) = .ok (parts.map ForeignKeyPart.row))
    (hsequence : ∀ part ∈ parts, 0 ≤ part.sequence.toInt) {rows : List ForeignKeyRow} :
    connection.foreignKeyRows schema table = .ok rows ↔
      (∀ part ∈ parts, part.Fits) ∧ rows = parts.map (·.decoded schema table) := by
  rw [Connection.foreignKeyRows]
  apply Connection.select_eq_ok_iff hanswer
  intro part hpart row
  exact foreignKeyOf_row_eq_ok_iff _ (hsequence part hpart)

/-- A column without a name is read like the name that it is given. -/
lemma foreignKeyOf_named_row (names : List String) (part : ForeignKeyPart) :
    foreignKeyOf schema table ⟨names, part.named.row⟩ =
      foreignKeyOf schema table ⟨names, part.row⟩ := by
  obtain ⟨id, foreign, _ | target, source, sequence⟩ := part <;> rfl

lemma foreignKeyRows_named {connection other : Connection}
    (hanswer : connection.answer (.foreignKeys schema table) = .ok (parts.map ForeignKeyPart.row))
    (hother : other.answer (.foreignKeys schema table) = .ok (parts.map (·.named.row))) :
    other.foreignKeyRows schema table = connection.foreignKeyRows schema table := by
  rw [Connection.foreignKeyRows, Connection.foreignKeyRows, Connection.select, Connection.select,
    hanswer, hother]
  simp only [List.mapM_map, Function.comp_def, foreignKeyOf_named_row]

end Decoding

section Grouping

/-- The table that the foreign key refers to. -/
def tableOf (parts : List ForeignKeyPart) (id : Int64) : String :=
  ((parts.find? fun part => part.id = id).map (·.table)).getD ""

def relationKeyOf (schema table : String) (parts : List ForeignKeyPart) (id : Int64) :
    RelationKey :=
  ⟨schema, tableOf parts id, constraintName table id⟩

/-- No two foreign keys are taken for one, whatever they refer to. -/
lemma relationKeyOf_injective (schema table : String) (parts : List ForeignKeyPart) :
    Function.Injective (relationKeyOf schema table parts) := by
  intro id id' h
  exact constraintName_injective table (congrArg RelationKey.constraint h)

lemma mem_partsOf_self (hpart : part ∈ parts) : part ∈ partsOf parts part.id :=
  List.mem_filter.mpr ⟨hpart, decide_eq_true rfl⟩

namespace ListsForeignKeys

variable (h : ListsForeignKeys parts)
include h

lemma sequence_nonneg (hpart : part ∈ parts) : 0 ≤ part.sequence.toInt := by
  have hmem : part.sequence.toInt ∈ (partsOf parts part.id).map (·.sequence.toInt) :=
    List.mem_map_of_mem (mem_partsOf_self hpart)
  rw [h.sequences part hpart] at hmem
  obtain ⟨n, -, hn⟩ := List.mem_map.mp hmem
  omega

lemma tableOf_eq (hpart : part ∈ parts) : tableOf parts part.id = part.table := by
  have hfound : (parts.find? fun other => other.id = part.id).isSome :=
    List.find?_isSome.mpr ⟨part, hpart, decide_eq_true rfl⟩
  obtain ⟨other, hother⟩ := Option.isSome_iff_exists.mp hfound
  have hid : other.id = part.id := by simpa using List.find?_some hother
  rw [tableOf, hother]
  exact h.table_eq other (List.mem_of_find?_eq_some hother) part hpart hid

lemma key_decoded (schema table : String) (hpart : part ∈ parts) :
    (part.decoded schema table).key = relationKeyOf schema table parts part.id := by
  rw [relationKeyOf, h.tableOf_eq hpart]
  rfl

/-- In the order of the tables, no foreign key comes up again behind another one. -/
theorem nodup_runKeys : (runKeys ForeignKeyPart.id parts).Nodup := by
  let rank (id : Int64) : String ×ₗ ℤ := toLex (tableOf parts id, id.toInt)
  have hrank : Function.Injective rank := by
    intro id id' hsame
    exact Int64.toInt_inj.mp (Prod.mk.inj (toLex_inj.mp hsame)).2
  apply nodup_runKeys_of_pairwise_le hrank
  apply h.ordered.imp_of_mem
  intro part next hpart hnext hle
  simp only [rank, h.tableOf_eq hpart, h.tableOf_eq hnext, Prod.Lex.toLex_le_toLex] at hle ⊢
  obtain hlt | ⟨htable, hlt | ⟨hid, -⟩⟩ := hle
  · exact .inl hlt
  · exact .inr ⟨htable, hlt.le⟩
  · exact .inr ⟨htable, hid.le⟩

lemma runKeys_decoded (schema table : String) :
    runKeys ForeignKeyRow.key (parts.map (·.decoded schema table)) =
      (runKeys ForeignKeyPart.id parts).map (relationKeyOf schema table parts) := by
  have hkeys : (parts.map (·.decoded schema table)).map ForeignKeyRow.key =
      (parts.map ForeignKeyPart.id).map (relationKeyOf schema table parts) := by
    rw [List.map_map, List.map_map]
    exact List.map_congr_left fun part hpart => h.key_decoded schema table hpart
  rw [runKeys_eq_destutter, runKeys_eq_destutter, hkeys]
  exact (List.map_destutter_ne _ (relationKeyOf_injective schema table parts)).symm

lemma filter_decoded (schema table : String) (id : Int64) :
    ((parts.map (·.decoded schema table)).filter fun row =>
      row.key = relationKeyOf schema table parts id) =
      (partsOf parts id).map (·.decoded schema table) := by
  rw [List.filter_map, partsOf]
  congr 1
  apply List.filter_congr
  intro part hpart
  rw [Function.comp_apply, h.key_decoded schema table hpart, decide_eq_decide,
    (relationKeyOf_injective schema table parts).eq_iff]

/-- The places are counted from one, as long as they are numbers of 32 bits. -/
lemma map_ordinal (hpart : part ∈ parts) (hfits : ∀ part ∈ parts, part.Fits) :
    (partsOf parts part.id).map (·.keyPart.ordinal.toNat) =
      List.range' 1 (partsOf parts part.id).length := by
  have hordinal : ∀ other ∈ partsOf parts part.id,
      other.keyPart.ordinal.toNat = 1 + other.sequence.toInt.toNat := by
    intro other hother
    have hmem := List.mem_of_mem_filter hother
    have hlow := h.sequence_nonneg hmem
    have hhigh : other.sequence.toInt + 1 < 2 ^ 32 := hfits other hmem
    have hsize : (other.sequence.toInt + 1).toNat < UInt32.size := by
      rw [UInt32.size]
      omega
    rw [ForeignKeyPart.keyPart, Nat.toUInt32, UInt32.toNat_ofNat_of_lt' hsize]
    omega
  rw [List.map_congr_left hordinal, List.range'_eq_map_range]
  have hsequences := congrArg (List.map fun n : ℤ => 1 + n.toNat) (h.sequences part hpart)
  simpa only [List.map_map, Function.comp_def, Int.toNat_natCast] using hsequences

lemma isForeignKey_relationFor (schema table : String) (hfits : ∀ part ∈ parts, part.Fits)
    {id : Int64} (hid : id ∈ runKeys ForeignKeyPart.id parts) :
    IsForeignKey schema table parts id
      (relationFor (parts.map (·.decoded schema table)) (relationKeyOf schema table parts id)) := by
  obtain ⟨part, hpart, rfl⟩ := List.mem_map.mp (mem_runKeys.mp hid)
  have hkeys : (relationFor (parts.map (·.decoded schema table))
      (relationKeyOf schema table parts part.id)).keys =
      (partsOf parts part.id).map ForeignKeyPart.keyPart := by
    rw [relationFor, h.filter_decoded, List.map_map]
    rfl
  refine ⟨rfl, rfl, ?_, rfl, hkeys, ?_⟩
  · intro other hother
    obtain ⟨hmem, hsame⟩ := List.mem_filter.mp hother
    rw [← of_decide_eq_true hsame]
    exact h.tableOf_eq hmem
  · rw [hkeys, List.map_map]
    exact h.map_ordinal hpart hfits

end ListsForeignKeys

end Grouping

/-- However many foreign keys a table has, and whatever they refer to: each of them makes up one
relation, with a name of its own and all its parts in order. They come in the order of the answer,
which is read unless a foreign key has more parts than 32 bits can count. That a referenced column
is not known has no other effect than that it is called like the column that refers to it. -/
theorem Connection.foreignKeyRows_group (connection : Connection) (schema table : String)
    (parts : List ForeignKeyPart)
    (hanswer : connection.answer (.foreignKeys schema table) = .ok (parts.map ForeignKeyPart.row))
    (hlisted : ListsForeignKeys parts) :
    ((∃ rows, connection.foreignKeyRows schema table = .ok rows) ↔ ∀ part ∈ parts, part.Fits) ∧
    (∀ rows, connection.foreignKeyRows schema table = .ok rows →
      ∃ relations, relationsOf rows = .ok relations ∧ (relations.map (·.name)).Nodup ∧
        (runKeys ForeignKeyPart.id parts).Nodup ∧
        List.Forall₂ (IsForeignKey schema table parts) (runKeys ForeignKeyPart.id parts)
          relations) ∧
    ∀ other : Connection,
      other.answer (.foreignKeys schema table) = .ok (parts.map (·.named.row)) →
      other.foreignKeyRows schema table = connection.foreignKeyRows schema table := by
  have hread : ∀ rows, connection.foreignKeyRows schema table = .ok rows ↔
      (∀ part ∈ parts, part.Fits) ∧ rows = parts.map (·.decoded schema table) :=
    fun _ => foreignKeyRows_eq_ok_iff hanswer fun part => hlisted.sequence_nonneg
  refine ⟨?_, ?_, ?_⟩
  · constructor
    · rintro ⟨rows, hrows⟩
      exact ((hread rows).mp hrows).1
    · intro hfits
      exact ⟨_, (hread _).mpr ⟨hfits, rfl⟩⟩
  · intro rows hrows
    obtain ⟨hfits, rfl⟩ := (hread rows).mp hrows
    have hkeys := hlisted.runKeys_decoded schema table
    have hids := hlisted.nodup_runKeys
    refine ⟨_, relationsOf_eq_ok_iff.mpr ⟨?_, rfl⟩, ?_, hids, ?_⟩
    · rw [hkeys]
      exact hids.map (relationKeyOf_injective schema table parts)
    · rw [hkeys, List.map_map, List.map_map]
      exact hids.map (constraintName_injective table)
    · rw [hkeys, List.map_map, List.forall₂_map_right_iff, List.forall₂_same]
      intro id hid
      exact hlisted.isForeignKey_relationFor schema table hfits hid
  · intro other hother
    exact foreignKeyRows_named hanswer hother

/-- Two foreign keys refer to one table, and a third one does not say to which column. -/
def parcelParts : List ForeignKeyPart := [
  ⟨0, "address", some "street", "to_street", 0⟩, ⟨0, "address", some "zip", "to_zip", 1⟩,
  ⟨1, "address", some "street", "from_street", 0⟩, ⟨1, "address", some "zip", "from_zip", 1⟩,
  ⟨2, "customer", none, "customer_id", 0⟩]

def parcelKeys : Connection := ⟨fun _ => .ok (parcelParts.map ForeignKeyPart.row)⟩

theorem Connection.foreignKeyRows_group_parcel :
    parcelKeys.answer (.foreignKeys "main" "parcel") = .ok (parcelParts.map ForeignKeyPart.row) ∧
      ListsForeignKeys parcelParts ∧
      ∃ rows relations, parcelKeys.foreignKeyRows "main" "parcel" = .ok rows ∧
        relationsOf rows = .ok relations ∧
        List.Forall₂ (IsForeignKey "main" "parcel" parcelParts) [0, 1, 2] relations := by
  have hlisted : ListsForeignKeys parcelParts := ⟨by decide +kernel, by decide, by decide⟩
  obtain ⟨hread, hgroups, -⟩ :=
    foreignKeyRows_group parcelKeys "main" "parcel" parcelParts rfl hlisted
  obtain ⟨rows, hrows⟩ := hread.mpr (by decide)
  obtain ⟨relations, hrelations, -, -, hkeys⟩ := hgroups rows hrows
  exact ⟨rfl, hlisted, rows, relations, hrows, hrelations, hkeys⟩

end RelProto.Sqlite
