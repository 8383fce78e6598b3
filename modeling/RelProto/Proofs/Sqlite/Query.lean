import RelProto.Proofs.Except
import RelProto.Sqlite.Query

/-! What is read from the cells of a row, and from the rows of an answer. -/
namespace RelProto.Sqlite

namespace Cells

variable {cells : Cells} {index : Nat}

section Read

variable {α : Type} {read? : Value → Option α} {value : Value}

lemma cell_eq_ok {a : α} (h : cells.row[index]? = some value) (hread : read? value = some a) :
    cells.cell index read? = .ok a := by
  simp [cell, h, hread]

lemma cell_eq_error (h : cells.row[index]? = some value) (hread : read? value = none) :
    cells.cell index read? = .error (.wrongType value index (cells.names[index]?.getD "")) := by
  simp [cell, h, hread]

end Read

lemma text_eq {s : String} (h : cells.row[index]? = some (.text s)) : cells.text index = .ok s := by
  have hcell : cells.cell index text? = .ok (.ok s) := cell_eq_ok h rfl
  rw [text, hcell]
  rfl

/-- Null is no text. -/
lemma optionalText_eq {s : Option String} (h : cells.row[index]? = some (s.elim .null .text)) :
    cells.optionalText index = .ok s := by
  have hcell : cells.cell index optionalText.optionalText? = .ok (s.map .ok) := by
    refine cell_eq_ok h ?_
    cases s with
    | none => rfl
    | some s => rfl
  rw [optionalText, hcell]
  cases s with
  | none => rfl
  | some s => rfl

section Number

variable {n : Int64}

lemma integer_eq (h : cells.row[index]? = some (.integer n)) : cells.integer index = .ok n :=
  cell_eq_ok h rfl

lemma flag_eq (h : cells.row[index]? = some (.integer n)) : cells.flag index = .ok (n != 0) := by
  rw [flag, integer_eq h]
  rfl

lemma flag_truth_eq {b : Bool} (h : cells.row[index]? = some (.ofTruth? (some b))) :
    cells.flag index = .ok b := by
  cases b with
  | false => exact flag_eq h
  | true => exact flag_eq h

lemma word_eq (h : cells.row[index]? = some (.integer n)) :
    cells.word index = if 0 ≤ n.toInt ∧ n.toInt < UInt32.size then .ok n.toInt.toNat.toUInt32
      else .error (.outOfRange n index) := by
  rw [word, integer_eq h]
  simp only [Bool.and_eq_true, decide_eq_true_eq]
  rfl

lemma word_ofNat_eq {n : Nat} (h : cells.row[index]? = some (.integer (.ofNat n)))
    (hn : n < UInt32.size) : cells.word index = .ok n.toUInt32 := by
  have hsize : UInt32.size = 4294967296 := rfl
  have hvalue : (Int64.ofNat n).toInt = n := Int64.toInt_ofNat_of_lt (by omega)
  rw [word_eq h, hvalue, if_pos (by omega), Int.toNat_natCast]

end Number

end Cells

namespace Connection

variable {α β : Type} {connection : Connection} {query : Query} {items : List β} {row : β → Row}
  {decode : Cells → Except DecodeFault α} {accepts : β → Prop} {read : β → α}

/-- An answer is read row by row. -/
theorem select_eq_ok_iff (hanswer : connection.answer query = .ok (items.map row))
    (hdecode : ∀ item ∈ items, ∀ a,
      decode ⟨query.columnNames, row item⟩ = .ok a ↔ accepts item ∧ a = read item) {as : List α} :
    connection.select query decode = .ok as ↔
      (∀ item ∈ items, accepts item) ∧ as = items.map read := by
  have hkept : ∀ read : Except DecodeFault (List α),
      read.mapError DecodeFault.fault = .ok as ↔ read = .ok as := by
    rintro (cause | read) <;> simp [Except.mapError]
  have hselect : connection.select query decode =
      ((items.map row).mapM fun row => decode ⟨query.columnNames, row⟩).mapError
        DecodeFault.fault := by
    rw [select, hanswer]
  rw [hselect, hkept, List.mapM_map]
  exact mapM_eq_ok_iff hdecode

lemma select_eq_ok (hanswer : connection.answer query = .ok (items.map row))
    (hdecode : ∀ item ∈ items, decode ⟨query.columnNames, row item⟩ = .ok (read item)) :
    connection.select query decode = .ok (items.map read) := by
  have hdecodes : ∀ item ∈ items, ∀ a,
      decode ⟨query.columnNames, row item⟩ = .ok a ↔ True ∧ a = read item := by
    intro item hitem a
    rw [hdecode item hitem, Except.ok.injEq, true_and, eq_comm]
  exact (select_eq_ok_iff hanswer hdecodes).mpr ⟨fun _ _ => trivial, rfl⟩

end Connection

end RelProto.Sqlite
