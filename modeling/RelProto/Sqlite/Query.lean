import RelProto.Fault
import RelProto.Sqlite.Value

/-! The queries that a SQLite database is asked, and how the rows that answer them are decoded. -/
namespace RelProto.Sqlite

/-- Those of the catalog, and one that asks for nothing but a one. -/
inductive Query where
  | one
  | tables (schema : String)
  | withoutRowid (schema table : String)
  | columns (schema table : String)
  | indexes (schema table : String)
  | foreignKeys (schema table : String)
  deriving DecidableEq

/-- The name of the column that falls back to the primary key of the referenced table: the text of
its expression. -/
def referencedColumnName : String :=
  "COALESCE(\n        fk.\"to\",\n        (SELECT ti.name FROM " ++
  "pragma_table_info(fk.\"table\", ?1) AS ti WHERE ti.pk = fk.seq + 1)\n    )"

/-- The names of the columns in the answer; an expression is named by its text. -/
def Query.columnNames : Query → List String
  | one => ["1"]
  | tables _ => ["name"]
  | withoutRowid _ _ => ["wr"]
  | columns _ _ => ["name", "cid + 1", "type", "dflt_value", "notnull", "pk"]
  | indexes _ _ => ["name", "name", "unique", "il.origin = 'pk'"]
  | foreignKeys _ _ => ["id", "table", referencedColumnName, "from", "fk.seq + 1"]

abbrev Row := List Value

/-- An open database. A query fails as a whole or is answered by rows. -/
structure Connection where
  answer : Query → Except Foreign (List Row)

/-- Why a row cannot be decoded. -/
inductive DecodeFault where
  | noRow
  | noColumn (index : Nat)
  | wrongType (value : Value) (index : Nat) (name : String)
  | noText (flaw : Text.Flaw) (index : Nat)
  | outOfRange (n : Int64) (index : Nat)

namespace DecodeFault

def message : DecodeFault → String
  | noRow => "Query returned no rows"
  | noColumn index => "Invalid column index: " ++ toString index
  | wrongType value index name =>
    "Invalid column type " ++ value.typeName ++ " at index: " ++ toString index ++
      ", name: " ++ name
  | noText flaw index =>
    "Conversion error from type Text at index: " ++ toString index ++ ", " ++ flaw.message
  | outOfRange n index =>
    "Integer " ++ toString n.toInt ++ " out of range at index " ++ toString index

/-- What the fault comes from. -/
def sources : DecodeFault → List String
  | noText flaw _ => [flaw.message]
  | _ => []

def foreign (cause : DecodeFault) : Foreign := .chain cause.message cause.sources

def fault (cause : DecodeFault) : Fault := .of (.queryFailure cause.foreign)

end DecodeFault

/-- A row together with the names of its columns. -/
structure Cells where
  names : List String
  row : Row

namespace Cells

/-- Decodes one cell; `read?` knows the values of its type. -/
def cell {α : Type} (cells : Cells) (index : Nat) (read? : Value → Option α) :
    Except DecodeFault α :=
  match cells.row[index]? with
  | none => .error (.noColumn index)
  | some value =>
    match read? value with
    | some a => .ok a
    | none => .error (.wrongType value index (cells.names[index]?.getD ""))

/-- The text of a value, or what is wrong with it. -/
def text? : Value → Option (Except Text.Flaw String)
  | .text s => some (.ok s)
  | .broken text => some (.error text.flaw)
  | _ => none

def text (cells : Cells) (index : Nat) : Except DecodeFault String := do
  let read ← cells.cell index text?
  read.mapError (.noText · index)

def optionalText (cells : Cells) (index : Nat) : Except DecodeFault (Option String) := do
  match ← cells.cell index optionalText? with
  | none => return none
  | some read => some <$> read.mapError (.noText · index)
where
  /-- Null is no text, and allowed. -/
  optionalText? : Value → Option (Option (Except Text.Flaw String))
    | .null => some none
    | value => (text? value).map some

def integer (cells : Cells) (index : Nat) : Except DecodeFault Int64 :=
  cells.cell index fun
    | .integer n => some n
    | _ => none

/-- An integer that is true unless it is zero. -/
def flag (cells : Cells) (index : Nat) : Except DecodeFault Bool := do
  return (← cells.integer index) != 0

/-- An integer that is a number of 32 bits. -/
def word (cells : Cells) (index : Nat) : Except DecodeFault UInt32 := do
  let n ← cells.integer index
  if 0 ≤ n.toInt && n.toInt < UInt32.size then return n.toInt.toNat.toUInt32
  else throw (.outOfRange n index)

end Cells

namespace Connection

/-- The rows of an answer, each of them decoded. -/
def select {α : Type} (connection : Connection) (query : Query)
    (decode : Cells → Except DecodeFault α) : Except Fault (List α) :=
  match connection.answer query with
  | .error foreign => .error (.of (.queryFailure foreign))
  | .ok rows =>
    (rows.mapM fun row => decode ⟨query.columnNames, row⟩).mapError DecodeFault.fault

/-- The first row of an answer; there has to be one. -/
def selectFirst {α : Type} (connection : Connection) (query : Query)
    (decode : Cells → Except DecodeFault α) : Except Foreign α :=
  match connection.answer query with
  | .error foreign => .error foreign
  | .ok [] => .error DecodeFault.noRow.foreign
  | .ok (row :: _) => (decode ⟨query.columnNames, row⟩).mapError DecodeFault.foreign

end Connection

end RelProto.Sqlite
