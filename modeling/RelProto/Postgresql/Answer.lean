import RelProto.Fault
import RelProto.OsFault

/-! What a PostgreSQL server answers: rows of typed columns, or a failure. -/
namespace RelProto.Postgresql

/-- An error reported by the server. -/
structure Report where
  severity : String
  message : String
  detail : Option String
  hint : Option String
  deriving DecidableEq

def Report.text (report : Report) : String :=
  report.severity ++ ": " ++ report.message ++
    (report.detail.elim "" ("\nDETAIL: " ++ ·)) ++ (report.hint.elim "" ("\nHINT: " ++ ·))

/-- Why a connection is not encrypted. -/
inductive EncryptionFault where
  | refused
  | noHostName
  | unavailable
  deriving DecidableEq

def EncryptionFault.message : EncryptionFault → String
  | refused => "server does not support TLS"
  | noHostName => "no hostname provided for TLS handshake"
  | unavailable => "no TLS implementation configured"

/-- Why a connection or a query fails. -/
inductive Failure where
  | noHost
  | hostCount (hosts addresses : Nat)
  | portCount
  | passwordMissing
  | unreachable (fault : OsFault)
  | unencrypted (fault : EncryptionFault)
  | cutOff
  | zeroByte
  | unboundChannel
  | notWritable
  | notReadOnly
  | closed
  | reported (report : Report)
  deriving DecidableEq

namespace Failure

def toForeign : Failure → Foreign
  | noHost => invalid "both host and hostaddr are missing"
  | hostCount hosts addresses =>
    invalid ("number of hosts (" ++ toString hosts ++ ") is different from number of hostaddrs (" ++
      toString addresses ++ ")")
  | portCount => invalid "invalid number of ports"
  | passwordMissing => invalid "password missing"
  | unreachable fault => .chain "error connecting to server" [fault.message]
  | unencrypted fault => .chain "error performing TLS handshake" [fault.message]
  | cutOff => .chain "error communicating with the server" ["early eof"]
  | zeroByte => .chain "error encoding message to server" ["string contains embedded null"]
  | unboundChannel => .chain "authentication error" ["server did not use channel binding"]
  | notWritable => .chain "error connecting to server" ["database does not allow writes"]
  | notReadOnly => .chain "error connecting to server" ["database is not read only"]
  | closed => .chain "connection closed" []
  | reported report => .chain "db error" [report.text]
where
  invalid (reason : String) : Foreign := .chain "invalid configuration" [reason]

end Failure

/-- The value of a cell; `other` is a value of a type that no catalog query asks for. -/
inductive Cell where
  | null
  | text (s : String)
  | integer (n : Int32)
  | flag (b : Bool)
  | other
  deriving DecidableEq

/-- Rows whose columns have the types of these names. -/
structure Rows where
  types : List String
  rows : List (List Cell)
  deriving DecidableEq

/-- What a column is decoded to. -/
inductive Decoded where
  | text
  | optionalText
  | integer
  | flag
  deriving DecidableEq

namespace Decoded

/-- The name that messages use. -/
def name : Decoded → String
  | text => "alloc::string::String"
  | optionalText => "core::option::Option<alloc::string::String>"
  | integer => "i32"
  | flag => "bool"

/-- Whether values of a column type are of this kind. -/
def accepts (decoded : Decoded) (type : String) : Bool :=
  match decoded with
  | text | optionalText =>
    ["text", "varchar", "bpchar", "name", "unknown", "citext", "ltree", "lquery",
     "ltxtquery"].contains type
  | integer => type == "int4"
  | flag => type == "bool"

end Decoded

/-- Why a cell cannot be decoded. The type of the column counts before its value. -/
inductive DecodeFault where
  | noColumn (index : Nat)
  | wrongType (index : Nat) (decoded : Decoded) (type : String)
  | null (index : Nat)
  | malformed (index : Nat)
  deriving DecidableEq

namespace DecodeFault

def toForeign : DecodeFault → Foreign
  | noColumn index => .chain ("invalid column `" ++ toString index ++ "`") []
  | wrongType index decoded type =>
    deserializing index ("cannot convert between the Rust type `" ++ decoded.name ++
      "` and the Postgres type `" ++ type ++ "`")
  | null index => deserializing index "a Postgres value was `NULL`"
  | malformed index => deserializing index "invalid buffer size"
where
  deserializing (index : Nat) (reason : String) : Foreign :=
    .chain ("error deserializing column " ++ toString index) [reason]

def fault (cause : DecodeFault) : Fault := .of (.queryFailure cause.toForeign)

end DecodeFault

/-- A row together with the types of its columns. -/
structure Cells where
  types : List String
  row : List Cell

namespace Cells

/-- Decodes one cell; `read?` knows the values. -/
def cell {α : Type} (cells : Cells) (index : Nat) (decoded : Decoded) (read? : Cell → Option α) :
    Except DecodeFault α :=
  match cells.types[index]? with
  | none => .error (.noColumn index)
  | some type =>
    if !decoded.accepts type then .error (.wrongType index decoded type)
    else
      let value := (cells.row[index]?).getD .null
      match read? value with
      | some a => .ok a
      | none => .error (if value = .null then .null index else .malformed index)

def text (cells : Cells) (index : Nat) : Except DecodeFault String :=
  cells.cell index .text fun
    | .text s => some s
    | _ => none

def optionalText (cells : Cells) (index : Nat) : Except DecodeFault (Option String) :=
  cells.cell index .optionalText fun
    | .text s => some (some s)
    | .null => some none
    | _ => none

/-- A signed integer, whose bits are taken as an unsigned one. -/
def ordinal (cells : Cells) (index : Nat) : Except DecodeFault UInt32 :=
  cells.cell index .integer fun
    | .integer n => some n.toUInt32
    | _ => none

def flag (cells : Cells) (index : Nat) : Except DecodeFault Bool :=
  cells.cell index .flag fun
    | .flag b => some b
    | _ => none

end Cells

namespace Rows

/-- Whether each row has a cell for each column. -/
def complete (rows : Rows) : Bool := rows.rows.all (rows.types.length ≤ ·.length)

/-- What becomes of a row that ends too early. -/
def truncated : Foreign :=
  .chain "error parsing response from server" ["failed to fill whole buffer"]

/-- Decodes all rows, which have to be complete before any of them is looked at. -/
def decode {α : Type} (rows : Rows) (decode : Cells → Except DecodeFault α) :
    Except Fault (List α) :=
  if rows.complete then
    (rows.rows.mapM fun row => decode ⟨rows.types, row⟩).mapError DecodeFault.fault
  else .error (.of (.queryFailure truncated))

end Rows

end RelProto.Postgresql
