import RelProto.Fault
import RelProto.Number.Shortest
import RelProto.OsFault
import RelProto.Text.Basic
import RelProto.Text.Bytes

/-! What a MySQL server answers: rows of values, or a failure. -/
namespace RelProto.Mysql

/-- An error reported by the server. -/
structure Report where
  state : String
  number : Nat
  message : String
  deriving DecidableEq

def Report.text (report : Report) : String :=
  "ERROR " ++ report.state ++ " (" ++ toString report.number ++ "): " ++ report.message

/-- Why a connection or a query fails. -/
inductive Failure where
  | unreachable (fault : OsFault)
  | unencrypted
  | closed
  | reported (report : Report)
  deriving DecidableEq

namespace Failure

def toForeign : Failure → Foreign
  | unreachable fault => transport fault.message
  | unencrypted =>
    named "Driver error" "Client asked for SSL but server does not have this capability"
  | closed => transport "connection closed"
  | reported report => named "Server error" report.text
where
  named (origin reason : String) : Foreign :=
    .chain (origin ++ ": `" ++ reason ++ "'") [reason]
  /-- Every layer of the connection names itself in front of the reason. -/
  transport (reason : String) : Foreign :=
    let layer := "Input/output error: " ++ reason
    .chain ("Input/output error: " ++ layer) [layer, reason]

end Failure

/-- A day and a time on it. -/
structure Moment where
  year : UInt16
  month : UInt8
  day : UInt8
  hour : UInt8
  minute : UInt8
  second : UInt8
  microsecond : UInt32

/-- A length of time, which may go back. -/
structure Duration where
  negative : Bool
  days : UInt32
  hour : UInt8
  minute : UInt8
  second : UInt8
  microsecond : UInt32

/-- A cell. Bytes need not be a text. -/
inductive Value where
  | null
  | integer (n : Int64)
  | unsigned (n : UInt64)
  | float (x : Float32)
  | double (x : Float)
  | moment (moment : Moment)
  | duration (duration : Duration)
  | bytes (text : String)
  | broken (text : Text.BrokenText)

namespace Value

/-- Digits with a point in them, or with zeros up to it. -/
def positional (digits : List Char) (exponent : Int) : List Char :=
  if 0 ≤ exponent then digits ++ List.replicate exponent.toNat '0' ++ ".0".toList
  else
    let places := exponent.natAbs
    let padded := List.replicate (places + 1 - digits.length) '0' ++ digits
    padded.take (padded.length - places) ++ '.' :: padded.drop (padded.length - places)

/-- Digits with a point after the first one, and an exponent. -/
def scientific (digits : List Char) (exponent : Int) : List Char :=
  let fraction := match digits.drop 1 with
    | [] => []
    | rest => '.' :: rest
  digits.take 1 ++ fraction ++ 'e' :: (toString exponent).toList

/-- A finite number with as few digits as read back. It is written with an exponent from `10 ^ 16` on,
and below `10 ^ -4` except for zero. -/
def binaryText (format : Binary.Format) (x : Binary) : String :=
  let shortest := x.shortest format
  let digits := (toString shortest.digits).toList
  let leading := shortest.exponent + digits.length - 1
  let text :=
    if shortest.digits = 0 || (-4 ≤ leading && leading < 16) then
      positional digits shortest.exponent
    else scientific digits leading
  (if x.negative then "-" else "") ++ .ofList text

/-- What stands for a number that is not finite. -/
def unboundedText (isBelow isAbove : Bool) : String :=
  if isBelow then "-inf" else if isAbove then "inf" else "NaN"

def doubleText (x : Float) : String :=
  ((Binary.ofFloat? x).map (binaryText .double)).getD (unboundedText (x < 0) (0 < x))

def floatText (x : Float32) : String :=
  ((Binary.ofFloat32? x).map (binaryText .single)).getD (unboundedText (x < 0) (0 < x))

/-- The first eight bytes, with two dots for those that follow. A line break is shown as a backslash
and a letter. -/
def excerpt (bytes : List UInt8) : String :=
  let shown := (Text.textOfBytes (bytes.take 8)).replace "\n" "\\n"
  if 8 < bytes.length then shown ++ ".." else shown

/-- A number with zeros in front of it. -/
def padded (width n : Nat) : String :=
  let digits := (toString n).toList
  .ofList (List.replicate (width - digits.length) '0' ++ digits)

/-- What a number of microseconds is written as, if there are any. -/
def fractionText (microsecond : UInt32) : String :=
  if microsecond = 0 then "" else "." ++ padded 6 microsecond.toNat

/-- Midnight is left out. -/
def momentText (moment : Moment) : String :=
  let date := "-".intercalate
    [padded 4 moment.year.toNat, padded 2 moment.month.toNat, padded 2 moment.day.toNat]
  let clock := ":".intercalate
    [padded 2 moment.hour.toNat, padded 2 moment.minute.toNat, padded 2 moment.second.toNat]
  let isMidnight := moment.hour = 0 && moment.minute = 0 && moment.second = 0 &&
    moment.microsecond = 0
  if isMidnight then date else date ++ " " ++ clock ++ fractionText moment.microsecond

/-- Days are counted as hours. -/
def durationText (duration : Duration) : String :=
  let hours := 24 * duration.days + duration.hour.toUInt32
  let clock := ":".intercalate
    [padded 3 hours.toNat, padded 2 duration.minute.toNat, padded 2 duration.second.toNat]
  (if duration.negative then "-" else "") ++ clock ++ fractionText duration.microsecond

/-- The value as messages name it. -/
def text : Value → String
  | null => "Null"
  | integer n => "Int(" ++ toString n.toInt ++ ")"
  | unsigned n => "UInt(" ++ toString n.toNat ++ ")"
  | float x => "Float(" ++ floatText x ++ ")"
  | double x => "Double(" ++ doubleText x ++ ")"
  | moment t => "Date(" ++ Text.quoted (singlyQuoted (momentText t)) ++ ")"
  | duration t => "Time(" ++ Text.quoted (singlyQuoted (durationText t)) ++ ")"
  | bytes text => "Bytes(" ++ Text.quoted (excerpt text.toUTF8.toList) ++ ")"
  | broken text => "Bytes(" ++ Text.quoted (excerpt text.bytes) ++ ")"
where
  singlyQuoted (s : String) : String := "'" ++ s ++ "'"

end Value

/-- Why a cell cannot be decoded. -/
inductive DecodeFault where
  | noColumn (index : Nat)
  | unconvertible (value : Value)

namespace DecodeFault

/-- A column that is not there is no failure of the query. -/
def fault : DecodeFault → Fault
  | noColumn index => .of (.adhoc ("catalog row has no column " ++ toString index))
  | unconvertible value =>
    .queryFailure ("Couldn't convert the value `" ++ value.text ++ "` to a desired type")

end DecodeFault

abbrev Row := List Value

namespace Row

/-- Decodes one cell; `read?` knows the values of its type. -/
def cell {α : Type} (row : Row) (index : Nat) (read? : Value → Option α) : Except DecodeFault α :=
  match row[index]? with
  | none => .error (.noColumn index)
  | some value =>
    match read? value with
    | some a => .ok a
    | none => .error (.unconvertible value)

def text (row : Row) (index : Nat) : Except DecodeFault String :=
  row.cell index fun
    | .bytes s => some s
    | _ => none

def optionalText (row : Row) (index : Nat) : Except DecodeFault (Option String) :=
  row.cell index fun
    | .bytes s => some (some s)
    | .null => some none
    | _ => none

/-- The number that a text writes. A minus sign is possible in front of zero. -/
def number? (text : String) : Option Nat :=
  match text.toList with
  | '-' :: rest => (Text.digits? rest).filter (· = 0)
  | _ => Text.unsigned? text

/-- A number of 32 bits, or a text that writes one. -/
def word (row : Row) (index : Nat) : Except DecodeFault UInt32 :=
  row.cell index fun
    | .integer n => if n.toInt < 0 then none else below? n.toInt.toNat
    | .unsigned n => below? n.toNat
    | .bytes s => (number? s).bind below?
    | _ => none
where
  below? (n : Nat) : Option UInt32 := if n < UInt32.size then some n.toUInt32 else none

/-- An integer that is true unless it is zero, or the text `0` or `1`. -/
def flag (row : Row) (index : Nat) : Except DecodeFault Bool :=
  row.cell index fun
    | .integer n => some (n != 0)
    | .unsigned n => some (n != 0)
    | .bytes "0" => some false
    | .bytes "1" => some true
    | _ => none

end Row

end RelProto.Mysql
