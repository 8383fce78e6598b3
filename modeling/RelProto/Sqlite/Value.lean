import RelProto.Number.Binary
import RelProto.Text.Bytes

/-! Values of SQLite with their order, and the few operations that catalog queries apply to them. A
value has a type of its own; no column converts it. Nothing makes sure that the bytes of a text are
one. -/
namespace RelProto.Sqlite

inductive Value where
  | null
  | integer (n : Int64)
  | real (x : Float)
  | text (s : String)
  | broken (text : Text.BrokenText)
  | blob (bytes : List UInt8)

namespace Value

def typeName : Value → String
  | null => "Null"
  | integer _ => "Integer"
  | real _ => "Real"
  | text _ | broken _ => "Text"
  | blob _ => "Blob"

/-- Values of different types come in this order; numbers are of one type. -/
def rank : Value → Nat
  | null => 0
  | integer _ | real _ => 1
  | text _ | broken _ => 2
  | blob _ => 3

/-- Compares an integer with a floating-point number by value. -/
def orderIntegerReal (n : Int64) (x : Float) : Ordering :=
  match Binary.ofFloat? x with
  | some y => (Binary.ofInt n.toInt).order y
  | none => if x < 0 then .gt else .lt

/-- The bytes of a text or a blob. -/
def bytes : Value → List UInt8
  | text s => s.toUTF8.toList
  | broken t => t.bytes
  | blob bytes => bytes
  | _ => []

/-- Texts are ordered by their code points, and with them by their bytes. -/
def order : Value → Value → Ordering
  | integer m, integer n => compare m n
  | integer n, real x => orderIntegerReal n x
  | real x, integer n => (orderIntegerReal n x).swap
  | real x, real y => if x < y then .lt else if y < x then .gt else .eq
  | text s, text t => compare s t
  | v, w => (compare v.rank w.rank).then (compare v.bytes w.bytes)

/-- Whether two values are equal, which is unknown of null. -/
def equals? : Value → Value → Option Bool
  | null, _ | _, null => none
  | v, w => some (v.order w == .eq)

def equals (v w : Value) : Bool := v.equals? w == some true

/-- A truth value; unknown is null. -/
def ofTruth? : Option Bool → Value
  | some true => integer 1
  | some false => integer 0
  | none => null

/-- Whether a text matches the pattern `sqlite_%`: the word in any case of its letters, and a
character after it. A text ends at its first NUL here. -/
def matchesReserved (s : String) : Bool :=
  let chars := s.toList.takeWhile (· != '\x00')
  (chars.take 6).map Char.toLower == "sqlite".toList && 6 < chars.length

/-- A text with a character for each byte. Where the bytes are ASCII, it is theirs. -/
def textByBytes (bytes : List UInt8) : String := .ofList (bytes.map (Char.ofNat ·.toNat))

/-- Whether the value does not match the pattern `sqlite_%`, which is unknown of null. No number
matches. -/
def isUnreserved : Value → Bool
  | null => false
  | text s => !matchesReserved s
  | broken t => !matchesReserved (textByBytes t.bytes)
  | _ => true

/-- The digits that a number is written with: a sign, digits before and after a point, and an
exponent. -/
structure Numeral where
  negative : Bool
  whole : List Char
  fraction : Option (List Char)
  exponent : Option Int

def isSpace (c : Char) : Bool := c == ' ' || ('\t' ≤ c && c ≤ '\r')

def digitsValue (digits : List Char) : Nat :=
  digits.foldl (fun n digit => 10 * n + (digit.toNat - '0'.toNat)) 0

/-- Takes a sign off the text, and says whether it is a minus. -/
def signed : List Char → Bool × List Char
  | '-' :: rest => (true, rest)
  | '+' :: rest => (false, rest)
  | chars => (false, chars)

/-- The exponent at the beginning of the text, if there is one with digits. -/
def exponent? : List Char → Option Int
  | mark :: rest =>
    let (negative, rest) := signed rest
    let digits := rest.takeWhile Char.isDigit
    if (mark != 'e' && mark != 'E') || digits.isEmpty then none
    else
      let value : Int := min (digitsValue digits) 10000
      some (if negative then -value else value)
  | [] => none

/-- The numeral at the beginning of a text, after white space. -/
def Numeral.leading (chars : List Char) : Numeral :=
  let (negative, rest) := signed (chars.dropWhile isSpace)
  let whole := rest.takeWhile Char.isDigit
  let rest := rest.dropWhile Char.isDigit
  match rest with
  | '.' :: rest =>
    let fraction := rest.takeWhile Char.isDigit
    ⟨negative, whole, some fraction, exponent? (rest.dropWhile Char.isDigit)⟩
  | rest => ⟨negative, whole, none, exponent? rest⟩

namespace Numeral

def toFloat (numeral : Numeral) : Float :=
  let fraction := numeral.fraction.getD []
  let exponent := numeral.exponent.getD 0 - fraction.length
  let magnitude := digitsValue (numeral.whole ++ fraction)
  let x := Float.ofScientific magnitude (exponent < 0) exponent.natAbs
  if numeral.negative then -x else x

/-- An integer without point and exponent, if it is not too large. No digits are a zero. -/
def toValue (numeral : Numeral) : Value :=
  let written := !numeral.whole.isEmpty || numeral.fraction.any (!·.isEmpty)
  let magnitude : Int := digitsValue numeral.whole
  let n := if numeral.negative then -magnitude else magnitude
  if written && (numeral.fraction.isSome || numeral.exponent.isSome) then .real numeral.toFloat
  else if Int64.minValue.toInt ≤ n && n ≤ Int64.maxValue.toInt then .integer (.ofInt n)
  else .real numeral.toFloat

end Numeral

/-- The sum of a number and one. An integer that gets too large becomes a floating-point number. -/
def numberPlusOne : Value → Value
  | integer n => if n = Int64.maxValue then real (n.toFloat + 1) else integer (n + 1)
  | real x => real (x + 1)
  | v => v

/-- The sum of a value and one, where a text counts as the number at its beginning. -/
def plusOne : Value → Value
  | text s => ofNumeral s
  | broken t => ofNumeral (textByBytes t.bytes)
  | blob bytes => ofNumeral (textByBytes bytes)
  | v => v.numberPlusOne
where
  ofNumeral (s : String) : Value := (Numeral.leading s.toList).toValue.numberPlusOne

end Value

end RelProto.Sqlite
