import RelProto.Text.Basic

/-! Texts that are network addresses. -/
namespace RelProto.Network

/-- A number of at most three digits below 256, without needless zeros. -/
def isOctet (digits : List Char) : Bool :=
  digits.length ≤ 3 && (digits.length = 1 || digits.head? != some '0') &&
    (Text.digits? digits).any (· < 256)

/-- Four octets with dots between them. -/
def isVersion4 (text : List Char) : Bool :=
  let parts := Text.split (· == '.') text
  parts.length = 4 && parts.all isOctet

def isHexDigit (c : Char) : Bool := c.isDigit || "abcdefABCDEF".toList.contains c

def isGroup (part : List Char) : Bool := !part.isEmpty && part.length ≤ 4 && part.all isHexDigit

/-- How many groups of sixteen bits the text writes. At the end of an address the last two may be
written as octets. -/
def groupCount? (atEnd : Bool) (text : List Char) : Option Nat :=
  let parts := Text.split (· == ':') text
  if text.isEmpty then some 0
  else if parts.all isGroup then some parts.length
  else if atEnd && parts.dropLast.all isGroup && parts.getLast?.any isVersion4 then
    some (parts.length + 1)
  else none

/-- The texts around the first double colon. -/
def cutAtGap : List Char → Option (List Char × List Char)
  | ':' :: ':' :: rest => some ([], rest)
  | c :: rest => (cutAtGap rest).map fun (before, after) => (c :: before, after)
  | [] => none

/-- Eight groups; a double colon stands for those left out, of which there is one at least. -/
def isVersion6 (text : List Char) : Bool :=
  match cutAtGap text with
  | none => groupCount? true text == some 8
  | some (before, after) =>
    match groupCount? false before, groupCount? true after with
    | some m, some n => m + n ≤ 7
    | _, _ => false

/-- The number that the digits write in this base. -/
def numberInBase? (base : Nat) (digits : List Char) : Option Nat := do
  (← digits.mapM digit?).foldlM
    (fun n digit => if digit < base then some (base * n + digit) else none) 0
where
  digit? (c : Char) : Option Nat :=
    if c.isDigit then some (c.toNat - '0'.toNat)
    else if 'a' ≤ c && c ≤ 'f' then some (c.toNat - 'a'.toNat + 10)
    else none

/-- A number in decimal digits, behind a zero in octal ones, and behind `0x` in hexadecimal ones, of
which there may be none. -/
def anyNumber? : List Char → Option Nat
  | [] => none
  | '0' :: 'x' :: digits => numberInBase? 16 digits
  | ['0'] => some 0
  | '0' :: digits => numberInBase? 8 digits
  | digits => numberInBase? 10 digits

/-- The parts of an address, without an empty one at the end. -/
def addressParts (parts : List (List Char)) : List (List Char) :=
  if 1 < parts.length && parts.getLast? == some [] then parts.dropLast else parts

/-- Whether the last part is meant as a number. -/
def endsInNumber (parts : List (List Char)) : Bool :=
  (addressParts parts).getLast?.any fun part =>
    !part.isEmpty && (part.all Char.isDigit || (anyNumber? part).isSome)

/-- At most four numbers. All but the last one are octets; it stands for all octets that are left.
-/
def isLooseVersion4 (parts : List (List Char)) : Bool :=
  match (addressParts parts).mapM anyNumber? with
  | none => false
  | some numbers =>
    numbers.length ≤ 4 && numbers.dropLast.all (· < 256) &&
      numbers.getLast?.any (· < Nat.pow 256 (5 - numbers.length))

example : isVersion4 "127.0.0.1".toList = true ∧ isVersion4 "127.0.01.1".toList = false ∧
    isVersion6 "::1".toList = true ∧ isVersion6 "1::2::3".toList = false ∧
    isVersion6 "::ffff:10.0.0.1".toList = true := by decide +kernel

example : isLooseVersion4 ["127".toList, "1".toList] = true ∧
    isLooseVersion4 ["256".toList, "1".toList] = false ∧
    isLooseVersion4 ["0x".toList, []] = true ∧ endsInNumber ["a".toList, "09".toList] = true ∧
    isLooseVersion4 ["09".toList] = false := by decide +kernel

end RelProto.Network
