import RelProto.Text.Basic

/-! Labels of ASCII characters that write others: the ASCII ones come first, and after a last hyphen
numbers say which others are inserted, and where. -/
namespace RelProto.Network.Punycode

/-- The digits are the letters and after them the decimal digits. -/
def digit? (c : Char) : Option Nat :=
  if 'a' ≤ c && c ≤ 'z' then some (c.toNat - 'a'.toNat)
  else if c.isDigit then some (c.toNat - '0'.toNat + 26)
  else none

/-- The least value of a digit after which a number goes on. -/
def threshold (place bias : Nat) : Nat := max 1 (min 26 (place - bias))

/-- Reads a number up to its last digit. -/
def number? (bias place weight read : Nat) : List Char → Option (Nat × List Char)
  | [] => none
  | c :: rest =>
    match digit? c with
    | none => none
    | some digit =>
      let next := threshold place bias
      let read := read + digit * weight
      if digit < next then some (read, rest)
      else number? bias (place + 36) (weight * (36 - next)) read rest

theorem length_lt_of_number? {bias place weight read n : Nat} {text rest : List Char}
    (h : number? bias place weight read text = some (n, rest)) : rest.length < text.length := by
  induction text generalizing place weight read with
  | nil => simp [number?] at h
  | cons c tail ih =>
    simp only [number?] at h
    split at h
    · simp at h
    · split at h
      · simp at h; simp [h.2]
      · exact Nat.lt_succ_of_lt (ih h)

/-- How large the next numbers are expected to be. -/
def biasFor (delta : Nat) : Nat :=
  if 455 < delta then 36 + biasFor (delta / 35) else 36 * delta / (delta + 38)
  termination_by delta
  decreasing_by omega

def nextBias (delta length : Nat) (first : Bool) : Nat :=
  let delta := if first then delta / 700 else delta / 2
  biasFor (delta + delta / length)

/-- Inserts characters with codes from `code` on, the first one from `start` on. Only at the first
number nothing has been passed. -/
def insertAll (code start bias : Nat) (label text : List Char) : Option (List Char) :=
  if text.isEmpty then some label
  else
    match _h : number? bias 36 1 0 text with
    | none => none
    | some (delta, rest) =>
      let length := label.length + 1
      let code := code + (start + delta) / length
      let place := (start + delta) % length
      if code.isValidChar then
        let label := label.take place ++ Char.ofNat code :: label.drop place
        insertAll code (place + 1) (nextBias delta length (start = 0)) label rest
      else none
  termination_by text.length
  decreasing_by exact length_lt_of_number? _h

/-- The texts around the last hyphen. Without one, or with one at the beginning, all is numbers. -/
def cutAtLastHyphen (text : List Char) : List Char × List Char :=
  match text.reverse.span (· != '-') with
  | (numbers, _ :: label@(_ :: _)) => (label.reverse, numbers.reverse)
  | _ => ([], text)

/-- The label that a text writes. -/
def decode? (text : List Char) : Option (List Char) :=
  let (label, numbers) := cutAtLastHyphen text
  insertAll 128 0 72 label numbers

example : decode? "bcher-kva".toList = some "bücher".toList ∧
    decode? "80ak6aa92e".toList = some "аррӏе".toList := by decide +kernel
example : decode? "a-".toList = some ['a'] ∧ decode? "-a".toList = none := by decide +kernel

end RelProto.Network.Punycode
