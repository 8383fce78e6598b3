/-! Texts cut at separators, numbers read from texts, and names that avoid others. -/
namespace RelProto.Text

/-- The pieces between the characters that `separates` accepts, empty ones included. -/
def split (separates : Char → Bool) : List Char → List (List Char)
  | [] => [[]]
  | c :: rest =>
    if separates c then [] :: split separates rest
    else
      match split separates rest with
      | [] => [[c]]
      | piece :: more => (c :: piece) :: more

theorem split_ne_nil (separates : Char → Bool) (s : List Char) : split separates s ≠ [] := by
  cases s with
  | nil => simp [split]
  | cons c rest =>
    simp only [split]
    split
    · simp
    · split <;> simp

example : split (· == '/') "a//b".toList = [['a'], [], ['b']] := by decide

/-- White space in the sense of Unicode. -/
def isWhiteSpace (c : Char) : Bool :=
  ('\t' ≤ c && c ≤ '\r') || ('\u2000' ≤ c && c ≤ '\u200a') ||
  [' ', '\u0085', '\u00a0', '\u1680', '\u2028', '\u2029', '\u202f', '\u205f', '\u3000'].contains c

/-- The number that decimal digits write, if there is nothing else. -/
def digits? (digits : List Char) : Option Nat :=
  if digits.isEmpty || !digits.all Char.isDigit then none
  else some (digits.foldl (fun n digit => 10 * n + (digit.toNat - '0'.toNat)) 0)

/-- An unsigned number, which may have a plus sign. -/
def unsigned? (text : String) : Option Nat :=
  match text.toList with
  | '+' :: rest => digits? rest
  | chars => digits? chars

def unsignedBelow? (limit : Nat) (text : String) : Option Nat := (unsigned? text).filter (· < limit)

/-- A signed number of 64 bits. -/
def signed64? (text : String) : Option Int :=
  match text.toList with
  | '-' :: rest => ((digits? rest).filter (· ≤ Nat.pow 2 63)).map fun n => -(n : Int)
  | _ => (unsignedBelow? (Nat.pow 2 63) text).map Int.ofNat

example : unsigned? "+12" = some 12 ∧ unsigned? "-1" = none ∧ unsigned? "" = none ∧
    signed64? "-7" = some (-7) := by decide +kernel

/-- The names tried for `base`, counted from zero. -/
def numberedName (base : String) : Nat → String
  | 0 => base
  | n + 1 => base ++ toString (n + 2)

/-- The place of the first free name from the `n`th on. A name that was found taken is struck off,
since no later candidate equals it. -/
def freshIndex (base : String) (taken : List String) (n : Nat) : Nat :=
  if _h : numberedName base n ∈ taken then
    freshIndex base (taken.erase (numberedName base n)) (n + 1)
  else n
  termination_by taken.length
  decreasing_by
    have := List.length_pos_of_mem _h
    rw [List.length_erase_of_mem _h]
    omega

def freshName (base : String) (taken : List String) : String :=
  numberedName base (freshIndex base taken 0)

example : numberedName "address" 1 = "address2" := by decide +kernel

end RelProto.Text
