/-! Texts out of bytes that may not be valid, and percent escapes, which write the bytes of a text as two
hexadecimal digits each. -/
namespace RelProto.Text

def isTrailing (byte : UInt8) : Bool := 0x80 ≤ byte && byte ≤ 0xbf

/-- Whether a character of three or four bytes that begins with `lead` may go on with `next`. -/
def mayFollow (lead next : UInt8) : Bool :=
  isTrailing next && !(lead = 0xe0 && next < 0xa0) && !(lead = 0xed && 0xa0 ≤ next) &&
    !(lead = 0xf0 && next < 0x90) && !(lead = 0xf4 && 0x90 ≤ next)

/-- How many bytes belong to a character that begins here and is not complete. -/
def brokenLength : List UInt8 → Nat
  | lead :: next :: rest =>
    if 0xe0 ≤ lead && lead ≤ 0xf4 && mayFollow lead next then
      if 0xf0 ≤ lead && rest.head?.any isTrailing then 3 else 2
    else 1
  | _ => 1

/-- The character at the beginning of the bytes, and how many bytes follow its first one. -/
def leadingCharacter? (bytes : List UInt8) : Option (String × Nat) :=
  [1, 2, 3, 4].findSome? fun n =>
    (String.fromUTF8? (bytes.take n).toByteArray).map (·, n - 1)

/-- The text of bytes. What begins a character that is not complete is replaced as a whole. -/
def textOfBytes (bytes : List UInt8) : String :=
  match _h : bytes with
  | [] => ""
  | _ :: rest =>
    match leadingCharacter? bytes with
    | some (s, more) => s ++ textOfBytes (rest.drop more)
    | none => "\ufffd" ++ textOfBytes (rest.drop (brokenLength bytes - 1))
  termination_by bytes.length
  decreasing_by all_goals subst _h; simp; try omega

/-- Where bytes stop being a text: how many of them come before, and how many belong to what is no
character. This is unknown if the bytes end within it. -/
structure Flaw where
  index : Nat
  length : Option Nat
  deriving DecidableEq

def Flaw.message (flaw : Flaw) : String :=
  match flaw.length with
  | some n =>
    "invalid utf-8 sequence of " ++ toString n ++ " bytes from index " ++ toString flaw.index
  | none => "incomplete utf-8 byte sequence from index " ++ toString flaw.index

/-- Whether the bytes are the beginning of a character, and may be completed. -/
def isUnfinished (bytes : List UInt8) : Bool :=
  bytes.head?.any (fun lead => 0xc2 ≤ lead && lead ≤ 0xf4) && brokenLength bytes = bytes.length

/-- The first flaw of the bytes that follow `index` others. -/
def flawFrom? (index : Nat) (bytes : List UInt8) : Option Flaw :=
  match _h : bytes with
  | [] => none
  | _ :: rest =>
    match leadingCharacter? bytes with
    | some (_, more) => flawFrom? (index + 1 + more) (rest.drop more)
    | none => some ⟨index, if isUnfinished bytes then none else some (brokenLength bytes)⟩
  termination_by bytes.length
  decreasing_by
    subst _h
    simp only [List.length_drop, List.length_cons]
    omega

/-- Bytes that are no text, with what is wrong with them. -/
structure BrokenText where
  bytes : List UInt8
  flaw : Flaw
  isFlaw : flawFrom? 0 bytes = some flaw

def hexDigit? (byte : UInt8) : Option UInt8 :=
  if 0x30 ≤ byte && byte ≤ 0x39 then some (byte - 0x30)
  else if 0x41 ≤ byte && byte ≤ 0x46 then some (byte - 0x37)
  else if 0x61 ≤ byte && byte ≤ 0x66 then some (byte - 0x57)
  else none

/-- The byte that an escape at the beginning writes. -/
def leadingEscape? : List UInt8 → Option UInt8
  | 0x25 :: high :: low :: _ => do
    let h ← hexDigit? high
    let l ← hexDigit? low
    return 16 * h + l
  | _ => none

/-- Resolves the escapes. A percent sign without two digits after it stands for itself. -/
def unescapeBytes (bytes : List UInt8) : List UInt8 :=
  match _h : bytes with
  | [] => []
  | byte :: rest =>
    match leadingEscape? bytes with
    | some value => value :: unescapeBytes (rest.drop 2)
    | none => byte :: unescapeBytes rest
  termination_by bytes.length
  decreasing_by all_goals subst _h; simp; try omega

/-- The bytes that a text with escapes stands for. -/
def percentBytes (s : String) : List UInt8 := unescapeBytes s.toUTF8.toList

/-- The text that a text with escapes stands for, if the bytes are one. -/
def percentText? (s : String) : Option String := String.fromUTF8? (percentBytes s).toByteArray

/-- The text that a text with escapes stands for. -/
def percentText (s : String) : String :=
  (percentText? s).getD (textOfBytes (percentBytes s))

end RelProto.Text
