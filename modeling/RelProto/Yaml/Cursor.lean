/-! Positions in a document text. Lines are ended by a line feed, a carriage return, both together,
a next-line character, or one of the two Unicode separators. -/
namespace RelProto.Yaml

def isBlank (c : Char) : Bool := c == ' ' || c == '\t'

def isBreak (c : Char) : Bool :=
  c == '\n' || c == '\r' || c == '\u0085' || c == '\u2028' || c == '\u2029'

/-- Letters, digits, `_` and `-`, of ASCII only. -/
def isWordChar (c : Char) : Bool := c.isAlphanum || c == '_' || c == '-'

/-- Characters that may stand in a document. -/
def isAllowed (c : Char) : Bool :=
  c == '\t' || c == '\n' || c == '\r' || (' ' ≤ c && c ≤ '~') || c == '\u0085' ||
  ('\u00a0' ≤ c && c ≤ '\ufffd') || 0x10000 ≤ c.toNat

/-- The text from the current character on, with the current position in the whole text. The index
counts bytes, the column characters. -/
structure Cursor where
  rest : List Char
  index : Nat
  line : Nat
  column : Nat

namespace Cursor

def start (text : List Char) : Cursor := ⟨text, 0, 0, 0⟩

def peek (c : Cursor) : Option Char := c.rest.head?

def peekAt (c : Cursor) (n : Nat) : Option Char := c.rest[n]?

/-- Whether a blank, a line break or the end is `n` characters ahead. -/
def spaceAt (c : Cursor) (n : Nat) : Bool :=
  match c.peekAt n with
  | none => true
  | some ch => isBlank ch || isBreak ch

/-- How many bytes the next `n` characters take. -/
def byteCount (c : Cursor) (n : Nat) : Nat :=
  (c.rest.take n).foldl (fun count ch => count + ch.utf8Size) 0

/-- Moves over characters that are no line breaks. -/
def skip (c : Cursor) (n : Nat) : Cursor :=
  ⟨c.rest.drop n, c.index + c.byteCount n, c.line, c.column + n⟩

/-- Moves over a line break of `n` characters. -/
def skipBreak (c : Cursor) (n : Nat) : Cursor :=
  ⟨c.rest.drop n, c.index + c.byteCount n, c.line + 1, 0⟩

/-- Moves over characters that the test accepts and that are no line breaks. -/
def skipWhile (c : Cursor) (test : Char → Bool) : Cursor := c.skip (c.rest.takeWhile test).length

/-- A line break as a scalar shows it, and how many characters it takes. -/
def break? (c : Cursor) : Option (Char × Nat) :=
  match c.rest with
  | '\r' :: '\n' :: _ => some ('\n', 2)
  | ch :: _ =>
    if ch == '\u2028' || ch == '\u2029' then some (ch, 1)
    else if isBreak ch then some ('\n', 1)
    else none
  | [] => none

/-- Moves to the end of the line if it holds nothing but blanks and a comment. -/
def skipComment? (c : Cursor) : Option Cursor :=
  let c := c.skipWhile isBlank
  let c := if c.peek == some '#' then c.skipWhile (!isBreak ·) else c
  match c.peek with
  | none => some c
  | some _ => c.break?.map fun (_, n) => c.skipBreak n

/-- Whether the line starts with three of these characters and nothing attached to them. -/
def startsLineWith (c : Cursor) (mark : Char) : Bool :=
  c.column == 0 && c.rest.take 3 == [mark, mark, mark] && c.spaceAt 3

/-- Whether the line starts with the mark that begins or ends a document. -/
def atDocumentMark (c : Cursor) : Bool := c.startsLineWith '-' || c.startsLineWith '.'

@[simp] theorem length_rest_skip (c : Cursor) (n : Nat) :
    (c.skip n).rest.length = c.rest.length - n := by simp [skip]

@[simp] theorem length_rest_skipBreak (c : Cursor) (n : Nat) :
    (c.skipBreak n).rest.length = c.rest.length - n := by simp [skipBreak]

theorem length_rest_skipWhile_le (c : Cursor) (test : Char → Bool) :
    (c.skipWhile test).rest.length ≤ c.rest.length := by simp [skipWhile]

theorem break?_pos {c : Cursor} {ch : Char} {n : Nat} (h : c.break? = some (ch, n)) :
    0 < n ∧ 0 < c.rest.length := by
  unfold break? at h
  split at h
  · simp_all; omega
  · rename_i hr
    simp only [hr, List.length_cons]
    split at h
    · simp_all; omega
    · split at h <;> simp_all; omega
  · simp at h

end Cursor

end RelProto.Yaml
