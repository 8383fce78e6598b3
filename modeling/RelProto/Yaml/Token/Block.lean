import RelProto.Yaml.Cursor

/-! Block scalars: lines that are indented more than what surrounds them. -/
namespace RelProto.Yaml

/-- What happens to the line breaks at the end of a block scalar. -/
inductive Chomping where
  | strip
  | clip
  | keep
  deriving DecidableEq

/-- The marks behind the indicator of a block scalar. -/
structure BlockHeader where
  chomping : Chomping
  increment : Option Nat
  deriving DecidableEq

def chomping? (c : Char) : Option Chomping :=
  if c == '-' then some .strip else if c == '+' then some .keep else none

/-- An indentation of zero is refused. -/
def increment? (c : Char) : Option (Option Nat) :=
  if c.isDigit then some (if c == '0' then none else some (c.toNat - '0'.toNat)) else none

/-- Reads the two marks, in either order, and how many characters they take. -/
def blockHeader? (text : List Char) : Option (BlockHeader × Nat) :=
  match text.head?.bind chomping? with
  | some chomping =>
    match (text[1]?).bind increment? with
    | some none => none
    | some (some n) => some (⟨chomping, some n⟩, 2)
    | none => some (⟨chomping, none⟩, 1)
  | none =>
    match text.head?.bind increment? with
    | some none => none
    | some (some n) =>
      match (text[1]?).bind chomping? with
      | some chomping => some (⟨chomping, some n⟩, 2)
      | none => some (⟨.clip, some n⟩, 1)
    | none => some (⟨.clip, none⟩, 0)

/-- What a block scalar has read: its text and the line breaks after its last line, last character
first, and whether the last line began with a blank. -/
structure BlockRead where
  text : List Char
  lineBreak : Option Char
  breaks : List Char
  spaced : Bool

namespace BlockRead

def empty : BlockRead := ⟨[], none, [], false⟩

def addBreak (read : BlockRead) (b : Char) : BlockRead := { read with breaks := b :: read.breaks }

/-- Begins a line with this character. In a folded scalar a line feed between two lines that do not
begin with a blank becomes a space, or is dropped if more breaks follow. -/
def startLine (folded : Bool) (read : BlockRead) (c : Char) : BlockRead :=
  let joint :=
    if folded && read.lineBreak == some '\n' && !read.spaced && !isBlank c then
      if read.breaks.isEmpty then [' '] else []
    else read.lineBreak.toList
  ⟨c :: (read.breaks ++ joint ++ read.text), none, [], isBlank c⟩

def chomped (chomping : Chomping) (read : BlockRead) : List Char :=
  let lineBreak := read.lineBreak.toList
  match chomping with
  | .strip => read.text.reverse
  | .clip => (lineBreak ++ read.text).reverse
  | .keep => (read.breaks ++ lineBreak ++ read.text).reverse

end BlockRead

/-- Reads lines that begin at the column `indent`. `inLine` tells that a line has begun. A tab must
not stand where the indentation is expected. -/
def blockLines (folded : Bool) (indent : Nat) (inLine : Bool) (read : BlockRead) (c : Cursor) :
    Option (BlockRead × Cursor) :=
  match _h : c.rest with
  | [] => some (read, c)
  | ch :: _ =>
    match hb : c.break? with
    | some (b, n) =>
      have := Cursor.break?_pos hb
      let read := if inLine then { read with lineBreak := some b } else read.addBreak b
      blockLines folded indent false read (c.skipBreak n)
    | none =>
      if inLine then
        blockLines folded indent true { read with text := ch :: read.text } (c.skip 1)
      else if c.column < indent && ch == ' ' then
        blockLines folded indent false read (c.skip 1)
      else if c.column < indent && ch == '\t' then none
      else if c.column == indent then
        blockLines folded indent true (read.startLine folded ch) (c.skip 1)
      else some (read, c)
  termination_by c.rest.length
  decreasing_by all_goals simp_all <;> omega

/-- Passes the blank lines in front of a block scalar. Its indentation is that of the line that is
indented most among them and the first line with content. -/
def blockIndent (deepest : Nat) (read : BlockRead) (c : Cursor) :
    Option (Nat × BlockRead × Cursor) :=
  match _h : c.rest with
  | [] => some (max deepest c.column, read, c)
  | ch :: _ =>
    if ch == ' ' then blockIndent deepest read (c.skip 1)
    else if ch == '\t' then none
    else
      match hb : c.break? with
      | some (b, n) =>
        have := Cursor.break?_pos hb
        blockIndent (max deepest c.column) (read.addBreak b) (c.skipBreak n)
      | none => some (max deepest c.column, read, c)
  termination_by c.rest.length
  decreasing_by all_goals simp_all <;> omega

/-- Reads a scalar from its indicator on. `parent` is one more than the column of the surrounding
collection, or zero outside of all. -/
def blockScalar (folded : Bool) (parent : Nat) (c : Cursor) : Option (List Char × Cursor) := do
  let c := c.skip 1
  let (header, length) ← blockHeader? c.rest
  let c ← (c.skip length).skipComment?
  let (indent, read, c) ←
    match header.increment with
    | some n => some (parent - 1 + n, BlockRead.empty, c)
    | none =>
      (blockIndent 0 .empty c).map fun (deepest, read, c) => (max (max deepest parent) 1, read, c)
  let (read, c) ← blockLines folded indent false read c
  return (read.chomped header.chomping, c)

end RelProto.Yaml
