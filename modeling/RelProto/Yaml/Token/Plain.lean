import RelProto.Yaml.Token.Folding

/-! Plain scalars: words without quotes, which end where the structure of the document goes on. -/
namespace RelProto.Yaml

def isFlowIndicator (c : Char) : Bool :=
  c == ',' || c == '[' || c == ']' || c == '\x7b' || c == '\x7d'

/-- Whether a plain scalar ends in front of this character: before a colon that separates, and, in a
flow collection, before its indicators. -/
def plainEnds (flow : Bool) (c : Cursor) (ch : Char) : Bool :=
  (ch == ':' && c.spaceAt 1) || (flow && isFlowIndicator ch)

/-- A colon in a flow collection must not be followed by an indicator. -/
def plainColonFails (flow : Bool) (c : Cursor) (ch : Char) : Bool :=
  flow && ch == ':' && (c.peekAt 1).any fun next => isFlowIndicator next || next == '?'

/-- A scanned scalar with the cursor behind it. `brokeLine` tells that the cursor stands on a later
line than the last word. -/
structure PlainScan where
  text : List Char
  cursor : Cursor
  brokeLine : Bool

/-- Whether a scalar goes on with the word that starts here, behind a gap. Outside of flow
collections its lines have to be indented to the column `indent`. -/
def plainResumes (flow : Bool) (indent : Nat) (c : Cursor) (ch : Char) : Bool :=
  !(!flow && c.column < indent) && !c.atDocumentMark && ch != '#'

/-- Reads on from inside a word, or from inside a gap if there is one. `read` is the text so far,
last character first. -/
def plainFrom (flow : Bool) (indent : Nat) (read : List Char) (gap : Option Gap) (c : Cursor) :
    Option PlainScan :=
  let brokeLine := gap.any Gap.breaks
  match _h : c.rest with
  | [] => some ⟨read.reverse, c, brokeLine⟩
  | ch :: _ =>
    if isBlank ch then
      if brokeLine && c.column < indent && ch == '\t' then none
      else plainFrom flow indent read (some ((gap.getD .empty).addBlank ch)) (c.skip 1)
    else
      match hb : c.break? with
      | some (b, n) =>
        have := Cursor.break?_pos hb
        plainFrom flow indent read (some ((gap.getD .empty).addBreak b)) (c.skipBreak n)
      | none =>
        if gap.isSome && !plainResumes flow indent c ch then some ⟨read.reverse, c, brokeLine⟩
        else if plainColonFails flow c ch then none
        else if plainEnds flow c ch then some ⟨read.reverse, c, brokeLine⟩
        else
          plainFrom flow indent (ch :: (gap.elim [] Gap.folded).reverse ++ read) none (c.skip 1)
  termination_by c.rest.length
  decreasing_by all_goals simp_all <;> omega

def plainScalar (flow : Bool) (indent : Nat) (c : Cursor) : Option PlainScan :=
  plainFrom flow indent [] none c

end RelProto.Yaml
