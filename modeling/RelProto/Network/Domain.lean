import RelProto.Network.Domain.Direction
import RelProto.Network.Domain.Joining
import RelProto.Network.Domain.Standing
import RelProto.Network.Punycode
import RelProto.Text.Basic

/-! Names of domains, whose labels may have characters outside ASCII. -/
namespace RelProto.Network

namespace Domain

/-- What a character is replaced by. -/
def replacement? (c : Char) : Option (List Char) :=
  match Standing.ofChar c with
  | .plain | .variant => some [c]
  | .ignored => some []
  | .ascii text => some text
  | .disallowed => none

def isAscii (c : Char) : Bool := c.toNat < 0x80

/-- The label that follows the prefix of encoded labels. It is written in ASCII although it has
another character, and nothing in it is replaced. -/
def decoded? (text : List Char) : Option (List Char) := do
  let label ← Punycode.decode? text
  if text.all isAscii && !label.all isAscii && label.all (Standing.ofChar · = .plain) then
    some label
  else none

/-- Reads a label. It does not begin with a mark, and its joiners have a place. -/
def label? (text : List Char) : Option (List Char) := do
  let label ← match text with
    | 'x' :: 'n' :: '-' :: '-' :: rest => decoded? rest
    | text => some text
  if label.head?.any isMark || !joinsWell label then none else some label

/-- Whether a label is written in one direction: it begins with a letter and ends with a letter or a
number, apart from marks. From right to left it has numbers of one kind. -/
def isDirected (label : List Char) : Bool :=
  let directions := label.map Direction.ofChar
  let last := (directions.reverse.dropWhile (· == .nonspacing)).head?
  match directions.head? with
  | none => true
  | some .leftToRight =>
    [some .leftToRight, some .europeanNumber].contains last &&
      !directions.any fun d => d == .rightToLeft || d == .arabicNumber
  | some .rightToLeft =>
    [some .rightToLeft, some .europeanNumber, some .arabicNumber].contains last &&
      !directions.contains .leftToRight &&
      !(directions.contains .europeanNumber && directions.contains .arabicNumber)
  | some _ => false

/-- Whether a domain has anything that is written from right to left. -/
def hasRightToLeft (labels : List (List Char)) : Bool :=
  labels.any (·.any fun c => [.rightToLeft, .arabicNumber].contains (Direction.ofChar c))

/-- The labels of a domain. Where anything is written from right to left, every label has to keep to
one direction. -/
def labels? (name : List Char) : Option (List (List Char)) := do
  let name := (← name.mapM replacement?).flatten
  let labels ← (Text.split (· == '.') name).mapM label?
  if hasRightToLeft labels && !labels.all isDirected then none else some labels

example : labels? "B\u00fccher.De".toList = some ["b\u00fccher".toList, "de".toList] ∧
    labels? "xn--a".toList = none ∧ labels? "a<b".toList = none ∧
    labels? "\u0301a".toList = none ∧ labels? "\u05d0.1a".toList = none := by decide +kernel

end Domain

end RelProto.Network
