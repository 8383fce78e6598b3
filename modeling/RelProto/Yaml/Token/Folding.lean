import RelProto.Yaml.Cursor

/-! White space inside a scalar that may run over several lines. -/
namespace RelProto.Yaml

/-- The white space between two words of a scalar: the blanks before the first line break, that
break, and the breaks after it. `escaped` tells that a first break was hidden by a backslash. -/
structure Gap where
  blanks : List Char
  first : Option Char
  more : List Char
  escaped : Bool
  deriving DecidableEq

namespace Gap

def empty : Gap := ⟨[], none, [], false⟩

/-- The gap after a line break that a backslash hides. -/
def afterEscape : Gap := ⟨[], none, [], true⟩

/-- Whether the gap runs over the end of a line. -/
def breaks (gap : Gap) : Bool := gap.escaped || gap.first.isSome

/-- Blanks count only on the first line. -/
def addBlank (gap : Gap) (c : Char) : Gap :=
  if gap.breaks then gap else { gap with blanks := gap.blanks ++ [c] }

def addBreak (gap : Gap) (c : Char) : Gap :=
  if gap.breaks then { gap with more := gap.more ++ [c] } else { gap with first := some c }

/-- What stands for the gap in the text of the scalar. A single line feed becomes a space; when more
breaks follow, it is dropped and they stay. -/
def folded (gap : Gap) : List Char :=
  if gap.escaped then gap.more
  else
    match gap.first with
    | none => gap.blanks
    | some c =>
      if c != '\n' then c :: gap.more
      else if gap.more.isEmpty then [' ']
      else gap.more

example : (((empty.addBlank ' ').addBreak '\n').addBlank ' ').folded = [' '] := by decide
example : ((empty.addBreak '\n').addBreak '\n').folded = ['\n'] := by decide

end Gap

end RelProto.Yaml
