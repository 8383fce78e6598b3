import RelProto.Text.Unprintable

/-! Values as diagnostics spell them: texts in double quotes with escapes, lists in brackets, pairs in
parentheses; or laid out over several lines, one member a line, indented by four blanks and ended by a
comma. -/
namespace RelProto.Text

/-- A character inside a quoted text. -/
def escaped (c : Char) : List Char :=
  if c = '\x00' then ['\\', '0']
  else if c = '\t' then ['\\', 't']
  else if c = '\r' then ['\\', 'r']
  else if c = '\n' then ['\\', 'n']
  else if c = '"' then ['\\', '"']
  else if c = '\\' then ['\\', '\\']
  else if unprintable.contains c then
    ['\\', 'u', '\x7b'] ++ Nat.toDigits 16 c.toNat ++ ['\x7d']
  else [c]

def quoted (s : String) : String :=
  String.ofList (['"'] ++ s.toList.flatMap escaped ++ ['"'])

/-- Types whose values diagnostics can name. -/
class Literal (α : Type) where
  literal : α → String

export Literal (literal)

instance : Literal String := ⟨quoted⟩
instance : Literal Int := ⟨toString⟩
instance : Literal Bool := ⟨toString⟩

instance {α : Type} [Literal α] : Literal (Option α) where
  literal
    | none => "None"
    | some a => "Some(" ++ literal a ++ ")"

instance {α : Type} [Literal α] : Literal (List α) where
  literal xs := "[" ++ ", ".intercalate (xs.map literal) ++ "]"

instance {α β : Type} [Literal α] [Literal β] : Literal (α × β) where
  literal p := "(" ++ literal p.1 ++ ", " ++ literal p.2 ++ ")"

example : literal (some "a") = "Some(\"a\")" := by decide +kernel
example : literal (["a", "b"], (-1 : Int)) = "([\"a\", \"b\"], -1)" := by decide +kernel
example : quoted "\u0301\n" = "\"\\u\x7b301\x7d\\n\"" := by decide +kernel

/-- The lines of a value. -/
abbrev Outline := List String

namespace Outline

def closeLast (close : String) : Outline → Outline
  | [] => []
  | [line] => [line ++ close]
  | line :: rest => line :: closeLast close rest

/-- A member of an enclosing value. -/
def member (label : String) (value : Outline) : Outline :=
  let ended := closeLast "," value
  match ended with
  | [] => []
  | first :: rest => ((label ++ first) :: rest).map ("    " ++ ·)

def record (name : String) (fields : List (String × Outline)) : Outline :=
  (name ++ " \x7b") :: fields.flatMap (fun field => member (field.1 ++ ": ") field.2) ++ ["\x7d"]

def wrap (name : String) (value : Outline) : Outline :=
  (name ++ "(") :: member "" value ++ [")"]

def text (lines : Outline) : String := "\n".intercalate lines

example : wrap "Some" ["a", "b"] = ["Some(", "    a", "    b,", ")"] := by decide +kernel

end Outline

end RelProto.Text
