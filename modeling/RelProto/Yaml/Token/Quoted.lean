import RelProto.Yaml.Token.Folding

/-! Scalars in single and double quotes. -/
namespace RelProto.Yaml

/-- What an escape of one letter stands for. -/
def escapeValue? (c : Char) : Option Char :=
  match c with
  | '0' => some '\x00'
  | 'a' => some '\x07'
  | 'b' => some '\x08'
  | 't' | '\t' => some '\t'
  | 'n' => some '\n'
  | 'v' => some '\x0b'
  | 'f' => some '\x0c'
  | 'r' => some '\r'
  | 'e' => some '\x1b'
  | ' ' => some ' '
  | '"' => some '"'
  | '/' => some '/'
  | '\\' => some '\\'
  | 'N' => some '\u0085'
  | '_' => some '\u00a0'
  | 'L' => some '\u2028'
  | 'P' => some '\u2029'
  | _ => none

/-- How many hexadecimal digits follow the letter of an escape. -/
def escapeDigits? (c : Char) : Option Nat :=
  match c with
  | 'x' => some 2
  | 'u' => some 4
  | 'U' => some 8
  | _ => none

def hexDigit? (c : Char) : Option Nat :=
  if c.isDigit then some (c.toNat - '0'.toNat)
  else if 'a' ≤ c && c ≤ 'f' then some (c.toNat - 'a'.toNat + 10)
  else if 'A' ≤ c && c ≤ 'F' then some (c.toNat - 'A'.toNat + 10)
  else none

/-- The number that hexadecimal digits write. -/
def hexValue? (digits : List Char) : Option Nat :=
  digits.foldlM (fun value c => (hexDigit? c).map (16 * value + ·)) 0

/-- The character of a code point, unless it is a surrogate or too large. -/
def charOfCode? (code : Nat) : Option Char :=
  if h : code.isValidChar then some (Char.ofNatAux code h) else none

/-- The character that an escape stands for, and how many characters it takes after the backslash.
-/
def escape? : List Char → Option (Char × Nat)
  | [] => none
  | letter :: rest =>
    match escapeDigits? letter with
    | some count =>
      if rest.length < count then none
      else do
        let code ← hexValue? (rest.take count)
        return (← charOfCode? code, count + 1)
    | none => (escapeValue? letter).map (·, 1)

/-- What comes next in a quoted scalar: its end, a character written with `more` characters after
the first, or a line break of the given length after a backslash. -/
inductive QuotedPart where
  | close
  | char (c : Char) (more : Nat)
  | hiddenBreak (length : Nat)

/-- Looks at a character that is neither blank nor line break. -/
def quotedPart? (quote : Char) (c : Cursor) (ch : Char) : Option QuotedPart :=
  if ch == quote then
    if quote == '\'' && c.peekAt 1 == some quote then some (.char quote 1) else some .close
  else if quote == '"' && ch == '\\' then
    match (c.skip 1).break? with
    | some (_, n) => some (.hiddenBreak n)
    | none => (escape? (c.rest.drop 1)).map fun (char, more) => .char char more
  else some (.char ch 0)

/-- Reads on behind the opening quote, inside a gap if there is one. `read` is the text so far, last
character first. A document mark must not stand inside the quotes. -/
def quotedFrom (quote : Char) (read : List Char) (gap : Option Gap) (c : Cursor) :
    Option (List Char × Cursor) :=
  match _h : c.rest with
  | [] => none
  | ch :: _ =>
    if isBlank ch then
      quotedFrom quote read (some ((gap.getD .empty).addBlank ch)) (c.skip 1)
    else
      match hb : c.break? with
      | some (b, n) =>
        have := Cursor.break?_pos hb
        quotedFrom quote read (some ((gap.getD .empty).addBreak b)) (c.skipBreak n)
      | none =>
        if c.atDocumentMark then none
        else
          let read := (gap.elim [] Gap.folded).reverse ++ read
          match quotedPart? quote c ch with
          | none => none
          | some .close => some (read.reverse, c.skip 1)
          | some (.char value more) => quotedFrom quote (value :: read) none (c.skip (more + 1))
          | some (.hiddenBreak n) =>
            quotedFrom quote read (some .afterEscape) ((c.skip 1).skipBreak n)
  termination_by c.rest.length
  decreasing_by all_goals simp_all <;> omega

/-- Reads a scalar from its opening quote on. -/
def quotedScalar (quote : Char) (c : Cursor) : Option (List Char × Cursor) :=
  quotedFrom quote [] none (c.skip 1)

end RelProto.Yaml
