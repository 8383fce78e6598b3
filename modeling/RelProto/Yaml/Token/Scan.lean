import RelProto.Yaml.Token.Block
import RelProto.Yaml.Token.Plain
import RelProto.Yaml.Token.Tag

/-! The tokens of a text. Indentation opens and closes block collections, and a token after which a
colon comes turns out to have been a key. -/
namespace RelProto.Yaml

/-- A token that becomes a key when a colon follows: how many tokens stand before it, and where it
begins. Where a key is required there is no other way to go on. -/
structure KeyCandidate where
  required : Bool
  before : Nat
  index : Nat
  line : Nat
  column : Nat

/-- `read` holds the tokens so far, the last one first. `indent` is one more than the column of the
innermost block collection, or zero outside of all, and `outer` are the values before it. There is a
place for a candidate at the top level and one in each flow collection, the innermost first. -/
structure Scanner where
  cursor : Cursor
  read : List Token
  indent : Nat
  outer : List Nat
  candidate : Option KeyCandidate
  enclosing : List (Option KeyCandidate)
  keyAllowed : Bool

namespace Scanner

def start (text : List Char) : Scanner := ⟨.start text, [], 0, [], none, [], true⟩

def inFlow (s : Scanner) : Bool := !s.enclosing.isEmpty

def emit (s : Scanner) (token : Token) : Scanner := { s with read := token :: s.read }

/-- Emits a token at the end of which the cursor stands, and says whether a key may come next. -/
def emitTo (s : Scanner) (token : Token) (c : Cursor) (keyAllowed : Bool) : Scanner :=
  { s.emit token with cursor := c, keyAllowed := keyAllowed }

/-- Puts a token behind the first `before` ones. -/
def insert (s : Scanner) (before : Nat) (token : Token) : Scanner :=
  let later := s.read.length - before
  { s with read := s.read.take later ++ token :: s.read.drop later }

/-- Opens a block collection at the column, if it is indented more than the innermost one. -/
def openBlock (s : Scanner) (column before : Nat) (token : Token) : Scanner :=
  if s.inFlow || column < s.indent then s
  else { s.insert before token with indent := column + 1, outer := s.indent :: s.outer }

def openBlockHere (s : Scanner) (token : Token) : Scanner :=
  s.openBlock s.cursor.column s.read.length token

/-- Closes the block collections that are indented more than the column. -/
def closeBlocks (indent : Nat) (s : Scanner) : List Nat → Scanner
  | [] => s
  | outer :: rest =>
    if indent < s.indent then
      closeBlocks indent { s.emit .blockEnd with indent := outer, outer := rest } rest
    else s

/-- Closes the block collections whose indentation is larger than `indent`. -/
def dedent (s : Scanner) (indent : Nat) : Scanner :=
  if s.inFlow then s else closeBlocks indent s s.outer

/-- A candidate is given up; one that is required must not be. -/
def dropCandidate (s : Scanner) : Option Scanner :=
  if s.candidate.any KeyCandidate.required then none else some { s with candidate := none }

/-- What starts here may be a key. -/
def saveCandidate (s : Scanner) : Option Scanner :=
  if !s.keyAllowed then some s
  else do
    let c := s.cursor
    let required := !s.inFlow && s.indent == c.column + 1
    let s ← s.dropCandidate
    return { s with candidate := some ⟨required, s.read.length, c.index, c.line, c.column⟩ }

/-- A key ends on the line where it began and has at most 1024 bytes. -/
def isStale (c : Cursor) (key : KeyCandidate) : Bool :=
  key.line < c.line || key.index + 1024 < c.index

def refresh (c : Cursor) (candidate : Option KeyCandidate) : Option (Option KeyCandidate) :=
  match candidate with
  | some key => if isStale c key then (if key.required then none else some none) else some candidate
  | none => some none

/-- Gives up the candidates that a colon can no longer turn into keys. -/
def dropStale (s : Scanner) : Option Scanner := do
  let candidate ← refresh s.cursor s.candidate
  let enclosing ← s.enclosing.mapM (refresh s.cursor)
  return { s with candidate := candidate, enclosing := enclosing }

/-- Passes the white space and the comment up to the next token or the end of the line. A byte order
mark may begin a line, and takes a column of it. In a block collection a tab must not stand where a
key may come. -/
def passSpace (flow keyAllowed : Bool) (c : Cursor) : Cursor :=
  let c := if c.column == 0 && c.peek == some '\ufeff' then c.skip 1 else c
  let c := c.skipWhile fun ch => ch == ' ' || ((flow || !keyAllowed) && ch == '\t')
  if c.peek == some '#' then c.skipWhile (!isBreak ·) else c

theorem length_rest_passSpace_le (flow keyAllowed : Bool) (c : Cursor) :
    (passSpace flow keyAllowed c).rest.length ≤ c.rest.length := by
  simp only [passSpace]
  generalize hd : (if c.column == 0 && c.peek == some '\ufeff' then c.skip 1 else c) = d
  have hdc : d.rest.length ≤ c.rest.length := by subst hd; split <;> simp
  split
  · exact Nat.le_trans (Cursor.length_rest_skipWhile_le _ _)
      (Nat.le_trans (Cursor.length_rest_skipWhile_le _ _) hdc)
  · exact Nat.le_trans (Cursor.length_rest_skipWhile_le _ _) hdc

/-- Moves to the next token. In a block collection a new line may begin with a key. -/
def toNextToken (flow keyAllowed : Bool) (c : Cursor) : Cursor × Bool :=
  match _h : (passSpace flow keyAllowed c).break? with
  | none => (passSpace flow keyAllowed c, keyAllowed)
  | some (_, n) =>
    toNextToken flow (!flow || keyAllowed) ((passSpace flow keyAllowed c).skipBreak n)
  termination_by c.rest.length
  decreasing_by
    have := Cursor.break?_pos _h
    have := length_rest_passSpace_le flow keyAllowed c
    simp only [Cursor.length_rest_skipBreak]
    omega

/-- Begins a token that lies outside of all block collections. -/
def leaveBlocks (s : Scanner) : Option Scanner := (s.dedent 0).dropCandidate

def directive (s : Scanner) : Option Scanner := do
  let s ← s.leaveBlocks
  let (token, c) ← Yaml.directive s.cursor
  return s.emitTo token c false

def documentMark (s : Scanner) (token : Token) : Option Scanner := do
  let s ← s.leaveBlocks
  return s.emitTo token (s.cursor.skip 3) false

/-- What opens a flow collection may be a key as a whole. -/
def openFlow (s : Scanner) (token : Token) : Option Scanner := do
  let s ← s.saveCandidate
  return { s.emitTo token (s.cursor.skip 1) true with
    candidate := none, enclosing := s.candidate :: s.enclosing }

def closeFlow (s : Scanner) (token : Token) : Option Scanner := do
  let s ← s.dropCandidate
  let s := s.emitTo token (s.cursor.skip 1) false
  match s.enclosing with
  | [] => some s
  | candidate :: rest => some { s with candidate := candidate, enclosing := rest }

def flowEntry (s : Scanner) : Option Scanner := do
  let s ← s.dropCandidate
  return s.emitTo .flowEntry (s.cursor.skip 1) true

def blockEntry (s : Scanner) : Option Scanner := do
  if !s.inFlow && !s.keyAllowed then none
  else
    let s ← (s.openBlockHere .blockSequenceStart).dropCandidate
    return s.emitTo .blockEntry (s.cursor.skip 1) true

def key (s : Scanner) : Option Scanner := do
  if !s.inFlow && !s.keyAllowed then none
  else
    let s ← (s.openBlockHere .blockMappingStart).dropCandidate
    return s.emitTo .key (s.cursor.skip 1) !s.inFlow

/-- A colon turns the candidate into a key; without one it is the value of an empty key. -/
def value (s : Scanner) : Option Scanner :=
  match s.candidate with
  | some candidate =>
    let s := (s.insert candidate.before .key).openBlock candidate.column candidate.before
      .blockMappingStart
    some { s.emitTo .value (s.cursor.skip 1) false with candidate := none }
  | none =>
    if !s.inFlow && !s.keyAllowed then none
    else
      let s := s.openBlockHere .blockMappingStart
      some (s.emitTo .value (s.cursor.skip 1) !s.inFlow)

/-- Emits what a reader finds at the cursor, and which may be a key. -/
def content {α : Type} (s : Scanner) (read : Cursor → Option (α × Cursor)) (token : α → Token) :
    Option Scanner := do
  let s ← s.saveCandidate
  let (a, c) ← read s.cursor
  return s.emitTo (token a) c false

def plain (s : Scanner) : Option Scanner := do
  let s ← s.saveCandidate
  let scan ← plainScalar s.inFlow s.indent s.cursor
  return s.emitTo (.scalar (.ofList scan.text) .plain) scan.cursor scan.brokeLine

def block (s : Scanner) (style : Style) : Option Scanner := do
  let s ← s.dropCandidate
  let (text, c) ← blockScalar (style == .folded) s.indent s.cursor
  return s.emitTo (.scalar (.ofList text) style) c true

/-- Characters with which no plain scalar begins, unless they are a dash, a question mark or a colon
in front of more text. -/
def isIndicator (c : Char) : Bool := "-?:,[]\x7b\x7d#&*!|>'\"%@`".toList.contains c

def startsPlain (s : Scanner) (ch : Char) : Bool :=
  let next := s.cursor.peekAt 1
  !(isIndicator ch || isBlank ch) ||
  (ch == '-' && !next.any isBlank) ||
  (!s.inFlow && (ch == '?' || ch == ':') && !s.cursor.spaceAt 1)

/-- Reads the token at the cursor, which stands on the character `ch`. -/
def token (s : Scanner) (ch : Char) : Option Scanner :=
  let c := s.cursor
  let separate := c.spaceAt 1
  if c.column == 0 && ch == '%' then s.directive
  else if c.startsLineWith '-' then s.documentMark .documentStart
  else if c.startsLineWith '.' then s.documentMark .documentEnd
  else if ch == '[' then s.openFlow .flowSequenceStart
  else if ch == '\x7b' then s.openFlow .flowMappingStart
  else if ch == ']' then s.closeFlow .flowSequenceEnd
  else if ch == '\x7d' then s.closeFlow .flowMappingEnd
  else if ch == ',' then s.flowEntry
  else if ch == '-' && separate then s.blockEntry
  else if ch == '?' && (s.inFlow || separate) then s.key
  else if ch == ':' && (s.inFlow || separate) then s.value
  else if ch == '*' then s.content anchorName .reference
  else if ch == '&' then s.content anchorName .anchor
  else if ch == '!' then s.content (tagName s.inFlow) .tag
  else if ch == '|' && !s.inFlow then s.block .literal
  else if ch == '>' && !s.inFlow then s.block .folded
  else if ch == '\'' then
    s.content (quotedScalar ch) fun text => .scalar (.ofList text) .singleQuoted
  else if ch == '"' then
    s.content (quotedScalar ch) fun text => .scalar (.ofList text) .doubleQuoted
  else if s.startsPlain ch then s.plain
  else none

/-- Reads the tokens up to the end. Every token takes a character at least. -/
def run (s : Scanner) : Option (List Token) := do
  let (c, keyAllowed) := toNextToken s.inFlow s.keyAllowed s.cursor
  let next ← { s with cursor := c, keyAllowed := keyAllowed }.dropStale
  match c.peek with
  | none =>
    let last ← next.leaveBlocks
    return last.read.reverse
  | some ch =>
    let after ← (next.dedent (c.column + 1)).token ch
    if _h : after.cursor.rest.length < s.cursor.rest.length then after.run else none
  termination_by s.cursor.rest.length

end Scanner

/-- The tokens of a text, if it holds allowed characters only and can be cut into tokens. -/
def Token.ofText? (text : String) : Option (List Token) :=
  let chars := text.toList
  if chars.all isAllowed then (Scanner.start chars).run else none

end RelProto.Yaml
