import RelProto.Yaml.Token
import RelProto.Yaml.Token.Quoted

/-! Tags, anchors and directives. -/
namespace RelProto.Yaml

/-- Characters that a tag may hold as they are; flow indicators only inside angle brackets. -/
def isTagChar (verbatim : Bool) (c : Char) : Bool :=
  isWordChar c || ";/?:@&=+$.!~*'()%".toList.contains c ||
  (verbatim && (c == ',' || c == '[' || c == ']'))

/-- How many octets a character takes that begins with this one. -/
def octetCount? (octet : Nat) : Option Nat :=
  if octet < 0x80 then some 1
  else if 0xc0 ≤ octet && octet < 0xe0 then some 2
  else if 0xe0 ≤ octet && octet < 0xf0 then some 3
  else if 0xf0 ≤ octet && octet < 0xf8 then some 4
  else none

/-- The octet of a percent escape at the beginning of the text. -/
def percentOctet? : List Char → Option Nat
  | '%' :: high :: low :: _ => hexValue? [high, low]
  | _ => none

/-- The octets that continue a character, escaped at the beginning of the text. -/
def trailingOctets? : Nat → List Char → Option (List UInt8)
  | 0, _ => some []
  | count + 1, text => do
    let octet ← percentOctet? text
    if 0x80 ≤ octet && octet < 0xc0 then
      return octet.toUInt8 :: (← trailingOctets? count (text.drop 3))
    else none

/-- What counts of the octets: those before the first zero. -/
def untilZero (octets : Tag) : Tag := octets.takeWhile (· != 0)

/-- The octets that percent escapes write, of which there is one at least. They have the form of one
character, and need not be one. -/
def percentEscape? (text : List Char) : Option (List UInt8) := do
  let octet ← percentOctet? text
  let count ← octetCount? octet
  return octet.toUInt8 :: (← trailingOctets? (count - 1) (text.drop 3))

/-- Reads the characters of a tag and resolves its percent escapes. -/
def tagText (verbatim : Bool) (read : Tag) (c : Cursor) : Option (Tag × Cursor) :=
  match _h : c.rest with
  | [] => some (read.reverse, c)
  | ch :: _ =>
    if ch == '%' then
      match percentEscape? c.rest with
      | some (octet :: more) =>
        tagText verbatim (more.reverse ++ octet :: read) (c.skip (3 * more.length + 3))
      | _ => none
    else if isTagChar verbatim ch then tagText verbatim (ch.toNat.toUInt8 :: read) (c.skip 1)
    else some (read.reverse, c)
  termination_by c.rest.length
  decreasing_by
    all_goals
      simp only [Cursor.length_rest_skip, _h, List.length_cons]
      omega

/-- Reads `!`, `!word` or `!word!`. -/
def tagHandle (c : Cursor) : Option (List Char × Cursor) :=
  match c.rest with
  | '!' :: rest =>
    let word := rest.takeWhile isWordChar
    let closed := (rest.drop word.length).head? == some '!'
    let handle := '!' :: word ++ (if closed then ['!'] else [])
    some (handle, c.skip handle.length)
  | _ => none

/-- A handle that ends in an exclamation mark of its own is followed by a suffix; any other is the
beginning of a suffix, and a sole `!` is a suffix without handle. -/
def shorthandTag (c : Cursor) : Option (TagName × Cursor) := do
  let (handle, after) ← tagHandle c
  if handle.length > 1 && handle.getLast? == some '!' then
    let (suffix, after) ← tagText false [] after
    if suffix.isEmpty then none else some (⟨.ofList handle, untilZero suffix⟩, after)
  else
    let (more, after) ← tagText false [] after
    let suffix := Tag.ofText (.ofList (handle.drop 1)) ++ untilZero more
    if suffix.isEmpty then some (⟨"", .ofText "!"⟩, after) else some (⟨"!", suffix⟩, after)

/-- Reads the text between angle brackets. -/
def verbatimTag (c : Cursor) : Option (TagName × Cursor) := do
  let (suffix, after) ← tagText true [] (c.skip 2)
  if suffix.isEmpty || after.peek != some '>' then none
  else some (⟨"", untilZero suffix⟩, after.skip 1)

/-- Reads a tag, which white space has to follow, or a comma in a flow collection. -/
def tagName (flow : Bool) (c : Cursor) : Option (TagName × Cursor) := do
  let (name, after) ← if c.peekAt 1 == some '<' then verbatimTag c else shorthandTag c
  if (flow && after.peek == some ',') || after.spaceAt 0 then some (name, after) else none

/-- Reads the name of an anchor or alias from its indicator on. -/
def anchorName (c : Cursor) : Option (String × Cursor) :=
  let name := (c.rest.drop 1).takeWhile isWordChar
  let after := c.skip (name.length + 1)
  let ended := after.spaceAt 0 || after.peek.any ("?:,]\x7d%@`".toList.contains ·)
  if name.isEmpty || !ended then none else some (.ofList name, after)

/-- Reads a number of at most nine digits. -/
def versionNumber (c : Cursor) : Option (Nat × Cursor) :=
  let digits := c.rest.takeWhile Char.isDigit
  if digits.isEmpty || digits.length > 9 then none
  else some (digits.foldl (fun n d => 10 * n + (d.toNat - '0'.toNat)) 0, c.skip digits.length)

/-- Reads what follows the name of a version directive. -/
def versionDirective (c : Cursor) : Option (Token × Cursor) := do
  let (major, c) ← versionNumber (c.skipWhile isBlank)
  if c.peek != some '.' then none
  else
    let (minor, c) ← versionNumber (c.skip 1)
    some (.versionDirective major minor, c)

/-- Reads what follows the name of a tag directive: a handle and its meaning. -/
def tagDirective (c : Cursor) : Option (Token × Cursor) := do
  let (handle, c) ← tagHandle (c.skipWhile isBlank)
  if handle.length > 1 && handle.getLast? != some '!' then none
  else if !c.peek.any isBlank then none
  else
    let (meaning, c) ← tagText true [] (c.skipWhile isBlank)
    if meaning.isEmpty || !c.spaceAt 0 then none
    else some (.tagDirective (.ofList handle) (untilZero meaning), c)

/-- Reads a directive with the rest of its line. -/
def directive (c : Cursor) : Option (Token × Cursor) := do
  let name := (c.rest.drop 1).takeWhile isWordChar
  let after := c.skip (name.length + 1)
  if !after.spaceAt 0 then none
  else
    let (token, after) ←
      if name == "YAML".toList then versionDirective after
      else if name == "TAG".toList then tagDirective after
      else none
    return (token, ← after.skipComment?)

end RelProto.Yaml
