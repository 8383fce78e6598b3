import RelProto.Yaml.Node

/-! Reading typed values out of a document. What is asked for decides how a scalar is understood,
and an alias is followed wherever a value is read; how often that happens is limited. -/
namespace RelProto.Yaml

/-- A computation that looks up numbered values and may follow some number of aliases. -/
abbrev Decode := ReaderT (List (Nat × Node)) (StateT Nat Option)

namespace Decode

/-- The value itself, or the one that an alias stands for. -/
def follow : Node → Decode Node
  | .reference number => do
    let hops ← get
    if hops = 0 then failure
    else
      set (hops - 1)
      match (← read).lookup number with
      | some node => return node
      | none => failure
  | node => return node

/-- The text of any scalar. -/
def text (node : Node) : Decode String := do
  match ← follow node with
  | .scalar _ scalar => return scalar.text
  | _ => failure

/-- The items of a sequence; an empty plain scalar has none. -/
def list {α : Type} (item : Node → Decode α) (node : Node) : Decode (List α) := do
  match ← follow node with
  | .sequence _ items => items.mapM item
  | .scalar _ ⟨_, .plain, ""⟩ => return []
  | _ => failure

def keyed (pair : Node × Node) : Decode (String × Node) := do
  return (← text pair.1, pair.2)

/-- The values of these keys in a mapping; none of them may come twice. Other keys do not matter. An
empty plain scalar has no keys. -/
def fields (keys : List String) (node : Node) : Decode (List (String × Node)) := do
  match ← follow node with
  | .mapping _ pairs =>
    let fields := (← pairs.mapM keyed).filter (keys.contains ·.1)
    if (fields.map (·.1)).Nodup then return fields else failure
  | .scalar _ ⟨_, .plain, ""⟩ => return []
  | _ => failure

/-- The value of a field, or `fallback` without the field. -/
def field {α : Type} (fields : List (String × Node)) (key : String) (fallback : α)
    (decode : Node → Decode α) : Decode α :=
  match fields.lookup key with
  | some node => decode node
  | none => return fallback

/-- The value of a field that has to be there. -/
def required {α : Type} (fields : List (String × Node)) (key : String)
    (decode : Node → Decode α) : Decode α :=
  match fields.lookup key with
  | some node => decode node
  | none => failure

def isNull (text : String) : Bool := ["null", "Null", "NULL", "~"].contains text

def coreTag (name : String) : Tag := .ofText ("tag:yaml.org,2002:" ++ name)

/-- Whether a scalar says that there is no value. Fails at one that is tagged as null and is not. -/
def isAbsent (scalar : Scalar) : Decode Bool :=
  if scalar.style ≠ .plain then return false
  else
    match scalar.tag with
    | none => return scalar.text.isEmpty || isNull scalar.text
    | some tag =>
      if tag ≠ coreTag "null" then return false
      else if isNull scalar.text then return true
      else failure

def optional {α : Type} (decode : Node → Decode α) (node : Node) : Decode (Option α) := do
  let node ← follow node
  match node with
  | .scalar _ scalar => if ← isAbsent scalar then return none else some <$> decode node
  | node => some <$> decode node

/-- The text of a scalar that may stand for a value of the named type: a plain one, whatever its
tag, or a literal one with the tag of the type. -/
def plainText (type : String) (node : Node) : Decode String := do
  match ← follow node with
  | .scalar _ ⟨tag, style, text⟩ =>
    if style = .plain || (style = .literal && tag = some (coreTag type)) then return text
    else failure
  | _ => failure

def flag (node : Node) : Decode Bool := do
  let text ← plainText "bool" node
  if ["true", "True", "TRUE"].contains text then return true
  else if ["false", "False", "FALSE"].contains text then return false
  else failure

def digitValue? (base : Nat) (c : Char) : Option Nat :=
  let value? : Option Nat :=
    if '0' ≤ c && c ≤ '9' then some (c.toNat - '0'.toNat)
    else if 'a' ≤ c && c ≤ 'f' then some (c.toNat - 'a'.toNat + 10)
    else if 'A' ≤ c && c ≤ 'F' then some (c.toNat - 'A'.toNat + 10)
    else none
  value?.filter (· < base)

/-- The number written in this base by one digit or more. -/
def digits? (base : Nat) (digits : List Char) : Option Nat :=
  if digits.isEmpty then none
  else (digits.mapM (digitValue? base)).map (·.foldl (fun n digit => base * n + digit) 0)

/-- An unsigned number, in base sixteen, eight or two after `0x`, `0o` or `0b`. Decimal digits do
not begin with a needless zero. -/
def number? (text : String) : Option Nat :=
  let unsigned := match text.toList with
    | '+' :: rest => rest
    | chars => chars
  match unsigned with
  | '0' :: 'x' :: rest => digits? 16 rest
  | '0' :: 'o' :: rest => digits? 8 rest
  | '0' :: 'b' :: rest => digits? 2 rest
  | '0' :: _ :: _ => none
  | digits => digits? 10 digits

def word (node : Node) : Decode UInt16 := do
  match number? (← plainText "int" node) with
  | some n => if n < UInt16.size then return n.toUInt16 else failure
  | none => failure

/-- The name that a local tag writes, if its bytes are a text. -/
def localName? : Tag → Option String
  | 0x21 :: name => String.fromUTF8? (if name.isEmpty then [0x21] else name).toByteArray
  | _ => none

/-- A name out of an enumeration: the text of a scalar, or a local tag on an empty plain one. -/
def named {α : Type} (ofName? : String → Option α) (node : Node) : Decode α := do
  match ← follow node with
  | .scalar _ ⟨tag, style, text⟩ =>
    let name? : Option String :=
      match tag.bind localName? with
      | some name => if style = .plain && (text.isEmpty || isNull text) then some name else none
      | none => some text
    match name?.bind ofName? with
    | some value => return value
    | none => failure
  | _ => failure

/-- Reads a document. For each event of it a hundred aliases may be followed. -/
def run {α : Type} (decode : Node → Decode α) (root : Node) : Option α :=
  (ReaderT.run (decode root) (root.anchored []).reverse).run' (100 * root.eventCount)

end Decode

end RelProto.Yaml
