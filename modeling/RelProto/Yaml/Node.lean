import RelProto.Yaml.Document
import RelProto.Yaml.Token.Scan

/-! The values of a document as a tree. An alias names the value it stands for by a number, because
it may stand inside that value. -/
namespace RelProto.Yaml

inductive Node where
  | scalar (anchor : Option Nat) (scalar : Scalar)
  | sequence (anchor : Option Nat) (items : List Node)
  | mapping (anchor : Option Nat) (pairs : List (Node × Node))
  | reference (anchor : Nat)

namespace Node

def missing : Node := .scalar none .missing

mutual

/-- The number of events that write the value. -/
def eventCount : Node → Nat
  | scalar _ _ | reference _ => 1
  | sequence _ items => 2 + eventCounts items
  | mapping _ pairs => 2 + pairEventCounts pairs

def eventCounts : List Node → Nat
  | [] => 0
  | node :: rest => node.eventCount + eventCounts rest

def pairEventCounts : List (Node × Node) → Nat
  | [] => 0
  | (key, value) :: rest => key.eventCount + value.eventCount + pairEventCounts rest

end

/-- Puts a value in front of the table if it has a number. -/
def note (anchor : Option Nat) (node : Node) (rest : List (Nat × Node)) : List (Nat × Node) :=
  match anchor with
  | some number => (number, node) :: rest
  | none => rest

mutual

/-- The numbered values in the order in which they begin, in front of others. -/
def anchored (node : Node) (rest : List (Nat × Node)) : List (Nat × Node) :=
  match node with
  | scalar anchor s => note anchor (scalar anchor s) rest
  | sequence anchor items => note anchor (sequence anchor items) (anchoredItems items rest)
  | mapping anchor pairs => note anchor (mapping anchor pairs) (anchoredPairs pairs rest)
  | reference _ => rest

def anchoredItems (items : List Node) (rest : List (Nat × Node)) : List (Nat × Node) :=
  match items with
  | [] => rest
  | node :: others => node.anchored (anchoredItems others rest)

def anchoredPairs (pairs : List (Node × Node)) (rest : List (Nat × Node)) : List (Nat × Node) :=
  match pairs with
  | [] => rest
  | (key, value) :: others => key.anchored (value.anchored (anchoredPairs others rest))

end

end Node

/-- A collection that is still open, its parts in reverse order. -/
inductive Frame where
  | sequence (anchor : Option Nat) (items : List Node)
  | mapping (anchor : Option Nat) (pairs : List (Node × Node))
  | mappingKey (anchor : Option Nat) (pairs : List (Node × Node)) (key : Node)

def Frame.add (node : Node) : Frame → Frame
  | sequence anchor items => sequence anchor (node :: items)
  | mapping anchor pairs => mappingKey anchor pairs node
  | mappingKey anchor pairs key => mapping anchor ((key, node) :: pairs)

/-- A tree in the making: the numbers of the anchors by name, the open collections from the
innermost outwards, and the finished value. -/
structure Composition where
  numbers : List (String × Nat)
  frames : List Frame
  root : Option Node

namespace Composition

def empty : Composition := ⟨[], [], none⟩

/-- Gives an anchor its number: that of the names before it. A name that comes again moves to the
new number, which the next new name then takes over. -/
def declare (c : Composition) (anchor : Option String) : Option Nat × Composition :=
  match anchor with
  | none => (none, c)
  | some name =>
    let number := c.numbers.length
    (some number, { c with numbers := (name, number) :: c.numbers.filter (·.1 != name) })

def add (c : Composition) (node : Node) : Composition :=
  match c.frames with
  | [] => { c with root := some node }
  | frame :: outer => { c with frames := frame.add node :: outer }

def start (c : Composition) (anchor : Option String) (frame : Option Nat → Frame) : Composition :=
  let (number, c) := c.declare anchor
  { c with frames := frame number :: c.frames }

/-- Fails at an alias whose name is not known yet. -/
def step (c : Composition) : Event → Option Composition
  | .reference name => (c.numbers.lookup name).map fun number => c.add (.reference number)
  | .scalar anchor scalar =>
    let (number, c) := c.declare anchor
    some (c.add (.scalar number scalar))
  | .sequenceStart anchor => some (c.start anchor (.sequence · []))
  | .mappingStart anchor => some (c.start anchor (.mapping · []))
  | .sequenceEnd =>
    match c.frames with
    | .sequence number items :: outer =>
      some ({ c with frames := outer }.add (.sequence number items.reverse))
    | _ => none
  | .mappingEnd =>
    match c.frames with
    | .mapping number pairs :: outer =>
      some ({ c with frames := outer }.add (.mapping number pairs.reverse))
    | _ => none

end Composition

/-- The value that the events write; none of them is a value left out. -/
def Node.ofEvents? (events : List Event) : Option Node := do
  let composition ← events.foldlM Composition.step .empty
  return composition.root.getD .missing

/-- The value of the only document in a text. -/
def Node.ofText? (text : String) : Option Node := do
  let tokens ← Token.ofText? text
  let events ← Event.ofTokens? tokens
  Node.ofEvents? events

end RelProto.Yaml
