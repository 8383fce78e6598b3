import RelProto.Fault

/-! Shared faults. A handle names a chain of cells; copies of a handle name the same cells. Adding
a context takes the context's cell over when nobody else holds it, and copies its text otherwise. -/
namespace RelProto.Fault

/-- A kind together with the identity of the cell that holds it. -/
structure Cell where
  id : Nat
  kind : Kind
  deriving DecidableEq

structure Handle where
  cell : Cell
  causes : List Cell
  deriving DecidableEq

namespace Handle

def cells (handle : Handle) : List Cell := handle.cell :: handle.causes

def fault (handle : Handle) : Fault := ⟨handle.cell.kind, handle.causes.map Cell.kind⟩

/-- Whether the handle's chain runs through the cell. -/
def holds (handle : Handle) (id : Nat) : Bool := handle.cells.any (·.id == id)

/-- What the complaint says when a context already has a cause of its own. -/
def contextWithCause : String := "consequent error must not already have a cause"

/-- Puts `outer` in front of `inner`, in the new cell `id`. `others` are the handles that stay
alive. A context that `others` or `inner` still reach lends only the text of its own kind; one that
nobody else reaches gives up its kind, and must not have a cause. -/
def addContext (inner outer : Handle) (others : List Handle) (id : Nat) :
    Except String Handle :=
  if (inner :: others).any (·.holds outer.cell.id) then
    .ok ⟨⟨id, .adhoc outer.cell.kind.message⟩, inner.cells⟩
  else if outer.causes.isEmpty then
    .ok ⟨⟨id, outer.cell.kind⟩, inner.cells⟩
  else .error contextWithCause

end Handle

/-- Named handles, and the identity that the next cell gets. -/
structure Shelf where
  slots : List (String × Handle)
  next : Nat

namespace Shelf

def empty : Shelf := ⟨[], 0⟩

def get? (shelf : Shelf) (name : String) : Option Handle := shelf.slots.lookup name

def handles (shelf : Shelf) : List Handle := shelf.slots.map (·.2)

def clear (shelf : Shelf) (name : String) : Shelf :=
  { shelf with slots := shelf.slots.filter (·.1 != name) }

def put (shelf : Shelf) (name : String) (handle : Handle) : Shelf :=
  { shelf with slots := (name, handle) :: (shelf.clear name).slots }

/-- Cells of their own for the members of a chain. -/
def number (next : Nat) : List Kind → List Cell
  | [] => []
  | kind :: rest => ⟨next, kind⟩ :: number (next + 1) rest

/-- A handle to a new fault, held by nobody else. -/
def allocate (shelf : Shelf) (fault : Fault) : Handle × Shelf :=
  (⟨⟨shelf.next, fault.kind⟩, number (shelf.next + 1) fault.causes⟩,
   { shelf with next := shelf.next + 1 + fault.causes.length })

/-- Takes the handle out of its slot, or copies it. -/
def fetch (shelf : Shelf) (name : String) (take : Bool) : Option (Handle × Shelf) :=
  (shelf.get? name).map fun handle => (handle, if take then shelf.clear name else shelf)

/-- A context: a text of its own or the fault in a slot, moved or copied. -/
inductive Context where
  | text (message : String)
  | slot (name : String) (take : Bool)

inductive Step where
  | new (fault : Fault)
  | clone (source : String)
  | context (source : String) (take : Bool) (context : Context)

/-- Why a step stores nothing. -/
inductive Refusal where
  | emptySlot (name : String)
  | contextWithCause

def Refusal.message : Refusal → String
  | emptySlot name => "no error in slot " ++ name
  | contextWithCause => Handle.contextWithCause

/-- Makes a handle and stores it under `target`. Slots that the step takes from stay empty also when
it is refused. -/
def run (shelf : Shelf) (target : String) : Step → Except Refusal Handle × Shelf
  | .new fault =>
    let (handle, shelf) := shelf.allocate fault
    (.ok handle, shelf.put target handle)
  | .clone source =>
    match shelf.get? source with
    | none => (.error (.emptySlot source), shelf)
    | some handle => (.ok handle, shelf.put target handle)
  | .context source take context =>
    match shelf.fetch source take with
    | none => (.error (.emptySlot source), shelf)
    | some (inner, shelf) =>
      let outer : Except Refusal (Handle × Shelf) :=
        match context with
        | .text message => .ok (shelf.allocate (of (.adhoc message)))
        | .slot name takeContext =>
          match shelf.fetch name takeContext with
          | none => .error (.emptySlot name)
          | some found => .ok found
      match outer with
      | .error refusal => (.error refusal, shelf)
      | .ok (outer, shelf) =>
        match inner.addContext outer shelf.handles shelf.next with
        | .error _ => (.error .contextWithCause, shelf)
        | .ok handle => (.ok handle, { shelf with next := shelf.next + 1 }.put target handle)

end Shelf

end RelProto.Fault
