import RelProto.Fault
import RelProto.Log

/-! Computations on an outside world of type `σ`, for instance a database server. They may fail and
write log lines; a failure keeps the world and the log as they are at that point. -/
namespace RelProto

def Action (σ α : Type) : Type := σ → Logged Fault α × σ

namespace Action

variable {σ α β : Type}

def run (action : Action σ α) (world : σ) : Logged Fault α × σ := action world

def ok (a : α) : Action σ α := fun world => (.ok a, world)

def andThen (first : Action σ α) (next : α → Action σ β) : Action σ β := fun world =>
  match first world with
  | (⟨.ok a, log⟩, world) =>
    let (second, world) := next a world
    (⟨second.result, log ++ second.log⟩, world)
  | (⟨.error fault, log⟩, world) => (⟨.error fault, log⟩, world)

instance : Monad (Action σ) where
  pure := ok
  bind := andThen

/-- A computation that does not touch the world. -/
def ofLogged (x : Logged Fault α) : Action σ α := fun world => (x, world)

instance : MonadLift (Logged Fault) (Action σ) := ⟨ofLogged⟩

def fail (fault : Fault) : Action σ α := ofLogged (.fail fault)

instance : MonadExceptOf Fault (Action σ) where
  throw := fail
  tryCatch action handle := fun world =>
    match action world with
    | (⟨.ok a, log⟩, world) => (⟨.ok a, log⟩, world)
    | (⟨.error fault, log⟩, world) =>
      let (second, world) := handle fault world
      (⟨second.result, log ++ second.log⟩, world)

def ofExcept (x : Except Fault α) : Action σ α := ofLogged (.ofExcept x)

def modify (f : σ → σ) : Action σ Unit := fun world => (.ok (), f world)

def log (level : Level) (message : String) : Action σ Unit := ofLogged (.write level message)

def info (message : String) : Action σ Unit := log .info message

def mapError (f : Fault → Fault) (action : Action σ α) : Action σ α := fun world =>
  let (outcome, world) := action world
  (outcome.mapError f, world)

/-- Adds a context to the fault with which the action ends, if it fails. -/
def inContext (message : String) (action : Action σ α) : Action σ α :=
  action.mapError (·.context message)

theorem andThen_assoc {γ : Type} (x : Action σ α) (f : α → Action σ β) (g : β → Action σ γ) :
    (x.andThen f).andThen g = x.andThen fun a => (f a).andThen g := by
  funext world
  simp only [andThen]
  rcases x world with ⟨⟨_ | a, log⟩, world⟩
  · rfl
  · rcases hf : f a world with ⟨⟨_ | b, log'⟩, world'⟩ <;> simp [hf, List.append_assoc]

theorem andThen_ok (x : Action σ α) : x.andThen ok = x := by
  funext world
  simp only [andThen]
  rcases x world with ⟨⟨_ | a, log⟩, world⟩ <;> simp [ok, Logged.ok]

theorem ok_andThen (a : α) (next : α → Action σ β) : (ok a).andThen next = next a := by
  funext world
  simp [andThen, ok, Logged.ok]

instance : LawfulMonad (Action σ) :=
  LawfulMonad.mk' (Action σ) (fun x => andThen_ok x) (fun a next => ok_andThen a next)
    (fun x f g => andThen_assoc x f g)

end Action

end RelProto
