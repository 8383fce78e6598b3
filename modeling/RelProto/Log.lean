/-! Computations that may fail and write log lines. The lines written before a failure stay. -/
namespace RelProto

inductive Level where
  | error
  | warn
  | info
  | debug
  deriving DecidableEq

def Level.label : Level → String
  | error => "ERROR"
  | warn => "WARN"
  | info => "INFO"
  | debug => "DEBUG"

structure LogLine where
  level : Level
  message : String
  deriving DecidableEq

def LogLine.text (line : LogLine) : String := line.level.label ++ " " ++ line.message

/-- A result together with the lines written on the way to it. -/
structure Logged (ε α : Type) where
  result : Except ε α
  log : List LogLine

namespace Logged

variable {ε ε' α β : Type}

def ok (a : α) : Logged ε α := ⟨.ok a, []⟩
def fail (e : ε) : Logged ε α := ⟨.error e, []⟩
def write (level : Level) (message : String) : Logged ε Unit := ⟨.ok (), [⟨level, message⟩]⟩
def warn (message : String) : Logged ε Unit := write .warn message

def andThen (first : Logged ε α) (next : α → Logged ε β) : Logged ε β :=
  match first with
  | ⟨.ok a, log⟩ =>
    let second := next a
    ⟨second.result, log ++ second.log⟩
  | ⟨.error e, log⟩ => ⟨.error e, log⟩

def mapError (f : ε → ε') (x : Logged ε α) : Logged ε' α := ⟨x.result.mapError f, x.log⟩

def ofExcept (x : Except ε α) : Logged ε α := ⟨x, []⟩

instance : Monad (Logged ε) where
  pure := ok
  bind := andThen

instance : MonadExceptOf ε (Logged ε) where
  throw := fail
  tryCatch x handle :=
    match x with
    | ⟨.ok a, log⟩ => ⟨.ok a, log⟩
    | ⟨.error e, log⟩ => ⟨(handle e).result, log ++ (handle e).log⟩

@[simp] theorem pure_eq (a : α) : (pure a : Logged ε α) = ⟨.ok a, []⟩ := rfl

@[simp] theorem ok_bind (a : α) (log : List LogLine) (next : α → Logged ε β) :
    (⟨.ok a, log⟩ : Logged ε α) >>= next = ⟨(next a).result, log ++ (next a).log⟩ := rfl

theorem error_bind (e : ε) (log : List LogLine) (next : α → Logged ε β) :
    (⟨.error e, log⟩ : Logged ε α) >>= next = ⟨.error e, log⟩ := rfl

@[simp] theorem result_warn_bind (message : String) (next : Unit → Logged ε α) :
    (warn message >>= next).result = (next ()).result := rfl

theorem result_throw (e : ε) : (throw e : Logged ε α).result = .error e := rfl

@[simp] theorem result_mapError (f : ε → ε') (x : Logged ε α) :
    (x.mapError f).result = x.result.mapError f := rfl

theorem result_bind_eq_ok_iff {x : Logged ε α} {next : α → Logged ε β} {b : β} :
    (x >>= next).result = .ok b ↔ ∃ a, x.result = .ok a ∧ (next a).result = .ok b := by
  rcases x with ⟨_ | a, log⟩
  · simp [error_bind]
  · simp [ok_bind]

@[simp] theorem result_map (f : α → β) (x : Logged ε α) : (f <$> x).result = x.result.map f := by
  rcases x with ⟨_ | a, log⟩ <;> rfl

@[simp] theorem log_mapError (f : ε → ε') (x : Logged ε α) : (x.mapError f).log = x.log := rfl

@[simp] theorem log_map (f : α → β) (x : Logged ε α) : (f <$> x).log = x.log := by
  rcases x with ⟨_ | a, log⟩
  · rfl
  · exact List.append_nil log

theorem result_bind_of_ok {x : Logged ε α} {a : α} (h : x.result = .ok a)
    (next : α → Logged ε β) : (x >>= next).result = (next a).result := by
  obtain ⟨result, log⟩ := x
  obtain rfl : result = .ok a := h
  rfl

theorem log_bind_of_ok {x : Logged ε α} {a : α} (h : x.result = .ok a) (next : α → Logged ε β) :
    (x >>= next).log = x.log ++ (next a).log := by
  obtain ⟨result, log⟩ := x
  obtain rfl : result = .ok a := h
  rfl

theorem log_bind_of_error {x : Logged ε α} {e : ε} (h : x.result = .error e)
    (next : α → Logged ε β) : (x >>= next).log = x.log := by
  obtain ⟨result, log⟩ := x
  obtain rfl : result = .error e := h
  rfl

theorem andThen_assoc {γ : Type} (x : Logged ε α) (f : α → Logged ε β) (g : β → Logged ε γ) :
    (x.andThen f).andThen g = x.andThen fun a => (f a).andThen g := by
  rcases x with ⟨_ | a, log⟩
  · rfl
  · rcases hf : f a with ⟨_ | b, log'⟩ <;> simp [andThen, hf, List.append_assoc]

theorem andThen_ok (x : Logged ε α) : x.andThen ok = x := by
  rcases x with ⟨_ | a, log⟩ <;> simp [andThen, ok]

instance : LawfulMonad (Logged ε) :=
  LawfulMonad.mk' (Logged ε) (fun x => andThen_ok x) (fun a next => by simp)
    (fun x f g => andThen_assoc x f g)

/-- Steps that never fail give all their results. -/
theorem result_mapM {f : α → Logged ε β} {g : α → β} (h : ∀ a, (f a).result = .ok (g a))
    (as : List α) : (as.mapM f).result = .ok (as.map g) := by
  induction as with
  | nil => rfl
  | cons a as ih =>
    rw [List.mapM_cons, result_bind_eq_ok_iff]
    refine ⟨g a, h a, ?_⟩
    rw [result_bind_eq_ok_iff]
    exact ⟨as.map g, ih, rfl⟩

/-- Steps that never fail write all their lines, one step after the other. -/
theorem log_mapM {f : α → Logged ε β} {g : α → β} (h : ∀ a, (f a).result = .ok (g a))
    (as : List α) : (as.mapM f).log = as.flatMap fun a => (f a).log := by
  induction as with
  | nil => rfl
  | cons a as ih =>
    rw [List.mapM_cons, log_bind_of_ok (h a), log_bind_of_ok (result_mapM h as), ih, pure_eq,
      List.append_nil, List.flatMap_cons]

end Logged

end RelProto
