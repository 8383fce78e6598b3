import RelProto.Server

/-! A server whose answers are laid down beforehand, and which notes what is said to it. -/
namespace RelProto

/-- The moments at which a server may fail. -/
inductive Occasion where
  | encryption
  | connect
  | ask
  | prepare (query : CatalogQuery)
  | answer (query : CatalogQuery)

/-- What is said to a server, a password included. -/
inductive Heard where
  | encryption
  | connect (login : Login)
  | password (text : String)
  | ask (text : String)
  | prepare (text : String)
  | answer (statement : Statement)
  deriving DecidableEq

namespace Heard

def isConnect : Heard → Bool
  | connect _ => true
  | _ => false

end Heard

/-- The answers and failures of a server that does not encrypt. It can be reached at some endpoints,
may demand a password, says the same to all it is asked, and notes the texts of statements and all
connections or only the first one. -/
structure ServerScript (Failure Answer : Type) where
  reach : Endpoint → Except Failure Unit
  demandsPassword : Bool
  notesTexts : Bool
  notesReconnects : Bool
  reply : String
  answer : Statement → Answer
  failure? : Occasion → Option Failure

namespace ServerScript

variable {Failure Answer : Type}

/-- An exchange with a server that notes what it hears. -/
abbrev Heeded (Failure α : Type) : Type := Exchange Failure (List Heard) α

def note (heard : Heard) : Heeded Failure Unit := modify (· ++ [heard])

/-- Fails if the occasion is one for a failure. -/
def meet (script : ServerScript Failure Answer) (occasion : Occasion) : Heeded Failure Unit :=
  match script.failure? occasion with
  | some failure => throw failure
  | none => return

def reachable (script : ServerScript Failure Answer) (endpoint : Endpoint) : Heeded Failure Unit :=
  ExceptT.mk (pure (script.reach endpoint))

def encrypts (script : ServerScript Failure Answer) : Heeded Failure Bool := do
  note .encryption
  script.meet .encryption
  return false

/-- The login is refused, if at all, once it is complete. -/
def greet (script : ServerScript Failure Answer) (login : Login) : Heeded Failure Welcome := do
  if script.notesReconnects || !(← get).any Heard.isConnect then note (.connect login)
  if script.demandsPassword then return .passwordDemanded
  script.meet .connect
  return .accepted

def takePassword (script : ServerScript Failure Answer) (text : String) : Heeded Failure Unit := do
  note (.password text)
  script.meet .connect

def ask (script : ServerScript Failure Answer) (text : String) : Heeded Failure String := do
  note (.ask text)
  script.meet .ask
  return script.reply

/-- A statement is prepared and then answered. -/
def respond (script : ServerScript Failure Answer) (statement : Statement) :
    Heeded Failure Answer := do
  if script.notesTexts then note (.prepare statement.text)
  script.meet (.prepare statement.query)
  note (.answer statement)
  script.meet (.answer statement.query)
  return script.answer statement

def server (script : ServerScript Failure Answer) : Server Failure Answer (List Heard) where
  reach := script.reachable
  encrypts := script.encrypts
  greet := script.greet
  takePassword := script.takePassword
  ask := script.ask
  answer := script.respond

end ServerScript

end RelProto
