import RelProto.Server

/-! Clients of a database server. A connection is made when it is needed, and stays open until it is
lost. -/
namespace RelProto

/-- A world in which a connection is open or not. -/
structure Session (σ : Type) where
  connected : Bool
  world : σ

namespace Session

def start {σ : Type} (world : σ) : Session σ := ⟨false, world⟩

end Session

/-- How a client reaches its server and what it makes of its failures. The loss of a connection may
be logged. -/
structure Client (Failure Answer σ : Type) where
  server : Server Failure Answer σ
  connect : Exchange Failure σ Unit
  report : Failure → Foreign
  loses : Failure → Bool
  lossNote : List LogLine

namespace Client

variable {Failure Answer σ α : Type}

/-- Makes a connection unless one is open. -/
def ready (client : Client Failure Answer σ) : Action (Session σ) Unit := fun session =>
  if session.connected then (.ok (), session)
  else
    match client.connect session.world with
    | (.ok (), world) => (.ok (), ⟨true, world⟩)
    | (.error failure, world) =>
      (.fail (.of (.connectionFailure (client.report failure))), ⟨false, world⟩)

/-- Uses the open connection, and gives it up if the failure says so. -/
def exchange (client : Client Failure Answer σ) (kind : Foreign → Fault.Kind)
    (use : Exchange Failure σ α) : Action (Session σ) α := fun session =>
  match use session.world with
  | (.ok a, world) => (.ok a, { session with world })
  | (.error failure, world) =>
    let fault := Fault.of (kind (client.report failure))
    if client.loses failure then (⟨.error fault, client.lossNote⟩, ⟨false, world⟩)
    else (.fail fault, { session with world })

/-- Asks the server whether it is there; what it says does not count. -/
def ping (client : Client Failure Answer σ) : Action (Session σ) Unit := do
  client.ready
  let _ ← client.exchange .connectionFailure (client.server.ask pingText)

/-- What the server answers to a statement. -/
def answer (client : Client Failure Answer σ) (statement : Statement) :
    Action (Session σ) Answer := do
  client.ready
  client.exchange .queryFailure (client.server.answer statement)

end Client

/-- Tries to connect at one endpoint after the other. If none works, the last failure counts, or
`unreachable` without any endpoint. -/
def connectAny {Failure σ : Type} (connect : Endpoint → Exchange Failure σ Unit)
    (unreachable : Failure) : List Endpoint → Exchange Failure σ Unit
  | [] => throw unreachable
  | endpoint :: rest => tryCatch (connect endpoint) fun failure => connectAny connect failure rest

end RelProto
