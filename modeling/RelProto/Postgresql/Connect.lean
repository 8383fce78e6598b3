import RelProto.Postgresql.Catalog
import RelProto.Postgresql.ConnectionString

/-! Connecting to a PostgreSQL server, which is pinged once. A connection that gets lost later is
replaced. -/
namespace RelProto.Postgresql

variable {σ : Type}

def loses : Failure → Bool
  | .closed => true
  | _ => false

/-- Refuses a text that ends too early for those who read it up to a zero byte. -/
def sendable (text : String) : Exchange Failure σ Unit :=
  if text.toList.contains '\x00' then throw .zeroByte else return

/-- Begins to encrypt the connection to an endpoint, which this client cannot do. Unless encryption
begins directly, the server is asked first whether it is willing. -/
def encrypt (server : Server Failure Rows σ) (direct : Bool) (endpoint : Endpoint) :
    Exchange Failure σ Unit := do
  if !direct then
    let willing ← tryCatch server.encrypts fun failure =>
      throw (if failure = .closed then .cutOff else failure)
    if !willing then throw (.unencrypted .refused)
  match endpoint with
  | .socket _ => throw (.unencrypted .noHostName)
  | .port _ _ => throw (.unencrypted .unavailable)

/-- Gives the server the password that it demands. -/
def authenticate (server : Server Failure Rows σ) (login : Login) : Exchange Failure σ Unit := do
  match login.password with
  | none => throw .passwordMissing
  | some password =>
    sendable password
    server.takePassword password

/-- Makes sure that a session is of the required kind. -/
def checkSession (server : Server Failure Rows σ) (kind : SessionKind) :
    Exchange Failure σ Unit := do
  if kind ≠ .any then
    match kind, ← server.ask "SHOW transaction_read_only" with
    | .writable, "on" => throw .notWritable
    | .readOnly, "off" => throw .notReadOnly
    | _, _ => return

/-- Makes a connection to the server at an endpoint. -/
def connectAt (server : Server Failure Rows σ) (settings : ConnectionSettings) (login : Login)
    (endpoint : Endpoint) : Exchange Failure σ Unit := do
  server.reach endpoint
  if settings.encrypted then encrypt server settings.direct endpoint
  (settings.startTexts login).forM sendable
  let welcome ← server.greet login
  if settings.bindsChannel then throw .unboundChannel
  if welcome = .passwordDemanded then authenticate server login
  checkSession server settings.session

def client (server : Server Failure Rows σ) (currentUser : String)
    (settings : ConnectionSettings) : Client Failure Rows σ where
  server := server
  connect := do
    let endpoints ← ExceptT.mk (pure settings.endpoints)
    connectAny (connectAt server settings (settings.login currentUser)) .noHost endpoints
  report := Failure.toForeign
  loses := loses
  lossNote := [⟨.error, "connection error: connection closed"⟩]

def connectWith (server : Server Failure Rows σ) (currentUser : String)
    (settings : ConnectionSettings) : Action (Session σ) (Catalog (Session σ)) := do
  let client := client server currentUser settings
  client.ping
  return catalog client

/-- Connects to the configured database. -/
def connect (server : Server Failure Rows σ) (currentUser : String)
    (settings : DatabaseSettings) : Action (Session σ) (Catalog (Session σ)) := do
  .info ("Connecting to " ++ settings.target)
  connectWith server currentUser (.ofDatabase settings)

/-- Connects to the database that a connection string names. -/
def connectUrl (server : Server Failure Rows σ) (currentUser url : String) :
    Action (Session σ) (Catalog (Session σ)) :=
  match ConnectionSettings.ofText? url with
  | some settings => connectWith server currentUser settings
  | none => throw (.invalidConfig "invalid PostgreSQL connection URL: invalid connection string")

end RelProto.Postgresql
