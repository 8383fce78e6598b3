import RelProto.Mysql.Catalog
import RelProto.Mysql.ConnectionUrl

/-! Connecting to a MySQL server, which is pinged once. -/
namespace RelProto.Mysql

variable {σ : Type}

def loses : Failure → Bool
  | .closed => true
  | _ => false

/-- The part of a text that a server reads that stops at a zero byte. -/
def untilZero (text : String) : String := .ofList (text.toList.takeWhile (· != '\x00'))

/-- Makes a connection. The server is not willing to encrypt it. -/
def connectTo (server : Server Failure (List Row) σ) (settings : ConnectionSettings) :
    Exchange Failure σ Unit := do
  server.reach settings.endpoint
  if settings.encrypted then throw .unencrypted
  let login := settings.login
  let welcome ← server.greet
    { login with user := untilZero login.user, database := login.database.map untilZero }
  if welcome = .passwordDemanded then server.takePassword (login.password.getD "")

def client (server : Server Failure (List Row) σ) (settings : ConnectionSettings) :
    Client Failure (List Row) σ where
  server := server
  connect := connectTo server settings
  report := Failure.toForeign
  loses := loses
  lossNote := []

def connectWith (server : Server Failure (List Row) σ) (settings : ConnectionSettings) :
    Action (Session σ) (Catalog (Session σ)) := do
  let client := client server settings
  client.ping
  return catalog client

/-- Connects to the configured database. -/
def connect (server : Server Failure (List Row) σ) (settings : DatabaseSettings) :
    Action (Session σ) (Catalog (Session σ)) := do
  .info ("Connecting to " ++ settings.target)
  connectWith server (.ofDatabase settings)

/-- Connects to the database that a URL names. -/
def connectUrl (server : Server Failure (List Row) σ) (url : String) :
    Action (Session σ) (Catalog (Session σ)) :=
  match ConnectionSettings.ofUrl url with
  | .ok settings => connectWith server settings
  | .error refusal =>
    throw (.invalidConfig ("invalid MySQL connection URL: " ++ refusal.message))

end RelProto.Mysql
