import RelProto.Config
import RelProto.Postgresql.Answer
import RelProto.Server.Client

/-! Where and how a client connects to PostgreSQL. -/
namespace RelProto.Postgresql

/-- A host by its name, or the directory of a socket. -/
inductive Host where
  | named (name : String)
  | directory (path : String)
  deriving DecidableEq

/-- A host that begins with a slash is a directory. -/
def Host.ofText (text : String) : Host :=
  if text.toList.head? == some '/' then directory text else named text

/-- Which sessions are accepted. -/
inductive SessionKind where
  | any
  | writable
  | readOnly
  deriving DecidableEq

/-- All that decides on a connection. `addresses` are the network addresses of the hosts. Encryption
is direct if it is not requested first. -/
structure ConnectionSettings where
  user : Option String := none
  password : Option String := none
  database : Option String := none
  hosts : List Host := []
  addresses : List String := []
  ports : List UInt16 := []
  options : String := ""
  application : String := ""
  encrypted : Bool := false
  direct : Bool := false
  bindsChannel : Bool := false
  session : SessionKind := .any
  deriving DecidableEq

namespace ConnectionSettings

def ofDatabase (settings : DatabaseSettings) : ConnectionSettings where
  user := some settings.user
  password := some settings.password
  database := some settings.database
  hosts := [.ofText settings.host]
  ports := settings.effectivePort.toList

/-- Without a name of its own the user is called like the one that runs the client. -/
def login (settings : ConnectionSettings) (currentUser : String) : Login :=
  ⟨settings.user.getD currentUser, settings.database, settings.password⟩

/-- All that is sent to begin with. -/
def startTexts (settings : ConnectionSettings) (login : Login) : List String :=
  [login.user, login.database.getD "", settings.options, settings.application]

/-- The port for the host at this place: its own, or the first one. -/
def portAt (settings : ConnectionSettings) (index : Nat) : UInt16 :=
  (settings.ports[index]? <|> settings.ports.head?).getD 5432

/-- The socket in a directory has the port in its name. -/
def hostEndpoint (port : UInt16) : Host → Endpoint
  | .named name => .port name port
  | .directory path =>
    let slash := if path.toList.getLast? == some '/' then "" else "/"
    .socket (path ++ slash ++ ".s.PGSQL." ++ toString port.toNat)

/-- An address is used in place of the name of its host. -/
def endpointAt (settings : ConnectionSettings) (index : Nat) : Option Endpoint :=
  let port := settings.portAt index
  (settings.addresses[index]?.map (.port · port)) <|>
    (settings.hosts[index]?.map (hostEndpoint port))

/-- The endpoints to try. There has to be a host; addresses and ports, if there are several, have to
be as many as hosts. -/
def endpoints (settings : ConnectionSettings) : Except Failure (List Endpoint) :=
  let hosts := settings.hosts.length
  let addresses := settings.addresses.length
  let count := max hosts addresses
  if count = 0 then .error .noHost
  else if hosts ≠ 0 && addresses ≠ 0 && hosts ≠ addresses then
    .error (.hostCount hosts addresses)
  else if 1 < settings.ports.length && settings.ports.length ≠ count then .error .portCount
  else .ok ((List.range count).filterMap settings.endpointAt)

end ConnectionSettings

end RelProto.Postgresql
