import RelProto.Config
import RelProto.Network.Url
import RelProto.Server
import RelProto.Text.Bytes

/-! Where and how a client connects to MySQL, and how a URL says so. -/
namespace RelProto.Mysql

open Network (Url UrlFault)

structure ConnectionSettings where
  endpoint : Endpoint
  login : Login
  encrypted : Bool
  deriving DecidableEq

def defaultPort : UInt16 := 3306

def ConnectionSettings.ofDatabase (settings : DatabaseSettings) : ConnectionSettings where
  endpoint := .port settings.host (settings.effectivePort.getD defaultPort)
  login := ⟨settings.user, some settings.database, some settings.password⟩
  encrypted := false

/-- Why a URL names no connection. -/
inductive UrlRefusal where
  | unparsable (fault : UrlFault)
  | incomplete
  | unsupportedScheme (scheme : String)
  | unknownParameter (name : String)
  | invalidValue (name value : String)
  | poolBounds (least most : Nat)
  deriving DecidableEq

def UrlRefusal.message : UrlRefusal → String
  | unparsable fault => "URL parse error: " ++ fault.message
  | incomplete => "Invalid or incomplete connection URL"
  | unsupportedScheme scheme => "Unsupported connection URL scheme `" ++ scheme ++ "'"
  | unknownParameter name => "Unknown connection URL parameter `" ++ name ++ "'"
  | invalidValue name value =>
    "Invalid value `" ++ value ++ "' for connection URL parameter `" ++ name ++ "'"
  | poolBounds least most =>
    "Invalid pool constraints: pool_min (" ++ toString least ++ ") > pool_max (" ++
      toString most ++ ")."

/-- The pairs of a query; a plus sign is a blank. -/
def queryPairs (query : String) : List (String × String) :=
  ((Text.split (· == '&') query.toList).filter (!·.isEmpty)).map fun piece =>
    let (name, value) := Url.cutBefore (· == '=') piece
    (decoded name, decoded (value.drop 1))
where
  decoded (text : List Char) : String :=
    Text.percentText (.ofList (text.map fun c => if c = '+' then ' ' else c))

def isFlag (value : String) : Bool := value = "true" || value = "false"

def isCompression (value : String) : Bool :=
  ["fast", "on", "true", "best"].contains value ||
    (value.length = 1 && value.toList.all Char.isDigit)

/-- Whether a parameter takes the value; nothing is known of other parameters. -/
def takesValue? (name value : String) : Option Bool :=
  match name with
  | "pool_min" | "pool_max" | "inactive_connection_ttl" | "ttl_check_interval" | "conn_ttl"
  | "abs_conn_ttl" | "abs_conn_ttl_jitter" | "max_allowed_packet" | "wait_timeout"
  | "stmt_cache_size" => some (Text.unsignedBelow? (Nat.pow 2 64) value).isSome
  | "tcp_keepalive" => some (Text.unsignedBelow? (Nat.pow 2 32) value).isSome
  | "enable_cleartext_plugin" | "reset_connection" | "tcp_nodelay" | "prefer_socket"
  | "secure_auth" | "client_found_rows" | "require_ssl" | "verify_ca" | "verify_identity"
  | "built_in_roots" => some (isFlag value)
  | "compression" => some (isCompression value)
  | "socket" => some true
  | _ => none

/-- The name under which the value of a parameter is refused. -/
def reportedName (name : String) : String :=
  if name = "tcp_keepalive" then "tcp_keepalive_ms" else name

def checkParameter : String × String → Except UrlRefusal Unit := fun (name, value) =>
  match takesValue? name value with
  | none => .error (.unknownParameter name)
  | some false => .error (.invalidValue (reportedName name) value)
  | some true => .ok ()

/-- The last value of a parameter. -/
def lastValue? (pairs : List (String × String)) (name : String) : Option String :=
  pairs.reverse.lookup name

def bound (pairs : List (String × String)) (name : String) (fallback : Nat) : Nat :=
  ((lastValue? pairs name).bind Text.unsigned?).getD fallback

/-- Whether a port can be given to the URL. -/
def takesPort (url : Url) : Bool := url.scheme != "file" && url.host.any (!·.isEmpty)

/-- Reads a URL. A socket is used in place of the host. -/
def ConnectionSettings.ofUrl (text : String) : Except UrlRefusal ConnectionSettings := do
  let url ← (Url.ofText text).mapError .unparsable
  if !takesPort url then throw .incomplete
  if url.scheme ≠ "mysql" then throw (.unsupportedScheme url.scheme)
  let pairs := queryPairs url.query
  pairs.forM checkParameter
  let least := bound pairs "pool_min" 10
  let most := bound pairs "pool_max" 100
  if most < least then throw (.poolBounds least most)
  let endpoint := match lastValue? pairs "socket" with
    | some path => .socket path
    | none => .port (url.host.getD "") (url.port.getD defaultPort)
  let login : Login := ⟨Text.percentText url.user, url.firstSegment?.map Text.percentText,
    url.password.map Text.percentText⟩
  return ⟨endpoint, login, lastValue? pairs "require_ssl" = some "true"⟩

end RelProto.Mysql
