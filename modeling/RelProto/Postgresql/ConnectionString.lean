import RelProto.Network.Address
import RelProto.Postgresql.ConnectionSettings
import RelProto.Text.Basic
import RelProto.Text.Bytes

/-! Connection strings: pairs of a key and a value with an equals sign between them, or a URL. -/
namespace RelProto.Postgresql

namespace ConnectionSettings

def addHost (settings : ConnectionSettings) (text : String) : ConnectionSettings :=
  { settings with hosts := settings.hosts ++ [.ofText text] }

def pieces (value : String) : List String := (Text.split (· == ',') value.toList).map .ofList

def port? (text : String) : Option UInt16 :=
  if text.isEmpty then some 5432
  else (Text.unsignedBelow? UInt16.size text).map (·.toUInt16)

def isAddress (text : String) : Bool :=
  Network.isVersion4 text.toList || Network.isVersion6 text.toList

/-- What the values of keys without effect have to satisfy. -/
def acceptsValue (key value : String) : Bool :=
  match key with
  | "connect_timeout" | "tcp_user_timeout" | "keepalives_idle" | "keepalives_interval" =>
    (Text.signed64? value).isSome
  | "keepalives" => (Text.unsignedBelow? (Nat.pow 2 64) value).isSome
  | "keepalives_retries" => (Text.unsignedBelow? (Nat.pow 2 32) value).isSome
  | "load_balance_hosts" => ["disable", "random"].contains value
  | _ => false

def sessions : List (String × SessionKind) :=
  [("any", .any), ("read-write", .writable), ("read-only", .readOnly)]

/-- Whether something is required; it is not if it is only preferred. -/
def requirements : List (String × Bool) :=
  [("disable", false), ("prefer", false), ("require", true)]

/-- Sets what a key stands for. Hosts, addresses and ports add to those before them. -/
def set? (settings : ConnectionSettings) (key value : String) : Option ConnectionSettings :=
  match key with
  | "user" => some { settings with user := some value }
  | "password" => some { settings with password := some value }
  | "dbname" => some { settings with database := some value }
  | "options" => some { settings with options := value }
  | "application_name" => some { settings with application := value }
  | "sslmode" => (requirements.lookup value).map fun encrypted => { settings with encrypted }
  | "channel_binding" =>
    (requirements.lookup value).map fun bindsChannel => { settings with bindsChannel }
  | "sslnegotiation" =>
    ([("postgres", false), ("direct", true)].lookup value).map fun direct =>
      { settings with direct }
  | "target_session_attrs" =>
    (sessions.lookup value).map fun session => { settings with session }
  | "host" => some ((pieces value).foldl addHost settings)
  | "hostaddr" =>
    let addresses := pieces value
    if addresses.all isAddress then
      some { settings with addresses := settings.addresses ++ addresses }
    else none
  | "port" => do
    let ports ← (pieces value).mapM port?
    return { settings with ports := settings.ports ++ ports }
  | key => if acceptsValue key value then some settings else none

end ConnectionSettings

/-- Reads a value up to white space; a backslash takes the next character as it is. -/
def simpleValue : List Char → List Char × List Char
  | [] => ([], [])
  | '\\' :: rest =>
    match rest with
    | [] => ([], [])
    | c :: rest =>
      let (value, after) := simpleValue rest
      (c :: value, after)
  | c :: rest =>
    if Text.isWhiteSpace c then ([], c :: rest)
    else
      let (value, after) := simpleValue rest
      (c :: value, after)

/-- Reads a value up to the closing quote. -/
def quotedValue : List Char → Option (List Char × List Char)
  | [] => none
  | '\'' :: rest => some ([], rest)
  | '\\' :: rest =>
    match rest with
    | [] => none
    | c :: rest => (quotedValue rest).map fun (value, after) => (c :: value, after)
  | c :: rest => (quotedValue rest).map fun (value, after) => (c :: value, after)

/-- Reads a value, which is not empty unless it is quoted. -/
def pairValue : List Char → Option (List Char × List Char)
  | '\'' :: rest => quotedValue rest
  | chars =>
    let (value, after) := simpleValue chars
    if value.isEmpty then none else some (value, after)

def skipSpace (chars : List Char) : List Char := chars.dropWhile Text.isWhiteSpace

def isKeyChar (c : Char) : Bool := !Text.isWhiteSpace c && c != '='

/-- Reads one pair. -/
def pair? (chars : List Char) : Option ((String × String) × List Char) := do
  let key := chars.takeWhile isKeyChar
  match skipSpace (chars.drop key.length) with
  | '=' :: rest =>
    let (value, after) ← pairValue (skipSpace rest)
    return ((.ofList key, .ofList value), after)
  | _ => none

/-- Reads pairs as long as there are keys; what comes after them is passed over. -/
def pairs? (chars : List Char) : Option (List (String × String)) :=
  let start := skipSpace chars
  if !start.head?.any isKeyChar then some []
  else
    match pair? start with
    | none => none
    | some (pair, after) =>
      if _h : after.length < chars.length then (pairs? after).map (pair :: ·) else none
  termination_by chars.length

def ofPairs? (text : List Char) : Option ConnectionSettings := do
  (← pairs? text).foldlM (fun settings (key, value) => settings.set? key value) {}

/-- Cuts a text in front of the first character of this kind. -/
def cutBefore (stops : Char → Bool) (chars : List Char) : List Char × List Char :=
  (chars.takeWhile (!stops ·), chars.dropWhile (!stops ·))

namespace ConnectionSettings

/-- Reads a user and a password in front of the host. -/
def withCredentials? (settings : ConnectionSettings) (text : List Char) :
    Option ConnectionSettings := do
  let (user, rest) := cutBefore (· == ':') text
  let settings := { settings with user := some (← Text.percentText? (.ofList user)) }
  match rest with
  | ':' :: password =>
    return { settings with password := some (Text.percentText (.ofList password)) }
  | _ => return settings

/-- A directory may be any bytes, a name has to be a text. -/
def withHost? (settings : ConnectionSettings) (text : List Char) : Option ConnectionSettings := do
  let bytes := Text.percentBytes (.ofList text)
  if bytes.head? == some 0x2f then return settings.addHost (Text.textOfBytes bytes)
  else return settings.addHost (← String.fromUTF8? bytes.toByteArray)

/-- Separates a host from its port. An address with colons stands in brackets. -/
def hostAndPort? : List Char → Option (List Char × List Char)
  | '[' :: rest =>
    match cutBefore (· == ']') rest with
    | (host, _ :: ':' :: port) => some (host, port)
    | (host, [_]) => some (host, "5432".toList)
    | _ => none
  | text =>
    match cutBefore (· == ':') text with
    | (host, _ :: port) => some (host, port)
    | (host, []) => some (host, "5432".toList)

def withHostAndPort? (settings : ConnectionSettings) (text : List Char) :
    Option ConnectionSettings := do
  let (host, port) ← hostAndPort? text
  let settings ← settings.withHost? host
  settings.set? "port" (← Text.percentText? (.ofList port))

def withHosts? (settings : ConnectionSettings) (text : List Char) : Option ConnectionSettings :=
  if text.isEmpty then some settings
  else (Text.split (· == ',') text).foldlM withHostAndPort? settings

def withDatabase? (settings : ConnectionSettings) (text : List Char) :
    Option ConnectionSettings := do
  if text.isEmpty then return settings
  else return { settings with database := some (← Text.percentText? (.ofList text)) }

def withParameter? (settings : ConnectionSettings) (text : List Char) :
    Option ConnectionSettings := do
  match cutBefore (· == '=') text with
  | (_, []) => none
  | (key, _ :: value) =>
    let key ← Text.percentText? (.ofList key)
    if key = "host" then settings.withHost? value
    else settings.set? key (← Text.percentText? (.ofList value))

/-- Reads the parameters after the question mark; an ampersand may stand after the last one. -/
def withParameters? (settings : ConnectionSettings) (text : List Char) :
    Option ConnectionSettings :=
  let pieces := Text.split (· == '&') text
  let pieces := if pieces.getLast? == some [] then pieces.dropLast else pieces
  pieces.foldlM withParameter? settings

end ConnectionSettings

/-- Reads what follows the scheme of a URL. -/
def ofUrl? (text : List Char) : Option ConnectionSettings := do
  let (settings, rest) ← match cutBefore (· == '@') text with
    | (_, []) => some (({} : ConnectionSettings), text)
    | (credentials, _ :: rest) =>
      (ConnectionSettings.withCredentials? {} credentials).map (·, rest)
  let (hosts, rest) := cutBefore (fun c => c == '/' || c == '?') rest
  let settings ← settings.withHosts? hosts
  let (settings, rest) ← match rest with
    | '/' :: path =>
      let (database, rest) := cutBefore (· == '?') path
      (settings.withDatabase? database).map (·, rest)
    | rest => some (settings, rest)
  match rest with
  | '?' :: parameters => settings.withParameters? parameters
  | _ => some settings

/-- Reads a connection string. -/
def ConnectionSettings.ofText? (text : String) : Option ConnectionSettings :=
  let chars := text.toList
  let schemes := ["postgres://", "postgresql://"].map String.toList
  match schemes.findSome? (List.isPrefixOf? · chars) with
  | some rest => ofUrl? rest
  | none => ofPairs? chars

end RelProto.Postgresql
