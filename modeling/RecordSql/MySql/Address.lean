import RecordSql.Database.Journal
import RecordSql.Number.Numeral
import RecordSql.Text.Shortened
import RecordSql.Url.Address

/-! # Addresses of MySQL servers

The url of a server is checked before a connection is opened: its scheme, its form, and the options
in its query. A refused url is reported in the context of the connection attempted.
-/

namespace RecordSql.MySql

inductive OptionKind
  | size
  | milliseconds
  | flag
  | compression
  | any

def optionKind? : String → Option OptionKind
  | "pool_min" | "pool_max" | "max_allowed_packet" | "wait_timeout" | "stmt_cache_size"
  | "inactive_connection_ttl" | "ttl_check_interval" | "conn_ttl" | "abs_conn_ttl"
  | "abs_conn_ttl_jitter" => some .size
  | "tcp_keepalive" => some .milliseconds
  | "enable_cleartext_plugin" | "reset_connection" | "tcp_nodelay" | "prefer_socket"
  | "secure_auth" | "client_found_rows" | "require_ssl" | "verify_ca" | "verify_identity"
  | "built_in_roots" => some .flag
  | "compression" => some .compression
  | "socket" => some .any
  | _ => none

def OptionKind.accepts : OptionKind → String → Bool
  | size, value => (Number.readUInt64? value).isSome
  | milliseconds, value => (Number.readUInt32? value).isSome
  | flag, value => value = "true" || value = "false"
  | compression, value =>
    value ∈ ["fast", "on", "true", "best"] ||
      value ∈ ["0", "1", "2", "3", "4", "5", "6", "7", "8", "9"]
  | any, _ => true

def queryText (s : List Char) : String :=
  Text.lossy (Url.decode (s.map fun c => if c = '+' then ' ' else c))

def options (query : String) : List (String × String) :=
  ((query.toList.splitOn '&').filter fun part => !part.isEmpty).map fun part =>
    let (name, value) := part.span (· != '=')
    (queryText name, queryText (value.drop 1))

/-- The name under which a bad value is reported; the one of a time tells its unit. -/
def OptionKind.reported (name : String) : OptionKind → String
  | milliseconds => name ++ "_ms"
  | _ => name

def checkOptions : List (String × String) → Except OptionFault Unit
  | [] => .ok ()
  | (name, value) :: rest =>
    match optionKind? name with
    | none => .error (.unknown name)
    | some kind =>
      if kind.accepts value then checkOptions rest
      else .error (.badValue (kind.reported name) value)

def sizeOption (options : List (String × String)) (name : String) (default : Nat) : Nat :=
  match options.reverse.lookup name with
  | some value => ((Number.readUInt64? value).map UInt64.toNat).getD default
  | none => default

def checkPool (options : List (String × String)) : Except OptionFault Unit :=
  let least := sizeOption options "pool_min" 10
  let most := sizeOption options "pool_max" 100
  if least ≤ most then .ok () else .error (.pool least most)

def checkUrl (u : Url) : Except OptionFault Unit :=
  if u.host.isNone then .error .incomplete
  else do
    let options := options (u.query.getD "")
    checkOptions options
    checkPool options

def checkAddress (address : String) : Except Cause Unit :=
  if !address.startsWith "mysql://" then .error .foreignScheme
  else
    match Url.read address with
    | .error fault => .error (.url fault)
    | .ok u => (checkUrl u).mapError .option

def refuseAddress (address : String) : Journal.Act Unit :=
  match checkAddress address with
  | .ok () => return ()
  | .error cause =>
    match Text.shorten? address with
    | none => throw (.halt .splitCharacter)
    | some shown =>
      let f := Failure.error [.connecting shown] cause
      if cause = .foreignScheme then Journal.refuse f else throw f

end RecordSql.MySql
