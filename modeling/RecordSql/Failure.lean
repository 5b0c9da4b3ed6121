import RecordSql.Calendar
import RecordSql.Dialect

/-! # Failures

A failure is a cause with the contexts it was met in. Each cause is a value of its own, and the
wording of all of them stands in this module.
-/

namespace RecordSql

inductive WordFault
  | openParenthesis
  | emptyGroup
  | badLength
  | unknownType
  | loneNot
  | loneDefault
  | notRecord
  deriving DecidableEq

def WordFault.message : WordFault → String
  | openParenthesis => "unbalanced parentheses"
  | emptyGroup => "empty group name"
  | badLength => "length must be `(n)` or `(n,m)` with integer values"
  | unknownType => "unknown column type"
  | loneNot => "`not` must be followed by `null`"
  | loneDefault => "`default` must be followed by a value"
  | notRecord => "only a nested record can be extended"

inductive PaginationFault
  | offsetAlone
  | grouped (dialect : Dialect)
  | unordered (table : String)
  deriving DecidableEq

def PaginationFault.message : PaginationFault → String
  | offsetAlone => "an offset requires a limit"
  | grouped dialect =>
    "GROUP BY and HAVING cannot be paginated by row number on " ++ dialect.name
  | unordered table =>
    "paginating `" ++ table ++ "` by row number requires an ORDER BY or a primary key"

inductive UrlFault
  | relative
  | emptyHost
  | hostName
  | port
  | ipv4
  | ipv6
  | hostCharacter
  deriving DecidableEq

def UrlFault.message : UrlFault → String
  | relative => "relative URL without a base"
  | emptyHost => "empty host"
  | hostName => "invalid international domain name"
  | port => "invalid port number"
  | ipv4 => "invalid IPv4 address"
  | ipv6 => "invalid IPv6 address"
  | hostCharacter => "invalid domain character"

inductive OptionFault
  | incomplete
  | unknown (parameter : String)
  | badValue (parameter value : String)
  | pool (min max : Nat)
  deriving DecidableEq

def OptionFault.message : OptionFault → String
  | incomplete => "Invalid or incomplete connection URL"
  | unknown parameter => "Unknown connection URL parameter `" ++ parameter ++ "'"
  | badValue parameter value =>
    "Invalid value `" ++ value ++ "' for connection URL parameter `" ++ parameter ++ "'"
  | pool min max =>
    "Invalid pool constraints: pool_min (" ++ Nat.repr min ++ ") > pool_max (" ++
      Nat.repr max ++ ")."

inductive Cause
  | unsupportedDriver (name : String)
  | unsupportedDialect (name : String)
  | malformedWord (field token : String) (fault : WordFault)
  | unknownColumnType (name : String)
  | malformedColumnType (text : String)
  | duplicateColumn (table column : String)
  | missingPrimaryKey (table : String)
  | unsupportedPagination (fault : PaginationFault)
  | keyNotFound (key : String)
  | connecting (address : String)
  | running (query : String)
  | selectWithoutTable
  | countWithoutTable
  | deleteWithoutTable
  | dropWithoutTable
  | unmapped (table : String)
  | arity (table : String) (expected actual : Nat)
  | foreignServer (compiled spoken : Dialect)
  | foreignConnection (spoken compiled : Dialect)
  | countNotNumber
  | unnamedDatabase (source : String)
  | foreignScheme
  | yearOutOfRange (t : Timestamp)
  | url (fault : UrlFault)
  | option (fault : OptionFault)
  | server (message : String)
  deriving DecidableEq

def Cause.message : Cause → String
  | unsupportedDriver name => "Unsupported driver name `" ++ name ++ "`"
  | unsupportedDialect name => "Unsupported dialect type `" ++ name ++ "`"
  | malformedWord field token fault =>
    "Malformed annotation on field `" ++ field ++ "` at token `" ++ token ++ "`: " ++
      fault.message
  | unknownColumnType name => "Unknown column type `" ++ name ++ "`"
  | malformedColumnType text => "Malformed column type `" ++ text ++ "` reported by the catalog"
  | duplicateColumn table column =>
    "Column `" ++ column ++ "` is declared twice in table `" ++ table ++ "`"
  | missingPrimaryKey table => "Table `" ++ table ++ "` has no primary key"
  | unsupportedPagination fault => "Unsupported pagination: " ++ fault.message
  | keyNotFound key => "Key `" ++ key ++ "` not found"
  | connecting address => "While connecting to `" ++ address ++ "`"
  | running query => "While running the query:\n" ++ query
  | selectWithoutTable => "Cannot compile a select without a table"
  | countWithoutTable => "Cannot count rows without a table"
  | deleteWithoutTable => "Cannot delete rows without a table"
  | dropWithoutTable => "Cannot drop a table without a name"
  | unmapped table => "Statement on `" ++ table ++ "` has no mapped table"
  | arity table expected actual =>
    "Table `" ++ table ++ "` expects " ++ Nat.repr expected ++ " values, " ++ Nat.repr actual ++
      " were given"
  | foreignServer compiled spoken =>
    "Cannot run " ++ compiled.name ++ " statements on a " ++ spoken.name ++ " executor"
  | foreignConnection spoken compiled =>
    "The connection speaks " ++ spoken.name ++ " while the engine compiles " ++ compiled.name
  | countNotNumber => "The count query did not return a number"
  | unnamedDatabase source => "The data source `" ++ source ++ "` does not name a database"
  | foreignScheme => "MySQL connection url must start with `mysql://`"
  | yearOutOfRange t => "Date " ++ t.text ++ " is out of range for MySQL"
  | url fault => fault.message
  | option fault => fault.message
  | server message => message

inductive Halt
  | splitCharacter
  | missingValue
  deriving DecidableEq

/-- The way a request ends without an answer; the contexts stand outermost first. -/
inductive Failure
  | error (context : List Cause) (cause : Cause)
  | halt (reason : Halt)
  deriving DecidableEq

namespace Failure

def of (cause : Cause) : Failure :=
  .error [] cause

def within (context : Cause) : Failure → Failure
  | error contexts cause => .error (context :: contexts) cause
  | halt reason => .halt reason

def chain : Failure → List Cause
  | error context cause => context ++ [cause]
  | halt _ => []

def message (f : Failure) : String :=
  ": ".intercalate (f.chain.map Cause.message)

def malformed (field token : String) (fault : WordFault) : Failure :=
  .of (.malformedWord field token fault)

def pagination (fault : PaginationFault) : Failure :=
  .of (.unsupportedPagination fault)

end Failure

def Dialect.ofName (name : String) : Except Failure Dialect :=
  match ofName? name with
  | some d => .ok d
  | none => .error (.of (.unsupportedDialect name))

end RecordSql
