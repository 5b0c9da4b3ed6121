import RecordSql.Url.Host
import RecordSql.Url.Path

/-! # Urls

A url is a scheme with a hierarchical path, possibly on a host, or with an opaque text. Well-known
schemes always have a host and take backslashes for slashes; the scheme of files has one at most.
-/

namespace RecordSql

/-- What a url says: its host if it names one, its path unless it is opaque, and its query. -/
structure Url where
  scheme : String
  host : Option String
  path : Option String
  query : Option String
  deriving DecidableEq

namespace Url

inductive SchemeKind
  | own
  | known
  | file
  deriving DecidableEq

def SchemeKind.of (scheme : String) : SchemeKind :=
  if scheme ∈ ["http", "https", "ws", "wss", "ftp"] then known
  else if scheme = "file" then file
  else own

def trimmed (s : String) : List Char :=
  let s := s.toList.dropWhile fun c => c.toNat ≤ 32
  (s.reverse.dropWhile fun c => c.toNat ≤ 32).reverse

def splitScheme? (s : List Char) : Option (String × List Char) :=
  let (scheme, rest) := s.span fun c =>
    c.isAlphanum || c = '+' || c = '-' || c = '.' || isBreak c
  match unbroken scheme, rest with
  | c :: scheme, ':' :: rest =>
    if c.isAlpha then some (String.ofList ((c :: scheme).map Char.toLower), rest) else none
  | _, _ => none

/-- Split a path from the query behind it; a fragment is left out. -/
def splitQuery (s : List Char) : List Char × Option String :=
  let (path, query) := (s.takeWhile (· != '#')).span (· != '?')
  (path, if query.isEmpty then none else some (String.ofList (unbroken (query.drop 1))))

def splitLastAt? : List Char → Option (List Char × List Char)
  | [] => none
  | c :: s =>
    match splitLastAt? s with
    | some (user, rest) => some (c :: user, rest)
    | none => if c = '@' then some ([], s) else none

/-- Split a host from what follows it; colons between brackets belong to the host. -/
def splitHost (inBrackets : Bool) : List Char → List Char × List Char
  | [] => ([], [])
  | c :: s =>
    if c = ':' && !inBrackets then ([], c :: s)
    else
      let inBrackets := if c = '[' then true else if c = ']' then false else inBrackets
      let (host, rest) := splitHost inBrackets s
      (c :: host, rest)

/-- Split off a port, which ends at a backslash at the latest. -/
def splitPort (s : List Char) : Except UrlFault (List Char) :=
  let (port, rest) := s.span Char.isDigit
  if 65535 < port.foldl (fun n c => n * 10 + (c.toNat - '0'.toNat)) 0 then .error .port
  else if rest.isEmpty || rest.head? = some '\\' then .ok rest
  else .error .port

/-- Split off a user with a password; an `@` with nothing around it is no host. -/
def splitUser (s : List Char) (atEnd : Bool) : Except UrlFault (Bool × List Char) :=
  match splitLastAt? s with
  | none => .ok (false, s)
  | some (user, rest) =>
    if user.isEmpty && rest.isEmpty && !atEnd then .error .emptyHost
    else .ok (!user.isEmpty && user != [':'], rest)

/-- Read the part of a url between two slashes and its path: the host, and the start of the path if
it belongs to neither host nor port. -/
def readAuthority (kind : SchemeKind) (s : List Char) (atEnd : Bool) :
    Except UrlFault (Option String × List Char) := do
  let (named, s) ← splitUser s atEnd
  let (host, rest) := splitHost false s
  let name? ← match kind with
    | .own => do
      checkHost host
      if host.isEmpty && (rest.head? = some ':' || named) then throw .emptyHost
      pure (if host.isEmpty then none else some (String.ofList host))
    | _ => do
      if host.isEmpty then throw .emptyHost
      some <$> checkDomain host
  let rest ← match rest with
    | _ :: port => splitPort port
    | [] => pure []
  return (name?, rest)

def readHierarchy (scheme : String) (kind : SchemeKind) (s : List Char) : Except UrlFault Url := do
  let ends := fun c => c = '/' || c = '?' || c = '#' || (kind = .known && c = '\\')
  let (authority, rest) := s.span fun c => !ends c
  let (host, start) ← readAuthority kind authority rest.isEmpty
  let (path, query) := splitQuery (start ++ rest)
  let path := if kind = .known then path.map fun c => if c = '\\' then '/' else c else path
  let path := match path with
    | [] => if kind = .known then ['/'] else []
    | '/' :: path => readPath path
    | path => readPath path
  return ⟨scheme, host, some (String.ofList path), query⟩

def dropSlash? (s : List Char) : Option (List Char) :=
  match s.dropWhile isBreak with
  | '/' :: s => some s
  | _ => none

/-- Read what follows the scheme of a file. Behind two slashes stands a host or a drive; a path
behind no host keeps its slash. -/
def readFile (s : List Char) : Except UrlFault Url := do
  let (path, query) := splitQuery s
  let path := path.map fun c => if c = '\\' then '/' else c
  let file := fun host path =>
    (⟨"file", host, some (String.ofList (readFilePath path)), query⟩ : Url)
  match dropSlash? path with
  | none => return file none path
  | some single =>
    match dropSlash? single with
    | none => return file none single
    | some double =>
      let (host, rest) := double.span (· != '/')
      let host := unbroken host
      if isDrive host then return file none double
      let host ← if host.isEmpty then pure "localhost" else checkDomain host
      return if host = "localhost" then file none rest else file (some host) (rest.drop 1)

def read (s : String) : Except UrlFault Url :=
  match splitScheme? (trimmed s) with
  | none => .error .relative
  | some (scheme, broken) =>
    let rest := unbroken broken
    match SchemeKind.of scheme with
    | .file => readFile broken
    | .known => readHierarchy scheme .known (rest.dropWhile fun c => c = '/' || c = '\\')
    | .own =>
      match rest with
      | '/' :: '/' :: rest => readHierarchy scheme .own rest
      | '/' :: rest =>
        let (path, query) := splitQuery rest
        .ok ⟨scheme, none, some (String.ofList (readPath path)), query⟩
      | rest => .ok ⟨scheme, none, none, (splitQuery rest).2⟩

end Url

end RecordSql
