import RecordSql.Failure
import RecordSql.Url.Domain
import RecordSql.Url.Percent

/-! # Hosts

A host is a name or an address. Names of hosts of well-known schemes are domains, and a domain whose
last label is a number has to be an address of four bytes; any other scheme has its own names.
-/

namespace RecordSql.Url

def isPiece (s : List Char) : Bool :=
  1 ≤ s.length && s.length ≤ 4 && s.all fun c => (hexValue? c).isSome

def isByteText (s : List Char) : Bool :=
  1 ≤ s.length && s.length ≤ 3 && s.all Char.isDigit && (s.length = 1 || s.head? != some '0') &&
    s.foldl (fun n c => n * 10 + (c.toNat - '0'.toNat)) 0 ≤ 255

def isDotted (s : List Char) : Bool :=
  let parts := s.splitOn '.'
  parts.length = 4 && parts.all isByteText

/-- The number of pieces of a list with colons between them; four bytes at the end are two
pieces. -/
def countPieces? (dottedEnd : Bool) : List (List Char) → Option Nat
  | [] => some 0
  | [s] => if isPiece s then some 1 else if dottedEnd && isDotted s then some 2 else none
  | s :: rest => if isPiece s then (countPieces? dottedEnd rest).map (· + 1) else none

def countSide? (dottedEnd : Bool) (s : List Char) : Option Nat :=
  if s.isEmpty then some 0 else countPieces? dottedEnd (s.splitOn ':')

def splitGap? : List Char → Option (List Char × List Char)
  | [] => none
  | ':' :: ':' :: s => some ([], s)
  | c :: s => (splitGap? s).map fun (a, b) => (c :: a, b)

def isIpv6 (s : List Char) : Bool :=
  match splitGap? s with
  | none => countPieces? true (s.splitOn ':') = some 8
  | some (a, b) =>
    match countSide? false a, countSide? true b with
    | some m, some n => m + n ≤ 7
    | _, _ => false

/-- Decide whether a list is the address between square brackets that it starts as. -/
def isBracketed (s : List Char) : Bool :=
  s.getLast? = some ']' && isIpv6 (s.drop 1).dropLast

def isForbiddenInHost (c : Char) : Bool :=
  c ∈ ['\x00', '\t', '\n', '\r', ' ', '#', '/', ':', '<', '>', '?', '@', '[', '\\', ']', '^', '|']

def checkHost (s : List Char) : Except UrlFault Unit :=
  if s.head? = some '[' then if isBracketed s then .ok () else .error .ipv6
  else if s.any isForbiddenInHost then .error .hostCharacter
  else .ok ()

/-- The number that a part of an address stands for, in decimal, octal or base 16. -/
def readPart? (s : List Char) : Option Nat :=
  let (base, digits) := match s with
    | '0' :: 'x' :: s | '0' :: 'X' :: s => (16, s)
    | '0' :: c :: s => (8, c :: s)
    | s => (10, s)
  digits.foldlM (fun n c => do
    let d ← hexValue? c
    if d < base then some (n * base + d) else none) 0

/-- The labels of a domain without the empty one behind a last point. -/
def filledLabels (labels : List (List Char)) : List (List Char) :=
  if 1 < labels.length && labels.getLast? = some [] then labels.dropLast else labels

def endsInNumber (labels : List (List Char)) : Bool :=
  match labels.getLast? with
  | none => false
  | some last =>
    (!last.isEmpty && last.all Char.isDigit) ||
      ((last.take 2 = ['0', 'x'] || last.take 2 = ['0', 'X']) && (readPart? last).isSome)

/-- Decide whether labels are the bytes of an address, the last of them filling it up. -/
def isIpv4 (parts : List (List Char)) : Bool :=
  parts.length ≤ 4 && parts.all (fun s => !s.isEmpty) &&
    match parts.mapM readPart? with
    | none => false
    | some numbers =>
      numbers.dropLast.all (· ≤ 255) &&
        numbers.getLastD 0 < Nat.pow 256 (5 - numbers.length)

def checkDomain (s : List Char) : Except UrlFault String :=
  if s.head? = some '[' then if isBracketed s then .ok (String.ofList s) else .error .ipv6
  else match (Text.ofUtf8? (decode s)).bind (Domain.labels? ·.toList) with
    | none => .error .hostName
    | some [[]] => .error .emptyHost
    | some labels =>
      let filled := filledLabels labels
      if endsInNumber filled && !isIpv4 filled then .error .ipv4
      else .ok (String.ofList (['.'].intercalate labels))

end RecordSql.Url
