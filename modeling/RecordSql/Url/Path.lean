import RecordSql.Url.Percent

/-! # Paths

A path is cut into segments. The segments `.` and `..`, whose points can be spelled by bytes, stand
for the same place and for the place above it; no path leads out of a drive. A break between two
characters is not read, except that it ends the name of a drive.
-/

namespace RecordSql.Url

/-- Decide whether a character is a break, which can stand anywhere in a url. -/
def isBreak (c : Char) : Bool :=
  c = '\t' || c = '\n' || c = '\r'

def unbroken (s : List Char) : List Char :=
  s.filter (!isBreak ·)

def plainPoints : List Char → List Char
  | [] => []
  | '%' :: '2' :: 'e' :: s | '%' :: '2' :: 'E' :: s => '.' :: plainPoints s
  | c :: s => c :: plainPoints s

def isDrive : List Char → Bool
  | [c, d] => c.isAlpha && (d = ':' || d = '|')
  | _ => false

/-- Decide whether a segment names a drive, with whatever stands behind a backslash. -/
def onDrive (s : List Char) : Bool :=
  isDrive (s.take 2) && (s.drop 2).head?.all (· = '\\')

/-- Go up one segment unless it names a drive; the segments stand last first. -/
def goUp : List (List Char) → List (List Char)
  | [] => []
  | s :: above => if onDrive s then s :: above else above

def driveSegment (s : List Char) : List Char :=
  match s with
  | [c, d] => if isDrive [c, d] then [c, ':'] else s
  | _ => s

def splitDrive? (s : List Char) : Option (List Char × List Char) :=
  match s.dropWhile isBreak with
  | [] => none
  | c :: s =>
    match s.dropWhile isBreak with
    | ':' :: b :: s =>
      if c.isAlpha && isBreak b && !(unbroken s).isEmpty then some ([c, ':'], unbroken s) else none
    | _ => none

def follow (file : Bool) (place : List (List Char)) : List (List Char) → List (List Char)
  | [] => place
  | s :: rest =>
    let top := file && place.isEmpty
    match if top then splitDrive? s else none with
    | some (drive, s) => follow file (s :: drive :: place) rest
    | none =>
      let s := unbroken s
      if plainPoints s = ['.', '.'] then
        follow file (if rest.isEmpty then [] :: goUp place else goUp place) rest
      else if plainPoints s = ['.'] then
        follow file (if rest.isEmpty then [] :: place else place) rest
      else follow file ((if top then driveSegment s else s) :: place) rest

def resolve (file : Bool) (segments : List (List Char)) : List Char :=
  (follow file [] segments).reverse.flatMap fun s => '/' :: encode isSpelledInPath s

def readPath (s : List Char) : List Char :=
  resolve false (s.splitOn '/')

/-- Read the path of a file behind the slash in front of it; the path starts with one slash. -/
def readFilePath (s : List Char) : List Char :=
  '/' :: (resolve true (s.splitOn '/')).dropWhile (· = '/')

end RecordSql.Url
