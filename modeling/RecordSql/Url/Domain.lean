import RecordSql.Text.Normal
import RecordSql.Url.Domain.Direction
import RecordSql.Url.Domain.Joining
import RecordSql.Url.Punycode

/-! # Domains

A domain is a row of labels with points between. Its labels are read in their one spelling; a label
that starts with `xn--` spells another one by letters, digits and hyphens, which has to be in its
one spelling already.
-/

namespace RecordSql.Url.Domain
open Text

/-- Decide whether a character is a control, a blank or a sign with a meaning of its own in a url,
so that no domain holds it. -/
def isForbidden (c : Char) : Bool :=
  c.toNat ≤ 32 || c.toNat = 127 ||
    c ∈ ['%', '#', '/', ':', '<', '>', '?', '@', '[', '\\', ']', '^', '|']

def isPlain (c : Char) : Bool :=
  c.toNat < 128

def spell? (s : List Char) : Option (List Char) :=
  (s.mapM map?).map fun letters =>
    if letters.flatten.all isPlain then letters.flatten else Normal.ofList letters.flatten

/-- Decide whether a label has to be encoded and is in its one spelling. -/
def isSettled (label : List Char) : Bool :=
  label.any (!isPlain ·) && !label.contains '.' && spell? label = some label

/-- The label that a label in its one spelling stands for; at most 2000 characters are decoded. -/
def decodeLabel? : List Char → Option (List Char)
  | 'x' :: 'n' :: '-' :: '-' :: code =>
    if code.all isPlain && code.length ≤ 2000 then (Punycode.decode? code).filter isSettled
    else none
  | label => some label

/-- Decide whether a label can stand in a domain. One to be encoded has 1000 characters at most,
starts with no mark, and holds a joiner only where it has an effect. -/
def isLabel (label : List Char) : Bool :=
  !label.any isForbidden &&
    (label.all isPlain ||
      (label.length ≤ 1000 && !label.head?.any (fun c => isSpacing c || isNonspacing c) &&
        joinersFit [] label))

/-- The labels of a domain, unless it is none. If anything in it is written from the right, all
labels keep their direction. -/
def labels? (s : List Char) : Option (List (List Char)) := do
  let labels ← ((← spell? s).splitOn '.').mapM decodeLabel?
  if labels.all isLabel && (labels.all keepsDirection || !labels.any turns) then some labels
  else none

end RecordSql.Url.Domain
