/-! # Punycode

Punycode spells a text by letters, digits and hyphens: what the text has of these stands in front,
and behind the last hyphen stands, for each other character in the order of their numbers, how far
it is from the one before it, counted over all places and numbers in between.
-/

namespace RecordSql.Url.Punycode

def digit? (c : Char) : Option Nat :=
  if c.isLower then some (c.toNat - 'a'.toNat)
  else if c.isDigit then some (c.toNat - '0'.toNat + 26)
  else none

def bound : Nat := 4294967296

/-- The value from which on a digit is not the last one of its number. -/
def threshold (position bias : Nat) : Nat :=
  if position ≤ bias then 1 else if bias + 26 ≤ position then 26 else position - bias

/-- Divide until at most 455 is left, and count the divisions. -/
def shrink (n : Nat) : Nat × Nat :=
  if 455 < n then
    let (rest, count) := shrink (n / 35)
    (rest, count + 1)
  else (n, 0)
termination_by n
decreasing_by omega

def adapt (distance size : Nat) (isFirst : Bool) : Nat :=
  let n := if isFirst then distance / 700 else distance / 2
  let (rest, count) := shrink (n + n / size)
  36 * count + 36 * rest / (rest + 38)

/-- Where the reading of a text stands: the text so far, the number of the character put in last,
the place behind it, and the place reached by the digits read since, which have got to a weight and
a position. -/
structure State where
  text : List Char
  number : Nat
  bias : Nat
  start : Nat
  place : Nat
  weight : Nat
  position : Nat

/-- Put a character in at the place reached, after counting its number up at each turn. -/
def State.put (st : State) : Option State :=
  let size := st.text.length + 1
  let number := st.number + st.place / size
  if !number.isValidChar then none
  else
    let place := st.place % size
    some ⟨st.text.insertIdx place (Char.ofNat number), number,
      adapt (st.place - st.start) size (st.start = 0), place + 1, place + 1, 1, 36⟩

def State.read (st : State) (c : Char) : Option State := do
  let d ← digit? c
  let place := st.place + d * st.weight
  let t := threshold st.position st.bias
  let weight := st.weight * (36 - t)
  if bound ≤ place then none
  else if d < t then State.put { st with place }
  else if bound ≤ weight then none
  else return { st with place, weight, position := st.position + 36 }

def splitLast (s : List Char) : List Char × List Char :=
  match s.reverse.span (· != '-') with
  | (digits, '-' :: c :: text) => ((c :: text).reverse, digits.reverse)
  | _ => ([], s)

def decode? (s : List Char) : Option (List Char) := do
  let (text, digits) := splitLast s
  let st ← digits.foldlM State.read ⟨text, 128, 72, 0, 0, 1, 36⟩
  if st.position = 36 then some st.text else none

end RecordSql.Url.Punycode
