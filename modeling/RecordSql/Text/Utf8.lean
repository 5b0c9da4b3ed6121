/-! # Bytes read as text

Well-formed UTF-8 is read as it stands. In any other bytes, each longest start of a character that
cannot be completed is read as one replacement character.
-/

namespace RecordSql.Text

def utf8 (s : String) : List UInt8 :=
  s.toUTF8.data.toList

def ofUtf8? (bytes : List UInt8) : Option String :=
  String.fromUTF8? ⟨bytes.toArray⟩

/-- A character begun: its bits so far, the bytes still to come, and the range of the next byte. -/
structure Begun where
  bits : Nat
  left : Nat
  low : UInt8
  high : UInt8

def begin? (b : UInt8) : Option Begun :=
  let n := b.toNat
  if b < 0xC2 then none
  else if b < 0xE0 then some ⟨n - 0xC0, 1, 0x80, 0xBF⟩
  else if b = 0xE0 then some ⟨0, 2, 0xA0, 0xBF⟩
  else if b = 0xED then some ⟨n - 0xE0, 2, 0x80, 0x9F⟩
  else if b < 0xF0 then some ⟨n - 0xE0, 2, 0x80, 0xBF⟩
  else if b = 0xF0 then some ⟨0, 3, 0x90, 0xBF⟩
  else if b = 0xF4 then some ⟨n - 0xF0, 3, 0x80, 0x8F⟩
  else if b < 0xF4 then some ⟨n - 0xF0, 3, 0x80, 0xBF⟩
  else none

def readLossy : Option Begun → List UInt8 → List Char
  | none, [] => []
  | some _, [] => ['\ufffd']
  | begun, b :: s =>
    let fresh := fun (_ : Unit) =>
      if b < 0x80 then Char.ofNat b.toNat :: readLossy none s
      else match begin? b with
        | some begun => readLossy (some begun) s
        | none => '\ufffd' :: readLossy none s
    match begun with
    | none => fresh ()
    | some ⟨bits, left, low, high⟩ =>
      if low ≤ b && b ≤ high then
        let bits := bits * 64 + (b.toNat - 0x80)
        if left ≤ 1 then Char.ofNat bits :: readLossy none s
        else readLossy (some ⟨bits, left - 1, 0x80, 0xBF⟩) s
      else '\ufffd' :: fresh ()

def lossy (bytes : List UInt8) : String :=
  match ofUtf8? bytes with
  | some s => s
  | none => String.ofList (readLossy none bytes)

end RecordSql.Text
