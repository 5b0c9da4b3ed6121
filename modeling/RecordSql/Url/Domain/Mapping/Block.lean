/-! # Blocks of mapped characters

Characters in a row are listed together, with the letters that a domain holds for each of them.
-/

namespace RecordSql.Url.Domain

/-- Characters `first` up to `last` and their letters, with blanks between. -/
structure Block where
  first : Nat
  last : Nat
  letters : String

def mapped? (blocks : List Block) (c : Char) : Option (List Char) := do
  let b ← blocks.find? fun b => b.first ≤ c.toNat && c.toNat ≤ b.last
  (b.letters.toList.splitOn ' ')[c.toNat - b.first]?

end RecordSql.Url.Domain
