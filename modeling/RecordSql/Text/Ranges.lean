/-! # Ranges of characters

A property of characters is listed by ranges, each of them given by its first and its last member.
-/

namespace RecordSql.Text

def inRanges (ranges : List (Nat × Nat)) (c : Char) : Bool :=
  ranges.any fun (first, last) => first ≤ c.toNat && c.toNat ≤ last

end RecordSql.Text
