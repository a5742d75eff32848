namespace ShardRouting

abbrev CodeRanges := List (Nat × Nat)

def CodeRanges.contains (t : CodeRanges) (c : Char) : Bool :=
  t.any fun r => r.1 ≤ c.toNat && c.toNat ≤ r.2

end ShardRouting
