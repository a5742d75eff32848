namespace ShardRouting

structure Span where
  seconds : UInt64
  nanos : Nat
deriving DecidableEq

namespace Span

def ofSeconds (n : UInt64) : Span := ⟨n, 0⟩

def totalNanos (s : Span) : Nat := s.seconds.toNat * 1000000000 + s.nanos

def milliseconds (s : Span) : Nat := (s.totalNanos + 999999) / 1000000

def fractionDigits (width part : Nat) : List Char :=
  let digits := Nat.toDigits 10 part
  let padded := List.replicate (width - digits.length) '0' ++ digits
  (padded.reverse.dropWhile (· = '0')).reverse

def decimal (whole width part : Nat) : String :=
  toString whole ++ if part = 0 then "" else "." ++ String.ofList (fractionDigits width part)

def render (s : Span) : String :=
  let n := s.totalNanos
  if 1000000000 ≤ n then decimal (n / 1000000000) 9 (n % 1000000000) ++ "s"
  else if 1000000 ≤ n then decimal (n / 1000000) 6 (n % 1000000) ++ "ms"
  else if 1000 ≤ n then decimal (n / 1000) 3 (n % 1000) ++ "µs"
  else toString n ++ "ns"

end Span

end ShardRouting
