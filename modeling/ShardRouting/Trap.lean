/-!
Arithmetic on fixed-width words and on moments that has no result. A computation that may be refused for a cause of
its own and may also meet such arithmetic is an `Attempt`.
-/

namespace ShardRouting

inductive Trap
  | additionOverflow
  | zeroDivisor
  | momentOverflow
deriving DecidableEq

def Trap.message : Trap → String
  | .additionOverflow => "attempt to add with overflow"
  | .zeroDivisor => "attempt to calculate the remainder with a divisor of zero"
  | .momentOverflow => "overflow when adding duration to instant"

inductive Failure (ε : Type)
  | refused (cause : ε)
  | trapped (trap : Trap)
deriving DecidableEq

def Failure.map {ε ε' : Type} (f : ε → ε') : Failure ε → Failure ε'
  | .refused e => .refused (f e)
  | .trapped t => .trapped t

abbrev Attempt (ε α : Type) := Except (Failure ε) α

namespace Attempt

variable {ε α : Type}

def ofExcept : Except ε α → Attempt ε α
  | .ok a => .ok a
  | .error e => .error (.refused e)

theorem ofExcept_eq_ok {e : Except ε α} {a : α} : ofExcept e = .ok a ↔ e = .ok a := by
  cases e <;> simp [ofExcept]

theorem ofExcept_eq_refused {e : Except ε α} {c : ε} :
    ofExcept e = .error (.refused c) ↔ e = .error c := by
  cases e <;> simp [ofExcept]

theorem ofExcept_ne_trapped (e : Except ε α) (x : Trap) : ofExcept e ≠ .error (.trapped x) := by
  cases e <;> simp [ofExcept]

def ofTrap : Except Trap α → Attempt ε α
  | .ok a => .ok a
  | .error t => .error (.trapped t)

end Attempt

def addWords (a b : UInt64) : Except Trap UInt64 :=
  if a.toNat + b.toNat < UInt64.size then .ok (a + b) else .error .additionOverflow

theorem addWords_eq_ok {a b c : UInt64} : addWords a b = .ok c ↔ a.toNat + b.toNat = c.toNat := by
  unfold addWords
  have hc := c.toNat_lt_size
  split
  · next h =>
    rw [Except.ok.injEq, ← UInt64.toNat_inj, UInt64.toNat_add, Nat.mod_eq_of_lt h]
  · next h =>
    simp only [reduceCtorEq, false_iff]
    omega

end ShardRouting
