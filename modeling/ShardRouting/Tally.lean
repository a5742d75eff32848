/-!
Operation counters. An operation that counts is a `Metered` value: what it computes together with
what it adds to each counter, so the counts of a run are the sum of the counts of its steps.
-/

namespace ShardRouting

structure Tally where
  routeRequests : Nat := 0
  routeCorruption : Nat := 0
  scatterRequests : Nat := 0
  scatterFailures : Nat := 0
  scatterCancelled : Nat := 0
  combineWarnings : Nat := 0
deriving DecidableEq

namespace Tally

def zero : Tally := {}

def add (s t : Tally) : Tally where
  routeRequests := s.routeRequests + t.routeRequests
  routeCorruption := s.routeCorruption + t.routeCorruption
  scatterRequests := s.scatterRequests + t.scatterRequests
  scatterFailures := s.scatterFailures + t.scatterFailures
  scatterCancelled := s.scatterCancelled + t.scatterCancelled
  combineWarnings := s.combineWarnings + t.combineWarnings

instance : Add Tally := ⟨add⟩

theorem zero_add (t : Tally) : zero + t = t := by
  change add zero t = t
  simp [add, zero]

theorem add_zero (t : Tally) : t + zero = t := rfl

theorem add_assoc (s t u : Tally) : s + t + u = s + (t + u) := by
  change add (add s t) u = add s (add t u)
  simp [add, Nat.add_assoc]

theorem add_right_comm (s t u : Tally) : s + t + u = s + u + t := by
  change add (add s t) u = add (add s u) t
  simp [add, Nat.add_right_comm]

end Tally

structure Metered (α : Type) where
  value : α
  tally : Tally
deriving DecidableEq

namespace Metered

variable {α β : Type}

def count (t : Tally) (a : α) : Metered α := ⟨a, t⟩

instance : Monad Metered where
  pure a := ⟨a, .zero⟩
  bind m f := ⟨(f m.value).value, m.tally + (f m.value).tally⟩

@[simp]
theorem value_pure (a : α) : (pure a : Metered α).value = a := rfl

@[simp]
theorem tally_pure (a : α) : (pure a : Metered α).tally = .zero := rfl

@[simp]
theorem value_bind (m : Metered α) (f : α → Metered β) :
    (m >>= f).value = (f m.value).value := rfl

@[simp]
theorem tally_bind (m : Metered α) (f : α → Metered β) :
    (m >>= f).tally = m.tally + (f m.value).tally := rfl

end Metered

end ShardRouting
