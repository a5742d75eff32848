import ShardRouting.Loading
import ShardRouting.Topology.Derivation

/-!
The holder of the published topology. An operation is an action on the store: it may fail at any
point, and what it had written by then stays.
-/

namespace ShardRouting

structure Store where
  current : Topology
  gauge : Int64
deriving DecidableEq

abbrev Fetch := Except LoadError Topology

inductive Operation
  | derive (d : Derivation)
  | publish (t : Topology)
  | refresh (f : Fetch)

inductive ClientCheck
  | current
  | refresh (version : UInt64)
deriving DecidableEq

/-- An operation with its answer; it leaves a store behind also when it fails. -/
abbrev Action (ε α : Type) := ExceptT (Failure ε) (StateM Store) α

namespace Action

variable {ε α β : Type}

def on (a : Action ε α) (s : Store) : Attempt ε α × Store := (a.run.run s).run

variable (s : Store)

@[simp]
theorem on_pure (x : α) : (pure x : Action ε α).on s = (.ok x, s) := rfl

@[simp]
theorem on_throw (e : Failure ε) : (throw e : Action ε α).on s = (.error e, s) := rfl

@[simp]
theorem on_get : (get : Action ε Store).on s = (.ok s, s) := rfl

@[simp]
theorem on_modify (f : Store → Store) : (modify f : Action ε Unit).on s = (.ok (), f s) := rfl

@[simp]
theorem on_lift (x : Attempt ε α) : (liftM x : Action ε α).on s = (x, s) := rfl

theorem on_bind (a : Action ε α) (f : α → Action ε β) :
    (a >>= f).on s =
      match a.on s with
      | (.ok x, s') => (f x).on s'
      | (.error e, s') => (.error e, s') := by
  rw [on, ExceptT.run_bind, StateT.run_bind, Id.run_bind, on]
  rcases (StateT.run (ExceptT.run a) s).run with ⟨_ | x, s'⟩ <;> rfl

@[simp]
theorem on_map (f : α → β) (a : Action ε α) :
    (f <$> a).on s = ((a.on s).1.map f, (a.on s).2) := by
  rw [← bind_pure_comp, on_bind]
  rcases a.on s with ⟨_ | x, s'⟩ <;> rfl

@[simp]
theorem on_adapt {ε' : Type} (f : Failure ε → Failure ε') (a : Action ε α) :
    on (a.adapt f : Action ε' α) s = ((a.on s).1.mapError f, (a.on s).2) := rfl

theorem on_tryCatch (a : Action ε α) (f : Failure ε → Action ε α) :
    on (tryCatch a f) s =
      match a.on s with
      | (.ok x, s') => (.ok x, s')
      | (.error e, s') => (f e).on s' := by
  rw [on, ExceptT.run_tryCatch, StateT.run_bind, Id.run_bind, on]
  rcases (StateT.run (ExceptT.run a) s).run with ⟨_ | x, s'⟩ <;> rfl

theorem on_ite (c : Prop) [Decidable c] (a b : Action ε α) :
    (if c then a else b).on s = if c then a.on s else b.on s := by
  split <;> rfl

end Action

namespace Store

def opening (t : Topology) : Store := ⟨t, t.version.toInt64⟩

/-- Publishes what is derived from the current topology. The gauge moves before the topology. -/
def update (derive : Topology → Attempt TopologyError Topology) :
    Action TopologyError Topology := do
  let current := (← get).current
  let next ← derive current
  if next.version ≤ current.version then
    throw (.refused (.staleVersion current.version next.version))
  if next.space ≠ current.space then
    throw (.refused (.spaceMismatch current.space next.space))
  modify fun s => { s with gauge := next.version.toInt64 }
  modify fun s => { s with current := next }
  return next

def publish (t : Topology) : Action TopologyError Topology := update fun _ => .ok t

def derive (d : Derivation) : Action TopologyError Topology := update (·.derive d)

def announced (a : Action TopologyError Topology) : Action LoadError Bool :=
  (fun _ => true) <$> a.adapt (Failure.map .refused)

def refresh (f : Fetch) : Action LoadError Bool := do
  let t ← Attempt.ofExcept f
  if t.version ≤ (← get).current.version then
    return false
  else
    tryCatch (announced (publish t)) fun
      | .refused (.refused (.staleVersion ..)) => return false
      | e => throw e

def step : Operation → Action LoadError Bool
  | .derive d => announced (derive d)
  | .publish t => announced (publish t)
  | .refresh f => refresh f

variable (s : Store)

def version : UInt64 := s.current.version

def after (o : Operation) : Store := ((step o).on s).2

def run (os : List Operation) : Store := os.foldl after s

def hasChanged (clientVersion : UInt64) : Bool := clientVersion < s.version

def checkClient (clientVersion : UInt64) : ClientCheck :=
  if clientVersion < s.version then .refresh s.version else .current

def watch (s : Store) : List Fetch → List Store
  | [] => []
  | f :: rest => s.after (.refresh f) :: (s.after (.refresh f)).watch rest

end Store

def answers {α : Type} (feed : List α) (n : Nat) : List α :=
  (List.range n).filterMap fun i => feed[i]?.or feed.getLast?

end ShardRouting
