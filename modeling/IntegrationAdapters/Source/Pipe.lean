import Mathlib.Control.Basic

/-!
# Function composition pipe

Translation of `unnamed/part_002:156-186`. `Next` appends an action to the chain; `Do` runs
the chain from the zero value of `T`, feeding each action the previous result, and breaks at the
first non-nil error. A Go action may act on the rest of the program, so each one runs against a
world `σ`: which actions `Do` runs, and in which order, is then visible in the final world.
-/

namespace IntegrationAdapters.Source.Functional

/-- `action[T]`, `func(input T) (T, error)`; `none` is a nil error. -/
abbrev action (σ ε T : Type) := T → StateM σ (T × Option ε)

/-- `Pipe[T]`. -/
structure Pipe (σ ε T : Type) where
  chain : List (action σ ε T)

variable {σ ε T : Type}

/-- `NewPipe`. -/
def NewPipe : Pipe σ ε T := ⟨[]⟩

/-- `Pipe.Next`. -/
def Pipe.Next (p : Pipe σ ε T) (f : action σ ε T) : Pipe σ ε T := ⟨p.chain ++ [f]⟩

/-- The loop of `Do` over the rest of the chain, from the current `res` and `err`. -/
def loop : List (action σ ε T) → T → Option ε → StateM σ (T × Option ε)
  | [], res, err => pure (res, err)
  | fn :: rest, res, _ => do
    let (res, err) ← fn res
    match err with
    | some e => pure (res, some e)
    | none => loop rest res none

/-- `Pipe.Do`; `default` is Go's zero value of `T`. -/
def Pipe.Do [Inhabited T] (p : Pipe σ ε T) : StateM σ (T × Option ε) :=
  loop p.chain default none

theorem loop_nil_run (res : T) (err : Option ε) (s : σ) :
    (loop [] res err).run s = ((res, err), s) := rfl

theorem loop_cons_run (fn : action σ ε T) (rest : List (action σ ε T)) (res : T)
    (err : Option ε) (s : σ) :
    (loop (fn :: rest) res err).run s =
      match (fn res).run s with
      | ((next, some e), s') => ((next, some e), s')
      | ((next, none), s') => (loop rest next none).run s' := by
  rcases step : (fn res).run s with ⟨⟨next, _ | e⟩, s'⟩ <;>
    simp only [StateT.run] at step <;> simp only [loop, StateT.run, bind, StateT.bind, step]
  rfl

end IntegrationAdapters.Source.Functional
