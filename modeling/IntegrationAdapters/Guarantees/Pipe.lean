import IntegrationAdapters.Source.Pipe

/-!
# `Pipe.Do` is the short-circuit left fold of its chain

`trace` states the intended sequence independently of `Do`: `(vᵢ, eᵢ) = fᵢ(vᵢ₋₁)` from
`v₀ = zero`, every action run after the previous one whatever its error, with the world after
each step. Against it, `Do` of a pipe built by `NewPipe` and successive `Next` calls returns the
first erroring step together with the world right after it, or the last step with a nil error;
and the actions after a failing prefix change nothing, results or world.
-/

namespace IntegrationAdapters.Guarantees.Pipe
open IntegrationAdapters.Source.Functional

variable {σ ε T : Type}

/-- Each action's output and the world after it, no step checking for errors. -/
def trace : List (action σ ε T) → T → σ → List ((T × Option ε) × σ)
  | [], _, _ => []
  | f :: fs, v, s => (f v).run s :: trace fs ((f v).run s).1.1 ((f v).run s).2

/-- The pipe that `NewPipe` and one `Next` per action build. -/
def pipeOf (fs : List (action σ ε T)) : Pipe σ ε T := fs.foldl Pipe.Next NewPipe

theorem chain_foldl_Next (fs : List (action σ ε T)) (p : Pipe σ ε T) :
    (fs.foldl Pipe.Next p).chain = p.chain ++ fs := by
  induction fs generalizing p with
  | nil => simp
  | cons f fs ih => simp [ih, Pipe.Next]

@[simp] theorem chain_pipeOf (fs : List (action σ ε T)) : (pipeOf fs).chain = fs := by
  simp [pipeOf, chain_foldl_Next, NewPipe]

/-- The first step with an error ends the loop, with that step's result and world. -/
theorem loop_first_error (fs : List (action σ ε T)) (v : T) (s : σ) (err : Option ε) :
    ∀ i (hi : i < (trace fs v s).length), (∀ j (hj : j < i), ((trace fs v s)[j]).1.2 = none) →
      ((trace fs v s)[i]).1.2.isSome → (loop fs v err).run s = (trace fs v s)[i] := by
  induction fs generalizing v s err with
  | nil => intro i hi; simp [trace] at hi
  | cons f fs ih =>
    intro i hi earlier failed
    rw [loop_cons_run]
    rcases step : (f v).run s with ⟨⟨next, _ | e⟩, s'⟩
    · cases i with
      | zero => simp [trace, step] at failed
      | succ i =>
        simp only [trace, step, List.length_cons, List.getElem_cons_succ] at hi failed earlier ⊢
        exact ih next s' none i (by omega) (fun j hj => earlier (j + 1) (by omega)) failed
    · cases i with
      | zero => simp [trace, step]
      | succ i => simpa [trace, step] using earlier 0 (by omega)

/-- With no error anywhere, the loop returns the last result, a nil error and the last world. -/
theorem loop_no_error (fs : List (action σ ε T)) (v : T) (s : σ)
    (clean : ∀ o ∈ trace fs v s, o.1.2 = none) :
    (loop fs v none).run s =
      ((((trace fs v s).getLast?.map (·.1.1)).getD v, none),
        ((trace fs v s).getLast?.map (·.2)).getD s) := by
  induction fs generalizing v s with
  | nil => rfl
  | cons f fs ih =>
    rw [loop_cons_run]
    rcases step : (f v).run s with ⟨⟨next, _ | e⟩, s'⟩
    · simp only [trace, step, List.mem_cons, forall_eq_or_imp] at clean ⊢
      rw [ih next s' clean.2]
      cases trace fs next s' <;> simp [List.getLast?_cons]
    · simp [trace, step] at clean

/-- Actions after a failing chain are never reached. -/
theorem loop_append_of_error (fs gs : List (action σ ε T)) (v : T) (s : σ)
    (failed : ((loop fs v none).run s).1.2.isSome) :
    (loop (fs ++ gs) v none).run s = (loop fs v none).run s := by
  induction fs generalizing v s with
  | nil => simp [loop_nil_run] at failed
  | cons f fs ih =>
    simp only [List.cons_append, loop_cons_run] at failed ⊢
    rcases step : (f v).run s with ⟨⟨next, _ | e⟩, s'⟩
    · simp only [step] at failed ⊢
      exact ih next s' failed
    · rfl

/-- `Do` of a pipe built by `NewPipe` and `Next` is the short-circuit left fold of its actions
from the zero value: the least erroring step, with the world right after it (no later action
runs); else the last step, or `(zero, nil)` for the empty chain; and appending actions to a
failing pipe changes neither its result nor its effects. -/
theorem Do_short_circuit [Inhabited T] (fs : List (action σ ε T)) (s : σ) :
    (∀ i (hi : i < (trace fs default s).length),
        (∀ j (hj : j < i), ((trace fs default s)[j]).1.2 = none) →
        ((trace fs default s)[i]).1.2.isSome → (pipeOf fs).Do.run s = (trace fs default s)[i]) ∧
    ((∀ o ∈ trace fs default s, o.1.2 = none) →
      (pipeOf fs).Do.run s =
        ((((trace fs default s).getLast?.map (·.1.1)).getD default, none),
          ((trace fs default s).getLast?.map (·.2)).getD s)) ∧
    (∀ gs, ((pipeOf fs).Do.run s).1.2.isSome →
      (pipeOf (fs ++ gs)).Do.run s = (pipeOf fs).Do.run s) := by
  simp only [Pipe.Do, chain_pipeOf]
  exact ⟨loop_first_error fs default s none, loop_no_error fs default s,
    fun gs failed => loop_append_of_error fs gs default s failed⟩

end IntegrationAdapters.Guarantees.Pipe
