/-!
Steps on a world that may fail. A failed step keeps the world it reached, so whatever was done
before the failure stays done: there is no rollback. `bind_ok` and `bind_error` say how a
sequence goes on from either outcome of its first step.
-/

namespace Beamline

/-- A step on a world `σ`: an answer or a failure, and the world it leaves behind. -/
def Action (σ ε β : Type) : Type := σ → Except ε β × σ

namespace Action

variable {σ τ ε β γ : Type}

def done (answer : β) : Action σ ε β := fun s => (.ok answer, s)

def fail (e : ε) : Action σ ε β := fun s => (.error e, s)

/-- Go on with the answer; after a failure the rest is not done. -/
def next (x : Action σ ε β) (f : β → Action σ ε γ) : Action σ ε γ := fun s =>
  match x s with
  | (.ok a, s') => f a s'
  | (.error e, s') => (.error e, s')

instance : Monad (Action σ ε) where
  pure := done
  bind := next

/-- Look at the world. -/
def look : Action σ ε σ := fun s => (.ok s, s)

/-- Change the world. -/
def change (f : σ → σ) : Action σ ε Unit := fun s => (.ok (), f s)

/-- A result that does not touch the world. -/
def settle (r : Except ε β) : Action σ ε β := fun s => (r, s)

/-- Do `x` and hand its outcome on, whether it failed or not. -/
def attempt (x : Action σ ε β) : Action σ ε (Except ε β) := fun s => (.ok (x s).1, (x s).2)

theorem bind_apply (x : Action σ ε β) (f : β → Action σ ε γ) (s : σ) :
    (x >>= f) s = match x s with
      | (.ok a, s') => f a s'
      | (.error e, s') => (.error e, s') := rfl

theorem bind_ok {x : Action σ ε β} {s s' : σ} {a : β} (f : β → Action σ ε γ)
    (h : x s = (.ok a, s')) : (x >>= f) s = f a s' := by
  rw [bind_apply, h]

theorem bind_error {x : Action σ ε β} {s s' : σ} {e : ε} (f : β → Action σ ε γ)
    (h : x s = (.error e, s')) : (x >>= f) s = (.error e, s') := by
  rw [bind_apply, h]

theorem bind_eq_ok {x : Action σ ε β} {f : β → Action σ ε γ} {s s'' : σ} {c : γ} :
    (x >>= f) s = (.ok c, s'') ↔ ∃ b s', x s = (.ok b, s') ∧ f b s' = (.ok c, s'') := by
  rw [bind_apply]
  rcases x s with ⟨r, s'⟩
  cases r <;> simp [and_assoc]

theorem ok_of_fst {run : Except ε Unit × σ} (h : run.1 = .ok ()) : ∃ s, run = (.ok (), s) :=
  ⟨run.2, Prod.ext h rfl⟩

end Action

/-! ## Results without a world -/

variable {ε β γ : Type}

theorem except_bind_eq_ok {x : Except ε β} {f : β → Except ε γ} {c : γ} :
    (x >>= f) = .ok c ↔ ∃ b, x = .ok b ∧ f b = .ok c := by
  cases x <;> simp [bind, Except.bind]

theorem except_bind_eq_error {x : Except ε β} {f : β → Except ε γ} {e : ε} :
    (x >>= f) = .error e ↔ x = .error e ∨ ∃ b, x = .ok b ∧ f b = .error e := by
  cases x <;> simp [bind, Except.bind]

theorem except_eq_ok_of_isOk {x : Except ε Unit} (h : x.isOk = true) : x = .ok () := by
  cases x with
  | ok => rfl
  | error => cases h

theorem except_map_eq_ok {x : Except ε β} {f : β → γ} {c : γ} :
    x.map f = .ok c ↔ ∃ b, x = .ok b ∧ f b = c := by
  cases x <;> simp [Except.map]

theorem except_map_eq_error {x : Except ε β} {f : β → γ} {e : ε} :
    x.map f = .error e ↔ x = .error e := by
  cases x <;> simp [Except.map]

end Beamline
