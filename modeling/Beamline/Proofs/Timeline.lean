import Beamline.Proofs.Outcomes

/-!
Runs of requests to a simulated device, each at a time. A `Service` gives the answer to a request,
the device after it and the time when the request is done, which is later than it was made only for
a wait. A run is `Orderly` if no request is made before the previous one is done. `Motor.serve` and
`Switch.serve` are the services of a motor and of a switch, `after` is the device after a run and
`answers` are its answers. Proved here: `after_append`, `ends_append`, `answers_append` and
`orderly_append`, and for both services `serve_forward`, that no request is done before it is made.
-/

namespace Beamline

structure Timed (χ : Type) where
  now : Nat
  request : χ

/-- The answer to a request made at a time, the device after it, and the time when it is done. -/
abbrev Service (χ σ β : Type) : Type := Nat → χ → σ → β × σ × Nat

namespace Service

variable {χ σ β : Type} {f : Service χ σ β} {x : Timed χ} {xs ys : List (Timed χ)} {s : σ}
  {since : Nat}

/-- The device after a run. -/
def after (f : Service χ σ β) : List (Timed χ) → σ → σ
  | [], s => s
  | x :: xs, s => f.after xs (f x.now x.request s).2.1

/-- The time when a run from `since` on is done. -/
def ends (f : Service χ σ β) (since : Nat) : List (Timed χ) → σ → Nat
  | [], _ => since
  | x :: xs, s => f.ends (f x.now x.request s).2.2 xs (f x.now x.request s).2.1

/-- No request is made before `since` or before the previous one is done. -/
def Orderly (f : Service χ σ β) (since : Nat) : List (Timed χ) → σ → Prop
  | [], _ => True
  | x :: xs, s =>
    since ≤ x.now ∧ f.Orderly (f x.now x.request s).2.2 xs (f x.now x.request s).2.1

/-- The requests of a run with their answers. -/
def answers (f : Service χ σ β) : List (Timed χ) → σ → List (χ × β)
  | [], _ => []
  | x :: xs, s =>
    (x.request, (f x.now x.request s).1) :: f.answers xs (f x.now x.request s).2.1

/-- No request is done before it is made. -/
def Forward (f : Service χ σ β) : Prop := ∀ now q s, now ≤ (f now q s).2.2

theorem after_append (xs ys : List (Timed χ)) (s : σ) :
    f.after (xs ++ ys) s = f.after ys (f.after xs s) := by
  induction xs generalizing s with
  | nil => rfl
  | cons x xs ih => exact ih _

theorem ends_append (since : Nat) (xs ys : List (Timed χ)) (s : σ) :
    f.ends since (xs ++ ys) s = f.ends (f.ends since xs s) ys (f.after xs s) := by
  induction xs generalizing since s with
  | nil => rfl
  | cons x xs ih => exact ih _ _

theorem answers_append (xs ys : List (Timed χ)) (s : σ) :
    f.answers (xs ++ ys) s = f.answers xs s ++ f.answers ys (f.after xs s) := by
  induction xs generalizing s with
  | nil => rfl
  | cons x xs ih => exact congrArg _ (ih _)

theorem orderly_append : f.Orderly since (xs ++ ys) s ↔
    f.Orderly since xs s ∧ f.Orderly (f.ends since xs s) ys (f.after xs s) := by
  induction xs generalizing since s with
  | nil => exact (and_iff_right trivial).symm
  | cons x xs ih => exact (and_congr_right fun _ => ih).trans and_assoc.symm

theorem Orderly.of_le {since' : Nat} (h : f.Orderly since xs s) (hle : since' ≤ since) :
    f.Orderly since' xs s := by
  cases xs with
  | nil => trivial
  | cons x xs => exact ⟨Nat.le_trans hle h.1, h.2⟩

end Service

variable {α : Type} [Scalar α]

/-! ## Motors -/

namespace Motor

/-- The `Device` operations of a motor, and from `place` on what others may ask of it. -/
inductive Request (α : Type) where
  | read (maxAge : Nat)
  | start (target : Value α)
  | stop
  | wait (pace : Pace) (beats : Nat)
  | status
  | place (x : α)
  | position
  | isMoving
  | target

inductive Reply (α : Type) where
  | value (r : Except (DeviceError α) (Value α))
  | done (r : Except (DeviceError α) Unit)
  | status (s : Status)
  | position (x : α)
  | isMoving (b : Bool)
  | target (x : Option α)

def serve : Service (Request α) (Motor α) (Reply α)
  | now, .read maxAge, m => (.value (read now maxAge m).1, (read now maxAge m).2, now)
  | now, .start target, m =>
    (.done ((start now target m).1.map fun _ => ()), (start now target m).2, now)
  | now, .stop, m => (.done ((stop now m).1.map fun _ => ()), (stop now m).2, now)
  | now, .wait pace beats, m =>
    match wait pace (m, ⟨now, beats, 0⟩) with
    | (r, m, clock) => (.done r, m, clock.now)
  | now, .status, m => (.status (m.status now), m.advance now, now)
  | now, .place x, m => (.done (.ok ()), m.place x, now)
  | now, .position, m => (.position (m.positionAt now), m.advance now, now)
  | now, .isMoving, m => (.isMoving (m.isMoving now), m.advance now, now)
  | now, .target, m => (.target m.target, m, now)

theorem serve_forward : (serve : Service (Request α) (Motor α) (Reply α)).Forward := by
  intro now q m
  cases q with
  | wait pace beats =>
    have hle := now_le_wait pace m ⟨now, beats, 0⟩
    rcases hrun : wait pace (m, ⟨now, beats, 0⟩) with ⟨r, m', clock⟩
    rw [hrun] at hle
    simp only [serve, hrun]
    exact hle
  | _ => exact Nat.le_refl _

end Motor

/-! ## Switches -/

namespace Switch

inductive Request (α : Type) where
  | read
  | start (target : Value α)
  | stop
  | wait (pace : Pace) (beats : Nat)
  | status
  | place (state : Option String)
  | current

inductive Reply (α : Type) where
  | value (r : Except (DeviceError α) (Value α))
  | done (r : Except (DeviceError α) Unit)
  | status (s : Status)
  | current (state : Option String)

def serve : Service (Request α) (Switch α) (Reply α)
  | now, .read, s => (.value (read now s).1, (read now s).2, now)
  | now, .start target, s =>
    (.done ((start now target s).1.map fun _ => ()), (start now target s).2, now)
  | now, .stop, s => (.done (stop s).1, (stop s).2, now)
  | now, .wait pace beats, s =>
    match wait pace (s, ⟨now, beats, 0⟩) with
    | (r, s, clock) => (.done r, s, clock.now)
  | now, .status, s => (.status (s.status now), s.advance now, now)
  | now, .place state, s => (.done (.ok ()), s.place state, now)
  | now, .current, s => (.current (s.currentAt now), s.advance now, now)

theorem serve_forward : (serve : Service (Request α) (Switch α) (Reply α)).Forward := by
  intro now q s
  cases q with
  | wait pace beats =>
    have hle := now_le_wait pace s ⟨now, beats, 0⟩
    rcases hrun : wait pace (s, ⟨now, beats, 0⟩) with ⟨r, s', clock⟩
    rw [hrun] at hle
    simp only [serve, hrun]
    exact hle
  | _ => exact Nat.le_refl _

end Switch
end Beamline
