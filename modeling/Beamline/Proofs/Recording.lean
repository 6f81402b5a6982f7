import Beamline.Composite.Operation
import Mathlib.Control.Monad.Basic

/-!
The requests that a composite makes to the devices attached to it. An `Exchange` is a request with
its answer, and `Controls.recorded` operates the same devices and appends every exchange to a list
beside their world. `Asks x w xs r` says that the action `x`, in `w`, makes the exchanges `xs` and
has the result `r`; `Mirrors x y` says that `x` is `y` if the list is left out. Proved here: how
`Asks` and `Mirrors` go through the constructions of an `Action`, so that a composite is treated
step by step.
-/

namespace Beamline

inductive Exchange (ι α : Type) where
  | read (device : ι) (maxAge : Nat) (answer : Except (DeviceError α) (Value α))
  | start (device : ι) (target : Value α) (answer : Except (DeviceError α) Unit)
  | stop (device : ι) (answer : Except (DeviceError α) Unit)
  | wait (device : ι) (answer : Except (DeviceError α) Unit)
  | status (device : ι) (maxAge : Nat) (answer : Status)
  deriving DecidableEq

/-- A world, and the exchanges made so far in order. -/
abbrev Recorded (ι σ α : Type) := σ × List (Exchange ι α)

variable {ι σ α ε β γ : Type}

/-- `x`, with the exchange made of its result appended. -/
def Recorded.exchange (x : Action σ ε β) (f : Except ε β → Exchange ι α) :
    Action (Recorded ι σ α) ε β := fun w =>
  ((x w.1).1, (x w.1).2, w.2 ++ [f (x w.1).1])

/-- Names, formats and `isAllowed` are no exchanges, as a device answers them without acting. -/
def Controls.recorded (k : Controls ι σ α) : Controls ι (Recorded ι σ α) α where
  name w := k.name w.1
  format w := k.format w.1
  isAllowed w := k.isAllowed w.1
  read d maxAge := Recorded.exchange (k.read d maxAge) (.read d maxAge)
  start d target := Recorded.exchange (k.start d target) (.start d target)
  stop d := Recorded.exchange (k.stop d) (.stop d)
  wait d := Recorded.exchange (k.wait d) (.wait d)
  status d maxAge w :=
    ((k.status d maxAge w.1).1, (k.status d maxAge w.1).2,
      w.2 ++ [.status d maxAge (k.status d maxAge w.1).1])
  note e w := (k.note e w.1, w.2)

/-! ## The exchanges of a step -/

def Asks (x : Action (Recorded ι σ α) ε β) (w : Recorded ι σ α) (xs : List (Exchange ι α))
    (r : Except ε β) : Prop :=
  (x w).1 = r ∧ (x w).2.2 = w.2 ++ xs

namespace Asks

variable {x : Action (Recorded ι σ α) ε β} {f : β → Action (Recorded ι σ α) ε γ}
  {w : Recorded ι σ α} {xs ys : List (Exchange ι α)}

theorem pure (b : β) (w : Recorded ι σ α) : Asks (pure b : Action _ ε β) w [] (.ok b) :=
  ⟨rfl, (List.append_nil _).symm⟩

theorem fail (e : ε) (w : Recorded ι σ α) : Asks (Action.fail e : Action _ ε β) w [] (.error e) :=
  ⟨rfl, (List.append_nil _).symm⟩

theorem bind {b : β} {r : Except ε γ} (hx : Asks x w xs (.ok b)) (hf : Asks (f b) (x w).2 ys r) :
    Asks (x >>= f) w (xs ++ ys) r := by
  have hw : x w = (.ok b, (x w).2) := Prod.ext hx.1 rfl
  unfold Asks
  rw [Action.bind_ok f hw]
  exact ⟨hf.1, by rw [hf.2, hx.2, List.append_assoc]⟩

theorem bind_error {e : ε} (f : β → Action (Recorded ι σ α) ε γ) (hx : Asks x w xs (.error e)) :
    Asks (x >>= f) w xs (.error e) := by
  have hw : x w = (.error e, (x w).2) := Prod.ext hx.1 rfl
  unfold Asks
  rw [Action.bind_error f hw]
  exact ⟨rfl, hx.2⟩

/-- The case of `bind` in which the first action makes no exchange. -/
theorem after {b : β} {r : Except ε γ} (hx : Asks x w [] (.ok b)) (hf : Asks (f b) (x w).2 xs r) :
    Asks (x >>= f) w xs r := hx.bind hf

/-- The case of `bind` in which the second action makes no exchange. -/
theorem before {b : β} {r : Except ε γ} (hx : Asks x w xs (.ok b))
    (hf : Asks (f b) (x w).2 [] r) : Asks (x >>= f) w xs r := by
  have h := hx.bind hf
  rwa [List.append_nil] at h

theorem look (w : Recorded ι σ α) : Asks (Action.look : Action _ ε _) w [] (.ok w) :=
  ⟨rfl, (List.append_nil _).symm⟩

theorem say (k : Controls ι σ α) (level : Level) (device text : String) (w : Recorded ι σ α) :
    Asks (k.recorded.say (ε := ε) level device text) w [] (.ok ()) :=
  ⟨rfl, (List.append_nil _).symm⟩

theorem exchange (x : Action σ ε β) (g : Except ε β → Exchange ι α) (w : Recorded ι σ α) :
    Asks (Recorded.exchange x g) w [g (x w.1).1] (x w.1).1 := ⟨rfl, rfl⟩

end Asks

/-! ## Recording changes nothing -/

def Mirrors (x : Action (Recorded ι σ α) ε β) (y : Action σ ε β) : Prop :=
  ∀ w, ((x w).1, (x w).2.1) = y w.1

namespace Mirrors

theorem pure (b : β) : Mirrors (ι := ι) (σ := σ) (α := α) (pure b : Action _ ε β) (pure b) :=
  fun _ => rfl

theorem fail (e : ε) :
    Mirrors (ι := ι) (σ := σ) (α := α) (Action.fail e : Action _ ε β) (Action.fail e) :=
  fun _ => rfl

theorem bind {x : Action (Recorded ι σ α) ε β} {y : Action σ ε β}
    {f : β → Action (Recorded ι σ α) ε γ} {g : β → Action σ ε γ} (hx : Mirrors x y)
    (hf : ∀ b, Mirrors (f b) (g b)) : Mirrors (x >>= f) (y >>= g) := by
  intro w
  have hw := hx w
  cases hr : x w with
  | mk r w' =>
    rw [hr] at hw
    cases r with
    | ok b => rw [Action.bind_ok f hr, Action.bind_ok g hw.symm]; exact hf b w'
    | error e => rw [Action.bind_error f hr, Action.bind_error g hw.symm]

theorem look {f : Recorded ι σ α → Action (Recorded ι σ α) ε β} {g : σ → Action σ ε β}
    (h : ∀ w, Mirrors (f w) (g w.1)) : Mirrors (Action.look >>= f) (Action.look >>= g) :=
  fun w => h w w

theorem say (k : Controls ι σ α) (level : Level) (device text : String) :
    Mirrors (k.recorded.say (ε := ε) level device text) (k.say level device text) :=
  fun _ => rfl

theorem exchange (x : Action σ ε β) (g : Except ε β → Exchange ι α) :
    Mirrors (Recorded.exchange x g) x := fun _ => rfl

theorem attempt {x : Action (Recorded ι σ α) ε β} {y : Action σ ε β} (h : Mirrors x y) :
    Mirrors (Action.attempt x) (Action.attempt y) := by
  intro w
  have hw := h w
  unfold Action.attempt
  rw [← hw]

theorem ite {p : Prop} [Decidable p] {x₁ x₂ : Action (Recorded ι σ α) ε β} {y₁ y₂ : Action σ ε β}
    (h₁ : Mirrors x₁ y₁) (h₂ : Mirrors x₂ y₂) :
    Mirrors (if p then x₁ else x₂) (if p then y₁ else y₂) := by
  split
  · exact h₁
  · exact h₂

theorem settle (r : Except ε β) :
    Mirrors (ι := ι) (σ := σ) (α := α) (Action.settle r) (Action.settle r) := fun _ => rfl

end Mirrors
end Beamline
