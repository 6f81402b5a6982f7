import Beamline.Proofs.Operating
import Beamline.Proofs.SimulationMode
import Beamline.Proofs.ConstantAnswers
import Mathlib.Logic.Relation

/-!
What operations make of a laboratory. `Device.Step` relates a device to what one operation leaves of
it; `Lab.Step` is such a step of one device, or a change of the clock and the records; `Evolves` is
any number of steps. Proved here:

* `controlsTo_evolves`: every operation of the controls `Evolves`, however deep composites nest;
* `Evolves.keeps`: a property of a device that each of its steps keeps is kept by all operations.

The lemmas on composites are for any relation `S` that the controls stay `Within`, and serve for
other relations too (`Controls.NonStartsWithin`).
-/

namespace Beamline

open Relation

variable {ι σ α ε β γ : Type}

/-! ## Steps that stay within a relation -/

/-- `x` leads from every world to one that is reached by steps of `S`. -/
def Action.Within (S : σ → σ → Prop) (x : Action σ ε β) : Prop := ∀ s, ReflTransGen S s (x s).2

namespace Action.Within

variable {S : σ → σ → Prop}

theorem pure (b : β) : Within (ε := ε) S (pure b) := fun _ => .refl

theorem fail (e : ε) : Within (β := β) S (Action.fail e) := fun _ => .refl

theorem settle (r : Except ε β) : Within S (Action.settle r) := fun _ => .refl

theorem bind {x : Action σ ε β} {f : β → Action σ ε γ} (hx : Within S x)
    (hf : ∀ b, Within S (f b)) : Within S (x >>= f) := by
  intro s
  have hs := hx s
  rcases hrun : x s with ⟨r, s'⟩
  rw [hrun] at hs
  cases r with
  | error e => rwa [Action.bind_error f hrun]
  | ok b => rw [Action.bind_ok f hrun]; exact hs.trans (hf b s')

theorem look {f : σ → Action σ ε β} (hf : ∀ s, Within S (f s)) :
    Within S (Action.look >>= f) := fun s => hf s s

theorem attempt {x : Action σ ε β} (hx : Within S x) : Within (ε := ε) S (Action.attempt x) :=
  fun s => hx s

theorem ite {p : Prop} [Decidable p] {x y : Action σ ε β} (hx : Within S x) (hy : Within S y) :
    Within S (if p then x else y) := by
  split
  · exact hx
  · exact hy

end Action.Within

/-! ## Composites over controls that stay within a relation -/

/-- Every operation is a run of steps of `S`. -/
structure Controls.Within (k : Controls ι σ α) (S : σ → σ → Prop) : Prop where
  read : ∀ d maxAge, Action.Within S (k.read d maxAge)
  start : ∀ d target, Action.Within S (k.start d target)
  stop : ∀ d, Action.Within S (k.stop d)
  wait : ∀ d, Action.Within S (k.wait d)
  status : ∀ d maxAge s, ReflTransGen S s (k.status d maxAge s).2
  note : ∀ e s, ReflTransGen S s (k.note e s)

/-- Every operation but `start` is a run of steps of `S`. -/
structure Controls.NonStartsWithin (k : Controls ι σ α) (S : σ → σ → Prop) : Prop where
  read : ∀ d maxAge, Action.Within S (k.read d maxAge)
  stop : ∀ d, Action.Within S (k.stop d)
  wait : ∀ d, Action.Within S (k.wait d)
  status : ∀ d maxAge s, ReflTransGen S s (k.status d maxAge s).2
  note : ∀ e s, ReflTransGen S s (k.note e s)

theorem Controls.Within.nonStarts {k : Controls ι σ α} {S : σ → σ → Prop} (h : k.Within S) :
    k.NonStartsWithin S := ⟨h.read, h.stop, h.wait, h.status, h.note⟩

namespace Controls.NonStartsWithin

variable {k : Controls ι σ α} {S : σ → σ → Prop}

theorem say (h : k.NonStartsWithin S) (level : Level) (device text : String) :
    Action.Within (ε := ε) S (k.say level device text) := fun s => h.note _ s

theorem aggregateStatus (h : k.NonStartsWithin S) (maxAge : Nat) (ds : List ι) (s : σ) :
    ReflTransGen S s (k.aggregateStatus maxAge ds s).2 := by
  induction ds generalizing s with
  | nil => exact .refl
  | cons d ds ih =>
    have hd := h.status d maxAge s
    unfold Controls.aggregateStatus
    dsimp only
    split
    · exact hd.trans (ih _)
    · exact hd.trans (h.note _ _)

theorem waitAll (h : k.NonStartsWithin S) (ds : List ι) : Action.Within S (k.waitAll ds) := by
  induction ds with
  | nil => exact fun _ => .refl
  | cons d ds ih => exact fun s => ((h.note _ s).trans (h.wait d _)).trans (ih _)

variable [Scalar α]

theorem stopAll (h : k.NonStartsWithin S) (ds : List ι) : Action.Within S (k.stopAll ds) := by
  induction ds with
  | nil => exact fun _ => .refl
  | cons d ds ih =>
    intro s
    have hd := h.stop d s
    unfold Controls.stopAll
    rcases hrun : k.stop d s with ⟨_ | _, s'⟩
    · rw [hrun] at hd
      exact (hd.trans (h.note _ s')).trans (ih _)
    · rw [hrun] at hd
      exact hd.trans (ih s')

end Controls.NonStartsWithin

namespace Composite

variable [Scalar α] {c : Composite ι α} {k : Controls ι σ α} {S : σ → σ → Prop}

theorem checkInterlock_within (h : k.NonStartsWithin S) (maxAge : Nat) :
    Action.Within S (c.checkInterlock k maxAge) := by
  unfold checkInterlock
  cases c.interlock with
  | none => exact .pure ()
  | some l => exact (h.read _ _).bind fun _ => .ite (.pure ()) (.look fun _ => .fail _)

omit [Scalar α] in
theorem readAxes_within (h : k.NonStartsWithin S) (maxAge : Nat) (axes : List (Axis ι)) :
    Action.Within S (readAxes k maxAge axes) := by
  induction axes with
  | nil => exact .pure []
  | cons a axes ih =>
    refine (h.read _ _).bind fun v => ?_
    cases v with
    | scalar x => exact ih.bind fun _ => .pure _
    | null => exact .look fun _ => .fail _
    | state name => exact .look fun _ => .fail _

theorem readPositions_within (h : k.NonStartsWithin S) (maxAge : Nat) :
    Action.Within S (c.readPositions k maxAge) :=
  (readAxes_within h maxAge c.axes).bind fun _ => .pure _

theorem readRaw_within (h : k.NonStartsWithin S) (maxAge : Nat) :
    Action.Within S (c.readRaw k maxAge) := by
  refine (checkInterlock_within h maxAge).bind fun _ => ?_
  cases c.gate with
  | none => exact readPositions_within h maxAge
  | some g => exact (h.read _ _).bind fun _ => .ite (.pure _) (readPositions_within h maxAge)

theorem sayAll_within (h : k.NonStartsWithin S) (texts : List String) :
    Action.Within (ε := ε) S (c.sayAll k texts) := fun s =>
  noteAll_constant (P := ReflTransGen S s) (fun e s' hs' => hs'.trans (h.note e s')) _ texts .refl

theorem read_within (h : k.NonStartsWithin S) (maxAge : Nat) :
    Action.Within S (c.read k maxAge) := by
  unfold read
  cases c.mode with
  | simulation => exact .pure _
  | master =>
    exact (readRaw_within h maxAge).bind fun _ => (sayAll_within h _).bind fun _ => .settle _

theorem activate_within (h : k.Within S) (g : Gate ι) : Action.Within S (c.activate k g) :=
  (h.read _ _).attempt.bind fun _ => .look fun _ =>
    .ite (h.nonStarts.say _ _ _) ((h.nonStarts.say _ _ _).bind fun _ => h.start _ _)

theorem startAxes_within (h : k.Within S) (axes : List (Axis ι)) (sps : List (Setpoint α)) :
    Action.Within S (c.startAxes k axes sps) := by
  induction axes generalizing sps with
  | nil => exact .pure ()
  | cons a axes ih =>
    cases sps with
    | nil => exact .pure ()
    | cons sp sps =>
      exact .look fun _ => (h.nonStarts.say _ _ _).bind fun _ => (h.start _ _).bind fun _ => ih sps

theorem dispatch_within (h : k.Within S) (plan : Plan α) : Action.Within S (c.dispatch k plan) := by
  unfold dispatch
  split
  · exact (h.nonStarts.say _ _ _).bind fun _ => h.start _ _
  · exact .pure ()
  · exact (checkInterlock_within h.nonStarts _).bind fun _ => (activate_within h _).bind fun _ =>
      startAxes_within h _ _
  · exact (checkInterlock_within h.nonStarts _).bind fun _ => startAxes_within h _ _

theorem moveTo_within (h : k.Within S) (target : Value α) :
    Action.Within S (c.moveTo k target) := by
  refine .look fun s => (Action.Within.settle _).bind fun plan => ?_
  cases c.mode with
  | simulation => exact (h.nonStarts.say _ _ _).bind fun _ => .pure _
  | master => exact (dispatch_within h plan).bind fun _ => .pure _

theorem stop_within (h : k.NonStartsWithin S) : Action.Within S (c.stop k) := by
  unfold stop
  cases c.mode with
  | simulation => exact .pure ()
  | master => exact h.stopAll _

theorem wait_within (h : k.NonStartsWithin S) : Action.Within S (c.wait k) := by
  unfold wait
  cases c.mode with
  | simulation => exact .pure ()
  | master => exact h.waitAll _

theorem status_within (h : k.NonStartsWithin S) (maxAge : Nat) (s : σ) :
    ReflTransGen S s (c.status k maxAge s).2 := by
  unfold status
  cases c.mode with
  | simulation => exact .refl
  | master =>
    have hall := h.aggregateStatus maxAge c.attached s
    rcases hstatus : k.aggregateStatus maxAge c.attached s with ⟨status, s'⟩
    rw [hstatus] at hall
    have hread := read_within (c := c) h maxAge s'
    dsimp only
    split
    · split <;> rename_i hrun <;> rw [hrun] at hread <;> exact hall.trans hread
    · exact hall

theorem moveTo_recalls {c' : Composite ι α} {target : Value α} {s s' : σ}
    (h : c.moveTo k target s = (.ok c', s')) : ∃ v, c' = c.recalling v := by
  cases hplan : c.plan k s target with
  | error e =>
    rw [moveTo_of_plan_error hplan] at h
    cases h
  | ok p =>
    cases hmode : c.mode with
    | simulation =>
      rw [moveTo_simulation hmode hplan] at h
      cases h
      exact ⟨target, rfl⟩
    | master =>
      rw [moveTo_of_plan_ok hmode hplan] at h
      obtain ⟨_, _, -, hdone⟩ := Action.bind_eq_ok.mp h
      cases hdone
      exact ⟨c.remembered, rfl⟩

end Composite

variable [Scalar α]

/-! ## Steps of a device -/

/-- One operation at any time; `pass` is an `advance` alone. -/
inductive Motor.Step (m : Motor α) : Motor α → Prop
  | read (now maxAge : Nat) : Step m (read now maxAge m).2
  | start (now : Nat) (target : Value α) : Step m (start now target m).2
  | stop (now : Nat) : Step m (stop now m).2
  | wait (pace : Pace) (clock : Clock) : Step m (wait pace (m, clock)).2.1
  | pass (now : Nat) : Step m (m.advance now)

inductive Switch.Step (s : Switch α) : Switch α → Prop
  | read (now : Nat) : Step s (read now s).2
  | start (now : Nat) (target : Value α) : Step s (start now target s).2
  | stop : Step s (stop s).2
  | wait (pace : Pace) (clock : Clock) : Step s (wait pace (s, clock)).2.1
  | pass (now : Nat) : Step s (s.advance now)

/-- A step of a composite changes the remembered value only. -/
inductive Device.Step : Device α → Device α → Prop
  | motor {m m' : Motor α} (h : m.Step m') : Step (.motor m) (.motor m')
  | switch {s s' : Switch α} (h : s.Step s') : Step (.switch s) (.switch s')
  | standIn (d : StandIn α) (target : Value α) :
      Step (.standIn d) (.standIn (StandIn.start target d).2)
  | composite (c : Composite DeviceId α) (v : Value α) :
      Step (.composite c) (.composite (c.recalling v))

theorem Device.composite_of_steps {c : Composite DeviceId α} {d : Device α}
    (h : ReflTransGen Device.Step (.composite c) d) : ∃ v, d = .composite (c.recalling v) := by
  induction h with
  | refl => exact ⟨c.remembered, rfl⟩
  | tail _ hstep ih =>
    obtain ⟨v, rfl⟩ := ih
    cases hstep with
    | composite _ w => exact ⟨w, rfl⟩

namespace Lab

variable {lab lab' : Lab α} {i : DeviceId} {d d' : Device α}

/-- A step of one device, or any change of the clock and the records. -/
inductive Step (lab : Lab α) : Lab α → Prop
  | device {i : DeviceId} {d d' : Device α} (hd : lab.device? i = some d) (h : d.Step d') :
      Step lab (lab.put i d')
  | around (clock : Clock) (calls : CallLog α) (events : List Event) :
      Step lab { lab with clock, calls, events }

def Evolves (lab lab' : Lab α) : Prop := ReflTransGen Step lab lab'

theorem Evolves.of_devices (h : lab'.devices = lab.devices) : lab.Evolves lab' := by
  have haround : lab' =
      { lab with clock := lab'.clock, calls := lab'.calls, events := lab'.events } := by
    rw [← h]
  rw [haround]
  exact .single (.around _ _ _)

theorem Evolves.of_puts_self (hd : lab.device? i = some d) (hputs : lab.Puts i d lab') :
    lab.Evolves lab' :=
  of_devices (hputs.trans (congrArg devices (put_self hd)))

theorem Evolves.of_puts (hd : lab.device? i = some d) (hstep : d.Step d')
    (hputs : lab.Puts i d' lab') : lab.Evolves lab' :=
  (ReflTransGen.single (Step.device hd hstep)).trans (of_devices hputs)

theorem Evolves.of_run {run : β × Lab α} {r : β} (hd : lab.device? i = some d)
    (hstep : d.Step d') (h : ∃ lab', run = (r, lab') ∧ lab.Puts i d' lab') :
    lab.Evolves run.2 := by
  obtain ⟨lab', rfl, hputs⟩ := h
  exact of_puts hd hstep hputs

theorem Evolves.steps (h : lab.Evolves lab') (hd : lab.device? i = some d) :
    ∃ d', lab'.device? i = some d' ∧ ReflTransGen Device.Step d d' := by
  induction h with
  | refl => exact ⟨d, hd, .refl⟩
  | @tail mid _ _ hstep ih =>
    obtain ⟨e, he, hsteps⟩ := ih
    cases hstep with
    | around => exact ⟨e, he, hsteps⟩
    | @device j f f' hf hstep =>
      have hputs : mid.Puts j f' (mid.put j f') := rfl
      by_cases hij : i = j
      · subst hij
        obtain rfl : f = e := Option.some.inj (hf.symm.trans he)
        exact ⟨f', hputs.same hf, hsteps.tail hstep⟩
      · exact ⟨e, (hputs.other hij).trans he, hsteps⟩

theorem Evolves.keeps {P : Device α → Prop} (hP : ∀ d d', Device.Step d d' → P d → P d')
    (h : lab.Evolves lab') (hd : lab.device? i = some d) (hp : P d) :
    ∃ d', lab'.device? i = some d' ∧ P d' := by
  obtain ⟨d', hd', hsteps⟩ := h.steps hd
  refine ⟨d', hd', ?_⟩
  clear hd'
  induction hsteps with
  | refl => exact hp
  | tail _ hstep ih => exact hP _ _ hstep ih

/-! ## Use of the controls -/

variable {pace : Pace} {depth : Nat}

theorem read_evolves (h : (controlsTo pace depth).Within (Step (α := α))) (i : DeviceId)
    (maxAge : Nat) (lab : Lab α) :
    lab.Evolves ((controlsTo pace (depth + 1)).read i maxAge lab).2 := by
  cases hd : lab.device? i with
  | none =>
    simp only [controlsTo, hd]
    exact .refl
  | some d =>
    cases d with
    | motor m => exact .of_run hd (.motor (.read _ maxAge)) (read_motor pace depth hd maxAge)
    | switch s => exact .of_run hd (.switch (.read _)) (read_switch pace depth hd maxAge)
    | standIn d =>
      simp only [controlsTo, hd]
      exact .of_puts_self hd rfl
    | composite c =>
      rw [read_composite hd]
      exact Composite.read_within h.nonStarts maxAge lab

theorem start_evolves (h : (controlsTo pace depth).Within (Step (α := α))) (i : DeviceId)
    (target : Value α) (lab : Lab α) :
    lab.Evolves ((controlsTo pace (depth + 1)).start i target lab).2 := by
  cases hd : lab.device? i with
  | none =>
    simp only [controlsTo, hd]
    exact .refl
  | some d =>
    cases d with
    | motor m => exact .of_run hd (.motor (.start _ target)) (start_motor pace depth hd target)
    | switch s => exact .of_run hd (.switch (.start _ target)) (start_switch pace depth hd target)
    | standIn d =>
      simp only [controlsTo, hd]
      exact .of_puts hd (.standIn d target) rfl
    | composite c =>
      have hmove := Composite.moveTo_within (c := c) h target lab
      rw [start_composite hd]
      rcases hrun : c.moveTo (controlsTo pace depth) target lab with ⟨e | c', lab'⟩
      · rw [hrun] at hmove
        exact hmove
      · rw [hrun] at hmove
        -- nothing keeps a composite from being attached, further down, to itself
        obtain ⟨v, rfl⟩ := Composite.moveTo_recalls hrun
        obtain ⟨d', hd', hsteps⟩ := Evolves.steps hmove hd
        obtain ⟨w, rfl⟩ := Device.composite_of_steps hsteps
        exact hmove.tail (.device hd' (.composite (c.recalling w) v))

theorem stop_evolves (h : (controlsTo pace depth).Within (Step (α := α))) (i : DeviceId)
    (lab : Lab α) : lab.Evolves ((controlsTo pace (depth + 1)).stop i lab).2 := by
  cases hd : lab.device? i with
  | none =>
    simp only [controlsTo, hd]
    exact .refl
  | some d =>
    cases d with
    | motor m => exact .of_run hd (.motor (.stop _)) (stop_motor pace depth hd)
    | switch s => exact .of_run hd (.switch .stop) (stop_switch pace depth hd)
    | standIn d =>
      simp only [controlsTo, hd]
      exact .of_puts_self hd rfl
    | composite c =>
      simp only [controlsTo, hd]
      exact Composite.stop_within h.nonStarts lab

theorem wait_evolves (h : (controlsTo pace depth).Within (Step (α := α))) (i : DeviceId)
    (lab : Lab α) : lab.Evolves ((controlsTo pace (depth + 1)).wait i lab).2 := by
  cases hd : lab.device? i with
  | none =>
    simp only [controlsTo, hd]
    exact .refl
  | some d =>
    cases d with
    | motor m => exact .of_run hd (.motor (.wait pace _)) (wait_motor pace depth hd)
    | switch s => exact .of_run hd (.switch (.wait pace _)) (wait_switch pace depth hd)
    | standIn d =>
      simp only [controlsTo, hd]
      exact .of_puts_self hd rfl
    | composite c =>
      rw [wait_composite hd]
      exact Composite.wait_within h.nonStarts lab

theorem status_evolves (h : (controlsTo pace depth).Within (Step (α := α))) (i : DeviceId)
    (maxAge : Nat) (lab : Lab α) :
    lab.Evolves ((controlsTo pace (depth + 1)).status i maxAge lab).2 := by
  cases hd : lab.device? i with
  | none =>
    simp only [controlsTo, hd]
    exact .refl
  | some d =>
    cases d with
    | motor m => exact .of_run hd (.motor (.pass _)) (status_motor pace depth hd maxAge)
    | switch s => exact .of_run hd (.switch (.pass _)) (status_switch pace depth hd maxAge)
    | standIn d =>
      simp only [controlsTo, hd]
      exact .of_devices rfl
    | composite c =>
      rw [status_composite hd]
      exact Composite.status_within h.nonStarts maxAge lab

/-- By induction on `depth`. -/
theorem controlsTo_evolves (pace : Pace) (depth : Nat) :
    (controlsTo pace depth).Within (Step (α := α)) := by
  induction depth with
  | zero =>
    exact ⟨fun _ _ _ => .refl, fun _ _ _ => .refl, fun _ _ => .refl, fun _ _ => .refl,
      fun _ _ _ => .refl, fun _ _ => .single (.around _ _ _)⟩
  | succ depth ih =>
    exact ⟨read_evolves ih, start_evolves ih, stop_evolves ih, wait_evolves ih,
      status_evolves ih, fun _ _ => .single (.around _ _ _)⟩

end Lab
end Beamline
