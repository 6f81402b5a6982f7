import Beamline.Proofs.Elapsing
import Beamline.Proofs.Injection
import Beamline.Proofs.Outcomes
import Beamline.Proofs.Settling

/-!
Everything but a start. `NonStartStep` of a motor, a switch or a device relates it to what one
operation other than `start` leaves of it; `Lab.NonStartStep` is such a step of one device, not
before the clock, or a change of the clock and the records; `NonStartRun` is any number of steps.
Proved here:

* `controlsTo_nonStartsWithin`: every operation of the controls but `start` is a `NonStartRun`;
* `NonStartRun.keeps`: a property of a device is kept by a run if it is kept by one step of that
  device and as time passes;
* `NonStartRun.idle`, `NonStartRun.halted`: so a device that is not busy stays so, and one that is
  `Halted` at a value stays so;
* `status_simulated`, `Halted.read_ok`: what such a device answers.
-/

namespace Beamline

open Relation

variable {α : Type} [Scalar α]

/-! ## Motors -/

namespace Motor

variable {m m' : Motor α} {since now maxAge : Nat} {x : α} {v : Value α}

/-- What one operation but a start leaves of a motor, at the time `since` or later. `refit` is any
change of its faults. -/
inductive NonStartStep (since : Nat) (m : Motor α) : Motor α → Prop
  | read {now : Nat} (h : since ≤ now) (maxAge : Nat) : NonStartStep since m (read now maxAge m).2
  | stop {now : Nat} (h : since ≤ now) : NonStartStep since m (stop now m).2
  | wait (pace : Pace) {clock : Clock} (h : since ≤ clock.now) :
      NonStartStep since m (wait pace (m, clock)).2.1
  | pass {now : Nat} (h : since ≤ now) : NonStartStep since m (m.advance now)
  | refit (f : Faults α) : NonStartStep since m { m with faults := f }

omit [Scalar α] in
theorem idle_advance (h : m.isMoving since = false) (now : Nat) :
    (m.advance now).isMoving since = false := by
  rcases m.advance_cases now with hn | ⟨k, -, -, hn⟩
  · rw [hn]
    exact h
  · rw [hn]
    rfl

/-- Up to its faults the motor is unchanged, or advanced to `now`, or advanced and read, or stopped.
-/
theorem NonStartStep.outcome (h : m.NonStartStep since m') : ∃ f now reads, since ≤ now ∧
    (m' = { m with faults := f } ∨ m' = ({ m with faults := f } : Motor α).advance now ∨
    m' = { ({ m with faults := f } : Motor α).advance now with
      cache := .put (m.positionAt now) now, hardwareReads := reads } ∨
    m' = { m with
      faults := f, position := m.positionAt now, motion := none, cache := .empty }) := by
  cases h with
  | @read now hnow maxAge =>
    obtain ⟨f, hg | ⟨e, hg⟩⟩ := guard_cases .read m
    · rw [read_of_guard hg]
      refine ⟨f, now, m.hardwareReads + 1, hnow, ?_⟩
      split
      · exact .inl rfl
      · exact .inr (.inr (.inl rfl))
    · rw [read_refused hg]
      exact ⟨f, now, 0, hnow, .inl rfl⟩
  | @stop now hnow =>
    obtain ⟨f, hg | ⟨e, hg⟩⟩ := guard_cases .stop m
    · rw [stop_of_guard hg]
      exact ⟨f, now, 0, hnow, .inr (.inr (.inr rfl))⟩
    · rw [stop_refused hg]
      exact ⟨f, now, 0, hnow, .inl rfl⟩
  | @wait pace clock hclock =>
    obtain ⟨f, hg | ⟨e, hg⟩⟩ := guard_cases .wait m
    · obtain ⟨now, hnow, -, hrun, -⟩ := wait_advance pace clock hg
      exact ⟨f, now, 0, Nat.le_trans hclock hnow, .inr (.inl hrun)⟩
    · rw [wait_refused hg]
      exact ⟨f, clock.now, 0, hclock, .inl rfl⟩
  | @pass now hnow => exact ⟨m.faults, now, 0, hnow, .inr (.inl rfl)⟩
  | refit f => exact ⟨f, since, 0, Nat.le_refl since, .inl rfl⟩

theorem NonStartStep.idle (h : m.NonStartStep since m') (hidle : m.isMoving since = false) :
    m'.isMoving since = false := by
  obtain ⟨f, now, reads, -, rfl | rfl | rfl | rfl⟩ := h.outcome
  · exact hidle
  · exact idle_advance (m := { m with faults := f }) hidle now
  · exact idle_advance (m := { m with faults := f }) hidle now
  · rfl

theorem NonStartStep.pacing (h : m.NonStartStep since m') : m'.pacing = m.pacing := by
  obtain ⟨f, now, reads, -, rfl | rfl | rfl | rfl⟩ := h.outcome
  · rfl
  · exact pacing_advance { m with faults := f } now
  · exact pacing_advance { m with faults := f } now
  · rfl

/-- The axis is at rest at `x`, and so is the cached reading, if there is one. -/
structure Halted (m : Motor α) (x : α) : Prop where
  still : m.motion = none
  place : m.position = x
  kept : ∀ y stamp, m.cache.entry = some (y, stamp) → y = x

omit [Scalar α] in
theorem halted_of_empty (hstill : m.motion = none) (hcache : m.cache = .empty) :
    m.Halted m.position := by
  refine ⟨hstill, rfl, fun y stamp hy => ?_⟩
  rw [hcache] at hy
  cases hy

theorem Halted.positionAt (h : m.Halted x) (now : Nat) : m.positionAt now = x := by
  simp only [Motor.positionAt, h.still, h.place]

omit [Scalar α] in
theorem Halted.advance (h : m.Halted x) (now : Nat) : m.advance now = m :=
  advance_of_still h.still now

theorem Halted.read_ok (h : m.Halted x) (hv : (read now maxAge m).1 = .ok v) : v = .scalar x := by
  obtain ⟨f, hg | ⟨e, hg⟩⟩ := guard_cases .read m
  · have hf : ({ m with faults := f } : Motor α).Halted x := ⟨h.still, h.place, h.kept⟩
    rw [read_of_guard hg, hf.positionAt] at hv
    split at hv
    · rename_i y hy
      obtain ⟨stamp, hentry⟩ := Cache.entry_of_get? hy
      cases hv
      rw [h.kept y stamp hentry]
    · cases hv
      rfl
  · rw [read_refused hg] at hv
    cases hv

theorem NonStartStep.halted (h : m.NonStartStep since m') (hx : m.Halted x) : m'.Halted x := by
  have hf : ∀ f, ({ m with faults := f } : Motor α).Halted x :=
    fun f => ⟨hx.still, hx.place, hx.kept⟩
  obtain ⟨f, now, reads, -, rfl | rfl | rfl | rfl⟩ := h.outcome
  · exact hf f
  · rw [(hf f).advance]
    exact hf f
  · rw [(hf f).advance, hx.positionAt]
    refine ⟨hx.still, hx.place, fun y stamp hy => ?_⟩
    cases hy
    rfl
  · rw [hx.positionAt]
    exact halted_of_empty rfl rfl

theorem stop_halted {at? : Option α} (h : (stop now m).1 = .ok at?) :
    (stop now m).2.Halted (m.positionAt now) := by
  obtain ⟨f, hg | ⟨e, hg⟩⟩ := guard_cases .stop m
  · rw [stop_of_guard hg]
    exact halted_of_empty rfl rfl
  · rw [stop_refused hg] at h
    cases h

theorem wait_idle {pace : Pace} {clock : Clock} (h : (wait pace (m, clock)).1 = .ok ()) :
    (wait pace (m, clock)).2.1.isMoving (wait pace (m, clock)).2.2.now = false := by
  obtain ⟨f, hg | ⟨e, hg⟩⟩ := guard_cases .wait m
  · obtain ⟨now, -, -, hrun, hidle⟩ := wait_advance pace clock hg
    obtain ⟨rfl, hidle⟩ := hidle h
    rw [hrun, isMoving_advance _ (Nat.le_refl _)]
    exact hidle
  · rw [wait_refused hg] at h
    cases h

end Motor

/-! ## Switches -/

namespace Switch

variable {s s' : Switch α} {since now : Nat} {dest : Option String}

inductive NonStartStep (since : Nat) (s : Switch α) : Switch α → Prop
  | read {now : Nat} (h : since ≤ now) : NonStartStep since s (read now s).2
  | stop : NonStartStep since s (stop s).2
  | wait (pace : Pace) {clock : Clock} (h : since ≤ clock.now) :
      NonStartStep since s (wait pace (s, clock)).2.1
  | pass {now : Nat} (h : since ≤ now) : NonStartStep since s (s.advance now)
  | refit (f : Faults α) : NonStartStep since s { s with faults := f }

/-- From `since` on nothing is pending, and the current state is `dest`. -/
structure Halted (s : Switch α) (since : Nat) (dest : Option String) : Prop where
  idle : s.isSwitching since = false
  place : s.destination = dest

omit [Scalar α] in
theorem Halted.advance (h : s.Halted since dest) (now : Nat) :
    (s.advance now).Halted since dest := by
  refine ⟨?_, (s.destination_advance now).trans h.place⟩
  rcases s.advance_cases now with hn | ⟨state, done, -, -, hn⟩
  · rw [hn]
    exact h.idle
  · rw [hn]
    rfl

omit [Scalar α] in
theorem Halted.of_le (h : s.Halted since dest) (ht : since ≤ now) : s.Halted now dest :=
  ⟨isSwitching_of_le h.idle ht, h.place⟩

omit [Scalar α] in
theorem Halted.readingAt (h : s.Halted now dest) :
    s.readingAt now = dest.getD undefinedState := by
  have hcurrent : s.currentAt now = dest := by
    rw [← h.place, ← destination_advance s now, destination_of_still (pending_advance h.idle)]
    rfl
  unfold Switch.readingAt
  rw [h.idle, hcurrent]
  rfl

theorem NonStartStep.halted (h : s.NonStartStep since s') (hs : s.Halted since dest) :
    s'.Halted since dest := by
  have hf : ∀ f, ({ s with faults := f } : Switch α).Halted since dest :=
    fun f => ⟨hs.idle, hs.place⟩
  cases h with
  | @read now _ =>
    obtain ⟨f, hg | ⟨e, hg⟩⟩ := guard_cases .read s
    · rw [read_of_guard hg]
      exact (hf f).advance now
    · rw [read_refused hg]
      exact hf f
  | stop => exact hs
  | @wait pace clock _ =>
    obtain ⟨f, hg | ⟨e, hg⟩⟩ := guard_cases .wait s
    · obtain ⟨now, -, -, hrun, -⟩ := wait_advance pace clock hg
      rw [hrun]
      exact (hf f).advance now
    · rw [wait_refused hg]
      exact hf f
  | @pass now _ => exact hs.advance now
  | refit f => exact hf f

theorem Halted.read_ok (h : s.Halted now dest) {v : Value α} (hv : (read now s).1 = .ok v) :
    v = .state (dest.getD undefinedState) := by
  obtain ⟨f, hg | ⟨e, hg⟩⟩ := guard_cases .read s
  · have hf : ({ s with faults := f } : Switch α).Halted now dest := ⟨h.idle, h.place⟩
    rw [read_of_guard hg, (hf.advance now).readingAt] at hv
    cases hv
    rfl
  · rw [read_refused hg] at hv
    cases hv

theorem wait_idle {pace : Pace} {clock : Clock} (h : (wait pace (s, clock)).1 = .ok ()) :
    (wait pace (s, clock)).2.1.isSwitching (wait pace (s, clock)).2.2.now = false := by
  obtain ⟨f, hg | ⟨e, hg⟩⟩ := guard_cases .wait s
  · obtain ⟨now, -, -, hrun, hidle⟩ := wait_advance pace clock hg
    obtain ⟨rfl, hidle⟩ := hidle h
    rw [hrun, isSwitching_advance _ (Nat.le_refl _)]
    exact hidle
  · rw [wait_refused hg] at h
    cases h

end Switch

/-! ## Devices -/

namespace Device

variable {d d' : Device α} {since now : Nat} {v : Value α}

inductive NonStartStep (since : Nat) : Device α → Device α → Prop
  | motor {m m' : Motor α} (h : m.NonStartStep since m') : NonStartStep since (.motor m) (.motor m')
  | switch {s s' : Switch α} (h : s.NonStartStep since s') :
      NonStartStep since (.switch s) (.switch s')

/-- The device is a motor or a switch. -/
def Simulated : Device α → Prop
  | motor _ => True
  | switch _ => True
  | _ => False

/-- `isMoving` or `isSwitching`. -/
def busyAt : Device α → Nat → Bool
  | motor m => m.isMoving
  | switch s => s.isSwitching
  | _ => fun _ => false

/-- The value of a reading of a motor or a switch that is not served from the cache. -/
def valueAt : Device α → Nat → Value α
  | motor m => fun now => .scalar (m.positionAt now)
  | switch s => fun now => .state (s.readingAt now)
  | _ => fun _ => .null

/-- `Halted` of a motor or a switch, with `v` as the value of a reading. -/
def Halted (since : Nat) (v : Value α) : Device α → Prop
  | motor m => ∃ x, v = .scalar x ∧ m.Halted x
  | switch s => ∃ dest, v = .state (dest.getD undefinedState) ∧ s.Halted since dest
  | _ => False

theorem busyAt_of_le (h : d.busyAt since = false) (ht : since ≤ now) : d.busyAt now = false := by
  cases d with
  | motor m => exact Motor.isMoving_of_le h ht
  | switch s => exact Switch.isSwitching_of_le h ht
  | standIn d => rfl
  | composite c => rfl

theorem NonStartStep.simulated (h : NonStartStep since d d') (hd : d.Simulated) : d'.Simulated := by
  cases h <;> exact hd

theorem NonStartStep.idle (h : NonStartStep since d d') (hidle : d.busyAt since = false) :
    d'.busyAt since = false := by
  cases h with
  | motor h => exact h.idle hidle
  | switch h => exact (h.halted ⟨hidle, rfl⟩).idle

theorem Halted.of_le (h : d.Halted since v) (ht : since ≤ now) : d.Halted now v := by
  cases d with
  | motor m => exact h
  | switch s =>
    obtain ⟨dest, hv, hs⟩ := h
    exact ⟨dest, hv, hs.of_le ht⟩
  | standIn d => cases h
  | composite c => cases h

theorem NonStartStep.halted (h : NonStartStep since d d') (hv : d.Halted since v) :
    d'.Halted since v := by
  cases h with
  | motor h =>
    obtain ⟨x, rfl, hx⟩ := hv
    exact ⟨x, rfl, h.halted hx⟩
  | switch h =>
    obtain ⟨dest, rfl, hs⟩ := hv
    exact ⟨dest, rfl, h.halted hs⟩

theorem Halted.valueAt (h : d.Halted now v) : d.valueAt now = v := by
  cases d with
  | motor m =>
    obtain ⟨x, rfl, hx⟩ := h
    exact congrArg Value.scalar (hx.positionAt now)
  | switch s =>
    obtain ⟨dest, rfl, hs⟩ := h
    exact congrArg Value.state hs.readingAt
  | standIn d => cases h
  | composite c => cases h

end Device

namespace Lab

variable {lab lab' : Lab α} {i j : DeviceId} {d d' : Device α} {v : Value α} {pace : Pace}
  {depth : Nat}

/-- One step of a device, at the time of the clock or later, or any change of the clock, which does
not go back, and of the records. -/
inductive NonStartStep (lab : Lab α) : Lab α → Prop
  | device {i : DeviceId} {d d' : Device α} (hd : lab.device? i = some d)
      (h : d.NonStartStep lab.clock.now d') : NonStartStep lab (lab.put i d')
  | around {clock : Clock} (h : lab.clock.now ≤ clock.now) (calls : CallLog α)
      (events : List Event) : NonStartStep lab { lab with clock, calls, events }

/-- Any number of steps. -/
def NonStartRun (lab lab' : Lab α) : Prop := ReflTransGen NonStartStep lab lab'

theorem NonStartRun.length (h : lab.NonStartRun lab') :
    lab'.devices.length = lab.devices.length := by
  induction h with
  | refl => rfl
  | tail _ hstep ih =>
    cases hstep with
    | device hd h => exact List.length_set.trans ih
    | around h calls events => exact ih

/-- By induction on the run. -/
theorem NonStartRun.keeps {P : Nat → Device α → Prop}
    (hlasts : ∀ d t t', t ≤ t' → P t d → P t' d)
    (hkept : ∀ d d' t, d.NonStartStep t d' → P t d → P t d')
    (h : lab.NonStartRun lab') (hd : lab.device? j = some d) (hp : P lab.clock.now d) :
    ∃ d', lab'.device? j = some d' ∧ P lab'.clock.now d' := by
  induction h with
  | refl => exact ⟨d, hd, hp⟩
  | @tail mid _ _ hstep ih =>
    obtain ⟨e, he, hpe⟩ := ih
    cases hstep with
    | around h calls events => exact ⟨e, he, hlasts e _ _ h hpe⟩
    | @device i f f' hf hstep =>
      have hputs : mid.Puts i f' (mid.put i f') := rfl
      by_cases hij : j = i
      · subst hij
        obtain rfl : f = e := Option.some.inj (hf.symm.trans he)
        exact ⟨f', hputs.same hf, hkept f f' _ hstep hpe⟩
      · exact ⟨e, (hputs.other hij).trans he, hpe⟩

def Simulated (lab : Lab α) (j : DeviceId) : Prop := ∃ d, lab.device? j = some d ∧ d.Simulated

def Idle (lab : Lab α) (j : DeviceId) : Prop :=
  ∃ d, lab.device? j = some d ∧ d.busyAt lab.clock.now = false

def Halted (lab : Lab α) (j : DeviceId) (v : Value α) : Prop :=
  ∃ d, lab.device? j = some d ∧ d.Halted lab.clock.now v

theorem NonStartRun.simulated (h : lab.NonStartRun lab') (hs : lab.Simulated j) :
    lab'.Simulated j := by
  obtain ⟨d, hd, hsim⟩ := hs
  exact h.keeps (P := fun _ d => d.Simulated) (fun _ _ _ _ hd => hd)
    (fun _ _ _ hstep hd => hstep.simulated hd) hd hsim

theorem NonStartRun.motor {m : Motor α} (h : lab.NonStartRun lab')
    (hd : lab.device? j = some (.motor m)) :
    ∃ m', lab'.device? j = some (.motor m') := by
  obtain ⟨d, hd', m', rfl⟩ := h.keeps (P := fun _ d => ∃ m, d = .motor m)
    (fun _ _ _ _ hd => hd) (fun _ _ _ hstep hd => by
      obtain ⟨m, rfl⟩ := hd
      cases hstep with
      | @motor _ m' _ => exact ⟨m', rfl⟩) hd ⟨m, rfl⟩
  exact ⟨m', hd'⟩

theorem NonStartRun.switch {s : Switch α} (h : lab.NonStartRun lab')
    (hd : lab.device? j = some (.switch s)) : ∃ s', lab'.device? j = some (.switch s') := by
  obtain ⟨d, hd', s', rfl⟩ := h.keeps (P := fun _ d => ∃ s, d = .switch s)
    (fun _ _ _ _ hd => hd) (fun _ _ _ hstep hd => by
      obtain ⟨s, rfl⟩ := hd
      cases hstep with
      | @switch _ s' _ => exact ⟨s', rfl⟩) hd ⟨s, rfl⟩
  exact ⟨s', hd'⟩

theorem NonStartRun.idle (h : lab.NonStartRun lab') (hidle : lab.Idle j) : lab'.Idle j := by
  obtain ⟨d, hd, hb⟩ := hidle
  exact h.keeps (P := fun t d => d.busyAt t = false)
    (fun _ _ _ ht hp => Device.busyAt_of_le hp ht) (fun _ _ _ hstep hp => hstep.idle hp) hd hb

theorem NonStartRun.halted (h : lab.NonStartRun lab') (hhalted : lab.Halted j v) :
    lab'.Halted j v := by
  obtain ⟨d, hd, hv⟩ := hhalted
  exact h.keeps (P := fun t d => d.Halted t v)
    (fun _ _ _ ht hp => hp.of_le ht) (fun _ _ _ hstep hp => hstep.halted hp) hd hv

/-! ## Operations of the controls -/

theorem NonStartRun.of_devices (h : lab'.devices = lab.devices)
    (hclock : lab.clock.now ≤ lab'.clock.now) : lab.NonStartRun lab' := by
  have haround : lab' =
      { lab with clock := lab'.clock, calls := lab'.calls, events := lab'.events } := by
    rw [← h]
  rw [haround]
  exact .single (.around hclock _ _)

theorem NonStartRun.of_puts_self (hd : lab.device? i = some d) (hputs : lab.Puts i d lab')
    (hclock : lab.clock.now ≤ lab'.clock.now) : lab.NonStartRun lab' :=
  of_devices (hputs.trans (congrArg devices (put_self hd))) hclock

theorem NonStartRun.of_run {β : Type} {run : β × Lab α} {r : β} (hd : lab.device? i = some d)
    (hstep : d.NonStartStep lab.clock.now d') (h : ∃ lab', run = (r, lab') ∧ lab.Puts i d' lab')
    (hclock : lab.clock.now ≤ run.2.clock.now) : lab.NonStartRun run.2 := by
  obtain ⟨lab', rfl, hputs⟩ := h
  have hput : lab.NonStartRun (lab.put i d') := .single (.device hd hstep)
  have hnext : (lab.put i d').NonStartRun lab' := of_devices hputs hclock
  exact hput.trans hnext

theorem le_callTime (lab : Lab α) (pace : Pace) : lab.clock.now ≤ lab.callTime pace :=
  Clock.now_le_pass pace 0 lab.clock

theorem read_nonStartRun (h : (controlsTo pace depth).NonStartsWithin (NonStartStep (α := α)))
    (i : DeviceId) (maxAge : Nat) (lab : Lab α) :
    lab.NonStartRun ((controlsTo pace (depth + 1)).read i maxAge lab).2 := by
  have hcall := le_callTime lab pace
  cases hd : lab.device? i with
  | none =>
    simp only [controlsTo, hd]
    exact .refl
  | some d =>
    cases d with
    | motor m =>
      refine .of_run hd (.motor (.read hcall maxAge)) (read_motor pace depth hd maxAge) ?_
      simp only [controlsTo, hd]
      exact hcall
    | switch s =>
      refine .of_run hd (.switch (.read hcall)) (read_switch pace depth hd maxAge) ?_
      simp only [controlsTo, hd]
      exact hcall
    | standIn d =>
      simp only [controlsTo, hd]
      exact .of_puts_self hd rfl hcall
    | composite c =>
      rw [read_composite hd]
      exact Composite.read_within h maxAge lab

theorem motorStop_clock (pace : Pace) (i : DeviceId) (m : Motor α) (lab : Lab α) :
    (motorStop pace i m lab).2.clock = (lab.tick pace).clock := by
  unfold motorStop
  rw [Action.bind_ok _ (call_apply lab pace m.name .stop none)]
  rcases hr : Motor.stop (lab.callTime pace) m with ⟨e | at?, m'⟩
  · rw [Action.bind_error _ (onMotor_apply hr i _)]
    rfl
  · rw [Action.bind_ok _ (onMotor_apply hr i _)]
    cases at? <;> rfl

theorem stop_nonStartRun (h : (controlsTo pace depth).NonStartsWithin (NonStartStep (α := α)))
    (i : DeviceId) (lab : Lab α) :
    lab.NonStartRun ((controlsTo pace (depth + 1)).stop i lab).2 := by
  have hcall := le_callTime lab pace
  cases hd : lab.device? i with
  | none =>
    simp only [controlsTo, hd]
    exact .refl
  | some d =>
    cases d with
    | motor m =>
      refine .of_run hd (.motor (.stop hcall)) (stop_motor pace depth hd) ?_
      simp only [controlsTo, hd]
      rw [motorStop_clock]
      exact hcall
    | switch s =>
      refine .of_run hd (.switch .stop) (stop_switch pace depth hd) ?_
      simp only [controlsTo, hd]
      exact hcall
    | standIn d =>
      simp only [controlsTo, hd]
      exact .of_puts_self hd rfl hcall
    | composite c =>
      simp only [controlsTo, hd]
      exact Composite.stop_within h lab

theorem motorWait_clock (pace : Pace) (i : DeviceId) (m : Motor α) (lab : Lab α) :
    (motorWait pace i m lab).2.clock = (Motor.wait pace (m, (lab.tick pace).clock)).2.2 := rfl

theorem switchWait_clock (pace : Pace) (i : DeviceId) (s : Switch α) (lab : Lab α) :
    (switchWait pace i s lab).2.clock = (Switch.wait pace (s, (lab.tick pace).clock)).2.2 := rfl

theorem wait_nonStartRun (h : (controlsTo pace depth).NonStartsWithin (NonStartStep (α := α)))
    (i : DeviceId) (lab : Lab α) :
    lab.NonStartRun ((controlsTo pace (depth + 1)).wait i lab).2 := by
  have hcall := le_callTime lab pace
  cases hd : lab.device? i with
  | none =>
    simp only [controlsTo, hd]
    exact .refl
  | some d =>
    cases d with
    | motor m =>
      refine .of_run hd (.motor (.wait pace hcall)) (wait_motor pace depth hd) ?_
      simp only [controlsTo, hd]
      rw [motorWait_clock]
      exact Nat.le_trans hcall (Motor.now_le_wait pace m (lab.tick pace).clock)
    | switch s =>
      refine .of_run hd (.switch (.wait pace hcall)) (wait_switch pace depth hd) ?_
      simp only [controlsTo, hd]
      rw [switchWait_clock]
      exact Nat.le_trans hcall (Switch.now_le_wait pace s (lab.tick pace).clock)
    | standIn d =>
      simp only [controlsTo, hd]
      exact .of_puts_self hd rfl hcall
    | composite c =>
      rw [wait_composite hd]
      exact Composite.wait_within h lab

theorem status_nonStartRun (h : (controlsTo pace depth).NonStartsWithin (NonStartStep (α := α)))
    (i : DeviceId) (maxAge : Nat) (lab : Lab α) :
    lab.NonStartRun ((controlsTo pace (depth + 1)).status i maxAge lab).2 := by
  have hcall := le_callTime lab pace
  cases hd : lab.device? i with
  | none =>
    simp only [controlsTo, hd]
    exact .refl
  | some d =>
    cases d with
    | motor m =>
      refine .of_run hd (.motor (.pass hcall)) (status_motor pace depth hd maxAge) ?_
      simp only [controlsTo, hd]
      exact hcall
    | switch s =>
      refine .of_run hd (.switch (.pass hcall)) (status_switch pace depth hd maxAge) ?_
      simp only [controlsTo, hd]
      exact hcall
    | standIn d =>
      simp only [controlsTo, hd]
      exact .of_devices rfl hcall
    | composite c =>
      rw [status_composite hd]
      exact Composite.status_within h maxAge lab

theorem noted_nonStartRun (e : Event) (lab : Lab α) : lab.NonStartRun (lab.noted e) :=
  .of_devices rfl (Nat.le_refl _)

/-- By induction on `depth`: a composite operates the devices attached to it through the controls of
the depth below. -/
theorem controlsTo_nonStartsWithin (pace : Pace) (depth : Nat) :
    (controlsTo pace depth).NonStartsWithin (NonStartStep (α := α)) := by
  induction depth with
  | zero =>
    exact ⟨fun _ _ _ => .refl, fun _ _ => .refl, fun _ _ => .refl, fun _ _ _ => .refl,
      noted_nonStartRun⟩
  | succ depth ih =>
    exact ⟨read_nonStartRun ih, stop_nonStartRun ih, wait_nonStartRun ih, status_nonStartRun ih,
      noted_nonStartRun⟩

/-! ## Answers of devices at rest -/

/-- A sticky fault is reported as an error, which is not busy either. -/
theorem status_simulated (pace : Pace) (depth maxAge : Nat) (hsim : lab.Simulated i)
    (hidle : lab.Idle i) :
    ((controlsTo pace (depth + 1)).status i maxAge lab).1.isBusy = false := by
  have hcall := le_callTime lab pace
  obtain ⟨d, hd, hsim⟩ := hsim
  obtain ⟨d', hd', hbusy⟩ := hidle
  obtain rfl : d = d' := Option.some.inj (hd.symm.trans hd')
  have hlater := Device.busyAt_of_le hbusy hcall
  cases d with
  | motor m =>
    obtain ⟨lab', hrun, -⟩ := status_motor pace depth hd maxAge
    rw [hrun, Motor.status, show m.isMoving (lab.callTime pace) = false from hlater]
    cases m.faults.fault m.name <;> rfl
  | switch s =>
    obtain ⟨lab', hrun, -⟩ := status_switch pace depth hd maxAge
    rw [hrun, Switch.status, show s.isSwitching (lab.callTime pace) = false from hlater]
    cases s.faults.fault s.name with
    | some e => rfl
    | none => cases s.currentAt (lab.callTime pace) <;> rfl
  | standIn d => cases hsim
  | composite c => cases hsim

theorem Halted.read_ok (h : lab.Halted j v) {maxAge : Nat} {w : Value α}
    (hread : ((controlsTo pace (depth + 1)).read j maxAge lab).1 = .ok w) : w = v := by
  obtain ⟨d, hd, hv⟩ := h
  cases d with
  | motor m =>
    obtain ⟨x, rfl, hx⟩ := hv
    obtain ⟨lab', hrun, -⟩ := read_motor pace depth hd maxAge
    rw [hrun] at hread
    exact hx.read_ok hread
  | switch s =>
    obtain ⟨dest, rfl, hs⟩ := hv
    obtain ⟨lab', hrun, -⟩ := read_switch pace depth hd maxAge
    rw [hrun] at hread
    exact (hs.of_le (le_callTime lab pace)).read_ok hread
  | standIn d => cases hv
  | composite c => cases hv

end Lab
end Beamline
