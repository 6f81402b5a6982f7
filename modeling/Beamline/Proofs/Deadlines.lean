import Beamline.Proofs.Elapsing
import Beamline.Proofs.Outcomes
import Mathlib.Algebra.Order.Floor.Div

/-!
The results of `Motor.wait` and `Switch.wait`, for every `Pace` and without faults. Proved here:

* `Clock.await_naps_le`: polling takes at most `timeout ⌈/⌉ pollInterval` naps;
* `waitEnds_of_await`: what holds of a wait that ends (`WaitEnds`), for motors and switches alike;
* `WaitEnds.in_time`: a wait is `.ok ()` for a device that is idle one look before the deadline;
* `waits_end`: a wait for a motor panics if and only if its move `isEndless`, and all other waits
  end as `WaitEnds` says;
* `wait_panics_and_overlooks`: a wait can panic, and it can time out on a device that is idle, if
  the deadline is between the two looks of a poll.
-/

namespace Beamline

/-! ## Polling -/

namespace Clock

/-- Each nap takes `pollInterval` off the time up to the deadline, or all that is left of it. -/
theorem await_naps_le (pace : Pace) (busy : Nat → Bool) (deadline : Nat) (c : Clock) :
    (c.await pace busy deadline).2.naps ≤ c.naps + (deadline - c.now) ⌈/⌉ pollInterval := by
  fun_induction await pace busy deadline c with
  | case1 c hbusy hdeadline => exact Nat.le_add_right c.naps _
  | case2 c hbusy hdeadline ih =>
    rw [Nat.ceilDiv_eq_add_pred_div] at ih ⊢
    simp only [look, nap, pass, pollInterval, ofMs] at ih hdeadline ⊢
    omega
  | case3 c hbusy => exact Nat.le_add_right _ _

end Clock

/-! ## Waiting for a device -/

section

variable {δ α : Type} {busy : δ → Nat → Bool} {advance : δ → Nat → δ} {timeout : Nat}
  {d : δ} {pace : Pace} {clock clock' : Clock} {idle : Bool}
  {run : Except (DeviceError α) Unit × δ × Clock}

/-- How a wait for `d` from `clock` on ends, with `busy` for `isMoving` or `isSwitching`, and `late`
for the error of the timeout. -/
structure WaitEnds (pace : Pace) (busy : δ → Nat → Bool) (timeout : Nat) (late : DeviceError α)
    (d : δ) (clock : Clock) (run : Except (DeviceError α) Unit × δ × Clock) : Prop where
  naps : run.2.2.naps ≤ clock.naps + timeout ⌈/⌉ pollInterval
  idle : run.1 = .ok () → busy run.2.1 run.2.2.now = false
  /-- `seen` is the clock at the last evaluation of `busy`. -/
  in_vain : ∀ e, run.1 = .error e → e = late ∧ clock.now + timeout ≤ run.2.2.now ∧ run.2.1 = d ∧
    ∃ seen : Clock, clock.now ≤ seen.now ∧ busy d seen.now = true ∧ run.2.2 = seen.look pace

/-- `advance` does not change `busy` at the time to which it advances. -/
theorem waitEnds_of_await (late : DeviceError α)
    (hsame : ∀ now, busy (advance d now) now = busy d now)
    (hawait : (clock.look pace).await pace (busy d) (clock.now + timeout) = (idle, clock')) :
    WaitEnds pace busy timeout late d clock
      (if idle then (.ok (), advance d clock'.now, clock') else (.error late, d, clock')) := by
  have hlook := clock.now_le_look pace
  have hnaps : clock'.naps ≤ clock.naps + timeout ⌈/⌉ pollInterval := by
    have hle := Clock.await_naps_le pace (busy d) (clock.now + timeout) (clock.look pace)
    rw [hawait] at hle
    refine Nat.le_trans hle (Nat.add_le_add_left ?_ clock.naps)
    rw [Nat.ceilDiv_eq_add_pred_div, Nat.ceilDiv_eq_add_pred_div]
    exact Nat.div_le_div_right (by omega)
  cases idle with
  | true =>
    refine ⟨hnaps, fun _ => ?_, fun e he => (by cases he)⟩
    have hidle := Clock.await_idle (congrArg Prod.fst hawait)
    rw [hawait] at hidle
    exact (hsame clock'.now).trans hidle
  | false =>
    refine ⟨hnaps, fun hok => (by cases hok), fun e he => ?_⟩
    obtain ⟨seen, hseen, hbusy, hdeadline, hlast⟩ := Clock.await_late (congrArg Prod.fst hawait)
    rw [hawait] at hlast
    obtain rfl : clock' = seen.look pace := hlast
    exact ⟨(Except.error.inj he).symm, hdeadline, rfl, seen, Nat.le_trans hlook hseen, hbusy, rfl⟩

/-- `busy` is false whenever the deadline is at most a look away. -/
theorem WaitEnds.in_time (h : WaitEnds pace busy timeout late d clock run)
    (hover : ∀ n now, clock.now + timeout ≤ now + pace.look n → busy d now = false) :
    run.1 = .ok () := by
  cases hresult : run.1 with
  | ok u => rfl
  | error e =>
    obtain ⟨-, hlate, -, seen, -, hbusy, hlast⟩ := h.in_vain e hresult
    rw [hlast] at hlate
    rw [hover seen.beats seen.now hlate] at hbusy
    cases hbusy

end

variable {α : Type}

/-! ## Motors -/

/-- The time when travel and settling are over. -/
def Motion.finish (k : Motion α) : Nat := k.started + k.travel + k.settling

namespace Motor

variable {m : Motor α} {now : Nat}

/-- The motion, if there is one, is over at `now`. -/
def RestsBy (m : Motor α) (now : Nat) : Prop := ∀ k ∈ m.motion, k.finish ≤ now

theorem isEndless_eq_false_iff :
    m.isEndless = false ↔ ∀ k ∈ m.motion, k.isEndless = false := by
  cases hmotion : m.motion <;> simp [isEndless, hmotion]

theorem RestsBy.isMoving (h : m.RestsBy now) (hends : m.isEndless = false) :
    m.isMoving now = false := by
  unfold Motor.isMoving
  split
  · rename_i k hk
    have hfinish := h k hk
    simp only [Motion.finish] at hfinish
    rw [Motion.isDone_iff.mpr ⟨isEndless_eq_false_iff.mp hends k hk, by omega⟩]
    rfl
  · rfl

variable [Scalar α]

theorem wait_endless (hquiet : m.faults.Quiet) (hendless : m.isEndless = true) (pace : Pace)
    (clock : Clock) : wait pace (m, clock) = (.error (.endlessTravel m.name), m, clock) := by
  rw [wait_of_guard pace clock (guard_of_quiet hquiet .wait), if_pos hendless]

theorem wait_ends (hquiet : m.faults.Quiet) (hends : m.isEndless = false) (pace : Pace)
    (clock : Clock) :
    WaitEnds pace isMoving m.timing.waitTimeout
      (.driver ⟨m.name, .stillMoving m.timing.waitTimeoutMs⟩) m clock (wait pace (m, clock)) := by
  rw [wait_of_guard pace clock (guard_of_quiet hquiet .wait),
    if_neg (Bool.not_eq_true _ ▸ hends)]
  rcases hawait : m.awaited pace clock with ⟨idle, clock'⟩
  have hrun := waitEnds_of_await
    (.driver ⟨m.name, .stillMoving m.timing.waitTimeoutMs⟩ : DeviceError α)
    (fun now => isMoving_advance m (Nat.le_refl now)) hawait
  cases idle <;> exact hrun

theorem wait_panics_iff (hquiet : m.faults.Quiet) (pace : Pace) (clock : Clock) :
    (wait pace (m, clock)).1 = .error (.endlessTravel m.name) ↔ m.isEndless = true := by
  refine ⟨fun hpanics => ?_, fun hendless => ?_⟩
  · by_contra hends
    have hwait := wait_ends hquiet (Bool.not_eq_true _ ▸ hends) pace clock
    have hlate := hwait.in_vain _ hpanics
    cases hlate.1
  · rw [wait_endless hquiet hendless]

theorem wait_in_time (hquiet : m.faults.Quiet) (hends : m.isEndless = false) (pace : Pace)
    (clock : Clock) (h : ∀ n, m.RestsBy (clock.now + m.timing.waitTimeout - pace.look n)) :
    (wait pace (m, clock)).1 = .ok () :=
  (wait_ends hquiet hends pace clock).in_time fun n now hnow =>
    isMoving_of_le ((h n).isMoving hends) (by omega)

end Motor

/-! ## Switches -/

namespace Switch

variable {s : Switch α} {now : Nat}

def RestsBy (s : Switch α) (now : Nat) : Prop := ∀ p ∈ s.pending, p.2 ≤ now

theorem RestsBy.isSwitching (h : s.RestsBy now) : s.isSwitching now = false := by
  unfold Switch.isSwitching
  split
  · rename_i state done hp
    exact decide_eq_false (Nat.not_lt_of_le (h _ hp))
  · rfl

variable [Scalar α]

theorem wait_ends (hquiet : s.faults.Quiet) (pace : Pace) (clock : Clock) :
    WaitEnds pace isSwitching s.timing.waitTimeout (.driver ⟨s.name, .notSwitched⟩) s clock
      (wait pace (s, clock)) := by
  rw [wait_of_guard pace clock (guard_of_quiet hquiet .wait)]
  rcases hawait : s.awaited pace clock with ⟨idle, clock'⟩
  have hrun := waitEnds_of_await (.driver ⟨s.name, .notSwitched⟩ : DeviceError α)
    (fun now => isSwitching_advance s (Nat.le_refl now)) hawait
  cases idle <;> exact hrun

theorem wait_in_time (hquiet : s.faults.Quiet) (pace : Pace) (clock : Clock)
    (h : ∀ n, s.RestsBy (clock.now + s.timing.waitTimeout - pace.look n)) :
    (wait pace (s, clock)).1 = .ok () :=
  (wait_ends hquiet pace clock).in_time fun n now hnow =>
    isSwitching_of_le (h n).isSwitching (by omega)

end Switch

/-! ## The main result -/

variable [Scalar α]

/-- **Waits end.** Let a motor or a switch have no faults, at any `pace` and any `clock`. A wait for
a motor panics, and changes nothing, exactly if the move under way `isEndless`. Every other wait
`WaitEnds`: it naps no more than `timeout ⌈/⌉ pollInterval` times; if it is `.ok ()`, the device is
idle then; and if not, the error is the timeout, the clock is at the deadline or past it, the device
is as it was, and it was busy one look before. So the wait is `.ok ()` if the device `RestsBy` the
deadline, less what a look at the clock takes; and after a timeout a later wait can still be. -/
theorem waits_end (pace : Pace) (clock : Clock) :
    (∀ m : Motor α, m.faults.Quiet →
      let deadline := clock.now + m.timing.waitTimeout
      let run := Motor.wait pace (m, clock)
      (run.1 = .error (.endlessTravel m.name) ↔ m.isEndless = true) ∧
      (m.isEndless = true → run.2 = (m, clock)) ∧
      (m.isEndless = false →
        WaitEnds pace Motor.isMoving m.timing.waitTimeout
          (.driver ⟨m.name, .stillMoving m.timing.waitTimeoutMs⟩) m clock run ∧
        ((∀ n, m.RestsBy (deadline - pace.look n)) → run.1 = .ok ()) ∧
        ∀ e, run.1 = .error e → ∀ pace' later,
          (∀ n, m.RestsBy (later.now + m.timing.waitTimeout - pace'.look n)) →
          (Motor.wait pace' (run.2.1, later)).1 = .ok ())) ∧
    ∀ s : Switch α, s.faults.Quiet →
      let deadline := clock.now + s.timing.waitTimeout
      let run := Switch.wait pace (s, clock)
      WaitEnds pace Switch.isSwitching s.timing.waitTimeout (.driver ⟨s.name, .notSwitched⟩) s clock
        run ∧
      ((∀ n, s.RestsBy (deadline - pace.look n)) → run.1 = .ok ()) ∧
      ∀ e, run.1 = .error e → ∀ pace' later,
        (∀ n, s.RestsBy (later.now + s.timing.waitTimeout - pace'.look n)) →
        (Switch.wait pace' (run.2.1, later)).1 = .ok () := by
  refine ⟨fun m hquiet => ?_, fun s hquiet => ?_⟩
  · refine ⟨Motor.wait_panics_iff hquiet pace clock, fun hendless => ?_, fun hends => ?_⟩
    · rw [Motor.wait_endless hquiet hendless]
    · have hwait := Motor.wait_ends hquiet hends pace clock
      refine ⟨hwait, Motor.wait_in_time hquiet hends pace clock, fun e he pace' later hlater => ?_⟩
      rw [(hwait.in_vain e he).2.2.1]
      exact Motor.wait_in_time hquiet hends pace' later hlater
  · have hwait := Switch.wait_ends hquiet pace clock
    refine ⟨hwait, Switch.wait_in_time hquiet pace clock, fun e he pace' later hlater => ?_⟩
    rw [(hwait.in_vain e he).2.2.1]
    exact Switch.wait_in_time hquiet pace' later hlater

/-- Every nap takes 10 ms longer than `pollInterval`. -/
def drowsy : Pace := ⟨fun _ => 0, fun _ => ofMs 10⟩

/-- An axis that has settled at 45 ms, with a timeout of 30 ms. -/
def tardy : Motor Float :=
  { (Motor.make "a" : Motor Float) with
    timing := ⟨5, 0, 30⟩
    pacing := .realistic
    target := some 9
    motion := some ⟨0, 9, 0, ofMs 40, ofMs 5⟩ }

/-- A switch whose change is done at 30 ms, with a timeout of 30 ms. -/
def punctual : Switch Float :=
  { (Switch.make "x" ["a", "b"] none : Switch Float) with
    timing := ⟨0, 30, 30⟩, current := none, pending := some ("b", ofMs 30) }

theorem tardy_quiet : tardy.faults.Quiet := Faults.quiet_none

theorem punctual_quiet : punctual.faults.Quiet := Faults.quiet_none

theorem punctual_restsBy : punctual.RestsBy (ofMs 30) := by
  rintro p hp
  cases hp
  exact Nat.le_refl _

/-- The wait for `tardy` times out, and the next one is `.ok ()`. That for `punctual` is `.ok ()` at
the deadline. -/
theorem waits_end_tardy :
    let run := Motor.wait drowsy (tardy, .start)
    tardy.faults.Quiet ∧ tardy.isEndless = false ∧
      run.1 = .error (.driver ⟨"a", .stillMoving 30⟩) ∧ run.2.1 = tardy ∧
      tardy.RestsBy (run.2.2.now + ofMs 30) ∧ (Motor.wait drowsy run.2).1 = .ok () ∧
      punctual.faults.Quiet ∧ punctual.RestsBy (ofMs 30) ∧
      (Switch.wait drowsy (punctual, .start)).1 = .ok () := by
  intro run
  have hrun : run.1 = .error (.driver ⟨"a", .stillMoving 30⟩) := by decide +kernel
  have hnow : ofMs 30 ≤ run.2.2.now := by decide +kernel
  have hlater : tardy.RestsBy (run.2.2.now + ofMs 30) := by
    rintro k hk
    cases hk
    simp only [Motion.finish, ofMs] at hnow ⊢
    omega
  obtain ⟨hmotor, hswitch⟩ := waits_end (α := Float) drowsy .start
  obtain ⟨-, -, hends⟩ := hmotor tardy tardy_quiet
  obtain ⟨hwait, -, hagain⟩ := hends (by decide)
  obtain ⟨-, -, hsame, -⟩ := hwait.in_vain _ hrun
  obtain ⟨-, hin_time, -⟩ := hswitch punctual punctual_quiet
  exact ⟨tardy_quiet, by decide, hrun, hsame, hlater,
    hagain _ hrun drowsy run.2.2 fun _ => hlater, punctual_quiet, punctual_restsBy,
    hin_time fun _ => punctual_restsBy⟩

/-- An axis with a speed of 1 and a settling time of 50 minutes. -/
def lingering : Motor Float :=
  { (Motor.make "m" : Motor Float) with
    speed := 1, timing := ⟨3000000, 0, 0⟩, pacing := .realistic }

/-- Every look takes 1 ms, and every nap 7 ms longer than `pollInterval`. -/
def distracted : Pace := ⟨fun _ => ofMs 1, fun _ => ofMs 7⟩

/-- `lingering` accepts a start whose travel is a duration, while travel and settling together are
not; the wait for it panics. The wait for `punctual` evaluates `isSwitching` at 29 ms and the
deadline at 30 ms, and so times out, though at 30 ms the change is over. -/
theorem wait_panics_and_overlooks :
    let started := Motor.start 0 (.scalar 1.844674407370955e19) lingering
    let run := Switch.wait distracted (punctual, .start)
    lingering.faults.Quiet ∧ started.1 = .ok 0 ∧
      (Motor.wait .prompt (started.2, .start)).1 = .error (.endlessTravel "m") ∧
      punctual.faults.Quiet ∧ punctual.RestsBy (ofMs 30) ∧
      run.1 = .error (.driver ⟨"x", .notSwitched⟩) ∧ run.2.2.now = ofMs 30 ∧
      run.2.1.isSwitching run.2.2.now = false := by
  exact ⟨Faults.quiet_none, by decide, by decide, punctual_quiet, punctual_restsBy,
    by decide +kernel, by decide +kernel, by decide +kernel⟩

end Beamline
