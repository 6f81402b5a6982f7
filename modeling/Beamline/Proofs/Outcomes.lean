import Beamline.Proofs.Operating

/-!
The operations of a motor and of a switch, with any faults set. `guard operation` asks the faults
first and may change them. Proved here, for each operation: a `_refused` lemma, that it does nothing
else if `guard` fails, and an `_of_guard` lemma, what it does if `guard` succeeds. For the waits
also:

* `wait_advance`: a wait that `guard` lets pass advances the device to a time between the beginning
  and the end of the wait, which is the end of it if the wait is `.ok ()`;
* `now_le_wait`: the clock does not go back.
-/

namespace Beamline

/-- `await` evaluates `busy` only from `c.now` on. -/
theorem Clock.await_congr {pace : Pace} {busy busy' : Nat → Bool} {deadline : Nat} {c : Clock}
    (h : ∀ t, c.now ≤ t → busy t = busy' t) :
    c.await pace busy deadline = c.await pace busy' deadline := by
  fun_induction await pace busy deadline c with
  | case1 c hbusy hdeadline =>
    rw [h _ (Nat.le_refl _)] at hbusy
    rw [await, if_pos hbusy, if_pos hdeadline]
  | case2 c hbusy hdeadline ih =>
    have hlater : c.now ≤ ((c.look pace).nap pace).now :=
      Nat.le_trans (now_le_look pace c) (now_le_nap pace _)
    rw [h _ (Nat.le_refl _)] at hbusy
    rw [ih fun t ht => h t (Nat.le_trans hlater ht)]
    conv => rhs; rw [await, if_pos hbusy, if_neg hdeadline]
  | case3 c hbusy =>
    rw [h _ (Nat.le_refl _)] at hbusy
    rw [await, if_neg hbusy]

variable {α : Type} [Scalar α]

namespace Motor

variable {m g : Motor α} {now maxAge : Nat} {target : Value α} {e : DeviceError α}

theorem guard_cases (operation : Operation) (m : Motor α) :
    ∃ f, guard operation m = (.ok (), { m with faults := f }) ∨
      ∃ e, guard operation m = (.error e, { m with faults := f }) := by
  unfold guard
  rcases Faults.check m.name operation.name m.faults with ⟨e | u, f⟩
  · exact ⟨f, .inr ⟨.driver e, rfl⟩⟩
  · exact ⟨f, .inl rfl⟩

theorem read_of_guard (h : guard .read m = (.ok (), g)) :
    read now maxAge m = match g.cache.get? now maxAge with
      | some x => (.ok (.scalar x), g)
      | none => (.ok (.scalar (g.positionAt now)),
          { g.advance now with
            cache := .put (g.positionAt now) now, hardwareReads := g.hardwareReads + 1 }) := by
  unfold read
  rw [Action.bind_ok _ h, Action.bind_ok _ (rfl : Action.look g = _)]
  cases g.cache.get? now maxAge <;> rfl

theorem read_refused (h : guard .read m = (.error e, g)) : read now maxAge m = (.error e, g) :=
  Action.bind_error _ h

theorem start_of_guard (h : guard .start m = (.ok (), g)) :
    start now target m = match g.checkedTarget target with
      | .error e => (.error e, g)
      | .ok x => depart now x g := by
  unfold start
  rw [Action.bind_ok _ h, Action.bind_ok _ (rfl : Action.look g = _)]
  cases hx : g.checkedTarget target with
  | error e => exact Action.bind_error _ rfl
  | ok x => exact Action.bind_ok _ rfl

theorem start_refused (h : guard .start m = (.error e, g)) : start now target m = (.error e, g) :=
  Action.bind_error _ h

theorem stop_of_guard (h : guard .stop m = (.ok (), g)) :
    stop now m = (.ok (if g.isMoving now then some (g.positionAt now) else none),
      { g with position := g.positionAt now, motion := none, cache := .empty }) := by
  unfold stop
  rw [Action.bind_ok _ h]
  rfl

theorem stop_refused (h : guard .stop m = (.error e, g)) : stop now m = (.error e, g) :=
  Action.bind_error _ h

theorem name_advance (m : Motor α) (now : Nat) : (m.advance now).name = m.name := by
  have h : (m.advance now).fixed.name = m.fixed.name := by rw [fixed_advance]
  exact h

theorem pacing_advance (m : Motor α) (now : Nat) : (m.advance now).pacing = m.pacing :=
  pacing_of_fixed (fixed_advance m now)

theorem timing_advance (m : Motor α) (now : Nat) : (m.advance now).timing = m.timing := by
  have h : (m.advance now).fixed.timing = m.fixed.timing := by rw [fixed_advance]
  exact h

/-- The result of the polling loop of `wait`: whether the axis was found at rest, and the clock
then. -/
def awaited (m : Motor α) (pace : Pace) (clock : Clock) : Bool × Clock :=
  (clock.look pace).await pace m.isMoving (clock.now + m.timing.waitTimeout)

omit [Scalar α] in
theorem now_le_awaited (m : Motor α) (pace : Pace) (clock : Clock) :
    clock.now ≤ (m.awaited pace clock).2.now :=
  Nat.le_trans (clock.now_le_look pace) (Clock.now_le_await ..)

omit [Scalar α] in
theorem idle_of_awaited {pace : Pace} {clock clock' : Clock}
    (h : m.awaited pace clock = (true, clock')) : m.isMoving clock'.now = false := by
  have hidle := Clock.await_idle (congrArg Prod.fst h)
  rwa [show (clock.look pace).await pace m.isMoving _ = _ from h] at hidle

omit [Scalar α] in
theorem isMoving_of_isEndless (h : m.isEndless = true) (now : Nat) : m.isMoving now = true := by
  cases hk : m.motion with
  | none => simp [isEndless, hk] at h
  | some k =>
    have hendless : k.isEndless = true := by simpa [isEndless, hk] using h
    simp only [isMoving, hk, Motion.isDone, hendless, Bool.not_true, Bool.false_and, Bool.not_false]

omit [Scalar α] in
theorem advance_of_isMoving (h : m.isMoving now = true) : m.advance now = m := by
  cases hk : m.motion with
  | none => simp only [advance, hk]
  | some k =>
    have hbusy : k.isDone now = false := by simpa [isMoving, hk] using h
    simp only [advance, hk, hbusy, Bool.false_eq_true, if_false]

theorem wait_of_guard (pace : Pace) (clock : Clock) (h : guard .wait m = (.ok (), g)) :
    wait pace (m, clock) = if g.isEndless then (.error (.endlessTravel g.name), g, clock)
      else g.afterWait (g.awaited pace clock) := by
  simp only [wait, h, awaited]

theorem wait_refused {pace : Pace} {clock : Clock} (h : guard .wait m = (.error e, g)) :
    wait pace (m, clock) = (.error e, g, clock) := by
  simp only [wait, h]

omit [Scalar α] in
theorem clock_afterWait (m : Motor α) (x : Bool × Clock) : (m.afterWait x).2.2 = x.2 := by
  rcases x with ⟨_ | _, clock⟩ <;> rfl

theorem wait_advance (pace : Pace) (clock : Clock) (h : guard .wait m = (.ok (), g)) :
    let run := wait pace (m, clock)
    ∃ now, clock.now ≤ now ∧ now ≤ run.2.2.now ∧ run.2.1 = g.advance now ∧
      (run.1 = .ok () → now = run.2.2.now ∧ g.isMoving now = false) := by
  rw [wait_of_guard pace clock h]
  split
  · rename_i hendless
    exact ⟨clock.now, Nat.le_refl _, Nat.le_refl _,
      (advance_of_isMoving (isMoving_of_isEndless hendless clock.now)).symm, nofun⟩
  · have hle := now_le_awaited g pace clock
    rcases hawait : g.awaited pace clock with ⟨_ | _, clock'⟩
    · obtain ⟨seen, hseen, hbusy, -, hlast⟩ := Clock.await_late (congrArg Prod.fst hawait)
      have hclock : clock' = seen.look pace := (congrArg Prod.snd hawait).symm.trans hlast
      refine ⟨seen.now, Nat.le_trans (clock.now_le_look pace) hseen, ?_,
        (advance_of_isMoving hbusy).symm, nofun⟩
      rw [clock_afterWait, hclock]
      exact seen.now_le_look pace
    · rw [hawait] at hle
      exact ⟨clock'.now, hle, Nat.le_refl _, rfl, fun _ => ⟨rfl, idle_of_awaited hawait⟩⟩

theorem now_le_wait (pace : Pace) (m : Motor α) (clock : Clock) :
    clock.now ≤ (wait pace (m, clock)).2.2.now := by
  obtain ⟨f, hg | ⟨e, hg⟩⟩ := guard_cases .wait m
  · rw [wait_of_guard pace clock hg]
    split
    · exact Nat.le_refl _
    · rw [clock_afterWait]
      exact now_le_awaited _ pace clock
  · exact Nat.le_of_eq (congrArg (·.2.2.now) (wait_refused hg)).symm

end Motor

namespace Switch

variable {s g : Switch α} {now : Nat} {target : Value α} {e : DeviceError α}

theorem guard_cases (operation : Operation) (s : Switch α) :
    ∃ f, guard operation s = (.ok (), { s with faults := f }) ∨
      ∃ e, guard operation s = (.error e, { s with faults := f }) := by
  unfold guard
  rcases Faults.check s.name operation.name s.faults with ⟨e | u, f⟩
  · exact ⟨f, .inr ⟨.driver e, rfl⟩⟩
  · exact ⟨f, .inl rfl⟩

theorem read_of_guard (h : guard .read s = (.ok (), g)) :
    read now s = (.ok (.state ((g.advance now).readingAt now)), g.advance now) := by
  unfold read
  rw [Action.bind_ok _ h]
  rfl

theorem read_refused (h : guard .read s = (.error e, g)) : read now s = (.error e, g) :=
  Action.bind_error _ h

omit [Scalar α] in
theorem name_advance (s : Switch α) (now : Nat) : (s.advance now).name = s.name := by
  have h : (s.advance now).fixed.name = s.fixed.name := by rw [fixed_advance]
  exact h

/-- The result of the polling loop of `wait`: whether the change was found over, and the clock then.
-/
def awaited (s : Switch α) (pace : Pace) (clock : Clock) : Bool × Clock :=
  (clock.look pace).await pace s.isSwitching (clock.now + s.timing.waitTimeout)

omit [Scalar α] in
theorem now_le_awaited (s : Switch α) (pace : Pace) (clock : Clock) :
    clock.now ≤ (s.awaited pace clock).2.now :=
  Nat.le_trans (clock.now_le_look pace) (Clock.now_le_await ..)

omit [Scalar α] in
theorem idle_of_awaited {pace : Pace} {clock clock' : Clock}
    (h : s.awaited pace clock = (true, clock')) : s.isSwitching clock'.now = false := by
  have hidle := Clock.await_idle (congrArg Prod.fst h)
  rwa [show (clock.look pace).await pace s.isSwitching _ = _ from h] at hidle

omit [Scalar α] in
theorem advance_of_isSwitching (h : s.isSwitching now = true) : s.advance now = s := by
  cases hp : s.pending with
  | none => simp only [advance, hp]
  | some p =>
    have hbusy : now < p.2 := by simpa [isSwitching, hp] using h
    simp only [advance, hp]
    rw [if_neg (Nat.not_le_of_lt hbusy)]

theorem wait_of_guard (pace : Pace) (clock : Clock) (h : guard .wait s = (.ok (), g)) :
    wait pace (s, clock) = g.afterWait (g.awaited pace clock) := by
  simp only [wait, h, awaited]

theorem wait_refused {pace : Pace} {clock : Clock} (h : guard .wait s = (.error e, g)) :
    wait pace (s, clock) = (.error e, g, clock) := by
  simp only [wait, h]

omit [Scalar α] in
theorem clock_afterWait (s : Switch α) (x : Bool × Clock) : (s.afterWait x).2.2 = x.2 := by
  rcases x with ⟨_ | _, clock⟩ <;> rfl

theorem wait_advance (pace : Pace) (clock : Clock) (h : guard .wait s = (.ok (), g)) :
    let run := wait pace (s, clock)
    ∃ now, clock.now ≤ now ∧ now ≤ run.2.2.now ∧ run.2.1 = g.advance now ∧
      (run.1 = .ok () → now = run.2.2.now ∧ g.isSwitching now = false) := by
  rw [wait_of_guard pace clock h]
  have hle := now_le_awaited g pace clock
  rcases hawait : g.awaited pace clock with ⟨_ | _, clock'⟩
  · obtain ⟨seen, hseen, hbusy, -, hlast⟩ := Clock.await_late (congrArg Prod.fst hawait)
    have hclock : clock' = seen.look pace := (congrArg Prod.snd hawait).symm.trans hlast
    refine ⟨seen.now, Nat.le_trans (clock.now_le_look pace) hseen, ?_,
      (advance_of_isSwitching hbusy).symm, nofun⟩
    rw [clock_afterWait, hclock]
    exact seen.now_le_look pace
  · rw [hawait] at hle
    exact ⟨clock'.now, hle, Nat.le_refl _, rfl, fun _ => ⟨rfl, idle_of_awaited hawait⟩⟩

theorem now_le_wait (pace : Pace) (s : Switch α) (clock : Clock) :
    clock.now ≤ (wait pace (s, clock)).2.2.now := by
  obtain ⟨f, hg | ⟨e, hg⟩⟩ := guard_cases .wait s
  · rw [wait_of_guard pace clock hg, clock_afterWait]
    exact now_le_awaited _ pace clock
  · exact Nat.le_of_eq (congrArg (·.2.2.now) (wait_refused hg)).symm

end Switch

end Beamline
