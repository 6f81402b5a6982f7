import Beamline.Proofs.Travelling

/-!
What `start` leaves of the motor, in every state and for every value. Proved here:

* `start_ends`: a start is refused, panics because `travelTime` is none, or departs (`StartEnds`);
* `start_leaves`: one that is refused changes only the faults, and one that succeeds sets the target
  and empties the cache;
* `endless_start_stores_target`: one that panics has stored the target.
-/

namespace Beamline.Motor

variable {α : Type} {m : Motor α} {now : Nat} {x : α}

/-- Target, position, motion and cache are the same. -/
structure Untouched (m m' : Motor α) : Prop where
  target : m'.target = m.target
  position : m'.position = m.position
  motion : m'.motion = m.motion
  cache : m'.cache = m.cache

theorem advance_eq_self_iff : m.advance now = m ↔ ∀ k ∈ m.motion, k.isDone now = false := by
  unfold advance
  cases hk : m.motion with
  | none => simp
  | some k =>
    dsimp only
    split
    · rename_i hdone
      refine iff_of_false (fun h => ?_) (fun h => ?_)
      · have hmotion := congrArg Motor.motion h
        rw [hk] at hmotion
        cases hmotion
      · rw [h k rfl] at hdone
        cases hdone
    · rename_i hdone
      simpa using hdone

theorem advance_withFaults (m : Motor α) (f : Faults α) (now : Nat) :
    ({ m with faults := f } : Motor α).advance now = { m.advance now with faults := f } := by
  unfold advance
  dsimp only
  split
  · split <;> rfl
  · rfl

/-- The motor after a start that panics is `Untouched` only if it had that target already and its
move was not done. -/
theorem untouched_endless_iff (f : Faults α) :
    m.Untouched { m.advance now with faults := f, target := some x } ↔
      m.target = some x ∧ ∀ k ∈ m.motion, k.isDone now = false := by
  rw [← advance_eq_self_iff]
  constructor
  · rintro ⟨htarget, -, hmotion, -⟩
    refine ⟨htarget.symm, ?_⟩
    rcases m.advance_cases now with hn | ⟨k, hk, -, hn⟩
    · exact hn
    · rw [hn, hk] at hmotion
      cases hmotion
  · rintro ⟨htarget, hadvance⟩
    rw [hadvance]
    exact ⟨htarget.symm, rfl, rfl, rfl⟩

variable [Scalar α]

/-- The three ways in which `start` ends, each with its result and the motor that it leaves. -/
inductive StartEnds (m : Motor α) (now : Nat) (target : Value α) :
    Except (DeviceError α) α × Motor α → Prop
  | refused {e : DeviceError α} (f : Faults α) (he : ∀ name, e ≠ .endlessTravel name) :
      StartEnds m now target (.error e, { m with faults := f })
  | endless {x : α} (f : Faults α) (hx : target = .scalar x) (hadmits : m.Admits x)
      (htravel : m.travelTime (x - m.positionAt now) = none) :
      StartEnds m now target (.error (.endlessTravel m.name),
        { m.advance now with faults := f, target := some x })
  | departed {x : α} {travel : Nat} (f : Faults α) (hx : target = .scalar x)
      (hadmits : m.Admits x) (htravel : m.travelTime (x - m.positionAt now) = some travel) :
      StartEnds m now target
        (.ok (m.positionAt now), ({ m with faults := f } : Motor α).departed now x travel)

theorem guard_ne_endless {operation : Operation} {e : DeviceError α} {g : Motor α}
    (h : guard operation m = (.error e, g)) (name : String) : e ≠ .endlessTravel name := by
  unfold guard at h
  split at h <;> cases h
  simp

theorem start_ends (m : Motor α) (now : Nat) (target : Value α) :
    StartEnds m now target (start now target m) := by
  obtain ⟨f, hpass | ⟨e, hfail⟩⟩ := guard_cases .start m
  · rw [start_of_guard hpass]
    cases hx : ({ m with faults := f } : Motor α).checkedTarget target with
    | error e =>
      refine .refused f fun name he => ?_
      rw [he] at hx
      exact checkedTarget_ne_endless _ target name hx
    | ok x =>
      obtain ⟨htarget, hadmits⟩ := admits_of_checkedTarget hx
      have hadmits' : m.Admits x := hadmits
      dsimp only
      cases htravel : m.travelTime (x - m.positionAt now) with
      | none =>
        rw [depart_endless (m := { m with faults := f }) htravel, advance_withFaults]
        exact .endless f htarget hadmits' htravel
      | some travel =>
        rw [depart_travels (m := { m with faults := f }) htravel]
        exact .departed f htarget hadmits' htravel
  · rw [start_refused hfail]
    exact .refused f (guard_ne_endless hfail)

theorem departed_target (m : Motor α) (now : Nat) (x : α) (travel : Nat) :
    (m.departed now x travel).target = some x ∧ (m.departed now x travel).cache = .empty := by
  unfold departed
  split <;> exact ⟨rfl, rfl⟩

/-- **Starts that fail.** For every motor, time and target: a start that fails without a panic
changes the faults at most. A start that panics is one to an admitted target for which `travelTime`
is none; it leaves the motor advanced to `now` with the target stored, so that it is `Untouched` if
and only if that was its target and no finished move was pending. A start that succeeds is one to an
admitted target, stores it and empties the cache. -/
theorem start_leaves (m : Motor α) (now : Nat) (target : Value α) :
    let run := start now target m
    (∀ e, run.1 = .error e → (∀ name, e ≠ .endlessTravel name) →
      m.Untouched run.2 ∧ run.2 = { m with faults := run.2.faults }) ∧
    (∀ name, run.1 = .error (.endlessTravel name) → ∃ x, target = .scalar x ∧ m.Admits x ∧
      m.travelTime (x - m.positionAt now) = none ∧
      run.2 = { m.advance now with faults := run.2.faults, target := some x } ∧
      (m.Untouched run.2 ↔ m.target = some x ∧ ∀ k ∈ m.motion, k.isDone now = false)) ∧
    ∀ p, run.1 = .ok p → ∃ x, target = .scalar x ∧ m.Admits x ∧
      run.2.target = some x ∧ run.2.cache = .empty := by
  intro run
  have hends : StartEnds m now target run := start_ends m now target
  generalize run = r at hends
  cases hends with
  | @refused e f he =>
    refine ⟨fun _ _ _ => ⟨⟨rfl, rfl, rfl, rfl⟩, rfl⟩, ?_, fun _ hp => (by cases hp)⟩
    intro name hname
    exact absurd (Except.error.inj hname) (he name)
  | @endless x f hx hadmits htravel =>
    refine ⟨?_, fun _ _ => ⟨x, hx, hadmits, htravel, rfl, untouched_endless_iff f⟩,
      fun _ hp => (by cases hp)⟩
    intro e he hne
    exact absurd (Except.error.inj he).symm (hne m.name)
  | @departed x travel f hx hadmits htravel =>
    refine ⟨fun _ he => (by cases he), fun _ he => (by cases he), fun _ _ => ?_⟩
    exact ⟨x, hx, hadmits, departed_target _ now x travel⟩

/-- An axis under way from 0 to 10, the end of its range, with a cached reading. -/
def rangeBound : Motor Float :=
  { (Motor.make "mtz" : Motor Float) with
    limits := some ⟨0, 10⟩
    pacing := .realistic
    target := some 10
    motion := some ⟨0, 10, 0, ofMs 2000, ofMs 50⟩
    cache := .put 5 (ofMs 1000) }

/-- A start beyond the limit fails, and `rangeBound` is `Untouched`. -/
theorem start_leaves_range_bound :
    let run := start (ofMs 1001) (.scalar 11) rangeBound
    run.1 = .error (.limits "mtz" 11 ⟨0, 10⟩) ∧ rangeBound.Untouched run.2 := by
  intro run
  have hrun : run.1 = .error (.limits "mtz" 11 ⟨0, 10⟩) := by decide
  obtain ⟨hrefused, -, -⟩ := start_leaves rangeBound (ofMs 1001) (.scalar 11)
  exact ⟨hrun, (hrefused _ hrun (by simp)).1⟩

/-- A realistic motor without limits. -/
def boundless : Motor Float := { (Motor.make "m" : Motor Float) with pacing := .realistic }

/-- The start to 1e300 panics, and the target is 1e300 although nothing moves. -/
theorem endless_start_stores_target :
    let run := start 0 (.scalar 1e300) boundless
    run.1 = .error (.endlessTravel "m") ∧ boundless.target = none ∧
      run.2.target = some 1e300 ∧ run.2.isMoving 0 = false ∧ ¬ boundless.Untouched run.2 := by
  intro run
  have htarget : run.2.target = some 1e300 := by decide +kernel
  refine ⟨by decide +kernel, rfl, htarget, by decide +kernel, fun h => ?_⟩
  have hsame : run.2.target = none := h.target
  rw [htarget] at hsame
  cases hsame

end Beamline.Motor
