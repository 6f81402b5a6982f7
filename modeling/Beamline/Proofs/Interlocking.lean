import Beamline.Lab
import Beamline.Proofs.Dispatch

/-!
A composite in master mode whose interlock cannot be read, or does not read the required state.
Proved here:

* `checkInterlock_refuses`, `read_refused`: its reading is the failure of the interlock
  (`lockFailure`), and only the interlock is asked;
* `moveTo_unplanned`, `moveTo_refused`: a move fails before anything is started, unless it is to
  `.null` with a gate;
* `moveTo_parks`: that one is a start of the gate, and the interlock is not asked;
* `interlock_holds` puts these together;
* `parking_passes_interlock`: a composite is parked with its interlock in the wrong state.
-/

namespace Beamline

variable {ι σ α : Type} [Scalar α]

namespace Composite

variable {c : Composite ι α} {k : Controls ι σ α} {w : Recorded ι σ α} {l : Interlock ι}

/-- The error for this answer of the interlock, whose name is `name`. -/
def lockFailure (c : Composite ι α) (l : Interlock ι) (name : String) :
    Except (DeviceError α) (Value α) → DeviceError α
  | .error e => e
  | .ok v => .invalidValue c.name (.interlock name v l.required)

/-- The error for the answer of the interlock in the world `s`. -/
def lockFailureAt (c : Composite ι α) (k : Controls ι σ α) (l : Interlock ι) (maxAge : Nat)
    (s : σ) : DeviceError α :=
  c.lockFailure l (k.name (k.read l.device maxAge s).2 l.device) (k.read l.device maxAge s).1

theorem checkInterlock_refuses (hl : c.interlock = some l) {maxAge : Nat}
    (hbad : (k.read l.device maxAge w.1).1 ≠ .ok (.state l.required)) :
    Asks (c.checkInterlock k.recorded maxAge) w
      [.read l.device maxAge (k.read l.device maxAge w.1).1]
      (.error (c.lockFailureAt k l maxAge w.1)) := by
  have hread := Asks.exchange (k.read l.device maxAge) (Exchange.read l.device maxAge) w
  unfold checkInterlock lockFailureAt
  rw [hl]
  cases hr : (k.read l.device maxAge w.1).1 with
  | error e =>
    rw [hr] at hread
    exact Asks.bind_error _ hread
  | ok v =>
    rw [hr] at hread hbad
    refine hread.before ?_
    rw [if_neg fun h => hbad (congrArg _ (Value.isState_iff.mp h))]
    exact (Asks.look _).after (Asks.fail _ _)

theorem read_refused (hmode : c.mode = .master) (hl : c.interlock = some l) {maxAge : Nat}
    (hbad : (k.read l.device maxAge w.1).1 ≠ .ok (.state l.required)) :
    Asks (c.read k.recorded maxAge) w [.read l.device maxAge (k.read l.device maxAge w.1).1]
      (.error (c.lockFailureAt k l maxAge w.1)) := by
  unfold read
  rw [hmode]
  exact Asks.bind_error _ (Asks.bind_error _ (checkInterlock_refuses hl hbad))

theorem dispatch_refused (hl : c.interlock = some l)
    (hbad : (k.read l.device fresh w.1).1 ≠ .ok (.state l.required)) {plan : Plan α} {x : α}
    (ht : plan.target = .scalar x) :
    Asks (c.dispatch k.recorded plan) w [.read l.device fresh (k.read l.device fresh w.1).1]
      (.error (c.lockFailureAt k l fresh w.1)) := by
  have hlock := checkInterlock_refuses hl hbad
  unfold dispatch
  rw [ht]
  cases c.gate with
  | none => exact Asks.bind_error _ hlock
  | some g => exact Asks.bind_error _ hlock

theorem moveTo_unplanned {target : Value α} {e : DeviceError α}
    (h : c.plan k w.1 target = .error e) :
    Asks (c.moveTo k.recorded target) w [] (.error e) := by
  unfold Asks
  rw [moveTo_of_plan_error (h ▸ plan_recorded c k w target)]
  exact ⟨rfl, (List.append_nil _).symm⟩

theorem moveTo_refused (hmode : c.mode = .master) (hl : c.interlock = some l)
    (hbad : (k.read l.device fresh w.1).1 ≠ .ok (.state l.required)) {target : Value α}
    (ht : target ≠ .null ∨ c.gate = none) :
    ∃ xs e, Asks (c.moveTo k.recorded target) w xs (.error e) ∧
      ((xs = [] ∧ c.plan k w.1 target = .error e) ∨
        xs = [.read l.device fresh (k.read l.device fresh w.1).1] ∧
          e = c.lockFailureAt k l fresh w.1) := by
  cases hplan : c.plan k w.1 target with
  | error e => exact ⟨[], e, moveTo_unplanned hplan, .inl ⟨rfl, rfl⟩⟩
  | ok plan =>
    cases target with
    | null =>
      obtain ⟨⟨g, hg⟩, -⟩ := plan_null_ok hplan
      rw [hg] at ht
      rcases ht with hnull | hnone
      · exact absurd rfl hnull
      · cases hnone
    | state name =>
      rw [plan_state] at hplan
      cases hplan
    | scalar x =>
      obtain ⟨-, -, -, -, -, htarget⟩ := plan_scalar_ok hplan
      refine ⟨_, _, ?_, .inr ⟨rfl, rfl⟩⟩
      unfold Asks
      rw [moveTo_of_plan_ok hmode (hplan ▸ plan_recorded c k w (.scalar x))]
      exact Asks.bind_error _ (dispatch_refused hl hbad htarget)

theorem moveTo_parks (hmode : c.mode = .master) {g : Gate ι} (hg : c.gate = some g) :
    ∃ r, Asks (c.moveTo k.recorded .null) w [.start g.device (.state g.parked) r]
      (r.map fun _ => c) := by
  obtain ⟨xs, r, hmoves, hasks⟩ := moveTo_asks (w := w) hmode (plan_null k w.1 hg)
  cases hmoves with
  | parked hg' =>
    obtain rfl := Option.some.inj (hg.symm.trans hg')
    exact ⟨r, hasks⟩

/-- **The interlock.** Let a composite in master mode have the interlock `l`. If a read of it is not
the required state, the composite reads as that failure at the same max age, and makes no other
exchange. If a fresh read is not the required state, a move fails without a start, for every target
but `.null` with a gate. With a gate a move to `.null` is one start of the gate, for the parked
state, and has its result, whatever the interlock reads. -/
theorem interlock_holds (c : Composite ι α) (k : Controls ι σ α) (w : Recorded ι σ α)
    (l : Interlock ι) (hmode : c.mode = .master) (hl : c.interlock = some l) :
    (∀ maxAge, (k.read l.device maxAge w.1).1 ≠ .ok (.state l.required) →
      Asks (c.read k.recorded maxAge) w [.read l.device maxAge (k.read l.device maxAge w.1).1]
        (.error (c.lockFailureAt k l maxAge w.1))) ∧
    ((k.read l.device fresh w.1).1 ≠ .ok (.state l.required) →
      ∀ target, target ≠ .null ∨ c.gate = none →
        ∃ xs e, Asks (c.moveTo k.recorded target) w xs (.error e) ∧ ∀ d v r, .start d v r ∉ xs) ∧
    ∀ g ∈ c.gate, ∃ r, Asks (c.moveTo k.recorded .null) w [.start g.device (.state g.parked) r]
      (r.map fun _ => c) := by
  refine ⟨fun maxAge hbad => read_refused hmode hl hbad, fun hbad target ht => ?_,
    fun g hg => moveTo_parks hmode hg⟩
  obtain ⟨xs, e, hasks, hxs⟩ := moveTo_refused hmode hl hbad ht
  refine ⟨xs, e, hasks, fun d v r => ?_⟩
  rcases hxs with ⟨rfl, -⟩ | ⟨rfl, -⟩ <;> simp

end Composite

/-! ## Example -/

namespace Lab

/-- The pair of axes, with an interlock that requires `Ge`. -/
def crystalPair : Composite DeviceId Float :=
  { Composite.pair 0 1 2 "out" Composite.in_ne_out with interlock := some ⟨3, "Ge"⟩ }

/-- The interlock reads `Cu`. -/
def wrongCrystal : Lab Float :=
  { empty with devices := [
    .switch (Switch.make "gate" ["in", "out"] none), .motor (Motor.make "a"),
    .motor (Motor.make "b"), .switch (Switch.make "crystal" ["Ge", "Cu"] (some "Cu")),
    .composite crystalPair] }

theorem interlock_holds_wrong_crystal :
    let k : Controls DeviceId (Lab Float) Float := controlsTo .prompt 4
    crystalPair.mode = .master ∧ crystalPair.interlock = some ⟨3, "Ge"⟩ ∧
      (k.read 3 fresh wrongCrystal).1 ≠ .ok (.state "Ge") ∧
      (crystalPair.read k.recorded fresh (wrongCrystal, [])).1 =
        .error (.invalidValue "pair" (.interlock "crystal" (.state "Cu") "Ge")) ∧
      (crystalPair.read k.recorded fresh (wrongCrystal, [])).2.2 =
        [.read 3 fresh (.ok (.state "Cu"))] ∧
      ∃ xs e, Asks (crystalPair.moveTo k.recorded (.scalar 2)) (wrongCrystal, []) xs (.error e) ∧
        ∀ d v r, .start d v r ∉ xs := by
  intro k
  have hread : (k.read 3 fresh wrongCrystal).1 = .ok (.state "Cu") := by decide
  have hbad : (k.read 3 fresh wrongCrystal).1 ≠ .ok (.state "Ge") := by simp [hread]
  obtain ⟨hreads, hmoves, -⟩ :=
    Composite.interlock_holds crystalPair k (wrongCrystal, []) ⟨3, "Ge"⟩ rfl rfl
  obtain ⟨hfails, hasked⟩ := hreads fresh hbad
  have hfailure : crystalPair.lockFailureAt k ⟨3, "Ge"⟩ fresh wrongCrystal =
      .invalidValue "pair" (.interlock "crystal" (.state "Cu") "Ge") := by decide
  rw [hfailure] at hfails
  rw [hread] at hasked
  exact ⟨rfl, rfl, hbad, hfails, hasked, hmoves hbad (.scalar 2) (.inl (by simp))⟩

/-- The gate is started for its parked state, with the interlock reading `Cu`. -/
theorem parking_passes_interlock :
    wrongCrystal.device? 4 = some (.composite crystalPair) ∧
      ((wrongCrystal.controls .prompt).read 3 fresh wrongCrystal).1 = .ok (.state "Cu") ∧
      ((wrongCrystal.controls .prompt).start 4 .null wrongCrystal).1 = .ok () ∧
      ((wrongCrystal.controls .prompt).start 4 .null wrongCrystal).2.calls =
        [⟨"gate", .start, some (.state "out")⟩] :=
  ⟨rfl, by decide, by decide, by decide⟩

end Lab
end Beamline
