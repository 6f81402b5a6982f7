import Beamline.Proofs.NonStartSteps
import Beamline.Proofs.Timeline

/-!
Which requests to a motor panic because `travelTime` is none, for motors without faults. `Admits x`
says that `start` accepts the target `x`, and `Reaches p` that the axis can come to be at `p` by
requests. Proved here:

* `panics_serve_iff`: one request panics if and only if it is a start to an admitted target for
  which `travelTime` is none, unless the move under way `isEndless`;
* `Follows.serve`, `Follows.after`: `Follows`, an invariant of what a motor becomes, is kept by one
  request and by a run;
* `neverPanics_iff`: no request of any run panics if and only if `travelTime` is some duration from
  every place that is reached to every target that is admitted.

The moves that a motor starts are assumed to end (`MovesEnd`): travel and settling make a duration.
-/

namespace Beamline.Motor

variable {α : Type} [Scalar α] {m m' : Motor α} {x p : α} {now travel : Nat}

/-- `start` accepts the target `x`. -/
def Admits (m : Motor α) (x : α) : Prop :=
  Scalar.isFinite x = true ∧ ∀ range ∈ m.limits, range.contains x = true

/-- The axis can come to be at a place: its position, an admitted target, or a place computed on the
way from a reached place to an admitted target. -/
inductive Reaches (m : Motor α) : α → Prop
  | start : Reaches m m.position
  | arrived {x : α} (hx : m.Admits x) : Reaches m x
  | underway {p x : α} {travel elapsed : Nat} (hp : Reaches m p) (hx : m.Admits x)
      (htravel : m.travelTime (x - p) = some travel) (hlt : elapsed < travel) :
      Reaches m (p + (x - p) * (Scalar.seconds elapsed / Scalar.seconds travel))

/-- The reply is the panic of `start` when `travelTime` is none. -/
def Panics (r : Reply α) : Prop := ∃ name, r = .done (.error (.endlessTravel name))

/-- No move that the motor starts `isEndless`. -/
def MovesEnd (m : Motor α) : Prop :=
  ∀ distance travel, m.travelTime distance = some travel → travel + m.settlingTime < durationEnd

/-- No request of the run is a `place`. -/
def Unhandled (xs : List (Timed (Request α))) : Prop := ∀ x ∈ xs, ∀ p, x.request ≠ .place p

/-- No request of any orderly run without `place` panics. -/
def NeverPanics (m : Motor α) : Prop :=
  ∀ since xs, serve.Orderly since xs m → Unhandled xs → ∀ a ∈ serve.answers xs m, ¬ Panics a.2

/-! ## One start -/

theorem checkedTarget_of_admits (h : m.Admits x) : m.checkedTarget (.scalar x) = .ok x := by
  obtain ⟨hfinite, hlimits⟩ := h
  unfold checkedTarget
  dsimp only
  rw [if_pos hfinite]
  cases hl : m.limits with
  | none => rfl
  | some range =>
    dsimp only
    rw [Limits.check, if_pos (hlimits range hl)]
    rfl

theorem admits_of_checkedTarget {target : Value α} (h : m.checkedTarget target = .ok x) :
    target = .scalar x ∧ m.Admits x := by
  unfold checkedTarget at h
  cases target with
  | null => cases h
  | state name => cases h
  | scalar y =>
    dsimp only at h
    split at h
    · rename_i hfinite
      cases hl : m.limits with
      | none =>
        rw [hl] at h
        cases h
        exact ⟨rfl, hfinite, by simp [hl]⟩
      | some range =>
        rw [hl] at h
        obtain ⟨⟨⟩, hcheck, rfl⟩ := except_map_eq_ok.mp h
        unfold Limits.check at hcheck
        split at hcheck
        · rename_i hcontains
          refine ⟨rfl, hfinite, fun range' hrange' => ?_⟩
          obtain rfl := Option.some.inj (hl.symm.trans hrange')
          exact hcontains
        · cases hcheck
    · cases h

theorem checkedTarget_ne_endless (m : Motor α) (target : Value α) (name : String) :
    m.checkedTarget target ≠ .error (.endlessTravel name) := by
  unfold checkedTarget
  cases target with
  | null => simp
  | state name => simp
  | scalar y =>
    dsimp only
    split
    · cases m.limits with
      | none => simp
      | some range =>
        intro h
        have hcheck := except_map_eq_error.mp h
        unfold Limits.check at hcheck
        split at hcheck <;> cases hcheck
    · simp

theorem travelTime_of_fixed (h : m'.fixed = m.fixed) (distance : α) :
    m'.travelTime distance = m.travelTime distance := by
  have hspeed : m'.fixed.speed = m.fixed.speed := by rw [h]
  have hspeed' : m'.speed = m.speed := hspeed
  simp only [travelTime, pacing_of_fixed h, hspeed']

theorem settlingTime_of_fixed (h : m'.fixed = m.fixed) : m'.settlingTime = m.settlingTime := by
  have htiming : m'.fixed.timing = m.fixed.timing := by rw [h]
  have htiming' : m'.timing = m.timing := htiming
  simp only [settlingTime, pacing_of_fixed h, htiming']

theorem admits_of_fixed (h : m'.fixed = m.fixed) : m'.Admits x ↔ m.Admits x := by
  have hlimits : m'.fixed.limits = m.fixed.limits := by rw [h]
  have hlimits' : m'.limits = m.limits := hlimits
  simp only [Admits, hlimits']

/-- The motor after `depart` to `x` with `travelTime` some `travel`. -/
def departed (m : Motor α) (now : Nat) (x : α) (travel : Nat) : Motor α :=
  if travel = 0 ∧ m.settlingTime = 0 then
    { m.advance now with target := some x, cache := .empty, position := x, motion := none }
  else
    { m.advance now with
      target := some x
      cache := .empty
      motion := some ⟨m.positionAt now, x, now, travel, m.settlingTime⟩ }

theorem settlingTime_advance (m : Motor α) (now : Nat) :
    (m.advance now).settlingTime = m.settlingTime :=
  settlingTime_of_fixed (fixed_advance m now)

theorem depart_endless (h : m.travelTime (x - m.positionAt now) = none) :
    depart now x m =
      (.error (.endlessTravel m.name), { m.advance now with target := some x }) := by
  have htravel : ({ m.advance now with target := some x } : Motor α).travelTime
      (x - m.positionAt now) = none :=
    (travelTime_of_fixed (fixed_advance m now) _).trans h
  unfold depart
  dsimp only
  split
  · rw [name_advance]
  · rename_i travel hsome
    cases htravel.symm.trans hsome

theorem depart_travels (h : m.travelTime (x - m.positionAt now) = some travel) :
    depart now x m = (.ok (m.positionAt now), m.departed now x travel) := by
  have htravel : ({ m.advance now with target := some x } : Motor α).travelTime
      (x - m.positionAt now) = some travel :=
    (travelTime_of_fixed (fixed_advance m now) _).trans h
  have hsettling : ({ m.advance now with target := some x } : Motor α).settlingTime =
      m.settlingTime := settlingTime_advance m now
  unfold depart departed
  dsimp only
  split
  · rename_i hnone
    cases htravel.symm.trans hnone
  · rename_i travel' hsome
    obtain rfl : travel = travel' := Option.some.inj (htravel.symm.trans hsome)
    rw [← hsettling]
    split <;> rfl

theorem positionAt_departed (m : Motor α) (now : Nat) (x : α) (travel elapsed : Nat) :
    (m.departed now x travel).positionAt (now + elapsed) =
      if travel ≤ elapsed then x
      else m.positionAt now +
        (x - m.positionAt now) * (Scalar.seconds elapsed / Scalar.seconds travel) := by
  unfold departed
  split
  · rename_i hstill
    rw [if_pos (hstill.1 ▸ Nat.zero_le elapsed)]
    rfl
  · simp only [positionAt, Motion.positionAt, Nat.add_sub_cancel_left]

theorem panics_serve_iff (hquiet : m.faults.Quiet) (hends : m.isEndless = false) (now : Nat)
    (q : Request α) :
    Panics (serve now q m).1 ↔ ∃ x, q = .start (.scalar x) ∧ m.Admits x ∧
      m.travelTime (x - m.positionAt now) = none := by
  cases q with
  | start target =>
    rw [serve, start_of_quiet hquiet]
    cases hx : m.checkedTarget target with
    | error e =>
      constructor
      · rintro ⟨name, hreply⟩
        rw [Reply.done.injEq, except_map_eq_error] at hreply
        exact absurd (hx.trans hreply) (checkedTarget_ne_endless m target name)
      · rintro ⟨x, hq, hadmits, -⟩
        cases hq
        rw [checkedTarget_of_admits hadmits] at hx
        cases hx
    | ok x =>
      obtain ⟨rfl, hadmits⟩ := admits_of_checkedTarget hx
      cases htravel : m.travelTime (x - m.positionAt now) with
      | none =>
        dsimp only
        rw [depart_endless htravel]
        exact iff_of_true ⟨m.name, rfl⟩ ⟨x, rfl, hadmits, htravel⟩
      | some travel =>
        dsimp only
        rw [depart_travels htravel]
        refine iff_of_false ?_ ?_
        · rintro ⟨name, ⟨⟩⟩
        · rintro ⟨y, hy, -, hnone⟩
          cases hy
          rw [htravel] at hnone
          cases hnone
  | wait pace beats =>
    rw [serve, wait_of_guard pace ⟨now, beats, 0⟩ (guard_of_quiet hquiet .wait),
      if_neg (Bool.not_eq_true _ ▸ hends)]
    rcases m.awaited pace ⟨now, beats, 0⟩ with ⟨_ | _, clock⟩ <;> simp [afterWait, Panics]
  | stop =>
    rw [serve, stop_of_guard (guard_of_quiet hquiet .stop)]
    simp [Panics, Except.map]
  | read maxAge => simp [serve, Panics]
  | status => simp [serve, Panics]
  | place x => simp [serve, Panics]
  | position => simp [serve, Panics]
  | isMoving => simp [serve, Panics]
  | target => simp [serve, Panics]

/-! ## Runs -/

/-- The invariant of a run from `m`, at rest: positions and origins are reached, targets are
admitted, and travel and settling times are those of `m`. -/
structure Follows (m m' : Motor α) : Prop where
  fixed : m'.fixed = m.fixed
  rest : m'.motion = none → m.Reaches m'.position
  moving : ∀ k ∈ m'.motion, m.Reaches k.origin ∧ m.Admits k.target ∧
    m.travelTime (k.target - k.origin) = some k.travel ∧ k.settling = m.settlingTime

namespace Follows

theorem refl (hrest : m.motion = none) : m.Follows m :=
  ⟨rfl, fun _ => .start, by simp [hrest]⟩

theorem reaches (h : m.Follows m') (now : Nat) : m.Reaches (m'.positionAt now) := by
  unfold positionAt
  cases hk : m'.motion with
  | none => exact h.rest hk
  | some k =>
    obtain ⟨horigin, htarget, htravel, -⟩ := h.moving k hk
    dsimp only [Motion.positionAt]
    split
    · exact .arrived htarget
    · rename_i hlt
      exact .underway horigin htarget htravel (Nat.lt_of_not_le hlt)

theorem advance (h : m.Follows m') (now : Nat) : m.Follows (m'.advance now) := by
  rcases m'.advance_cases now with hn | ⟨k, hk, -, hn⟩
  · rwa [hn]
  · rw [hn]
    exact ⟨h.fixed, fun _ => .arrived (h.moving k hk).2.1, by simp⟩

/-- `Follows` of an axis at rest. -/
theorem stands (h : m.Follows m') {k : Motor α} (hfixed : k.fixed = m'.fixed)
    (hmotion : k.motion = none) (hp : m.Reaches k.position) : m.Follows k :=
  ⟨hfixed.trans h.fixed, fun _ => hp, by simp [hmotion]⟩

/-- `Follows` does not depend on the stored target and the cache. -/
theorem same (h : m.Follows m') {k : Motor α} (hfixed : k.fixed = m'.fixed)
    (hmotion : k.motion = m'.motion) (hp : k.position = m'.position) : m.Follows k :=
  ⟨hfixed.trans h.fixed, fun hk => hp ▸ h.rest (hmotion ▸ hk), hmotion ▸ h.moving⟩

theorem departed (h : m.Follows m') (hx : m.Admits x)
    (htravel : m.travelTime (x - m'.positionAt now) = some travel) :
    m.Follows (m'.departed now x travel) := by
  unfold Motor.departed
  split
  · exact (h.advance now).stands rfl rfl (.arrived hx)
  · refine ⟨(h.advance now).fixed, fun hk => ?_, fun k hk => ?_⟩
    · cases hk
    · cases hk
      exact ⟨h.reaches now, hx, htravel, settlingTime_of_fixed h.fixed⟩

theorem serve (hquiet : m.faults.Quiet) (h : m.Follows m') (now : Nat) {q : Request α}
    (hq : ∀ p, q ≠ .place p) : m.Follows (serve now q m').2.1 := by
  have hquiet' : m'.faults.Quiet := faults_of_fixed h.fixed ▸ hquiet
  cases q with
  | read maxAge =>
    rw [Motor.serve, read_of_quiet hquiet']
    split
    · exact h
    · exact (h.advance now).same rfl rfl rfl
  | start target =>
    rw [Motor.serve, start_of_quiet hquiet']
    cases hx : m'.checkedTarget target with
    | error e => exact h
    | ok x =>
      obtain ⟨-, hadmits⟩ := admits_of_checkedTarget hx
      cases htravel : m'.travelTime (x - m'.positionAt now) with
      | none =>
        dsimp only
        rw [depart_endless htravel]
        exact (h.advance now).same rfl rfl rfl
      | some travel =>
        dsimp only
        rw [depart_travels htravel]
        exact h.departed ((admits_of_fixed h.fixed).mp hadmits)
          ((travelTime_of_fixed h.fixed _).symm.trans htravel)
  | stop =>
    rw [Motor.serve, stop_of_guard (guard_of_quiet hquiet' .stop)]
    exact h.stands rfl rfl (h.reaches now)
  | wait pace beats =>
    obtain ⟨later, -, -, hrun, -⟩ :=
      wait_advance pace ⟨now, beats, 0⟩ (guard_of_quiet hquiet' .wait)
    simp only [Motor.serve, hrun]
    exact h.advance later
  | place p => exact absurd rfl (hq p)
  | status => exact h.advance now
  | position => exact h.advance now
  | isMoving => exact h.advance now
  | target => exact h

theorem isEndless (h : m.Follows m') (hends : m.MovesEnd) : m'.isEndless = false := by
  cases hk : m'.motion with
  | none => simp only [Motor.isEndless, hk, Option.any_none]
  | some k =>
    obtain ⟨-, -, htravel, hsettling⟩ := h.moving k hk
    have hlt := hends _ _ htravel
    simp only [Motor.isEndless, hk, Option.any_some, Motion.isEndless, hsettling,
      decide_eq_false (Nat.not_le_of_lt hlt)]

end Follows

theorem Follows.after (hquiet : m.faults.Quiet) (h : m.Follows m') {xs : List (Timed (Request α))}
    (hxs : Unhandled xs) : m.Follows (Motor.serve.after xs m') := by
  induction xs generalizing m' with
  | nil => exact h
  | cons x xs ih =>
    exact ih (h.serve hquiet x.now (hxs x List.mem_cons_self))
      fun y hy => hxs y (List.mem_cons_of_mem x hy)

/-- After any run from `m`, a request panics if and only if it is a start to an admitted target for
which `travelTime` is none. -/
theorem Follows.panics_iff (hquiet : m.faults.Quiet) (hends : m.MovesEnd) (h : m.Follows m')
    (now : Nat) (q : Request α) :
    Panics (Motor.serve now q m').1 ↔ ∃ x, q = .start (.scalar x) ∧ m.Admits x ∧
      m.travelTime (x - m'.positionAt now) = none := by
  simp only [panics_serve_iff (faults_of_fixed h.fixed ▸ hquiet) (h.isEndless hends),
    admits_of_fixed h.fixed, travelTime_of_fixed h.fixed]

/-- One direction of `neverPanics_iff`, by induction on the run. -/
theorem answers_no_panic (hquiet : m.faults.Quiet) (hends : m.MovesEnd)
    (hgood : ∀ p x, m.Reaches p → m.Admits x → (m.travelTime (x - p)).isSome = true)
    (h : m.Follows m') {xs : List (Timed (Request α))} (hxs : Unhandled xs) :
    ∀ a ∈ serve.answers xs m', ¬ Panics a.2 := by
  induction xs generalizing m' with
  | nil => exact List.forall_mem_nil _
  | cons x xs ih =>
    intro a ha
    rcases List.mem_cons.mp ha with rfl | ha
    · rw [h.panics_iff hquiet hends]
      rintro ⟨y, -, hy, hnone⟩
      have hsome := hgood _ y (h.reaches x.now) hy
      rw [hnone] at hsome
      cases hsome
    · exact ih (h.serve hquiet x.now (hxs x List.mem_cons_self))
        (fun y hy => hxs y (List.mem_cons_of_mem x hy)) a ha

/-- Some orderly run leads to a state that shows `p` at a later time. -/
def Visits (m : Motor α) (p : α) : Prop :=
  ∃ since xs now, serve.Orderly since xs m ∧ Unhandled xs ∧ serve.ends since xs m ≤ now ∧
    m.Follows (serve.after xs m) ∧ (serve.after xs m).positionAt now = p

/-- One start more is again such a run, so that a visited place leads to those on the way to any
target. -/
theorem Visits.start (hquiet : m.faults.Quiet) (hends : m.MovesEnd) (hnever : m.NeverPanics)
    (hp : m.Visits p) (hx : m.Admits x) : ∃ travel, m.travelTime (x - p) = some travel ∧ ∀ elapsed,
      m.Visits (if travel ≤ elapsed then x
        else p + (x - p) * (Scalar.seconds elapsed / Scalar.seconds travel)) := by
  obtain ⟨since, xs, now, horderly, hunhandled, hlast, hfollows, rfl⟩ := hp
  let request : Timed (Request α) := ⟨now, .start (.scalar x)⟩
  have horderly' : serve.Orderly since (xs ++ [request]) m :=
    Service.orderly_append.mpr ⟨horderly, hlast, trivial⟩
  have hunhandled' : Unhandled (xs ++ [request]) := by
    intro y hy p hplace
    rcases List.mem_append.mp hy with hy | hy
    · exact hunhandled y hy p hplace
    · rw [List.mem_singleton.mp hy] at hplace
      cases hplace
  cases htravel : m.travelTime (x - (serve.after xs m).positionAt now) with
  | none =>
    have hpanics : Panics (serve now request.request (serve.after xs m)).1 :=
      (hfollows.panics_iff hquiet hends now _).mpr ⟨x, rfl, hx, htravel⟩
    refine absurd hpanics (hnever since _ horderly' hunhandled' (request.request, _) ?_)
    rw [Service.answers_append]
    exact List.mem_append_right _ List.mem_cons_self
  | some travel =>
    refine ⟨travel, rfl, fun elapsed => ?_⟩
    have hquiet' : (serve.after xs m).faults.Quiet := faults_of_fixed hfollows.fixed ▸ hquiet
    have hx' := (admits_of_fixed hfollows.fixed).mpr hx
    have htravel' := (travelTime_of_fixed hfollows.fixed _).trans htravel
    have hstart : start now (.scalar x) (serve.after xs m) =
        (.ok ((serve.after xs m).positionAt now), (serve.after xs m).departed now x travel) := by
      rw [start_of_quiet hquiet', checkedTarget_of_admits hx']
      exact depart_travels htravel'
    have hafter : serve.after (xs ++ [request]) m = (serve.after xs m).departed now x travel := by
      rw [Service.after_append]
      exact congrArg Prod.snd hstart
    refine ⟨since, xs ++ [request], now + elapsed, horderly', hunhandled', ?_, ?_, ?_⟩
    · rw [Service.ends_append]
      exact Nat.le_add_right now elapsed
    · rw [hafter]
      exact hfollows.departed hx htravel
    · rw [hafter]
      exact positionAt_departed _ now x travel elapsed

theorem Reaches.visits (hquiet : m.faults.Quiet) (hends : m.MovesEnd) (hrest : m.motion = none)
    (hnever : m.NeverPanics) (hp : m.Reaches p) : m.Visits p := by
  have hhere : m.Visits m.position := by
    refine ⟨0, [], 0, trivial, List.forall_mem_nil _, Nat.le_refl 0, .refl hrest, ?_⟩
    simp only [Service.after, positionAt, hrest]
  induction hp with
  | start => exact hhere
  | arrived hx =>
    obtain ⟨travel, -, hvisits⟩ := hhere.start hquiet hends hnever hx
    have hthere := hvisits travel
    rwa [if_pos (Nat.le_refl travel)] at hthere
  | @underway p x travel elapsed _ hx htravel hlt ih =>
    obtain ⟨travel', htravel', hvisits⟩ := ih.start hquiet hends hnever hx
    obtain rfl := Option.some.inj (htravel.symm.trans htravel')
    have hthere := hvisits elapsed
    rwa [if_neg (Nat.not_le_of_lt hlt)] at hthere

/-- `Reaches.visits` gives the direction from left to right: every reached place is visited by a
run. -/
theorem neverPanics_iff (hquiet : m.faults.Quiet) (hends : m.MovesEnd) (hrest : m.motion = none) :
    m.NeverPanics ↔
      ∀ p x, m.Reaches p → m.Admits x → (m.travelTime (x - p)).isSome = true := by
  constructor
  · intro hnever p x hp hx
    have hvisits := hp.visits hquiet hends hrest hnever
    obtain ⟨travel, htravel, -⟩ := hvisits.start hquiet hends hnever hx
    rw [htravel]
    rfl
  · intro hgood since xs _ hxs
    exact answers_no_panic hquiet hends hgood (.refl hrest) hxs

end Beamline.Motor
