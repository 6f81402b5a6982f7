import Beamline.Proofs.Departing
import Beamline.Proofs.Interpolating

/-!
Positions of a motor with limits, in every run of requests without `place`. Proved here:

* `Inside.serve`: one request keeps `Inside`, that position, target, both ends of the motion and the
  cached reading are in the limits, if every place on the way is (`Encloses`);
* `Inside.run`: so does a run, and all its replies are in the limits;
* `encloses`: `Encloses` follows from `Interpolates`, that `p + (x - p) * f` is `Between p x` for
  `0 ≤ f < 1`, and `FractionsBelowOne`, that no fraction computed before the travel is over is 1;
* `limits_never_left` puts these together;
* `sluggish_leaves_limits`: it does not hold without `FractionsBelowOne`.
-/

namespace Beamline.Motor

variable {α : Type} [Scalar α] {m m' : Motor α} {range : Limits α} {now : Nat}

/-- The motor as it is built: no motion, no target, an empty cache. -/
structure Unused (m : Motor α) : Prop where
  rest : m.motion = none
  target : m.target = none
  cache : m.cache = .empty

/-- Every place computed on the way between two places in the range is in the range. -/
def Encloses (m : Motor α) (range : Limits α) : Prop :=
  ∀ p x travel elapsed, range.contains p = true → range.contains x = true →
    m.travelTime (x - p) = some travel → elapsed < travel →
    range.contains (p + (x - p) * (Scalar.seconds elapsed / Scalar.seconds travel)) = true

/-- The invariant of a run from `m`: the positions that `m'` holds are in the range, and limits and
travel times are those of `m`. -/
structure Inside (m : Motor α) (range : Limits α) (m' : Motor α) : Prop where
  limits : m'.limits = some range
  travels : ∀ distance, m'.travelTime distance = m.travelTime distance
  position : range.contains m'.position = true
  target : ∀ x ∈ m'.target, range.contains x = true
  motion : ∀ k ∈ m'.motion, range.contains k.origin = true ∧ range.contains k.target = true ∧
    m.travelTime (k.target - k.origin) = some k.travel
  cache : ∀ e ∈ m'.cache.entry, range.contains e.1 = true

/-- The position in the reply, if there is one, is in the range. -/
def Reply.Inside (range : Limits α) : Reply α → Prop
  | .value r => ∀ v, r = .ok v → ∃ x, v = .scalar x ∧ range.contains x = true
  | .position x => range.contains x = true
  | .target t => ∀ x ∈ t, range.contains x = true
  | _ => True

namespace Inside

theorem of_unused (hm : m.Unused) (hlimits : m.limits = some range)
    (hposition : range.contains m.position = true) : m.Inside range m where
  limits := hlimits
  travels _ := rfl
  position := hposition
  target := by simp [hm.target]
  motion := by simp [hm.rest]
  cache := by simp [hm.cache, Cache.empty]

theorem positionAt (hway : m.Encloses range) (h : m.Inside range m') (now : Nat) :
    range.contains (m'.positionAt now) = true := by
  unfold Motor.positionAt
  cases hk : m'.motion with
  | none => exact h.position
  | some k =>
    obtain ⟨horigin, htarget, htravel⟩ := h.motion k hk
    dsimp only [Motion.positionAt]
    split
    · exact htarget
    · rename_i hlt
      exact hway _ _ _ _ horigin htarget htravel (Nat.lt_of_not_le hlt)

theorem refit (h : m.Inside range m') (f : Faults α) : m.Inside range { m' with faults := f } :=
  { h with travels := h.travels }

theorem advance (h : m.Inside range m') (now : Nat) : m.Inside range (m'.advance now) := by
  rcases m'.advance_cases now with hn | ⟨k, hk, -, hn⟩
  · rwa [hn]
  · rw [hn]
    exact { h with travels := h.travels, position := (h.motion k hk).2.1, motion := by simp }

/-- A reading of a position in the range is put in the cache. -/
theorem read (h : m.Inside range m') {x : α} (hx : range.contains x = true) (now reads : Nat) :
    m.Inside range { m' with cache := .put x now, hardwareReads := reads } := by
  refine { h with travels := h.travels, cache := fun e he => ?_ }
  cases he
  exact hx

/-- The axis is stopped at a position in the range. -/
theorem halt (h : m.Inside range m') {x : α} (hx : range.contains x = true) :
    m.Inside range { m' with position := x, motion := none, cache := .empty } :=
  { h with travels := h.travels, position := hx, motion := by simp, cache := by simp [Cache.empty] }

theorem retarget (h : m.Inside range m') {x : α} (hx : range.contains x = true) :
    m.Inside range { m' with target := some x } := by
  refine { h with travels := h.travels, target := fun y hy => ?_ }
  cases hy
  exact hx

theorem departed (hway : m.Encloses range) (h : m.Inside range m') {x : α} {travel : Nat}
    (hx : range.contains x = true) (htravel : m.travelTime (x - m'.positionAt now) = some travel) :
    m.Inside range (m'.departed now x travel) := by
  have hgone := (h.advance now).retarget hx
  unfold Motor.departed
  split
  · exact hgone.halt hx
  · refine { hgone with
      travels := hgone.travels, motion := fun k hk => ?_, cache := by simp [Cache.empty] }
    cases hk
    exact ⟨h.positionAt hway now, hx, htravel⟩

/-- Each `NonStartStep` of a motor keeps the invariant. -/
theorem nonStartStep {m'' : Motor α} {since : Nat} (hway : m.Encloses range) (h : m.Inside range m')
    (hnonStartStep : m'.NonStartStep since m'') : m.Inside range m'' := by
  obtain ⟨f, now, reads, -, rfl | rfl | rfl | rfl⟩ := hnonStartStep.outcome
  · exact h.refit f
  · exact (h.refit f).advance now
  · exact ((h.refit f).advance now).read (h.positionAt hway now) now reads
  · exact (h.refit f).halt (h.positionAt hway now)

theorem start (hway : m.Encloses range) (h : m.Inside range m') (now : Nat) (target : Value α) :
    m.Inside range (Motor.start now target m').2 := by
  have hends := start_ends m' now target
  generalize Motor.start now target m' = run at hends
  cases hends with
  | refused f _ => exact h.refit f
  | endless f _ hadmits _ => exact ((h.advance now).refit f).retarget (hadmits.2 range h.limits)
  | departed f _ hadmits htravel =>
    exact (h.refit f).departed hway (hadmits.2 range h.limits) ((h.travels _).symm.trans htravel)

theorem read_value (hway : m.Encloses range) (h : m.Inside range m') {maxAge : Nat} {v : Value α}
    (hv : (Motor.read now maxAge m').1 = .ok v) : ∃ x, v = .scalar x ∧ range.contains x = true := by
  obtain ⟨f, hg | ⟨e, hg⟩⟩ := guard_cases .read m'
  · rw [read_of_guard hg] at hv
    split at hv
    · rename_i x hx
      obtain ⟨stamp, hentry⟩ := Cache.entry_of_get? hx
      cases hv
      exact ⟨x, rfl, h.cache _ hentry⟩
    · cases hv
      exact ⟨_, rfl, h.positionAt hway now⟩
  · rw [read_refused hg] at hv
    cases hv

theorem serve (hway : m.Encloses range) (h : m.Inside range m') (now : Nat) {q : Request α}
    (hq : ∀ p, q ≠ .place p) :
    (serve now q m').1.Inside range ∧ m.Inside range (serve now q m').2.1 := by
  cases q with
  | read maxAge =>
    exact ⟨fun v hv => h.read_value hway hv, h.nonStartStep hway (.read (Nat.le_refl now) maxAge)⟩
  | start target => exact ⟨trivial, h.start hway now target⟩
  | stop => exact ⟨trivial, h.nonStartStep hway (.stop (Nat.le_refl now))⟩
  | wait pace beats =>
    have hwait : m'.NonStartStep now (wait pace (m', ⟨now, beats, 0⟩)).2.1 :=
      .wait pace (Nat.le_refl now)
    simp only [Motor.serve]
    exact ⟨trivial, h.nonStartStep hway hwait⟩
  | status => exact ⟨trivial, h.advance now⟩
  | place p => exact absurd rfl (hq p)
  | position => exact ⟨h.positionAt hway now, h.advance now⟩
  | isMoving => exact ⟨trivial, h.advance now⟩
  | target => exact ⟨h.target, h⟩

end Inside

/-- By induction on the run. -/
theorem Inside.run (hway : m.Encloses range) (h : m.Inside range m')
    {xs : List (Timed (Request α))} (hxs : Unhandled xs) :
    m.Inside range (Motor.serve.after xs m') ∧
      ∀ a ∈ Motor.serve.answers xs m', a.2.Inside range := by
  induction xs generalizing m' with
  | nil => exact ⟨h, List.forall_mem_nil _⟩
  | cons x xs ih =>
    obtain ⟨hreply, hnext⟩ := h.serve hway x.now (hxs x List.mem_cons_self)
    obtain ⟨hafter, hanswers⟩ := ih hnext fun y hy => hxs y (List.mem_cons_of_mem x hy)
    exact ⟨hafter, List.forall_mem_cons.mpr ⟨hreply, hanswers⟩⟩

/-! ## The main result -/

theorem encloses {m : Motor Float} {range : Limits Float} (hway : m.Interpolates range)
    (hbelow : m.FractionsBelowOne range) : m.Encloses range := by
  intro p x travel elapsed hp hx htravel hlt
  obtain ⟨hlop, hphi⟩ := Limits.contains_iff.mp hp
  obtain ⟨hlox, hxhi⟩ := Limits.contains_iff.mp hx
  obtain ⟨c, hc, hnonneg, -⟩ := Rounding.part_le hlt (travelTime_lt htravel)
  rw [Limits.contains_iff]
  rcases hway p x _ hp hx (by rw [htravel]; rfl) ((Rounding.represents_zero.le_iff hc).mpr hnonneg)
    (hbelow p x travel elapsed hp hx htravel hlt) with ⟨hlo, hhi⟩ | ⟨hlo, hhi⟩
  · exact ⟨Rounding.float_le_trans hlop hlo, Rounding.float_le_trans hhi hxhi⟩
  · exact ⟨Rounding.float_le_trans hlox hlo, Rounding.float_le_trans hhi hphi⟩

/-- **Hard limits.** Let a motor have limits and be as it is built (`Unused`), with its position in
the limits, in either mode and with any faults, and take any run of requests without `place`, at any
times. Assume `Interpolates`, that `p + (x - p) * f` is `Between p x` for `0 ≤ f < 1`, and
`FractionsBelowOne`, that every fraction computed before the travel is over is less than 1. Then the
limits contain the position at every time, the stored position, the target, both ends of the motion,
the cached reading, and every position in a reply of the run.

`interpolates_of_bounded` proves the first assumption for limits of up to `2 ^ 900` in magnitude,
and `fractionsBelowOne_of_crossedInHour` the second for limits that are crossed within an hour.
Without the second one the conclusion is false (`sluggish_leaves_limits`). -/
theorem limits_never_left {m : Motor Float} {range : Limits Float} (hlimits : m.limits = some range)
    (hm : m.Unused) (hposition : range.contains m.position = true) (hway : m.Interpolates range)
    (hbelow : m.FractionsBelowOne range) {xs : List (Timed (Request Float))} (hxs : Unhandled xs) :
    let m' := serve.after xs m
    m'.limits = some range ∧ range.contains m'.position = true ∧
      (∀ now, range.contains (m'.positionAt now) = true) ∧
      (∀ x ∈ m'.target, range.contains x = true) ∧
      (∀ k ∈ m'.motion, range.contains k.origin = true ∧ range.contains k.target = true) ∧
      (∀ e ∈ m'.cache.entry, range.contains e.1 = true) ∧
      ∀ a ∈ serve.answers xs m, a.2.Inside range := by
  intro m'
  have hencloses := encloses hway hbelow
  obtain ⟨hafter, hanswers⟩ := (Inside.of_unused hm hlimits hposition).run hencloses hxs
  refine ⟨hafter.limits, hafter.position, hafter.positionAt hencloses, hafter.target,
    fun k hk => ?_, hafter.cache, hanswers⟩
  obtain ⟨horigin, htarget, -⟩ := hafter.motion k hk
  exact ⟨horigin, htarget⟩

/-- An axis with limits -100 and 100, whose third reading fails. -/
def ranged : Motor Float :=
  { (Motor.make "mtx" : Motor Float) with
    limits := some ⟨-100, 100⟩
    speed := 2.5
    pacing := .realistic
    faults := .make [] [.failAfter "read" 2] 0 }

/-- A start to one end, a reading and a start to the other end on the way, a refused start, a stop,
and three readings. -/
def outing : List (Timed (Request Float)) :=
  [⟨0, .start (.scalar 100)⟩, ⟨ofMs 9000, .read fresh⟩, ⟨ofMs 9500, .start (.scalar (-100))⟩,
    ⟨ofMs 9600, .start (.scalar 101)⟩, ⟨ofMs 30000, .stop⟩, ⟨ofMs 30001, .read (ofMs 40000)⟩,
    ⟨ofMs 30002, .read fresh⟩, ⟨ofMs 30003, .read (ofMs 40000)⟩]

theorem ranged_interpolates : ranged.Interpolates ⟨-100, 100⟩ :=
  interpolates_of_bounded (by decide : 7 ≤ 900) ⟨-100, by decide +kernel, by norm_num⟩
    ⟨100, by decide +kernel, by norm_num⟩

theorem ranged_fractionsBelowOne : ranged.FractionsBelowOne ⟨-100, 100⟩ :=
  fractionsBelowOne_of_crossedInHour ⟨-100, 100, 5 / 2, by decide +kernel, by decide +kernel,
    by norm_num, by norm_num, by decide +kernel, by norm_num, by norm_num⟩

theorem limits_never_left_ranged :
    Unhandled outing ∧
      (∀ now, (⟨-100, 100⟩ : Limits Float).contains ((serve.after outing ranged).positionAt now)) ∧
      ∀ a ∈ serve.answers outing ranged, a.2.Inside ⟨-100, 100⟩ := by
  have hunhandled : Unhandled outing := by simp [Unhandled, outing]
  obtain ⟨-, -, hposition, -, -, -, hanswers⟩ := limits_never_left (m := ranged) rfl
    ⟨rfl, rfl, rfl⟩ (by decide) ranged_interpolates ranged_fractionsBelowOne hunhandled
  exact ⟨hunhandled, hposition, hanswers⟩

/-- An axis that takes 10300000000000002 ns, four months, from -10 to 0.3. -/
def sluggish : Motor Float :=
  { (Motor.make "m" : Motor Float) with
    limits := some ⟨-10, 0.3⟩, speed := 1e-6, pacing := .realistic, position := -10 }

/-- An axis whose travel from 1 to 2 is a duration, while travel and settling together are not. -/
def creeping : Motor Float :=
  { (Motor.make "m" : Motor Float) with
    limits := some ⟨1, 2⟩, speed := 5.421105e-20, pacing := .realistic, position := 1
    timing := ⟨1000000000000000000, 0, 0⟩ }

/-- One nanosecond before the travel of `sluggish` is over the fraction is computed as 1, and
`-10 + (0.3 - -10) * 1` is above 0.3; for every fraction below 1 it `Interpolates`. The move of
`creeping` `isEndless`, so that a look at its position panics. -/
theorem sluggish_leaves_limits :
    let range : Limits Float := ⟨-10, 0.3⟩
    let m' := serve.after [⟨0, .start (.scalar 0.3)⟩] sluggish
    let m'' := serve.after [⟨0, .start (.scalar 2)⟩] creeping
    sluggish.limits = some range ∧ sluggish.Unused ∧ range.contains sluggish.position = true ∧
      sluggish.Interpolates range ∧ range.contains (m'.positionAt 10300000000000001) = false ∧
      creeping.Unused ∧ m''.target = some 2 ∧
      m''.seen Motor.positionAt 0 = .error (.endlessTravel "m") := by
  refine ⟨rfl, ⟨rfl, rfl, rfl⟩, by decide +kernel, ?_, by decide +kernel, ⟨rfl, rfl, rfl⟩,
    by decide, by decide⟩
  exact interpolates_of_bounded (by decide : 4 ≤ 900) ⟨-10, by decide +kernel, by norm_num⟩
    ⟨5404319552844595 / 18014398509481984, by decide +kernel, by norm_num⟩

end Beamline.Motor
