import Beamline.Proofs.NonStartSteps
import Beamline.Proofs.Timeline
import Mathlib.Data.List.Induction

/-!
Cached readings of a motor, in every orderly run of requests. Proved here:

* `cache_serve`: a request that `Disturbs` the axis empties the cache, and otherwise the cache stays
  or holds the position at that time;
* `cache_wasAt`: so an entry of the cache, after any run that began with an empty one, is where the
  axis was at its stamp, and nothing has disturbed the axis since (`WasAt`);
* `serve_instant`, `Halted.read_fresh`: an instant motor stays at rest, and its cached readings are
  those that a fresh one would give;
* `read_coherent` puts these together.
-/

namespace Beamline.Motor

variable {α : Type} [Scalar α] {m : Motor α} {xs : List (Timed (Request α))} {p : α}
  {since now maxAge s : Nat}

/-! ## What empties the cache -/

/-- The request, with this reply, has started, stopped or placed the axis. -/
def Disturbs : Request α → Reply α → Prop
  | .start _, r => r = .done (.ok ())
  | .stop, r => r = .done (.ok ())
  | .place _, _ => True
  | _, _ => False

theorem cache_serve (now : Nat) (q : Request α) (m : Motor α) :
    (serve now q m).2.1.cache = .empty ∨ ¬ Disturbs q (serve now q m).1 ∧
      ((serve now q m).2.1.cache = m.cache ∨
        (serve now q m).2.1.cache = .put (m.positionAt now) now) := by
  cases q with
  | read maxAge =>
    refine .inr ⟨id, ?_⟩
    obtain ⟨f, hg | ⟨e, hg⟩⟩ := guard_cases .read m
    · rw [serve, read_of_guard hg]
      split
      · exact .inl rfl
      · exact .inr rfl
    · rw [serve, read_refused hg]
      exact .inl rfl
  | start target =>
    obtain ⟨f, hg | ⟨e, hg⟩⟩ := guard_cases .start m
    · rw [serve, start_of_guard hg]
      split
      · exact .inr ⟨by simp [Disturbs, Except.map], .inl rfl⟩
      · unfold depart
        dsimp only
        split
        · exact .inr ⟨by simp [Disturbs, Except.map], .inl (cache_advance _ now)⟩
        · split <;> exact .inl rfl
    · rw [serve, start_refused hg]
      exact .inr ⟨by simp [Disturbs, Except.map], .inl rfl⟩
  | stop =>
    obtain ⟨f, hg | ⟨e, hg⟩⟩ := guard_cases .stop m
    · rw [serve, stop_of_guard hg]
      exact .inl rfl
    · rw [serve, stop_refused hg]
      exact .inr ⟨by simp [Disturbs, Except.map], .inl rfl⟩
  | wait pace beats =>
    refine .inr ⟨id, .inl ?_⟩
    obtain ⟨f, hg | ⟨e, hg⟩⟩ := guard_cases .wait m
    · obtain ⟨later, -, -, hrun, -⟩ := wait_advance pace ⟨now, beats, 0⟩ hg
      simp only [serve, hrun]
      exact cache_advance _ later
    · simp only [serve, wait_refused hg]
  | place x => exact .inl rfl
  | status => exact .inr ⟨id, .inl (cache_advance m now)⟩
  | position => exact .inr ⟨id, .inl (cache_advance m now)⟩
  | isMoving => exact .inr ⟨id, .inl (cache_advance m now)⟩
  | target => exact .inr ⟨id, .inl rfl⟩

/-! ## Where a cached reading comes from -/

/-- The run has a point at which the axis was at `p` at the time `s`, and no later request disturbs
it. -/
def WasAt (since : Nat) (xs : List (Timed (Request α))) (m : Motor α) (p : α) (s : Nat) : Prop :=
  ∃ before rest, xs = before ++ rest ∧ serve.ends since before m ≤ s ∧
    (∀ x ∈ rest, s ≤ x.now) ∧ (serve.after before m).positionAt s = p ∧
    ∀ a ∈ serve.answers rest (serve.after before m), ¬ Disturbs a.1 a.2

theorem wasAt_now (h : serve.ends since xs m ≤ now) :
    WasAt since xs m ((serve.after xs m).positionAt now) now :=
  ⟨xs, [], (List.append_nil xs).symm, h, List.forall_mem_nil _, rfl, List.forall_mem_nil _⟩

theorem WasAt.snoc {x : Timed (Request α)} (h : WasAt since xs m p s) (hx : s ≤ x.now)
    (hquiet : ¬ Disturbs x.request (serve x.now x.request (serve.after xs m)).1) :
    WasAt since (xs ++ [x]) m p s := by
  obtain ⟨before, rest, rfl, hbefore, hrest, hp, hrestquiet⟩ := h
  refine ⟨before, rest ++ [x], List.append_assoc .., hbefore, ?_, hp, ?_⟩
  · intro y hy
    rcases List.mem_append.mp hy with hy | hy
    · exact hrest y hy
    · rw [List.mem_singleton.mp hy]
      exact hx
  · rw [Service.answers_append]
    intro a ha
    rcases List.mem_append.mp ha with ha | ha
    · exact hrestquiet a ha
    · rw [Service.after_append] at hquiet
      rw [List.mem_singleton.mp ha]
      exact hquiet

/-- The induction is on the run from its end: the last request has left, filled or emptied the
cache. -/
theorem cache_wasAt (hm : m.cache = .empty) (h : serve.Orderly since xs m)
    (hentry : (serve.after xs m).cache.entry = some (p, s)) :
    s ≤ serve.ends since xs m ∧ WasAt since xs m p s := by
  induction xs using List.reverseRecOn generalizing p s with
  | nil =>
    rw [show serve.after [] m = m from rfl, hm] at hentry
    cases hentry
  | append_singleton xs x ih =>
    obtain ⟨hxs, hx, -⟩ := Service.orderly_append.mp h
    have hdone := serve_forward x.now x.request (serve.after xs m)
    have hends : serve.ends since (xs ++ [x]) m =
        (serve x.now x.request (serve.after xs m)).2.2 := Service.ends_append since xs [x] m
    rw [Service.after_append] at hentry
    rw [hends]
    rcases cache_serve x.now x.request (serve.after xs m) with
      hcache | ⟨hquiet, hcache | hcache⟩
    · rw [show (serve.after [x] (serve.after xs m)).cache = .empty from hcache] at hentry
      cases hentry
    · -- the entry is an old one, and the request has not disturbed the axis
      rw [show (serve.after [x] (serve.after xs m)).cache = _ from hcache] at hentry
      obtain ⟨hs, hwas⟩ := ih hxs hentry
      exact ⟨Nat.le_trans (Nat.le_trans hs hx) hdone, hwas.snoc (Nat.le_trans hs hx) hquiet⟩
    · -- the entry has just been read
      rw [show (serve.after [x] (serve.after xs m)).cache = _ from hcache] at hentry
      obtain ⟨rfl, rfl⟩ := Prod.mk.inj (Option.some.inj hentry)
      exact ⟨hdone, (wasAt_now hx).snoc (Nat.le_refl _) hquiet⟩

/-! ## Instant motors -/

theorem depart_halted (hp : m.pacing = .instant) (now : Nat) (x : α) :
    (depart now x m).2.Halted x := by
  have hpacing : (m.advance now).pacing = .instant := (pacing_advance m now).trans hp
  simp only [depart, travelTime, settlingTime, hpacing, and_self, if_true]
  exact halted_of_empty rfl rfl

theorem pacing_depart (m : Motor α) (now : Nat) (x : α) :
    (depart now x m).2.pacing = m.pacing :=
  pacing_of_fixed (fixed_depart m now x)

theorem serve_instant (now : Nat) (q : Request α) (hp : m.pacing = .instant) (hx : m.Halted p) :
    (serve now q m).2.1.pacing = .instant ∧ ∃ x, (serve now q m).2.1.Halted x := by
  have hnonStartStep : ∀ {m'}, m.NonStartStep now m' → m'.pacing = .instant ∧ ∃ x, m'.Halted x :=
    fun h => ⟨h.pacing.trans hp, p, h.halted hx⟩
  have hpass := hnonStartStep (.pass (Nat.le_refl now))
  cases q with
  | read maxAge => exact hnonStartStep (.read (Nat.le_refl now) maxAge)
  | start target =>
    obtain ⟨f, hg | ⟨e, hg⟩⟩ := guard_cases .start m
    · have hp' : ({ m with faults := f } : Motor α).pacing = .instant := hp
      rw [serve, start_of_guard hg]
      split
      · exact hnonStartStep (.refit f)
      · rename_i x _
        exact ⟨(pacing_depart _ now x).trans hp', x, depart_halted hp' now x⟩
    · rw [serve, start_refused hg]
      exact hnonStartStep (.refit f)
  | stop => exact hnonStartStep (.stop (Nat.le_refl now))
  | wait pace beats =>
    have hwait : m.NonStartStep now (wait pace (m, ⟨now, beats, 0⟩)).2.1 :=
      .wait pace (Nat.le_refl now)
    rcases hrun : wait pace (m, ⟨now, beats, 0⟩) with ⟨r, m', clock⟩
    rw [hrun] at hwait
    rw [serve, hrun]
    exact hnonStartStep hwait
  | place x => exact ⟨hp, x, halted_of_empty rfl rfl⟩
  | status => exact hpass
  | position => exact hpass
  | isMoving => exact hpass
  | target => exact ⟨hp, p, hx⟩

theorem after_instant (hp : m.pacing = .instant) (hx : m.Halted p) (xs : List (Timed (Request α))) :
    ∃ x, (serve.after xs m).Halted x := by
  induction xs generalizing m p with
  | nil => exact ⟨p, hx⟩
  | cons x xs ih =>
    obtain ⟨hp', _, hx'⟩ := serve_instant x.now x.request hp hx
    exact ih hp' hx'

theorem Halted.read_fresh (hx : m.Halted p) (now maxAge : Nat) :
    (read now maxAge m).1 = (read now fresh m).1 := by
  obtain ⟨f, hg | ⟨e, hg⟩⟩ := guard_cases .read m
  · rw [read_of_guard hg, read_of_guard hg, Cache.get?_fresh]
    split
    · rename_i y hy
      obtain ⟨stamp, hentry⟩ := Cache.entry_of_get? hy
      have hpos : ({ m with faults := f } : Motor α).positionAt now = p := hx.positionAt now
      rw [hpos, hx.kept y stamp hentry]
    · rfl
  · rw [read_refused hg, read_refused hg]

/-! ## The main result -/

/-- **Coherence of the cache.** Let a motor have an empty cache, and take any orderly run of
requests, with any of them failing. If a reading with `maxAge` after it is `p`, then for some `s`,
at most `maxAge` ago, the axis was at `p` at `s` and no request since has disturbed it (`WasAt`).
For an instant motor at rest a reading is the same for every `maxAge` as for `fresh`, and it is the
position. -/
theorem read_coherent (m : Motor α) (since : Nat) (xs : List (Timed (Request α)))
    (hm : m.cache = .empty) (h : serve.Orderly since xs m) (now : Nat)
    (hnow : serve.ends since xs m ≤ now) :
    (∀ maxAge p, (read now maxAge (serve.after xs m)).1 = .ok (.scalar p) →
      ∃ s, s ≤ now ∧ now ≤ s + maxAge ∧ WasAt since xs m p s) ∧
    (m.pacing = .instant → m.motion = none → ∀ maxAge,
      (read now maxAge (serve.after xs m)).1 = (read now fresh (serve.after xs m)).1 ∧
      ∀ p, (read now maxAge (serve.after xs m)).1 = .ok (.scalar p) →
        p = (serve.after xs m).positionAt now) := by
  refine ⟨fun maxAge p hread => ?_, fun hp hstill maxAge => ?_⟩
  · obtain ⟨f, hg | ⟨e, hg⟩⟩ := guard_cases .read (serve.after xs m)
    · rw [read_of_guard hg] at hread
      split at hread
      · rename_i y hy
        cases hread
        obtain ⟨stamp, hentry, -, hage⟩ := Cache.get?_eq_some.mp hy
        obtain ⟨hstamp, hwas⟩ := cache_wasAt hm h hentry
        exact ⟨stamp, Nat.le_trans hstamp hnow, by omega, hwas⟩
      · cases hread
        exact ⟨now, Nat.le_refl _, Nat.le_add_right _ _, wasAt_now hnow⟩
    · rw [read_refused hg] at hread
      cases hread
  · obtain ⟨x, hafter⟩ := after_instant hp (halted_of_empty hstill hm) xs
    refine ⟨hafter.read_fresh now maxAge, fun p hread => ?_⟩
    rw [hafter.positionAt]
    exact Value.scalar.inj (hafter.read_ok hread)

/-- An axis under way from 0 to 9. -/
def travelling : Motor Float :=
  { make "a" with pacing := .realistic, motion := some ⟨0, 9, 0, 1000, 50⟩ }

/-- A fresh reading, then a status. -/
def glances : List (Timed (Request Float)) := [⟨100, .read fresh⟩, ⟨200, .status⟩]

/-- A fresh reading, then a start. -/
def errand : List (Timed (Request Float)) := [⟨100, .read fresh⟩, ⟨200, .start (.scalar 4)⟩]

/-- A reading 200 ns after the first one is served from the cache; for the instant motor `make "b"`,
the start has emptied it. -/
theorem read_coherent_travelling :
    travelling.cache = .empty ∧ serve.Orderly 0 glances travelling ∧
      serve.ends 0 glances travelling ≤ 300 ∧
      (read 300 250 (serve.after glances travelling)).1 =
        .ok (.scalar (travelling.positionAt 100)) ∧
      (∃ s, s ≤ 300 ∧ 300 ≤ s + 250 ∧
        WasAt 0 glances travelling (travelling.positionAt 100) s) ∧
      serve.Orderly 0 errand (make "b") ∧ serve.ends 0 errand (make "b") ≤ 300 ∧
      (read 300 250 (serve.after errand (make "b"))).1 =
        (read 300 fresh (serve.after errand (make "b"))).1 := by
  have horderly : serve.Orderly 0 glances travelling := ⟨by decide, by decide, trivial⟩
  have hends : serve.ends 0 glances travelling ≤ 300 := by decide
  have hread : (read 300 250 (serve.after glances travelling)).1 =
      .ok (.scalar (travelling.positionAt 100)) := by decide +kernel
  have horderly' : serve.Orderly 0 errand (make "b") := ⟨by decide, by decide, trivial⟩
  have hends' : serve.ends 0 errand (make "b") ≤ 300 := by decide
  obtain ⟨hcoherent, -⟩ := read_coherent travelling 0 glances rfl horderly 300 hends
  obtain ⟨-, hinstant⟩ := read_coherent (make "b") 0 errand rfl horderly' 300 hends'
  exact ⟨rfl, horderly, hends, hread, hcoherent 250 _ hread, horderly', hends',
    (hinstant rfl rfl 250).1⟩

end Beamline.Motor
