import Beamline.Proofs.Elapsing
import Beamline.Proofs.Settling
import Beamline.Proofs.Timeline

/-!
Looks at a device that are put into a run: `status`, a fresh `read`, and what others may ask of it.
`Alike t` relates two devices that are equal from the time `t` on, up to the cache and the number of
readings of a motor. Proved here:

* `IgnoresLooks.extra_looks`: for any service and relation such that requests keep the relation and
  looks do not leave it (`IgnoresLooks`), a run and the same run without its extra looks give the
  same answers;
* `Motor.serve_ignoresLooks`, `Switch.serve_ignoresLooks`: both services are so with `Alike`, as a
  look only advances the device (`serve_alike` is the case of one request);
* `looks_inert` puts these together.
-/

namespace Beamline

variable {χ σ β α : Type}

/-! ## Requests put into a run -/

/-- A request, and whether it is one of the extra ones. -/
structure Tagged (χ : Type) where
  extra : Bool
  request : χ

namespace Service

variable {f : Service χ σ β} {s s' : σ} {since : Nat} {xs : List (Timed (Tagged χ))}

def tagged (f : Service χ σ β) : Service (Tagged χ) σ β := fun now q s => f now q.request s

/-- The run without its extra requests. -/
def plain (xs : List (Timed (Tagged χ))) : List (Timed (Tagged χ)) :=
  xs.filter fun x => !x.request.extra

/-- The answers to requests that are neither extra nor `aged`. -/
def compared (aged : χ → Bool) (as : List (Tagged χ × β)) : List (Tagged χ × β) :=
  as.filter fun a => !(a.1.extra || aged a.1.request)

/-- The relation `R` is kept by every request and as time passes, related devices give the same
answers but to `aged` requests, and a `look` at one of two related devices leaves them related. -/
structure IgnoresLooks (f : Service χ σ β) (aged : χ → Bool) (look : χ → Prop)
    (R : Nat → σ → σ → Prop) : Prop where
  lasts : ∀ {t now s s'}, R t s s' → t ≤ now → R now s s'
  serve : ∀ {now s s'} (q : χ), R now s s' →
    (aged q = false → (f now q s).1 = (f now q s').1) ∧ (f now q s).2.2 = (f now q s').2.2 ∧
      R (f now q s).2.2 (f now q s).2.1 (f now q s').2.1
  look : ∀ {now s s'} {q : χ}, look q → R now s s' → R (f now q s).2.2 (f now q s).2.1 s'

/-- By induction on the run: an extra look is dropped by `IgnoresLooks.look`, any other request is
answered by both devices (`IgnoresLooks.serve`). -/
theorem IgnoresLooks.extra_looks {aged : χ → Bool} {look : χ → Prop} {R : Nat → σ → σ → Prop}
    (hf : f.IgnoresLooks aged look R) (hforward : f.Forward)
    (hlook : ∀ x ∈ xs, x.request.extra = true → look x.request.request)
    (h : f.tagged.Orderly since xs s) (hs : R since s s') :
    f.tagged.Orderly since (plain xs) s' ∧
      compared aged (f.tagged.answers xs s) = compared aged (f.tagged.answers (plain xs) s') ∧
      R (f.tagged.ends since xs s) (f.tagged.after xs s) (f.tagged.after (plain xs) s') := by
  induction xs generalizing since s s' with
  | nil => exact ⟨trivial, rfl, hs⟩
  | cons x xs ih =>
    obtain ⟨hx, hrest⟩ := h
    obtain ⟨hhead, htail⟩ := List.forall_mem_cons.mp hlook
    have hnow := hf.lasts hs hx
    cases hextra : x.request.extra with
    | true =>
      have hplain : plain (x :: xs) = plain xs := List.filter_cons_of_neg (by simp [hextra])
      have hlater : since ≤ (f.tagged x.now x.request s).2.2 :=
        Nat.le_trans hx (hforward x.now x.request.request s)
      obtain ⟨horderly, hanswers, hlast⟩ := ih htail hrest (hf.look (hhead hextra) hnow)
      rw [hplain, ← hanswers]
      refine ⟨horderly.of_le hlater, ?_, hlast⟩
      simp [compared, answers, hextra]
    | false =>
      have hplain : plain (x :: xs) = x :: plain xs := List.filter_cons_of_pos (by simp [hextra])
      have hserve : (aged x.request.request = false →
          (f.tagged x.now x.request s).1 = (f.tagged x.now x.request s').1) ∧
          (f.tagged x.now x.request s).2.2 = (f.tagged x.now x.request s').2.2 ∧
          R (f.tagged x.now x.request s).2.2 (f.tagged x.now x.request s).2.1
            (f.tagged x.now x.request s').2.1 := hf.serve x.request.request hnow
      obtain ⟨hreply, hend, hafter⟩ := hserve
      obtain ⟨horderly, hanswers, hlast⟩ := ih htail hrest hafter
      rw [hplain]
      refine ⟨⟨hx, hend ▸ horderly⟩, ?_, hlast⟩
      simp only [compared, answers] at hanswers ⊢
      cases haged : aged x.request.request with
      | true => simpa [hextra, haged] using hanswers
      | false => simpa [hextra, haged, hreply haged] using hanswers

end Service

variable [Scalar α]

/-! ## Motors -/

namespace Motor

variable {m m' : Motor α} {t now : Nat}

/-- The motor without its cache and the number of its readings. -/
def body (m : Motor α) : Motor α := { m with cache := .empty, hardwareReads := 0 }

/-- Advanced to `t`, the two motors have the same `body`. -/
def Alike (t : Nat) (m m' : Motor α) : Prop := (m.advance t).body = (m'.advance t).body

/-- The requests that leave a motor `Alike` to itself. -/
def Request.IsLook : Request α → Prop
  | .read maxAge => maxAge = 0
  | .status => True
  | .position => True
  | .isMoving => True
  | .target => True
  | _ => False

/-- A reading that may be served from the cache. -/
def Request.isAged : Request α → Bool
  | .read maxAge => maxAge != 0
  | _ => false

omit [Scalar α] in
theorem advance_body (m : Motor α) (now : Nat) : m.body.advance now = (m.advance now).body := by
  unfold advance
  split
  · rename_i k hk
    rw [show m.motion = some k from hk]
    dsimp only
    split <;> rfl
  · rename_i hk
    rw [show m.motion = none from hk]

omit [Scalar α] in
theorem Alike.of_le (h : Alike t m m') (ht : t ≤ now) : Alike now m m' := by
  unfold Alike
  rw [← advance_advance m ht, ← advance_advance m' ht, ← advance_body (m.advance t),
    ← advance_body (m'.advance t), h]

omit [Scalar α] in
theorem alike_of_body (h : m.body = m'.body) (t : Nat) : Alike t m m' := by
  unfold Alike
  rw [← advance_body, ← advance_body, h]

omit [Scalar α] in
theorem alike_advance (m : Motor α) (now : Nat) : Alike now (m.advance now) m :=
  congrArg body (advance_advance m (Nat.le_refl now))

omit [Scalar α] in
/-- What `see` gives does not depend on the cache or on `advance`, so it is the same of `Alike`
motors. -/
theorem Alike.seen {γ : Type} (h : Alike now m m') (see : Motor α → γ)
    (hbody : ∀ k, see (body k) = see k) (hadvance : ∀ k, see (advance k now) = see k) :
    see m = see m' := by
  rw [← hadvance m, ← hbody, show (m.advance now).body = _ from h, hbody, hadvance]

theorem status_advance (m : Motor α) (now : Nat) : (m.advance now).status now = m.status now := by
  rcases m.advance_cases now with h | ⟨k, hk, hdone, h⟩
  · rw [h]
  · rw [h]
    simp only [status, isMoving, hk, hdone, Bool.not_true]

theorem checkedTarget_advance (m : Motor α) (now : Nat) (v : Value α) :
    (m.advance now).checkedTarget v = m.checkedTarget v := by
  rcases m.advance_cases now with h | ⟨k, -, -, h⟩
  · rw [h]
  · rw [h]
    rfl

omit [Scalar α] in
theorem place_advance (m : Motor α) (now : Nat) (x : α) : (m.advance now).place x = m.place x := by
  rcases m.advance_cases now with h | ⟨k, -, -, h⟩
  · rw [h]
  · rw [h]
    rfl

theorem awaited_advance (m : Motor α) (pace : Pace) (clock : Clock) :
    (m.advance clock.now).awaited pace clock = m.awaited pace clock := by
  unfold awaited
  rw [timing_advance]
  exact Clock.await_congr fun t ht => isMoving_advance m (Nat.le_trans (clock.now_le_look pace) ht)

omit [Scalar α] in
theorem isEndless_advance (m : Motor α) (now : Nat) : (m.advance now).isEndless = m.isEndless := by
  rcases m.advance_cases now with h | ⟨k, hk, hdone, h⟩
  · rw [h]
  · rw [h]
    simp only [isEndless, hk, Option.any_some, (Motion.isDone_iff.mp hdone).1, Option.any_none]

theorem depart_advance (m : Motor α) (now : Nat) (x : α) :
    depart now x (m.advance now) = depart now x m := by
  unfold depart
  rw [positionAt_advance m (Nat.le_refl now), advance_advance m (Nat.le_refl now)]

theorem depart_body (m : Motor α) (now : Nat) (x : α) :
    (depart now x m.body).1 = (depart now x m).1 ∧
      (depart now x m.body).2.body = (depart now x m).2.body := by
  have hpos : m.body.positionAt now = m.positionAt now := rfl
  have htime : ∀ (k : Motor α) y, ({ k.body with target := some x } : Motor α).travelTime y =
      ({ k with target := some x } : Motor α).travelTime y := fun _ _ => rfl
  unfold depart
  dsimp only
  rw [advance_body, hpos, htime]
  generalize m.advance now = k
  cases ({ k with target := some x } : Motor α).travelTime (x - m.positionAt now) with
  | none => exact ⟨rfl, rfl⟩
  | some travel =>
    have hsettling : ({ k.body with target := some x } : Motor α).settlingTime =
        ({ k with target := some x } : Motor α).settlingTime := rfl
    dsimp only
    rw [hsettling]
    split <;> exact ⟨rfl, rfl⟩

omit [Scalar α] in
theorem Alike.trans {k : Motor α} (h : Alike t m m') (h' : Alike t m' k) : Alike t m k :=
  Eq.trans h h'

omit [Scalar α] in
theorem Alike.symm (h : Alike t m m') : Alike t m' m := Eq.symm h

omit [Scalar α] in
theorem Alike.advanced (h : Alike now m m') : Alike now (m.advance now) (m'.advance now) :=
  ((alike_advance m now).trans h).trans (alike_advance m' now).symm

theorem Alike.positionAt (h : Alike now m m') : m.positionAt now = m'.positionAt now :=
  h.seen (·.positionAt now) (fun _ => rfl) fun k => positionAt_advance k (Nat.le_refl now)

theorem alike_read (hquiet : m.faults.Quiet) (now maxAge : Nat) :
    Alike now (read now maxAge m).2 m := by
  rw [read_of_quiet hquiet]
  split
  · rfl
  · have hread : Alike now { m.advance now with
        cache := .put (m.positionAt now) now, hardwareReads := m.hardwareReads + 1 }
        (m.advance now) := by
      refine alike_of_body ?_ now
      rfl
    exact hread.trans (alike_advance m now)

theorem serve_alike (hquiet : m.faults.Quiet) (h : Alike now m m') (q : Request α) :
    (q.isAged = false → (serve now q m).1 = (serve now q m').1) ∧
      (serve now q m).2.2 = (serve now q m').2.2 ∧
      Alike (serve now q m).2.2 (serve now q m).2.1 (serve now q m').2.1 := by
  have hquiet' : m'.faults.Quiet := by
    rw [← h.seen (·.faults) (fun _ => rfl) fun k => faults_advance k now]
    exact hquiet
  cases q with
  | read maxAge =>
    refine ⟨fun hage => ?_, rfl, ?_⟩
    · obtain rfl : maxAge = fresh := by simpa [Request.isAged, fresh] using hage
      rw [serve, serve, read_of_quiet hquiet, read_of_quiet hquiet', Cache.get?_fresh,
        Cache.get?_fresh]
      exact congrArg (fun x => Reply.value (.ok (.scalar x))) h.positionAt
    · exact ((alike_read hquiet now maxAge).trans h).trans (alike_read hquiet' now maxAge).symm
  | start target =>
    have hchecked : m.checkedTarget target = m'.checkedTarget target :=
      h.seen (·.checkedTarget target) (fun _ => rfl) fun k => checkedTarget_advance k now target
    rw [serve, serve, start_of_quiet hquiet, start_of_quiet hquiet', ← hchecked]
    cases m.checkedTarget target with
    | error e => exact ⟨fun _ => rfl, rfl, h⟩
    | ok x =>
      have hdepart : ((depart now x m).1, (depart now x m).2.body) =
          ((depart now x m').1, (depart now x m').2.body) := by
        refine h.seen (fun k => ((depart now x k).1, (depart now x k).2.body)) (fun k => ?_)
          fun k => ?_
        · exact Prod.ext (depart_body k now x).1 (depart_body k now x).2
        · simp only [depart_advance]
      obtain ⟨hresult, hbody⟩ := Prod.mk.inj hdepart
      exact ⟨fun _ => congrArg (fun r => Reply.done (r.map fun _ => ())) hresult, rfl,
        alike_of_body hbody now⟩
  | stop =>
    rw [serve, serve, stop_of_guard (guard_of_quiet hquiet .stop),
      stop_of_guard (guard_of_quiet hquiet' .stop)]
    refine ⟨fun _ => rfl, rfl, alike_of_body ?_ now⟩
    change (m.place (m.positionAt now)).body = (m'.place (m'.positionAt now)).body
    rw [h.positionAt]
    exact h.seen (fun k => (k.place (m'.positionAt now)).body) (fun _ => rfl)
      fun k => by rw [place_advance]
  | wait pace beats =>
    have hawaited : m.awaited pace ⟨now, beats, 0⟩ = m'.awaited pace ⟨now, beats, 0⟩ :=
      h.seen (·.awaited pace ⟨now, beats, 0⟩) (fun _ => rfl)
        fun k => awaited_advance k pace ⟨now, beats, 0⟩
    have hname : m.name = m'.name := h.seen (·.name) (fun _ => rfl) fun k => name_advance k now
    have htiming : m.timing = m'.timing :=
      h.seen (·.timing) (fun _ => rfl) fun k => timing_advance k now
    have hendless : m.isEndless = m'.isEndless :=
      h.seen (·.isEndless) (fun _ => rfl) fun k => isEndless_advance k now
    have hle := now_le_awaited m pace ⟨now, beats, 0⟩
    rw [serve, serve, wait_of_guard pace ⟨now, beats, 0⟩ (guard_of_quiet hquiet .wait),
      wait_of_guard pace ⟨now, beats, 0⟩ (guard_of_quiet hquiet' .wait), ← hendless,
      ← hawaited, ← hname]
    cases m.isEndless with
    | true => exact ⟨fun _ => rfl, rfl, h⟩
    | false =>
      rcases hawait : m.awaited pace ⟨now, beats, 0⟩ with ⟨_ | _, clock⟩
      · rw [hawait] at hle
        refine ⟨fun _ => ?_, rfl, h.of_le hle⟩
        simp only [Bool.false_eq_true, if_false, afterWait, hname, htiming]
      · rw [hawait] at hle
        exact ⟨fun _ => rfl, rfl, (h.of_le hle).advanced⟩
  | status =>
    have hstatus : m.status now = m'.status now :=
      h.seen (·.status now) (fun _ => rfl) fun k => status_advance k now
    exact ⟨fun _ => congrArg Reply.status hstatus, rfl, h.advanced⟩
  | place x =>
    refine ⟨fun _ => rfl, rfl, alike_of_body ?_ now⟩
    exact h.seen (fun k => (k.place x).body) (fun _ => rfl) fun k => by rw [place_advance]
  | position => exact ⟨fun _ => congrArg Reply.position h.positionAt, rfl, h.advanced⟩
  | isMoving =>
    have hmoving : m.isMoving now = m'.isMoving now :=
      h.seen (·.isMoving now) (fun _ => rfl) fun k => isMoving_advance k (Nat.le_refl now)
    exact ⟨fun _ => congrArg Reply.isMoving hmoving, rfl, h.advanced⟩
  | target =>
    have htarget : m.target = m'.target :=
      h.seen (·.target) (fun _ => rfl) fun k => target_advance k now
    exact ⟨fun _ => congrArg Reply.target htarget, rfl, h⟩

theorem quiet_serve (hquiet : m.faults.Quiet) (now : Nat) (q : Request α) :
    (serve now q m).2.1.faults.Quiet := by
  have hsame : ∀ {k : Motor α}, k.faults = m.faults → k.faults.Quiet := fun h => h ▸ hquiet
  cases q with
  | read maxAge =>
    rw [serve, read_of_quiet hquiet]
    split
    · exact hquiet
    · exact hsame (faults_advance m now)
  | start target =>
    exact hsame (faults_of_fixed (fixed_start hquiet now target))
  | stop =>
    rw [serve, stop_of_guard (guard_of_quiet hquiet .stop)]
    exact hquiet
  | wait pace beats =>
    obtain ⟨later, -, -, hrun, -⟩ :=
      wait_advance pace ⟨now, beats, 0⟩ (guard_of_quiet hquiet .wait)
    simp only [serve, hrun]
    exact hsame (faults_advance m later)
  | place x => exact hquiet
  | target => exact hquiet
  | status => exact hsame (faults_advance m now)
  | position => exact hsame (faults_advance m now)
  | isMoving => exact hsame (faults_advance m now)

theorem serve_ignoresLooks :
    (serve : Service (Request α) (Motor α) (Reply α)).IgnoresLooks Request.isAged
      Request.IsLook fun t m m' => m.faults.Quiet ∧ Alike t m m' where
  lasts h ht := ⟨h.1, h.2.of_le ht⟩
  serve q h := by
    obtain ⟨hreply, hend, halike⟩ := serve_alike h.1 h.2 q
    exact ⟨hreply, hend, quiet_serve h.1 _ q, halike⟩
  look {now m m' q} hlook h := by
    refine ⟨quiet_serve h.1 now q, ?_⟩
    have hadvance := (alike_advance m now).trans h.2
    cases q with
    | read maxAge => exact (alike_read h.1 now maxAge).trans h.2
    | status => exact hadvance
    | position => exact hadvance
    | isMoving => exact hadvance
    | target => exact h.2
    | start target => cases hlook
    | stop => cases hlook
    | wait pace beats => cases hlook
    | place x => cases hlook

end Motor

/-! ## Switches -/

namespace Switch

variable {s s' : Switch α} {t now : Nat}

/-- Advanced to `t`, the two switches are equal. -/
def Alike (t : Nat) (s s' : Switch α) : Prop := s.advance t = s'.advance t

def Request.IsLook : Request α → Prop
  | .read => True
  | .status => True
  | .current => True
  | _ => False

omit [Scalar α] in
theorem Alike.of_le (h : Alike t s s') (ht : t ≤ now) : Alike now s s' := by
  unfold Alike
  rw [← advance_advance s ht, ← advance_advance s' ht, show s.advance t = s'.advance t from h]

omit [Scalar α] in
theorem alike_advance (s : Switch α) (now : Nat) : Alike now (s.advance now) s :=
  advance_advance s (Nat.le_refl now)

omit [Scalar α] in
theorem Alike.advanced (h : Alike now s s') : Alike now (s.advance now) (s'.advance now) :=
  congrArg (advance · now) (show s.advance now = s'.advance now from h)

omit [Scalar α] in
theorem Alike.seen {γ : Type} (h : Alike now s s') (see : Switch α → γ)
    (hadvance : ∀ k, see (advance k now) = see k) : see s = see s' := by
  rw [← hadvance s, show s.advance now = s'.advance now from h, hadvance]

omit [Scalar α] in
theorem timing_advance (s : Switch α) (now : Nat) : (s.advance now).timing = s.timing := by
  have h : (s.advance now).fixed.timing = s.fixed.timing := by rw [fixed_advance]
  exact h

omit [Scalar α] in
theorem status_advance (s : Switch α) (now : Nat) :
    (s.advance now).status now = s.status now := by
  unfold status
  rw [faults_advance, name_advance, isSwitching_advance s (Nat.le_refl now),
    currentAt_advance s (Nat.le_refl now)]

omit [Scalar α] in
theorem isAllowed_advance (s : Switch α) (now : Nat) (v : Value α) :
    (s.advance now).isAllowed v = s.isAllowed v :=
  isAllowed_congr (fixed_advance s now) v

omit [Scalar α] in
theorem place_advance (s : Switch α) (now : Nat) (state : Option String) :
    (s.advance now).place state = s.place state := by
  rcases s.advance_cases now with h | ⟨_, _, -, -, h⟩
  · rw [h]
  · rw [h]
    rfl

omit [Scalar α] in
theorem depart_advance (s : Switch α) (now : Nat) (state : String) :
    (s.advance now).depart now state = s.depart now state := by
  rcases s.advance_cases now with h | ⟨_, _, -, -, h⟩
  · rw [h]
  · rw [h]
    rfl

omit [Scalar α] in
theorem awaited_advance (s : Switch α) (pace : Pace) (clock : Clock) :
    (s.advance clock.now).awaited pace clock = s.awaited pace clock := by
  unfold awaited
  rw [timing_advance]
  exact Clock.await_congr fun t ht =>
    isSwitching_advance s (Nat.le_trans (clock.now_le_look pace) ht)

theorem serve_alike (hquiet : s.faults.Quiet) (h : Alike now s s') (q : Request α) :
    (serve now q s).1 = (serve now q s').1 ∧ (serve now q s).2.2 = (serve now q s').2.2 ∧
      Alike (serve now q s).2.2 (serve now q s).2.1 (serve now q s').2.1 := by
  have hquiet' : s'.faults.Quiet := by
    rw [← h.seen (·.faults) fun k => faults_advance k now]
    exact hquiet
  cases q with
  | read =>
    rw [serve, serve, read_of_quiet hquiet, read_of_quiet hquiet',
      show s.advance now = s'.advance now from h]
    exact ⟨rfl, rfl, rfl⟩
  | start target =>
    have hallowed : s.isAllowed target = s'.isAllowed target :=
      h.seen (·.isAllowed target) fun k => isAllowed_advance k now target
    rw [serve, serve, start_of_quiet hquiet, start_of_quiet hquiet', ← hallowed]
    cases s.isAllowed target with
    | error e => exact ⟨rfl, rfl, h⟩
    | ok u =>
      refine ⟨rfl, rfl, congrArg (advance · now) ?_⟩
      exact h.seen (·.depart now (target.state?.getD "")) fun k => depart_advance k now _
  | stop => exact ⟨rfl, rfl, h⟩
  | wait pace beats =>
    have hawaited : s.awaited pace ⟨now, beats, 0⟩ = s'.awaited pace ⟨now, beats, 0⟩ :=
      h.seen (·.awaited pace ⟨now, beats, 0⟩) fun k => awaited_advance k pace ⟨now, beats, 0⟩
    have hname : s.name = s'.name := h.seen (·.name) fun k => name_advance k now
    have hle := now_le_awaited s pace ⟨now, beats, 0⟩
    rw [serve, serve, wait_of_guard pace ⟨now, beats, 0⟩ (guard_of_quiet hquiet .wait),
      wait_of_guard pace ⟨now, beats, 0⟩ (guard_of_quiet hquiet' .wait), ← hawaited]
    rcases hawait : s.awaited pace ⟨now, beats, 0⟩ with ⟨_ | _, clock⟩
    · rw [hawait] at hle
      refine ⟨?_, rfl, h.of_le hle⟩
      simp only [afterWait, hname]
    · rw [hawait] at hle
      exact ⟨rfl, rfl, (h.of_le hle).advanced⟩
  | status =>
    have hstatus : s.status now = s'.status now :=
      h.seen (·.status now) fun k => status_advance k now
    exact ⟨congrArg Reply.status hstatus, rfl, h.advanced⟩
  | place state =>
    refine ⟨rfl, rfl, congrArg (advance · now) ?_⟩
    exact h.seen (·.place state) fun k => place_advance k now state
  | current =>
    have hcurrent : s.currentAt now = s'.currentAt now :=
      h.seen (·.currentAt now) fun k => currentAt_advance k (Nat.le_refl now)
    exact ⟨congrArg Reply.current hcurrent, rfl, h.advanced⟩

theorem quiet_serve (hquiet : s.faults.Quiet) (now : Nat) (q : Request α) :
    (serve now q s).2.1.faults.Quiet := by
  have hsame : ∀ {k : Switch α}, k.faults = s.faults → k.faults.Quiet := fun h => h ▸ hquiet
  cases q with
  | read =>
    rw [serve, read_of_quiet hquiet]
    exact hsame (faults_advance s now)
  | start target => exact hsame (faults_of_fixed (fixed_start hquiet now target))
  | stop => exact hquiet
  | wait pace beats =>
    obtain ⟨later, -, -, hrun, -⟩ :=
      wait_advance pace ⟨now, beats, 0⟩ (guard_of_quiet hquiet .wait)
    simp only [serve, hrun]
    exact hsame (faults_advance s later)
  | status => exact hsame (faults_advance s now)
  | place state => exact hquiet
  | current => exact hsame (faults_advance s now)

theorem serve_ignoresLooks :
    (serve : Service (Request α) (Switch α) (Reply α)).IgnoresLooks (fun _ => false)
      Request.IsLook fun t s s' => s.faults.Quiet ∧ Alike t s s' where
  lasts h ht := ⟨h.1, h.2.of_le ht⟩
  serve q h := by
    obtain ⟨hreply, hend, halike⟩ := serve_alike h.1 h.2 q
    exact ⟨fun _ => hreply, hend, quiet_serve h.1 _ q, halike⟩
  look {now s s' q} hlook h := by
    refine ⟨quiet_serve h.1 now q, ?_⟩
    have hadvance := (alike_advance s now).trans h.2
    cases q with
    | read =>
      rw [serve, read_of_quiet h.1]
      exact hadvance
    | status => exact hadvance
    | current => exact hadvance
    | start target => cases hlook
    | stop => cases hlook
    | wait pace beats => cases hlook
    | place state => cases hlook

end Switch

/-! ## The main result -/

open Service in
/-- **Polling.** Let a motor or a switch have no faults, and take an orderly run with extra looks.
Then the run without them (`plain`) is orderly and gives the same answers to all other requests, up
to readings of a motor with a max age. At every time from the end of the run on both runs have left
devices that are equal when advanced (for a motor: of the same `body`), and that answer every
request the same, with the same exception. Advancing composes: to `t` and then to `now` is to `now`.
-/
theorem looks_inert (since : Nat) :
    (∀ (m : Motor α) (xs : List (Timed (Tagged (Motor.Request α)))), m.faults.Quiet →
      (∀ x ∈ xs, x.request.extra = true → x.request.request.IsLook) →
      Motor.serve.tagged.Orderly since xs m →
      let f := Motor.serve.tagged
      f.Orderly since (plain xs) m ∧
      compared Motor.Request.isAged (f.answers xs m) =
        compared Motor.Request.isAged (f.answers (plain xs) m) ∧
      ∀ now, f.ends since xs m ≤ now →
        ((f.after xs m).advance now).body = ((f.after (plain xs) m).advance now).body ∧
        ∀ q : Motor.Request α, q.isAged = false →
          (Motor.serve now q (f.after xs m)).1 = (Motor.serve now q (f.after (plain xs) m)).1) ∧
    (∀ (s : Switch α) (xs : List (Timed (Tagged (Switch.Request α)))), s.faults.Quiet →
      (∀ x ∈ xs, x.request.extra = true → x.request.request.IsLook) →
      Switch.serve.tagged.Orderly since xs s →
      let f := Switch.serve.tagged
      f.Orderly since (plain xs) s ∧
      compared (fun _ => false) (f.answers xs s) =
        compared (fun _ => false) (f.answers (plain xs) s) ∧
      ∀ now, f.ends since xs s ≤ now →
        (f.after xs s).advance now = (f.after (plain xs) s).advance now ∧
        ∀ q : Switch.Request α,
          (Switch.serve now q (f.after xs s)).1 = (Switch.serve now q (f.after (plain xs) s)).1) ∧
    (∀ (m : Motor α) t now, t ≤ now → (m.advance t).advance now = m.advance now) ∧
    ∀ (s : Switch α) t now, t ≤ now → (s.advance t).advance now = s.advance now := by
  refine ⟨fun m xs hquiet hlook h => ?_, fun s xs hquiet hlook h => ?_,
    fun m t now ht => m.advance_advance ht, fun s t now ht => s.advance_advance ht⟩
  · obtain ⟨horderly, hanswers, hend⟩ :=
      Motor.serve_ignoresLooks.extra_looks Motor.serve_forward hlook h ⟨hquiet, rfl⟩
    refine ⟨horderly, hanswers, fun now hnow => ?_⟩
    have hlater := Motor.serve_ignoresLooks.lasts hend hnow
    exact ⟨hlater.2, fun q hq => (Motor.serve_ignoresLooks.serve q hlater).1 hq⟩
  · obtain ⟨horderly, hanswers, hend⟩ :=
      Switch.serve_ignoresLooks.extra_looks Switch.serve_forward hlook h ⟨hquiet, rfl⟩
    refine ⟨horderly, hanswers, fun now hnow => ?_⟩
    have hlater := Switch.serve_ignoresLooks.lasts hend hnow
    exact ⟨hlater.2, fun q => (Switch.serve_ignoresLooks.serve q hlater).1 rfl⟩

/-- An axis that arrives at 1000 and has settled at 1050. -/
def Motor.underway : Motor Float :=
  { make "a" with pacing := .realistic, target := some 9, motion := some ⟨0, 9, 0, 1000, 50⟩ }

/-- A reading and a stop, with three extra looks at the times 1000 and 1050. -/
def Motor.glimpsed : List (Timed (Tagged (Motor.Request Float))) :=
  [⟨100, false, .read fresh⟩, ⟨1000, true, .position⟩, ⟨1050, true, .status⟩,
    ⟨1050, true, .read fresh⟩, ⟨1050, false, .stop⟩]

/-- A switch whose change is done at 7. -/
def Switch.leaving : Switch Float :=
  { make "s" defaultStates none with pacing := .realistic, pending := some ("out", 7) }

def Switch.glimpsed : List (Timed (Tagged (Switch.Request Float))) :=
  [⟨6, true, .status⟩, ⟨7, true, .current⟩, ⟨7, false, .start (.state "in")⟩, ⟨8, true, .read⟩]

/-- `looks_inert` where the extra looks come exactly when the motion or the change is over. -/
theorem looks_inert_glimpsed :
    Motor.underway.faults.Quiet ∧
    (∀ x ∈ Motor.glimpsed, x.request.extra = true → x.request.request.IsLook) ∧
    Motor.serve.tagged.Orderly 0 Motor.glimpsed Motor.underway ∧
    Service.plain Motor.glimpsed = [⟨100, false, .read fresh⟩, ⟨1050, false, .stop⟩] ∧
    (∀ now, 1050 ≤ now →
      ((Motor.serve.tagged.after Motor.glimpsed Motor.underway).advance now).body =
        ((Motor.serve.tagged.after (Service.plain Motor.glimpsed) Motor.underway).advance
          now).body) ∧
    Switch.leaving.faults.Quiet ∧
    (∀ x ∈ Switch.glimpsed, x.request.extra = true → x.request.request.IsLook) ∧
    Switch.serve.tagged.Orderly 0 Switch.glimpsed Switch.leaving ∧
    Service.plain Switch.glimpsed = [⟨7, false, .start (.state "in")⟩] ∧
    ∀ now, 8 ≤ now →
      (Switch.serve.tagged.after Switch.glimpsed Switch.leaving).advance now =
        (Switch.serve.tagged.after (Service.plain Switch.glimpsed) Switch.leaving).advance now := by
  have hquiet : Motor.underway.faults.Quiet := Faults.quiet_none
  have hquiet' : Switch.leaving.faults.Quiet := Faults.quiet_none
  have hlooks : ∀ x ∈ Motor.glimpsed, x.request.extra = true → x.request.request.IsLook := by
    simp [Motor.glimpsed, Motor.Request.IsLook, fresh]
  have hlooks' : ∀ x ∈ Switch.glimpsed, x.request.extra = true → x.request.request.IsLook := by
    simp [Switch.glimpsed, Switch.Request.IsLook]
  have horderly : Motor.serve.tagged.Orderly 0 Motor.glimpsed Motor.underway :=
    ⟨by decide, by decide, by decide, by decide, by decide, trivial⟩
  have horderly' : Switch.serve.tagged.Orderly 0 Switch.glimpsed Switch.leaving :=
    ⟨by decide, by decide, by decide, by decide, trivial⟩
  obtain ⟨hmotor, hswitch, -⟩ := looks_inert (α := Float) 0
  obtain ⟨-, -, hend⟩ := hmotor Motor.underway Motor.glimpsed hquiet hlooks horderly
  obtain ⟨-, -, hend'⟩ := hswitch Switch.leaving Switch.glimpsed hquiet' hlooks' horderly'
  exact ⟨hquiet, hlooks, horderly, rfl, fun now hnow => (hend now hnow).1, hquiet', hlooks',
    horderly', rfl, fun now hnow => (hend' now hnow).1⟩

end Beamline
