import Beamline.Geometry.Linear
import Beamline.Proofs.Recording
import Beamline.Scalar.Binary64

/-!
The exchanges of a move, for any controls, so that every answer of the devices is covered. Proved
here:

* `checkInterlock_asks`, `activate_startAxes_asks`: the exchanges of the stages of a move;
* `dispatch_moves`: those of a planned move are one of the cases of `Moves`;
* `moveTo_mirrors`: recording them changes neither the answer nor the world;
* `moveTo_exchanges`: a move without a plan makes no exchange, and one with a plan those of `Moves`.
-/

namespace Beamline

variable {ι σ α : Type}

/-! ## Starting one device after another -/

/-- The exchanges of carrying out orders in turn, up to the first that is refused. -/
inductive Started : List (ι × Value α) → List (Exchange ι α) → Prop
  | done : Started [] []
  | accepted {d : ι} {v : Value α} {orders : List (ι × Value α)} {xs : List (Exchange ι α)} :
      Started orders xs → Started ((d, v) :: orders) (.start d v (.ok ()) :: xs)
  | refused {d : ι} {v : Value α} {orders : List (ι × Value α)} {e : DeviceError α} :
      Started ((d, v) :: orders) [.start d v (.error e)]

/-- The result of the first start that was refused, or else `.ok ()`. -/
def startsOutcome : List (Exchange ι α) → Except (DeviceError α) Unit
  | [] => .ok ()
  | .start _ _ (.error e) :: _ => .error e
  | _ :: xs => startsOutcome xs

theorem startsOutcome_eq_ok_iff {xs : List (Exchange ι α)} :
    startsOutcome xs = .ok () ↔ ∀ d v e, .start d v (.error e) ∉ xs := by
  fun_induction startsOutcome xs with
  | case1 => simp
  | case2 d v e xs =>
    simp only [reduceCtorEq, false_iff]
    exact fun h => h d v e List.mem_cons_self
  | case3 x xs hx ih =>
    simp only [ih, List.mem_cons, not_or]
    exact ⟨fun h d v e => ⟨fun he => hx d v e he.symm, h d v e⟩, fun h d v e => (h d v e).2⟩

theorem Started.append {os₁ os₂ : List (ι × Value α)} {xs ys : List (Exchange ι α)}
    (h₁ : Started os₁ xs) (hok : startsOutcome xs = .ok ()) (h₂ : Started os₂ ys) :
    Started (os₁ ++ os₂) (xs ++ ys) ∧ startsOutcome (xs ++ ys) = startsOutcome ys := by
  induction h₁ with
  | done => exact ⟨h₂, rfl⟩
  | accepted _ ih =>
    obtain ⟨hs, ho⟩ := ih hok
    exact ⟨.accepted hs, ho⟩
  | refused => cases hok

theorem Started.append_error {os₁ : List (ι × Value α)} (os₂ : List (ι × Value α))
    {xs : List (Exchange ι α)} {e : DeviceError α} (h₁ : Started os₁ xs)
    (he : startsOutcome xs = .error e) : Started (os₁ ++ os₂) xs := by
  induction h₁ with
  | done => cases he
  | accepted _ ih => exact .accepted (ih he)
  | refused => exact .refused

/-- `x` makes exchanges that are `Started` of the orders, and has their `startsOutcome`. -/
def Carries (x : Action (Recorded ι σ α) (DeviceError α) Unit) (w : Recorded ι σ α)
    (orders : List (ι × Value α)) : Prop :=
  ∃ xs, Started orders xs ∧ Asks x w xs (startsOutcome xs)

namespace Carries

theorem pure (w : Recorded ι σ α) : Carries (pure ()) w [] :=
  ⟨[], .done, Asks.pure () w⟩

theorem start (k : Controls ι σ α) (d : ι) (v : Value α) (w : Recorded ι σ α) :
    Carries (k.recorded.start d v) w [(d, v)] := by
  have hx := Asks.exchange (k.start d v) (Exchange.start d v) w
  refine ⟨[.start d v (k.start d v w.1).1], ?_, ?_⟩
  · cases (k.start d v w.1).1 with
    | ok u => exact .accepted .done
    | error e => exact .refused
  · cases h : (k.start d v w.1).1 with
    | ok u => rw [h] at hx; exact hx
    | error e => rw [h] at hx; exact hx

theorem after {β : Type} {x : Action (Recorded ι σ α) (DeviceError α) β} {b : β}
    {f : β → Action (Recorded ι σ α) (DeviceError α) Unit} {w : Recorded ι σ α}
    {orders : List (ι × Value α)} (hx : Asks x w [] (.ok b)) (hf : Carries (f b) (x w).2 orders) :
    Carries (x >>= f) w orders := by
  obtain ⟨xs, hs, ha⟩ := hf
  exact ⟨xs, hs, hx.after ha⟩

/-- The orders of the second action follow only if the first one is `.ok ()`. -/
theorem bind {x : Action (Recorded ι σ α) (DeviceError α) Unit}
    {f : Unit → Action (Recorded ι σ α) (DeviceError α) Unit} {w : Recorded ι σ α}
    {os₁ os₂ : List (ι × Value α)} (hx : Carries x w os₁) (hf : ∀ w', Carries (f ()) w' os₂) :
    Carries (x >>= f) w (os₁ ++ os₂) := by
  obtain ⟨xs, hs, ha⟩ := hx
  cases ho : startsOutcome xs with
  | ok u =>
    rw [ho] at ha
    obtain ⟨ys, hs', ha'⟩ := hf (x w).2
    obtain ⟨hall, hout⟩ := hs.append ho hs'
    exact ⟨xs ++ ys, hall, hout ▸ ha.bind ha'⟩
  | error e =>
    rw [ho] at ha
    exact ⟨xs, hs.append_error os₂ ho, ho ▸ Asks.bind_error f ha⟩

end Carries

/-! ## The exchanges of a move -/

/-- The exchange with an interlock that reads the required state. -/
inductive Unlocked : Option (Interlock ι) → List (Exchange ι α) → Prop
  | absent : Unlocked none []
  | satisfied {l : Interlock ι} :
      Unlocked (some l) [.read l.device fresh (.ok (.state l.required))]

/-- The exchange with the gate, and the order for it unless it reads its active state. -/
inductive GateAsked : Option (Gate ι) → List (Exchange ι α) → List (ι × Value α) → Prop
  | absent : GateAsked none [] []
  | active {g : Gate ι} :
      GateAsked (some g) [.read g.device fresh (.ok (.state g.active))] []
  | elsewhere {g : Gate ι} {answer : Except (DeviceError α) (Value α)}
      (h : answer ≠ .ok (.state g.active)) :
      GateAsked (some g) [.read g.device fresh answer] [(g.device, .state g.active)]

theorem Unlocked.no_start {lock : Option (Interlock ι)} {xs : List (Exchange ι α)} {d : ι}
    {v : Value α} {r : Except (DeviceError α) Unit} (h : Unlocked lock xs) : .start d v r ∉ xs := by
  cases h <;> simp

theorem GateAsked.no_start {gate : Option (Gate ι)} {xs : List (Exchange ι α)}
    {orders : List (ι × Value α)} {d : ι} {v : Value α} {r : Except (DeviceError α) Unit}
    (h : GateAsked gate xs orders) : .start d v r ∉ xs := by
  cases h <;> simp

variable [Scalar α]

namespace Composite

/-- The order for each axis, with its own value. -/
def axisOrders (c : Composite ι α) (values : List α) : List (ι × Value α) :=
  (c.axes.zip values).map fun p => (p.1.device, .scalar p.2)

/-- The exchanges and the result of a move with a plan, case by case. -/
inductive Moves (c : Composite ι α) :
    Value α → List (Exchange ι α) → Except (DeviceError α) Unit → Prop
  | parked {g : Gate ι} {r : Except (DeviceError α) Unit} (hg : c.gate = some g) :
      Moves c .null [.start g.device (.state g.parked) r] r
  | unreadable {x : α} {l : Interlock ι} {e : DeviceError α} (hl : c.interlock = some l) :
      Moves c (.scalar x) [.read l.device fresh (.error e)] (.error e)
  | locked {x : α} {l : Interlock ι} {v : Value α} {name : String} (hl : c.interlock = some l)
      (hv : v ≠ .state l.required) :
      Moves c (.scalar x) [.read l.device fresh (.ok v)]
        (.error (.invalidValue c.name (.interlock name v l.required)))
  | driven {x : α} {values : List α} {lock gate starts : List (Exchange ι α)}
      {gateOrders : List (ι × Value α)} (hf : c.reconciler.transform.forward x = .ok values)
      (hlen : values.length = c.axes.length) (hl : Unlocked c.interlock lock)
      (hg : GateAsked c.gate gate gateOrders)
      (hs : Started (gateOrders ++ c.axisOrders values) starts) :
      Moves c (.scalar x) (lock ++ gate ++ starts) (startsOutcome starts)

/-- The target is `.null`, or the interlock has read the required state. -/
def Passes (c : Composite ι α) (target : Value α) (xs : List (Exchange ι α)) : Prop :=
  target = .null ∨ ∀ l ∈ c.interlock, .read l.device fresh (.ok (.state l.required)) ∈ xs

theorem Moves.ok_iff {c : Composite ι α} {target : Value α} {xs : List (Exchange ι α)}
    {r : Except (DeviceError α) Unit} (h : Moves c target xs r) :
    r = .ok () ↔ c.Passes target xs ∧ ∀ d v e, .start d v (.error e) ∉ xs := by
  cases h with
  | @parked g _ hg =>
    cases r with
    | ok u => simp [Passes]
    | error e => simp [Passes]
  | unreadable hl => simp [Passes, hl]
  | locked hl hv => simp [Passes, hl, Ne.symm hv]
  | @driven x values lock gate starts orders hf hlen hl hg hs =>
    have hpass : c.Passes (.scalar x) (lock ++ gate ++ starts) := by
      refine .inr fun l hmem => ?_
      rw [hmem] at hl
      cases hl
      simp
    have hreads : ∀ d v e, Exchange.start d v (.error e) ∉ lock ++ gate := fun d v e hmem =>
      (List.mem_append.mp hmem).elim hl.no_start hg.no_start
    simp only [startsOutcome_eq_ok_iff, hpass, true_and, List.mem_append (s := lock ++ gate),
      hreads, false_or]

variable {c : Composite ι α} {k : Controls ι σ α} {w : Recorded ι σ α}

/-! ## Each stage of a move -/

theorem startAxes_carries (axes : List (Axis ι)) (sps : List (Setpoint α)) (w : Recorded ι σ α) :
    Carries (c.startAxes k.recorded axes sps) w
      ((axes.zip sps).map fun p => (p.1.device, .scalar p.2.value)) := by
  induction axes generalizing sps w with
  | nil => exact Carries.pure w
  | cons a axes ih =>
    cases sps with
    | nil => exact Carries.pure w
    | cons sp sps =>
      refine Carries.after (Asks.look w) (Carries.after (Asks.say k _ _ _ _) ?_)
      exact (Carries.start k a.device (.scalar sp.value) _).bind fun w' => ih sps w'

theorem axisOrders_of_plan {s : σ} {x : α} {values : List α} {sps : List (Setpoint α)}
    (hv : c.setpointValues x = .ok values) (ha : planAxes k s c.axes values = .ok sps) :
    ((c.axes.zip sps).map fun p => (p.1.device, Value.scalar p.2.value)) = c.axisOrders values := by
  have hvalues := planAxes_values (setpointValues_ok hv).2 ha
  simp only [axisOrders, ← hvalues, List.zip_map_right, List.map_map]
  rfl

theorem activate_asks (g : Gate ι) (w : Recorded ι σ α) :
    ∃ gate orders starts, GateAsked (some g) gate orders ∧ Started orders starts ∧
      Asks (c.activate k.recorded g) w (gate ++ starts) (startsOutcome starts) := by
  obtain ⟨e, ⟨hactive, hrun⟩ | ⟨helsewhere, hrun⟩⟩ := activate_cases c k.recorded g w
  · refine ⟨_, [], [], .active, .done, ?_⟩
    rw [← hactive]
    exact ⟨congrArg Prod.fst hrun, congrArg (fun run => run.2.2) hrun⟩
  · obtain ⟨starts, hs, ha⟩ := Carries.start k g.device (.state g.active)
      (k.recorded.note e (k.recorded.read g.device fresh w).2)
    refine ⟨_, _, starts, .elsewhere helsewhere, hs, ?_⟩
    unfold Asks
    rw [hrun, ← List.append_assoc]
    exact ha

theorem checkInterlock_asks (w : Recorded ι σ α) :
    (∃ lock, Unlocked c.interlock lock ∧ Asks (c.checkInterlock k.recorded fresh) w lock (.ok ())) ∨
    ∃ l, c.interlock = some l ∧
      ((∃ e, Asks (c.checkInterlock k.recorded fresh) w [.read l.device fresh (.error e)]
          (.error e)) ∨
        ∃ v name, v ≠ .state l.required ∧
          Asks (c.checkInterlock k.recorded fresh) w [.read l.device fresh (.ok v)]
            (.error (.invalidValue c.name (.interlock name v l.required)))) := by
  unfold checkInterlock
  cases c.interlock with
  | none => exact .inl ⟨[], .absent, Asks.pure () w⟩
  | some l =>
    have hread := Asks.exchange (k.read l.device fresh) (Exchange.read l.device fresh) w
    cases hr : (k.read l.device fresh w.1).1 with
    | error e =>
      rw [hr] at hread
      exact .inr ⟨l, rfl, .inl ⟨e, Asks.bind_error _ hread⟩⟩
    | ok v =>
      rw [hr] at hread
      by_cases hv : v = .state l.required
      · subst hv
        refine .inl ⟨_, .satisfied, hread.before ?_⟩
        rw [if_pos (Value.isState_iff.mpr rfl)]
        exact Asks.pure () _
      · refine .inr ⟨l, rfl, .inr ⟨v, k.name (k.read l.device fresh w.1).2 l.device, hv,
          hread.before ?_⟩⟩
        rw [if_neg fun h => hv (Value.isState_iff.mp h)]
        exact (Asks.look _).after (Asks.fail _ _)

theorem activate_startAxes_asks (g : Gate ι) (sps : List (Setpoint α)) (w : Recorded ι σ α) :
    ∃ gate orders starts, GateAsked (some g) gate orders ∧
      Started (orders ++ (c.axes.zip sps).map fun p => (p.1.device, .scalar p.2.value)) starts ∧
      Asks (do c.activate k.recorded g; c.startAxes k.recorded c.axes sps) w (gate ++ starts)
        (startsOutcome starts) := by
  obtain ⟨gate, orders, xs, hg, hs, ha⟩ := activate_asks (c := c) (k := k) g w
  cases ho : startsOutcome xs with
  | error e =>
    rw [ho] at ha
    exact ⟨gate, orders, xs, hg, hs.append_error _ ho, ho ▸ Asks.bind_error _ ha⟩
  | ok u =>
    rw [ho] at ha
    obtain ⟨ys, hs', ha'⟩ := startAxes_carries (c := c) (k := k) c.axes sps
      (c.activate k.recorded g w).2
    obtain ⟨hall, hout⟩ := hs.append ho hs'
    exact ⟨gate, orders, xs ++ ys, hg, hall, by rw [hout, ← List.append_assoc]; exact ha.bind ha'⟩

theorem dispatch_drives {x : α} {values : List α} {plan : Plan α} (ht : plan.target = .scalar x)
    (hv : c.setpointValues x = .ok values)
    (ha : planAxes k w.1 c.axes values = .ok plan.setpoints) :
    ∃ xs r, Moves c (.scalar x) xs r ∧ Asks (c.dispatch k.recorded plan) w xs r := by
  obtain ⟨hf, hlen⟩ := setpointValues_ok hv
  have horders := axisOrders_of_plan hv ha
  -- with a gate or without, a move first checks the interlock and then goes on the same way
  have hrest : ∃ rest : Action (Recorded ι σ α) (DeviceError α) Unit,
      c.dispatch k.recorded plan = (c.checkInterlock k.recorded fresh >>= fun _ => rest) ∧
      ∀ w', ∃ gate orders starts, GateAsked c.gate gate orders ∧
        Started (orders ++ c.axisOrders values) starts ∧
        Asks rest w' (gate ++ starts) (startsOutcome starts) := by
    unfold dispatch
    rw [ht]
    cases c.gate with
    | none =>
      refine ⟨_, rfl, fun w' => ?_⟩
      obtain ⟨starts, hs, hasks⟩ := startAxes_carries (c := c) (k := k) c.axes plan.setpoints w'
      exact ⟨[], [], starts, .absent, horders ▸ hs, hasks⟩
    | some g =>
      refine ⟨_, rfl, fun w' => ?_⟩
      rw [← horders]
      exact activate_startAxes_asks g plan.setpoints w'
  obtain ⟨rest, hdispatch, hrest⟩ := hrest
  rw [hdispatch]
  rcases checkInterlock_asks (c := c) (k := k) w with
    ⟨lock, hl, hasks⟩ | ⟨l, hl, ⟨e, hasks⟩ | ⟨v, name, hne, hasks⟩⟩
  · obtain ⟨gate, orders, starts, hg, hs, hgo⟩ := hrest (c.checkInterlock k.recorded fresh w).2
    refine ⟨lock ++ gate ++ starts, _, .driven hf hlen hl hg hs, ?_⟩
    rw [List.append_assoc]
    exact hasks.bind hgo
  · exact ⟨_, _, .unreadable hl, Asks.bind_error _ hasks⟩
  · exact ⟨_, _, .locked hl hne, Asks.bind_error _ hasks⟩

/-! ## Recording a move changes nothing -/

theorem plan_recorded (c : Composite ι α) (k : Controls ι σ α) (w : Recorded ι σ α)
    (target : Value α) : c.plan k.recorded w target = c.plan k w.1 target := by
  have hname : k.recorded.name w = k.name w.1 := rfl
  have hallowed : k.recorded.isAllowed w = k.isAllowed w.1 := rfl
  exact plan_congr hname hallowed c target

theorem checkInterlock_mirrors (c : Composite ι α) (k : Controls ι σ α) (maxAge : Nat) :
    Mirrors (c.checkInterlock k.recorded maxAge) (c.checkInterlock k maxAge) := by
  unfold checkInterlock
  cases c.interlock with
  | none => exact Mirrors.pure ()
  | some l =>
    refine Mirrors.bind (Mirrors.exchange _ _) fun v => ?_
    split
    · exact Mirrors.pure ()
    · exact Mirrors.look fun w => Mirrors.fail _

theorem activate_mirrors (c : Composite ι α) (k : Controls ι σ α) (g : Gate ι) :
    Mirrors (c.activate k.recorded g) (c.activate k g) := by
  refine Mirrors.bind (Mirrors.exchange _ _).attempt fun r => Mirrors.look fun w => ?_
  exact Mirrors.ite (Mirrors.say k _ _ _)
    (Mirrors.bind (Mirrors.say k _ _ _) fun _ => Mirrors.exchange _ _)

theorem startAxes_mirrors (c : Composite ι α) (k : Controls ι σ α) (axes : List (Axis ι))
    (sps : List (Setpoint α)) :
    Mirrors (c.startAxes k.recorded axes sps) (c.startAxes k axes sps) := by
  induction axes generalizing sps with
  | nil => exact Mirrors.pure ()
  | cons a axes ih =>
    cases sps with
    | nil => exact Mirrors.pure ()
    | cons sp sps =>
      refine Mirrors.look fun w => Mirrors.bind (Mirrors.say k _ _ _) fun _ => ?_
      exact Mirrors.bind (Mirrors.exchange _ _) fun _ => ih sps

theorem dispatch_mirrors (c : Composite ι α) (k : Controls ι σ α) (plan : Plan α) :
    Mirrors (c.dispatch k.recorded plan) (c.dispatch k plan) := by
  unfold dispatch
  split
  · exact Mirrors.bind (Mirrors.say k _ _ _) fun _ => Mirrors.exchange _ _
  · exact Mirrors.pure ()
  · refine Mirrors.bind (checkInterlock_mirrors c k _) fun _ => ?_
    exact Mirrors.bind (activate_mirrors c k _) fun _ => startAxes_mirrors c k _ _
  · exact Mirrors.bind (checkInterlock_mirrors c k _) fun _ => startAxes_mirrors c k _ _

theorem moveTo_mirrors (c : Composite ι α) (k : Controls ι σ α) (target : Value α) :
    Mirrors (c.moveTo k.recorded target) (c.moveTo k target) := by
  refine Mirrors.look fun w => ?_
  rw [plan_recorded]
  refine Mirrors.bind (Mirrors.settle _) fun plan => ?_
  split
  · exact Mirrors.bind (Mirrors.say k _ _ _) fun _ => Mirrors.pure _
  · exact Mirrors.bind (dispatch_mirrors c k plan) fun _ => Mirrors.pure _

/-! ## The whole move -/

theorem dispatch_moves {target : Value α} {plan : Plan α} (h : c.plan k w.1 target = .ok plan) :
    ∃ xs r, Moves c target xs r ∧ Asks (c.dispatch k.recorded plan) w xs r := by
  cases target with
  | null =>
    obtain ⟨⟨g, hg⟩, ht⟩ := plan_null_ok h
    have hasks : ∃ r,
        Asks (c.dispatch k.recorded plan) w [.start g.device (.state g.parked) r] r := by
      unfold dispatch
      rw [ht, hg]
      exact ⟨_, (Asks.say k _ _ _ _).after (Asks.exchange _ _ _)⟩
    obtain ⟨r, hasks⟩ := hasks
    exact ⟨_, r, .parked hg, hasks⟩
  | scalar x =>
    obtain ⟨values, -, hv, ha, -, ht⟩ := plan_scalar_ok h
    exact dispatch_drives ht hv ha
  | state name => rw [plan_state] at h; cases h

theorem moveTo_asks {target : Value α} {plan : Plan α} (hm : c.mode = .master)
    (h : c.plan k w.1 target = .ok plan) :
    ∃ xs r, Moves c target xs r ∧ Asks (c.moveTo k.recorded target) w xs (r.map fun _ => c) := by
  obtain ⟨xs, r, hmoves, hasks⟩ := dispatch_moves h
  refine ⟨xs, r, hmoves, ?_⟩
  unfold Asks
  rw [moveTo_of_plan_ok hm (h ▸ plan_recorded c k w target)]
  cases r with
  | error e => exact Asks.bind_error _ hasks
  | ok u => exact (List.append_nil xs) ▸ hasks.bind (Asks.pure c _)

/-- **Dispatch of a move.** For a composite in master mode, any controls, world and target: a move
without a plan fails with the error of `plan`, and neither makes an exchange nor changes the world.
A move with a plan makes the exchanges of one of the cases of `Moves` and leaves the composite as it
is. It is `.ok` if and only if the interlock has read the required state (`Passes`) and no start was
refused. -/
theorem moveTo_exchanges (c : Composite ι α) (k : Controls ι σ α) (s : σ) (target : Value α)
    (hm : c.mode = .master) :
    let run := c.moveTo k.recorded target (s, [])
    c.moveTo k target s = (run.1, run.2.1) ∧
      match c.plan k s target with
      | .error e => run = (.error e, s, [])
      | .ok _ => ∃ r, run.1 = (r.map fun _ => c) ∧ Moves c target run.2.2 r ∧
          (r = .ok () ↔ c.Passes target run.2.2 ∧ ∀ d v e, .start d v (.error e) ∉ run.2.2) := by
  intro run
  refine ⟨(moveTo_mirrors c k target (s, [])).symm, ?_⟩
  cases h : c.plan k s target with
  | error e => exact moveTo_of_plan_error (h ▸ plan_recorded c k (s, []) target)
  | ok plan =>
    obtain ⟨xs, r, hmoves, hrun, htrace⟩ := moveTo_asks (k := k) (w := (s, [])) hm h
    obtain rfl : run.2.2 = xs := htrace
    exact ⟨r, hrun, hmoves, hmoves.ok_iff⟩

/-! ## Example -/

/-- For the number `x` the first axis has the setpoint `x`, the second one `2 * x + 1`. -/
def pairGeometry : Linear Float := ⟨["a", "b"], 0, [1, 2], [0, 1], 2, positiveInfinity⟩

def pairReconciler : Reconciler Float where
  device := "pair"
  transform := pairGeometry.transform
  tolerances := [0.5, 0.5]
  primary_lt := by decide
  length_eq := rfl
  tolerances_ok := by decide

theorem in_ne_out : "in" ≠ "out" := by decide

/-- Two axes behind a gate. -/
def pair (gate a b : ι) (parked : String) (h : "in" ≠ parked) : Composite ι Float where
  name := "pair"
  unit := "mm"
  gate := some ⟨gate, "in", parked⟩
  interlock := none
  axes := [⟨"a", a⟩, ⟨"b", b⟩]
  reconciler := pairReconciler
  limits := .unbounded
  mode := .master
  remembered := .null
  axes_roles := rfl
  limits_ordered := by decide
  gate_states := by
    intro g hg
    cases hg
    exact h

/-- The gate 0 cannot be read, and the axis 2 cannot be started. -/
private def stubborn : Controls Nat Unit Float where
  name _ d := toString d
  format _ _ v := v.text
  isAllowed _ _ _ := .ok ()
  read d _ := Action.fail (.notFound (toString d))
  start d _ := if d = 2 then Action.fail (.notFound "2") else pure ()
  stop _ := pure ()
  wait _ := pure ()
  status _ _ s := (.idle, s)
  note _ s := s

theorem moveTo_exchanges_stubborn :
    (pair 0 1 2 "out" in_ne_out).mode = .master ∧
      Moves (pair 0 1 2 "out" in_ne_out) (.scalar 2)
        [.read 0 fresh (.error (.notFound "0")), .start 0 (.state "in") (.ok ()),
          .start 1 (.scalar 2) (.ok ()), .start 2 (.scalar 5) (.error (.notFound "2"))]
        (.error (.notFound "2")) := by
  obtain ⟨-, h⟩ := moveTo_exchanges (pair 0 1 2 "out" in_ne_out) stubborn () (.scalar 2) rfl
  have hplan : ((pair 0 1 2 "out" in_ne_out).plan stubborn () (.scalar 2)).isOk = true := by
    decide
  have htrace : ((pair 0 1 2 "out" in_ne_out).moveTo stubborn.recorded (.scalar 2) ((), [])).2.2 =
      [.read 0 fresh (.error (.notFound "0")), .start 0 (.state "in") (.ok ()),
        .start 1 (.scalar 2) (.ok ()), .start 2 (.scalar 5) (.error (.notFound "2"))] := by
    decide +kernel
  have hend : ((pair 0 1 2 "out" in_ne_out).moveTo stubborn.recorded (.scalar 2)
      ((), [])).1.map (fun _ => ()) = .error (.notFound "2") := by
    decide
  split at h
  · rename_i hp
    rw [hp] at hplan
    cases hplan
  · obtain ⟨r, hr, hmoves, -⟩ := h
    rw [hr] at hend
    obtain rfl : r = .error (.notFound "2") := except_map_eq_error.mp (except_map_eq_error.mp hend)
    exact ⟨rfl, htrace ▸ hmoves⟩

end Composite
end Beamline
