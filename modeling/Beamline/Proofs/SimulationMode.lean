import Beamline.Lab
import Beamline.Proofs.Dispatch

/-!
A composite in simulation, for every list of requests. `serve` answers one request, `serveAll` a
list of them and keeps the history of requests with their replies. Proved here:

* `serve_simulation`: one request changes the world by notes only, and the remembered value only if
  it is a move that is accepted;
* `serveAll_simulation`: so does a list of requests, and the remembered value is the target of the
  last accepted move;
* `serveAll_recorded`: no exchange with any device is made;
* `serveAll_admitted`: the remembered value is `Admitted` in some state of the run;
* `Composite.simulation_isolated` puts these together.
-/

namespace Beamline

variable {ι σ α : Type}

def Controls.noteEach (k : Controls ι σ α) (es : List Event) (s : σ) : σ :=
  es.foldl (fun s e => k.note e s) s

theorem Controls.noteEach_append (k : Controls ι σ α) (es fs : List Event) (s : σ) :
    k.noteEach (es ++ fs) s = k.noteEach fs (k.noteEach es s) :=
  List.foldl_append

/-! ## Requests -/

/-- The operations of a composite, with the two that only plan. -/
inductive Request (α : Type) where
  | move (target : Value α)
  | read (maxAge : Nat)
  | stop
  | wait
  | status (maxAge : Nat)
  | lifecycle (maxAge : Nat)
  | plan (target : Value α)
  | isAllowed (target : Value α)

inductive Reply (α : Type) where
  | done (r : Except (DeviceError α) Unit)
  | value (r : Except (DeviceError α) (Value α))
  | status (status : Status)
  | lifecycle (state : Lifecycle)
  | plan (r : Except (DeviceError α) (Plan α))

/-- The target, if the request is a move and the reply is `.ok ()`. -/
def acceptedTarget : Request α × Reply α → Option (Value α)
  | (.move target, .done (.ok ())) => some target
  | _ => none

/-- The target of the last accepted move of the history, and `v` if there is none. -/
def lastAccepted (v : Value α) (history : List (Request α × Reply α)) : Value α :=
  (history.filterMap acceptedTarget).getLastD v

theorem lastAccepted_cons (v : Value α) (entry : Request α × Reply α)
    (history : List (Request α × Reply α)) :
    lastAccepted v (entry :: history) = lastAccepted ((acceptedTarget entry).getD v) history := by
  unfold lastAccepted
  rw [List.filterMap_cons]
  cases acceptedTarget entry with
  | none => rfl
  | some target => exact List.getLastD_cons

variable [Scalar α]

namespace Composite

/-- The reply to one request, with the composite and the world after it. -/
def serve (k : Controls ι σ α) (request : Request α) (c : Composite ι α) (s : σ) :
    Reply α × Composite ι α × σ :=
  match request with
  | .move target =>
    match c.moveTo k target s with
    | (.ok c, s) => (.done (.ok ()), c, s)
    | (.error e, s) => (.done (.error e), c, s)
  | .read maxAge => (.value (c.read k maxAge s).1, c, (c.read k maxAge s).2)
  | .stop => (.done (c.stop k s).1, c, (c.stop k s).2)
  | .wait => (.done (c.wait k s).1, c, (c.wait k s).2)
  | .status maxAge => (.status (c.status k maxAge s).1, c, (c.status k maxAge s).2)
  | .lifecycle maxAge => (.lifecycle (c.lifecycle k maxAge s).1, c, (c.lifecycle k maxAge s).2)
  | .plan target => (.plan (c.plan k s target), c, s)
  | .isAllowed target => (.done (c.isAllowed k s target), c, s)

def serveAll (k : Controls ι σ α) :
    List (Request α) → Composite ι α → σ → List (Request α × Reply α) × Composite ι α × σ
  | [], c, s => ([], c, s)
  | request :: requests, c, s =>
    let (reply, c, s) := serve k request c s
    let (history, c, s) := serveAll k requests c s
    ((request, reply) :: history, c, s)

def recalling (c : Composite ι α) (v : Value α) : Composite ι α := { c with remembered := v }

variable {c : Composite ι α} {k : Controls ι σ α} {s : σ} {target : Value α} {p : Plan α}

theorem serveAll_cons {request : Request α} {reply : Reply α} {c' : Composite ι α} {s' : σ}
    (h : serve k request c s = (reply, c', s')) (requests : List (Request α)) :
    serveAll k (request :: requests) c s =
      ((request, reply) :: (serveAll k requests c' s').1, (serveAll k requests c' s').2) := by
  rw [serveAll, h]

/-! ## What an accepted target is -/

/-- `v` is `.null`, or a finite number in the limits whose setpoints, one for each axis, are allowed
in `s`. -/
def Admitted (c : Composite ι α) (k : Controls ι σ α) (s : σ) : Value α → Prop
  | .null => True
  | .scalar x => Scalar.isFinite x = true ∧ c.limits.contains x = true ∧
      ∃ values, c.reconciler.transform.forward x = .ok values ∧ values.length = c.axes.length ∧
        ∀ pair ∈ c.axes.zip values, k.isAllowed s pair.1.device (.scalar pair.2) = .ok ()
  | .state _ => False

omit [Scalar α] in
theorem planAxes_allowed {axes : List (Axis ι)} {values : List α} {sps : List (Setpoint α)}
    (h : planAxes k s axes values = .ok sps) :
    ∀ pair ∈ axes.zip values, k.isAllowed s pair.1.device (.scalar pair.2) = .ok () := by
  induction axes generalizing values sps with
  | nil => simp
  | cons a axes ih =>
    cases values with
    | nil => simp
    | cons x xs =>
      unfold planAxes at h
      split at h
      · cases h
      · rename_i hallowed
        obtain ⟨rest, hrest, -⟩ := except_map_eq_ok.mp h
        rw [List.zip_cons_cons, List.forall_mem_cons]
        exact ⟨hallowed, ih hrest⟩

theorem contains_of_checkTarget {x : α} (h : c.checkTarget (.scalar x) = .ok ()) :
    c.limits.contains x = true := by
  unfold checkTarget at h
  dsimp only at h
  rw [if_pos (isFinite_of_checkTarget h)] at h
  unfold Limits.check at h
  split at h
  · assumption
  · cases h

theorem plan_target (h : c.plan k s target = .ok p) : p.target = target := by
  cases target with
  | null => exact (plan_null_ok h).2
  | scalar x =>
    obtain ⟨-, -, -, -, -, ht⟩ := plan_scalar_ok h
    exact ht
  | state name =>
    rw [plan_state] at h
    cases h

theorem admitted_of_plan (h : c.plan k s target = .ok p) : c.Admitted k s target := by
  cases target with
  | null => trivial
  | scalar x =>
    obtain ⟨values, hcheck, hvalues, haxes, -, -⟩ := plan_scalar_ok h
    obtain ⟨hforward, hlen⟩ := setpointValues_ok hvalues
    exact ⟨isFinite_of_checkTarget hcheck, contains_of_checkTarget hcheck, values, hforward, hlen,
      planAxes_allowed haxes⟩
  | state name =>
    rw [plan_state] at h
    cases h

/-! ## One request -/

theorem read_simulation (hmode : c.mode = .simulation) (maxAge : Nat) (s : σ) :
    c.read k maxAge s = (.ok c.remembered, s) := by
  unfold read
  rw [hmode]
  rfl

theorem stop_simulation (hmode : c.mode = .simulation) (s : σ) : c.stop k s = (.ok (), s) := by
  unfold stop
  rw [hmode]
  rfl

theorem wait_simulation (hmode : c.mode = .simulation) (s : σ) : c.wait k s = (.ok (), s) := by
  unfold wait
  rw [hmode]
  rfl

theorem status_simulation (hmode : c.mode = .simulation) (maxAge : Nat) (s : σ) :
    c.status k maxAge s = (⟨.ok, "simulated"⟩, s) := by
  unfold Composite.status
  rw [hmode]

theorem lifecycle_simulation (hmode : c.mode = .simulation) (maxAge : Nat) (s : σ) :
    c.lifecycle k maxAge s = (if c.remembered.isNull then .parked else .positioned, s) := by
  unfold lifecycle
  rw [hmode]

theorem moveTo_simulation (hmode : c.mode = .simulation) (h : c.plan k s target = .ok p) :
    c.moveTo k target s = (.ok (c.recalling target),
      k.note ⟨.info, some c.name, "simulated move: " ++ p.text⟩ s) := by
  unfold moveTo
  rw [Action.bind_ok _ (rfl : Action.look s = (.ok s, s)),
    Action.bind_ok _ (show Action.settle (c.plan k s target) s = (.ok p, s) by
      rw [Action.settle, h]), ← plan_target h]
  simp only [hmode, recalling]
  rfl

theorem serve_move_reply (hmode : c.mode = .simulation) (target : Value α) (s : σ) :
    (serve k (.move target) c s).1 = .done ((c.plan k s target).map fun _ => ()) := by
  unfold serve
  dsimp only
  cases hplan : c.plan k s target with
  | error e =>
    rw [moveTo_of_plan_error hplan]
    rfl
  | ok p =>
    rw [moveTo_simulation hmode hplan]
    rfl

theorem serve_simulation (hmode : c.mode = .simulation) (request : Request α) (s : σ) :
    ∃ reply es, serve k request c s = (reply,
      c.recalling ((acceptedTarget (request, reply)).getD c.remembered), k.noteEach es s) := by
  unfold serve
  cases request with
  | move target =>
    dsimp only
    cases hplan : c.plan k s target with
    | error e =>
      rw [moveTo_of_plan_error hplan]
      exact ⟨_, [], rfl⟩
    | ok p =>
      rw [moveTo_simulation hmode hplan]
      exact ⟨_, [_], rfl⟩
  | read maxAge =>
    dsimp only
    rw [read_simulation hmode]
    exact ⟨_, [], rfl⟩
  | stop =>
    dsimp only
    rw [stop_simulation hmode]
    exact ⟨_, [], rfl⟩
  | wait =>
    dsimp only
    rw [wait_simulation hmode]
    exact ⟨_, [], rfl⟩
  | status maxAge =>
    dsimp only
    rw [status_simulation hmode]
    exact ⟨_, [], rfl⟩
  | lifecycle maxAge =>
    dsimp only
    rw [lifecycle_simulation hmode]
    exact ⟨_, [], rfl⟩
  | plan target => exact ⟨_, [], rfl⟩
  | isAllowed target => exact ⟨_, [], rfl⟩

theorem admitted_of_serve (hmode : c.mode = .simulation) (request : Request α)
    (h : acceptedTarget (request, (serve k request c s).1) = some target) :
    c.Admitted k s target := by
  cases request with
  | move t =>
    rw [serve_move_reply hmode] at h
    cases hplan : c.plan k s t with
    | error e =>
      rw [hplan] at h
      cases h
    | ok p =>
      rw [hplan] at h
      cases h
      exact admitted_of_plan hplan
  | _ => cases h

/-! ## A run -/

theorem serveAll_simulation (hmode : c.mode = .simulation) (requests : List (Request α)) (s : σ) :
    ∃ history es, serveAll k requests c s = (history,
      c.recalling (lastAccepted c.remembered history), k.noteEach es s) := by
  induction requests generalizing c s with
  | nil => exact ⟨[], [], rfl⟩
  | cons request requests ih =>
    obtain ⟨reply, es, hserve⟩ := serve_simulation (k := k) hmode request s
    obtain ⟨history, fs, hrest⟩ := ih
      (c := c.recalling ((acceptedTarget (request, reply)).getD c.remembered)) hmode
      (k.noteEach es s)
    refine ⟨(request, reply) :: history, es ++ fs, ?_⟩
    rw [serveAll_cons hserve, hrest, lastAccepted_cons, Controls.noteEach_append]
    rfl

/-- By induction on the requests: either a later move is accepted, or this one decides. -/
theorem serveAll_admitted (hmode : c.mode = .simulation) (requests : List (Request α)) (s : σ) :
    (serveAll k requests c s).2.1.remembered = c.remembered ∨
      ∃ before, before <+: requests ∧ c.Admitted k (serveAll k before c s).2.2
        (serveAll k requests c s).2.1.remembered := by
  induction requests generalizing c s with
  | nil => exact .inl rfl
  | cons request requests ih =>
    obtain ⟨reply, es, hserve⟩ := serve_simulation (k := k) hmode request s
    rw [serveAll_cons hserve]
    -- a later request decides, or else this one does if it was accepted
    rcases ih (c := c.recalling ((acceptedTarget (request, reply)).getD c.remembered)) hmode
      (k.noteEach es s) with hsame | ⟨before, hprefix, hadmitted⟩
    · cases haccepted : acceptedTarget (request, reply) with
      | none =>
        rw [haccepted] at hsame
        exact .inl hsame
      | some target =>
        refine .inr ⟨[], List.nil_prefix, ?_⟩
        rw [haccepted] at hsame
        have hadmitted : c.Admitted k s target :=
          admitted_of_serve hmode request (by rw [hserve, haccepted])
        exact hsame ▸ hadmitted
    · refine .inr ⟨request :: before, List.cons_prefix_cons.mpr ⟨rfl, hprefix⟩, ?_⟩
      rw [serveAll_cons hserve]
      exact hadmitted

/-! ## Recording a run -/

theorem serve_recorded (hmode : c.mode = .simulation) (request : Request α)
    (w : Recorded ι σ α) :
    serve k.recorded request c w = ((serve k request c w.1).1,
      (serve k request c w.1).2.1, (serve k request c w.1).2.2, w.2) := by
  unfold serve
  cases request with
  | move target =>
    dsimp only
    have hsame := plan_recorded c k w target
    cases hplan : c.plan k w.1 target with
    | error e => rw [moveTo_of_plan_error hplan, moveTo_of_plan_error (hsame.trans hplan)]
    | ok p =>
      rw [moveTo_simulation hmode hplan, moveTo_simulation hmode (hsame.trans hplan)]
      rfl
  | read maxAge =>
    dsimp only
    rw [read_simulation hmode, read_simulation hmode]
  | stop =>
    dsimp only
    rw [stop_simulation hmode, stop_simulation hmode]
  | wait =>
    dsimp only
    rw [wait_simulation hmode, wait_simulation hmode]
  | status maxAge =>
    dsimp only
    rw [status_simulation hmode, status_simulation hmode]
  | lifecycle maxAge =>
    dsimp only
    rw [lifecycle_simulation hmode, lifecycle_simulation hmode]
  | plan target =>
    dsimp only
    rw [plan_recorded]
  | isAllowed target =>
    dsimp only [isAllowed]
    rw [plan_recorded]

theorem serveAll_recorded (hmode : c.mode = .simulation) (requests : List (Request α))
    (w : Recorded ι σ α) :
    serveAll k.recorded requests c w = ((serveAll k requests c w.1).1,
      (serveAll k requests c w.1).2.1, (serveAll k requests c w.1).2.2, w.2) := by
  induction requests generalizing c w with
  | nil => rfl
  | cons request requests ih =>
    obtain ⟨reply, es, hserve⟩ := serve_simulation (k := k) hmode request w.1
    have hrecorded := serve_recorded (k := k) hmode request w
    rw [hserve] at hrecorded
    dsimp only at hrecorded
    rw [serveAll_cons hserve, serveAll_cons hrecorded,
      ih (c := c.recalling ((acceptedTarget (request, reply)).getD c.remembered)) hmode]

end Composite

theorem Draft.build_ok {d : Draft ι α} {c : Composite ι α} (h : d.build = .ok c) :
    c.mode = d.mode ∧ c.remembered = .null := by
  unfold build at h
  dsimp only at h
  split at h
  · split at h
    · cases h
    · split at h
      · split at h
        · cases h
        · split at h
          · cases h
          · cases h
            exact ⟨rfl, rfl⟩
      · cases h
  · cases h

/-! ## In a laboratory -/

theorem Lab.noteEach_events (pace : Pace) (depth : Nat) (es : List Event) (lab : Lab α) :
    (controlsTo pace depth).noteEach es lab = lab.noteAll es := by
  unfold Controls.noteEach
  rw [controlsTo_note]
  induction es generalizing lab with
  | nil => simp [noteAll]
  | cons e es ih =>
    rw [List.foldl_cons, ih]
    simp [noteAll, noted]

/-! ## The main result -/

/-- **Simulation.** Let a composite be built in simulation from any draft, and take any list of
requests in any world. The composite makes no exchange with any device, and the world changes by
notes only. Afterwards it reads as `v`, the target of the last accepted move, or `.null` if there is
none, and its lifecycle is parked if `v` is `.null` and positioned if not. A move is answered as its
plan is, and `v` was `Admitted` in some state of the run. -/
theorem Composite.simulation_isolated (d : Draft ι α) (c : Composite ι α)
    (hbuild : d.build = .ok c) (hmode : d.mode = .simulation) (k : Controls ι σ α) (s : σ)
    (requests : List (Request α)) :
    let run := serveAll k.recorded requests c (s, [])
    let c' := run.2.1
    let w := run.2.2
    let v := lastAccepted .null run.1
    serveAll k requests c s = (run.1, c', w.1) ∧
      w.2 = [] ∧ (∃ es, w.1 = k.noteEach es s) ∧
      (∀ maxAge, (c'.read k maxAge w.1).1 = .ok v) ∧
      (∀ maxAge, (v = .null → (c'.lifecycle k maxAge w.1).1 = .parked) ∧
        (v ≠ .null → (c'.lifecycle k maxAge w.1).1 = .positioned)) ∧
      (∀ target, (serve k (.move target) c' w.1).1 =
        .done ((c'.plan k w.1 target).map fun _ => ())) ∧
      ∃ before, before <+: requests ∧ c.Admitted k (serveAll k before c s).2.2 v := by
  obtain ⟨hsame, hnull⟩ := Draft.build_ok hbuild
  rw [hmode] at hsame
  have hrecorded := serveAll_recorded (k := k) hsame requests (s, [])
  have hadmitted := serveAll_admitted (k := k) hsame requests s
  obtain ⟨history, es, hserved⟩ := serveAll_simulation (k := k) hsame requests s
  rw [hnull] at hserved
  rw [hserved] at hrecorded hadmitted
  dsimp only at hrecorded ⊢
  rw [hrecorded]
  generalize hv : lastAccepted .null history = v at hserved hadmitted ⊢
  refine ⟨hserved, rfl, ⟨es, rfl⟩, fun maxAge => ?_, fun maxAge => ?_, fun target => ?_, ?_⟩
  · exact congrArg Prod.fst (read_simulation (c := c.recalling v) hsame maxAge _)
  · rw [lifecycle_simulation (c := c.recalling v) hsame]
    cases v <;> simp [recalling, Value.isNull]
  · exact serve_move_reply (c := c.recalling v) hsame target _
  · rcases hadmitted with hkept | hadmitted
    · refine ⟨[], List.nil_prefix, ?_⟩
      have : v = .null := hkept.trans hnull
      rw [this]
      trivial
    · exact hadmitted

/-! ## Example -/

/-- A pair over the composite 3 and the motor 4, to be built in simulation. -/
def outerDraft : Draft DeviceId Float where
  name := "outer"
  unit := "mm"
  transform := Composite.pairGeometry.transform
  gate := none
  interlock := none
  axes := [(⟨"a", 3⟩, 0.5), (⟨"b", 4⟩, 0.5)]
  limits := .unbounded
  mode := .simulation

/-- The motor 4 has the limits 0 and 10. -/
def nestedLab : Lab Float :=
  { Lab.empty with devices := [
    .switch (Switch.make "gate" ["in", "out"] none), .motor (Motor.make "a"),
    .motor (Motor.make "b"), .composite (Composite.pair 0 1 2 "out" Composite.in_ne_out),
    .motor { Motor.make "c" with limits := some ⟨0, 10⟩ }] }

def outerPair : Composite DeviceId Float :=
  { Composite.pair 0 3 4 "out" Composite.in_ne_out with
    name := "outer"
    reconciler := { Composite.pairReconciler with device := "outer" }
    mode := .simulation
    gate := none
    gate_states := nofun }

/-- The second move needs the motor 4 at 101, and is rejected. -/
theorem Composite.simulation_isolated_nested :
    let k : Controls DeviceId (Lab Float) Float := nestedLab.controls .prompt
    let requests : List (Request Float) := [.move (.scalar 2), .stop, .move (.scalar 50)]
    let run := serveAll k.recorded requests outerPair (nestedLab, [])
    outerDraft.build = .ok outerPair ∧ outerDraft.mode = .simulation ∧
      run.2.2.2 = [] ∧ (∃ es, run.2.2.1 = nestedLab.noteAll es) ∧
      (run.2.1.read k fresh run.2.2.1).1 = .ok (.scalar 2) ∧
      (run.2.1.lifecycle k fresh run.2.2.1).1 = .positioned := by
  intro k requests run
  have hbuild : outerDraft.build = .ok outerPair := rfl
  obtain ⟨-, hasked, ⟨es, hnoted⟩, hreads, hlifecycle, -, -⟩ :=
    Composite.simulation_isolated outerDraft outerPair hbuild rfl k nestedLab requests
  have hlast : lastAccepted .null run.1 = .scalar 2 := by decide
  refine ⟨hbuild, rfl, hasked, ⟨es, hnoted.trans (Lab.noteEach_events _ _ es nestedLab)⟩, ?_, ?_⟩
  · exact hlast ▸ hreads fresh
  · exact (hlifecycle fresh).2 (by rw [hlast]; simp)

end Beamline
