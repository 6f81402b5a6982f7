import Beamline.Proofs.Dispatch
import Beamline.Proofs.ConstantAnswers

/-!
The status, the lifecycle and the reading of a composite, over devices with constant answers. `P` is
a set of worlds in which every attached device has the same answers, given by `reads` and `reports`
(`Answers`). Proved here:

* `read_decided`: the reading of the composite is then the same in all worlds of `P`;
* `aggregateStatus_asks`: the statuses asked for are those up to the first that is not OK;
* `agree_of_master`: status, lifecycle and reading `Agree`, case by case of that reading;
* `status_lifecycle_read_agree` puts these together, for both modes.
-/

namespace Beamline

variable {ι σ α ε β γ : Type}

/-! ## Actions with constant results -/

/-- In every world of `P` the action has the result `r` and leads to a world of `P`. -/
def Action.Always (P : σ → Prop) (x : Action σ ε β) (r : Except ε β) : Prop :=
  ∀ s, P s → ∃ s', x s = (r, s') ∧ P s'

/-- The result of the action is the same in all worlds of `P`. -/
def Action.Decided (P : σ → Prop) (x : Action σ ε β) : Prop := ∃ r, Action.Always P x r

namespace Action.Decided

variable {P : σ → Prop}

theorem settle (r : Except ε β) : Decided P (Action.settle r) := ⟨r, fun s hs => ⟨s, rfl, hs⟩⟩

theorem change {f : σ → σ} (h : ∀ s, P s → P (f s)) : Decided (ε := ε) P (Action.change f) :=
  ⟨.ok (), fun s hs => ⟨f s, rfl, h s hs⟩⟩

theorem bind {x : Action σ ε β} {f : β → Action σ ε γ} (hx : Decided P x)
    (hf : ∀ b, Decided P (f b)) : Decided P (x >>= f) := by
  obtain ⟨r, hr⟩ := hx
  cases r with
  | error e =>
    refine ⟨.error e, fun s hs => ?_⟩
    obtain ⟨s', hrun, hs'⟩ := hr s hs
    exact ⟨s', Action.bind_error f hrun, hs'⟩
  | ok b =>
    obtain ⟨r', hr'⟩ := hf b
    refine ⟨r', fun s hs => ?_⟩
    obtain ⟨s', hrun, hs'⟩ := hr s hs
    obtain ⟨s'', hrest, hs''⟩ := hr' s' hs'
    exact ⟨s'', (Action.bind_ok f hrun).trans hrest, hs''⟩

theorem fail_look {e : σ → ε} (e₀ : ε) (h : ∀ s, P s → e s = e₀) :
    Decided (β := β) P (Action.look >>= fun s => Action.fail (e s)) :=
  ⟨.error e₀, fun s hs => ⟨s, Prod.ext (congrArg Except.error (h s hs)) rfl, hs⟩⟩

end Action.Decided

/-! ## Constant answers -/

namespace Controls

/-- In all worlds of `P` the devices of `ds` have the same names, readings and statuses, and asking
for these leads to a world of `P`, as notes do. -/
structure Answers (k : Controls ι σ α) (P : σ → Prop) (names : ι → String)
    (reads : ι → Nat → Except (DeviceError α) (Value α)) (reports : ι → Nat → Status)
    (ds : List ι) : Prop where
  name : ∀ d ∈ ds, ∀ s, P s → k.name s d = names d
  read : ∀ d ∈ ds, ∀ maxAge, Action.Always P (k.read d maxAge) (reads d maxAge)
  status : ∀ d ∈ ds, ∀ maxAge s, P s → ∃ s', k.status d maxAge s = (reports d maxAge, s') ∧ P s'
  note : ∀ e s, P s → P (k.note e s)

variable {k : Controls ι σ α} {P : σ → Prop} {names : ι → String}
  {reads : ι → Nat → Except (DeviceError α) (Value α)} {reports : ι → Nat → Status}
  {d : ι} {ds : List ι}

theorem Answers.of_cons (h : k.Answers P names reads reports (d :: ds)) :
    k.Answers P names reads reports ds where
  name e he := h.name e (List.mem_cons_of_mem d he)
  read e he := h.read e (List.mem_cons_of_mem d he)
  status e he := h.status e (List.mem_cons_of_mem d he)
  note := h.note

end Controls

/-- The first status that is not OK, or else idle. -/
def Status.relayed (l : List Status) : Status := (l.find? fun s => !s.isOk).getD .idle

namespace Status

theorem relayed_cons_of_isOk {s : Status} (h : s.isOk = true) (l : List Status) :
    relayed (s :: l) = relayed l := by
  simp [relayed, h]

theorem relayed_cons_of_not_isOk {s : Status} (h : s.isOk = false) (l : List Status) :
    relayed (s :: l) = s := by
  simp [relayed, h]

theorem relayed_of_isOk {l : List Status} (h : ∀ s ∈ l, s.isOk = true) : relayed l = .idle := by
  have hnone : l.find? (fun s => !s.isOk) = none := by
    rw [List.find?_eq_none]
    intro s hs
    simp [h s hs]
  simp [relayed, hnone]

theorem relayed_isOk_iff {l : List Status} :
    (relayed l).isOk = true ↔ ∀ s ∈ l, s.isOk = true := by
  refine ⟨fun h s hs => ?_, fun h => by rw [relayed_of_isOk h]; rfl⟩
  by_contra hbad
  cases hfind : l.find? fun s => !s.isOk with
  | none =>
    rw [List.find?_eq_none] at hfind
    exact hfind s hs (by simpa using hbad)
  | some t =>
    have ht := List.find?_some hfind
    simp only [relayed, hfind, Option.getD_some] at h
    simp [h] at ht

end Status

namespace Controls

variable {k : Controls ι σ α} {P : σ → Prop} {names : ι → String}
  {reads : ι → Nat → Except (DeviceError α) (Value α)} {reports : ι → Nat → Status} {ds : List ι}

theorem aggregateStatus_cons_of_isOk {s s' : σ} {status : Status} {d : ι} {maxAge : Nat}
    (h : k.status d maxAge s = (status, s')) (hok : status.isOk = true) (ds : List ι) :
    k.aggregateStatus maxAge (d :: ds) s = k.aggregateStatus maxAge ds s' := by
  rw [aggregateStatus, h]
  exact if_pos hok

theorem aggregateStatus_cons_of_not_isOk {s s' : σ} {status : Status} {d : ι} {maxAge : Nat}
    (h : k.status d maxAge s = (status, s')) (hok : status.isOk = false) (ds : List ι) :
    ∃ e, k.aggregateStatus maxAge (d :: ds) s = (status, k.note e s') := by
  rw [aggregateStatus, h]
  exact ⟨_, if_neg (by simp [hok])⟩

theorem aggregateStatus_answers (h : k.Answers P names reads reports ds) (maxAge : Nat) {s : σ}
    (hs : P s) : ∃ s', k.aggregateStatus maxAge ds s =
      (.relayed (ds.map (reports · maxAge)), s') ∧ P s' := by
  induction ds generalizing s with
  | nil => exact ⟨s, rfl, hs⟩
  | cons d ds ih =>
    obtain ⟨s', hd, hs'⟩ := h.status d List.mem_cons_self maxAge s hs
    rw [List.map_cons]
    cases hok : (reports d maxAge).isOk with
    | true =>
      rw [aggregateStatus_cons_of_isOk hd hok, Status.relayed_cons_of_isOk hok]
      exact ih h.of_cons hs'
    | false =>
      obtain ⟨e, hrun⟩ := aggregateStatus_cons_of_not_isOk hd hok ds
      rw [hrun, Status.relayed_cons_of_not_isOk hok]
      exact ⟨_, rfl, h.note e s' hs'⟩

theorem aggregateStatus_asks {before after : List ι} {d : ι} {maxAge : Nat}
    (h : k.Answers P names reads reports (before ++ d :: after))
    (hbefore : ∀ b ∈ before, (reports b maxAge).isOk = true)
    (hd : (reports d maxAge).isOk = false) {w : Recorded ι σ α} (hw : P w.1) :
    (k.recorded.aggregateStatus maxAge (before ++ d :: after) w).1 = reports d maxAge ∧
      (k.recorded.aggregateStatus maxAge (before ++ d :: after) w).2.2 =
        w.2 ++ (before ++ [d]).map fun b => .status b maxAge (reports b maxAge) := by
  -- whoever is asked answers as `reports` says, and that goes on record
  have hask : ∀ b ∈ before ++ d :: after, ∀ w : Recorded ι σ α, P w.1 → ∃ s',
      k.recorded.status b maxAge w =
        (reports b maxAge, s', w.2 ++ [.status b maxAge (reports b maxAge)]) ∧ P s' := by
    intro b hb w hw
    obtain ⟨s', hrun, hs'⟩ := h.status b hb maxAge w.1 hw
    exact ⟨s', by simp only [recorded, hrun], hs'⟩
  induction before generalizing w with
  | nil =>
    obtain ⟨s', hrun, -⟩ := hask d List.mem_cons_self w hw
    obtain ⟨e, hend⟩ := aggregateStatus_cons_of_not_isOk hrun hd after
    rw [List.nil_append, hend]
    exact ⟨rfl, rfl⟩
  | cons b before ih =>
    obtain ⟨s', hrun, hs'⟩ := hask b List.mem_cons_self w hw
    obtain ⟨hstatus, hrecord⟩ := ih (w := (s', w.2 ++ [.status b maxAge (reports b maxAge)]))
      h.of_cons (fun e he => hbefore e (List.mem_cons_of_mem b he)) hs'
      fun e he => hask e (List.mem_cons_of_mem b he)
    rw [List.cons_append, aggregateStatus_cons_of_isOk hrun (hbefore b List.mem_cons_self)]
    refine ⟨hstatus, hrecord.trans ?_⟩
    rw [List.append_assoc]
    rfl

end Controls

variable [Scalar α]

namespace Composite

variable {c : Composite ι α} {k : Controls ι σ α} {P : σ → Prop} {names : ι → String}
  {reads : ι → Nat → Except (DeviceError α) (Value α)} {reports : ι → Nat → Status}

/-! ## The reading -/

theorem checkInterlock_decided (h : k.Answers P names reads reports c.attached) (maxAge : Nat) :
    (c.checkInterlock k maxAge).Decided P := by
  unfold checkInterlock
  cases hl : c.interlock with
  | none => exact .settle _
  | some l =>
    have hmem := c.interlock_mem_attached hl
    refine Action.Decided.bind ⟨_, h.read l.device hmem maxAge⟩ fun v => ?_
    split
    · exact .settle _
    · refine .fail_look (.invalidValue c.name (.interlock (names l.device) v l.required)) ?_
      intro s hs
      rw [h.name l.device hmem s hs]

theorem readAxes_decided (h : k.Answers P names reads reports c.attached) (maxAge : Nat)
    {axes : List (Axis ι)} (hsub : ∀ a ∈ axes, a ∈ c.axes) :
    (readAxes k maxAge axes).Decided P := by
  induction axes with
  | nil => exact .settle _
  | cons a axes ih =>
    have hmem := c.axis_mem_attached (hsub a List.mem_cons_self)
    have hrest := ih fun b hb => hsub b (List.mem_cons_of_mem a hb)
    have hbad : ∀ v : Value α, Action.Decided (β := List α) P (Action.look >>= fun s =>
        Action.fail (DeviceError.invalidValue (k.name s a.device) (.noPosition v))) := by
      intro v
      refine .fail_look (.invalidValue (names a.device) (.noPosition v)) ?_
      intro s hs
      rw [h.name a.device hmem s hs]
    unfold readAxes
    refine Action.Decided.bind ⟨_, h.read a.device hmem maxAge⟩ fun v => ?_
    cases v with
    | scalar x => exact hrest.bind fun xs => .settle _
    | null => exact hbad .null
    | state name => exact hbad (.state name)

theorem readRaw_decided (h : k.Answers P names reads reports c.attached) (maxAge : Nat) :
    (c.readRaw k maxAge).Decided P := by
  have hpositions : (c.readPositions k maxAge).Decided P :=
    (readAxes_decided h maxAge fun _ ha => ha).bind fun xs => .settle _
  unfold readRaw
  refine (checkInterlock_decided h maxAge).bind fun _ => ?_
  cases hg : c.gate with
  | none => exact hpositions
  | some g =>
    refine Action.Decided.bind ⟨_, h.read g.device (c.gate_mem_attached hg) maxAge⟩ fun v => ?_
    split
    · exact .settle _
    · exact hpositions

theorem read_decided (h : k.Answers P names reads reports c.attached) (maxAge : Nat) :
    (c.read k maxAge).Decided P := by
  unfold read
  split
  · exact .settle _
  · refine (readRaw_decided h maxAge).bind fun reading => ?_
    refine Action.Decided.bind (.change fun s hs => ?_) fun _ => .settle _
    exact noteAll_constant h.note (⟨.debug, some c.name, ·⟩) _ hs

/-! ## Status, lifecycle and reading -/

/-- How status, lifecycle and reading are related; `quiet` says that every attached device is OK. -/
structure Agree (quiet : Prop) (status : Status) (state : Lifecycle)
    (reading : Except (DeviceError α) (Value α)) : Prop where
  busy_iff : status.isBusy = true ↔ state = .moving
  ok_iff : status.isOk = true ↔ state = .parked ∨ state = .positioned
  parked : state = .parked → reading = .ok .null
  positioned : state = .positioned → ∃ v, reading = .ok v ∧ v ≠ .null
  inconsistent_iff : state = .inconsistent ↔ quiet ∧ ∃ e, reading = .error (.position e)
  notReached : ∀ e, state = .inconsistent → reading = .error (.position e) →
    status = ⟨.notReached, e.message⟩
  fault_iff : state = .fault ↔ status.isBusy = false ∧ status.isOk = false ∧
    ¬ (quiet ∧ ∃ e, reading = .error (.position e))

/-- The status of a composite with this reading, over devices that are OK. -/
def statusOf : Except (DeviceError α) (Value α) → Status
  | .ok _ => .idle
  | .error (.position e) => ⟨.notReached, e.message⟩
  | .error e => ⟨.error, e.message⟩

/-- The lifecycle of a composite with this reading, over devices that are OK. -/
def lifecycleOf : Except (DeviceError α) (Value α) → Lifecycle
  | .ok v => if v.isNull then .parked else .positioned
  | .error (.position _) => .inconsistent
  | .error _ => .fault

theorem Agree.of_reading {quiet : Prop} (hquiet : quiet) (r : Except (DeviceError α) (Value α)) :
    Agree quiet (statusOf r) (lifecycleOf r) r := by
  cases r with
  | ok v => cases v <;> constructor <;> simp [statusOf, lifecycleOf, Status.idle, Status.isBusy,
      Status.isOk, Value.isNull]
  | error e => cases e <;> constructor <;> simp [statusOf, lifecycleOf, Status.isBusy, Status.isOk,
      hquiet]

/-- The reading does not matter where some device is not OK. -/
theorem Agree.of_relayed {quiet : Prop} (hquiet : ¬ quiet) {status : Status}
    (hstatus : status.isOk = false) (r : Except (DeviceError α) (Value α)) :
    Agree quiet status (if status.isBusy then .moving else .fault) r := by
  cases hbusy : status.isBusy <;> constructor <;> simp [hbusy, hstatus, hquiet]

theorem Agree.of_simulation {quiet : Prop} (v : Value α) :
    Agree quiet ⟨.ok, "simulated"⟩ (if v.isNull then .parked else .positioned) (.ok v) := by
  cases v <;> constructor <;> simp [Status.isBusy, Status.isOk, Value.isNull]

/-! ## The main result -/

variable {maxAge : Nat} {s s' : σ} {status : Status} {r : Except (DeviceError α) (Value α)}

theorem status_of_quiet (hmode : c.mode = .master)
    (hask : k.aggregateStatus maxAge c.attached s = (.idle, s'))
    (hread : (c.read k maxAge s').1 = r) : (c.status k maxAge s).1 = statusOf r := by
  unfold Composite.status
  rw [hmode]
  dsimp only
  rw [hask]
  rcases hrun : c.read k maxAge s' with ⟨r', s''⟩
  rw [hrun] at hread
  subst hread
  rcases r' with e | v
  · cases e <;> rfl
  · rfl

theorem lifecycle_of_quiet (hmode : c.mode = .master)
    (hask : k.aggregateStatus maxAge c.attached s = (.idle, s'))
    (hread : (c.read k maxAge s').1 = r) : (c.lifecycle k maxAge s).1 = lifecycleOf r := by
  unfold lifecycle
  rw [hmode]
  dsimp only
  rw [hask]
  rcases hrun : c.read k maxAge s' with ⟨r', s''⟩
  rw [hrun] at hread
  subst hread
  rcases r' with e | v
  · cases e <;> rfl
  · rfl

theorem status_of_relayed (hmode : c.mode = .master)
    (hask : k.aggregateStatus maxAge c.attached s = (status, s')) (hstatus : status.isOk = false) :
    c.status k maxAge s = (status, s') := by
  unfold Composite.status
  rw [hmode]
  dsimp only
  rw [hask]
  exact if_neg (by simp [hstatus])

theorem lifecycle_of_relayed (hmode : c.mode = .master)
    (hask : k.aggregateStatus maxAge c.attached s = (status, s')) (hstatus : status.isOk = false) :
    (c.lifecycle k maxAge s).1 = if status.isBusy then .moving else .fault := by
  unfold lifecycle
  rw [hmode]
  dsimp only
  rw [hask]
  obtain ⟨code, message⟩ := status
  cases code with
  | ok => cases hstatus
  | _ => rfl

theorem agree_of_master (hmode : c.mode = .master)
    (h : k.Answers P names reads reports c.attached) {s₁ s₂ s₃ : σ} (h₁ : P s₁) (h₂ : P s₂)
    (h₃ : P s₃) : Agree (∀ d ∈ c.attached, (reports d maxAge).isOk = true)
      (c.status k maxAge s₁).1 (c.lifecycle k maxAge s₂).1 (c.read k maxAge s₃).1 := by
  obtain ⟨r, hread⟩ := read_decided h maxAge
  obtain ⟨t₁, hask₁, ht₁⟩ := k.aggregateStatus_answers h maxAge h₁
  obtain ⟨t₂, hask₂, ht₂⟩ := k.aggregateStatus_answers h maxAge h₂
  have hr : ∀ s, P s → (c.read k maxAge s).1 = r := by
    intro s hs
    obtain ⟨s', hrun, -⟩ := hread s hs
    rw [hrun]
  rw [hr s₃ h₃]
  have hquiet := Status.relayed_isOk_iff (l := c.attached.map (reports · maxAge))
  rw [List.forall_mem_map] at hquiet
  cases hok : (Status.relayed (c.attached.map (reports · maxAge))).isOk with
  | true =>
    have hall := hquiet.mp hok
    rw [Status.relayed_of_isOk (List.forall_mem_map.mpr hall)] at hask₁ hask₂
    rw [status_of_quiet hmode hask₁ (hr t₁ ht₁), lifecycle_of_quiet hmode hask₂ (hr t₂ ht₂)]
    exact .of_reading hall r
  | false =>
    rw [status_of_relayed hmode hask₁ hok, lifecycle_of_relayed hmode hask₂ hok]
    exact .of_relayed (fun hall => by simp [hquiet.mpr hall] at hok) hok r

/-- **Status, lifecycle and reading agree.** Let the attached devices have constant answers in the
worlds of `P` (`Answers`). In either mode and at every max age, the status, the lifecycle and the
reading of the composite, each taken in any world of `P`, `Agree`. In master mode the status is that
of the first device that is not OK, if there is one, and the statuses up to it are all that is asked
for. -/
theorem status_lifecycle_read_agree (c : Composite ι α) (k : Controls ι σ α) (P : σ → Prop)
    (names : ι → String) (reads : ι → Nat → Except (DeviceError α) (Value α))
    (reports : ι → Nat → Status) (maxAge : Nat)
    (h : k.Answers P names reads reports c.attached) :
    (∀ s₁ s₂ s₃, P s₁ → P s₂ → P s₃ →
      Agree (∀ d ∈ c.attached, (reports d maxAge).isOk = true) (c.status k maxAge s₁).1
        (c.lifecycle k maxAge s₂).1 (c.read k maxAge s₃).1) ∧
    ∀ before d after, c.mode = .master → c.attached = before ++ d :: after →
      (∀ b ∈ before, (reports b maxAge).isOk = true) → (reports d maxAge).isOk = false →
      ∀ w : Recorded ι σ α, P w.1 →
        (c.status k.recorded maxAge w).1 = reports d maxAge ∧
          (c.status k.recorded maxAge w).2.2 =
            w.2 ++ (before ++ [d]).map fun b => .status b maxAge (reports b maxAge) := by
  constructor
  · intro s₁ s₂ s₃ h₁ h₂ h₃
    cases hmode : c.mode with
    | master => exact agree_of_master hmode h h₁ h₂ h₃
    | simulation =>
      simp only [Composite.status, lifecycle, read, hmode]
      exact .of_simulation c.remembered
  · intro before d after hmode hsplit hbefore hd w hw
    rw [hsplit] at h
    obtain ⟨hstatus, hrecord⟩ := k.aggregateStatus_asks h hbefore hd hw
    have hask : k.recorded.aggregateStatus maxAge c.attached w =
        (reports d maxAge, (k.recorded.aggregateStatus maxAge c.attached w).2) := by
      rw [hsplit]
      exact Prod.ext hstatus rfl
    rw [status_of_relayed hmode hask hd, hsplit]
    exact ⟨rfl, hrecord⟩

/-! ## Examples -/

/-- The first of two axes is at its setpoint for 2, the second one is not at its own. -/
private def crooked (d : Nat) (_ : Nat) : Except (DeviceError Float) (Value Float) :=
  if d = 0 then .ok (.state "in") else if d = 1 then .ok (.scalar 2) else .ok (.scalar 6)

private def allIdle (_ : Nat) (_ : Nat) : Status := .idle

/-- The second device is busy, and the third has an error. -/
private def underWay (d : Nat) (_ : Nat) : Status :=
  if d = 1 then ⟨.busy, "moving"⟩ else if d = 2 then ⟨.error, "broken"⟩ else .idle

/-- Controls whose devices have constant answers. -/
private def stuck (reports : Nat → Nat → Status) : Controls Nat Unit Float where
  name _ d := toString d
  format _ _ v := v.text
  isAllowed _ _ _ := .ok ()
  read d maxAge s := (crooked d maxAge, s)
  start _ _ := pure ()
  stop _ := pure ()
  wait _ := pure ()
  status d maxAge s := (reports d maxAge, s)
  note _ s := s

private theorem stuck_answers (reports : Nat → Nat → Status) (ds : List Nat) :
    (stuck reports).Answers (fun _ => True) toString crooked reports ds where
  name _ _ _ _ := rfl
  read _ _ _ s _ := ⟨s, rfl, trivial⟩
  status _ _ _ s _ := ⟨s, rfl, trivial⟩
  note _ _ _ := trivial

/-- With idle axes that disagree the lifecycle is inconsistent; with a busy axis it is moving, and
the device with the error is not asked. -/
theorem status_lifecycle_read_agree_crooked :
    let c : Composite Nat Float := pair 0 1 2 "out" in_ne_out
    ((stuck allIdle).Answers (fun _ => True) toString crooked allIdle c.attached ∧
      (c.lifecycle (stuck allIdle) 0 ()).1 = .inconsistent ∧
      ∃ e, (c.read (stuck allIdle) 0 ()).1 = .error (.position e) ∧ e.role = "b" ∧
        (c.status (stuck allIdle) 0 ()).1 = ⟨.notReached, e.message⟩) ∧
    (stuck underWay).Answers (fun _ => True) toString crooked underWay c.attached ∧
      (c.lifecycle (stuck underWay) 0 ()).1 = .moving ∧
      (c.status (stuck underWay).recorded 0 ((), [])).1 = ⟨.busy, "moving"⟩ ∧
      (c.status (stuck underWay).recorded 0 ((), [])).2.2 =
        [.status 0 0 .idle, .status 1 0 ⟨.busy, "moving"⟩] := by
  intro c
  obtain ⟨hidle, -⟩ := status_lifecycle_read_agree c (stuck allIdle) (fun _ => True) toString
    crooked allIdle 0 (stuck_answers allIdle _)
  obtain ⟨hmoves, hrelayed⟩ := status_lifecycle_read_agree c (stuck underWay) (fun _ => True)
    toString crooked underWay 0 (stuck_answers underWay _)
  have hagree := hidle () () () trivial trivial trivial
  have hstate : (c.lifecycle (stuck allIdle) 0 ()).1 = .inconsistent := by decide +kernel
  obtain ⟨-, e, he⟩ := hagree.inconsistent_iff.mp hstate
  have hrole : (match (c.read (stuck allIdle) 0 ()).1 with
      | .error e => e.positionRole
      | .ok _ => none) = some "b" := by
    decide +kernel
  rw [he] at hrole
  have hbusy := (hmoves () () () trivial trivial trivial).busy_iff.mp (by decide)
  obtain ⟨hstatus, hrecord⟩ := hrelayed [0] 1 [2] rfl rfl (by decide) rfl ((), []) trivial
  exact ⟨⟨stuck_answers allIdle _, hstate, e, he, Option.some.inj hrole,
    hagree.notReached e hstate he⟩, stuck_answers underWay _, hbusy, hstatus, hrecord⟩

end Composite
end Beamline
