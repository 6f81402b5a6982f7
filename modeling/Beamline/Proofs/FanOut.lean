import Beamline.Proofs.NonStartSteps

/-!
A stop of a tree of composites, or a wait for it, as visits to its leaves. `leaves` lists these in
depth-first order, a device that is attached twice two times. Proved here:

* `sweep_visits`, `sweep_visits_leaves`: the leaves are visited in this order, whatever they
  answer, and the result is the first error (`VisitsInOrder`);
* `Visit.outcome_ok_iff`, `Visit.outcome_error_iff`: that result in terms of the visits;
* `visit_of_course`: what is done before and after a visit is a `NonStartRun`.

The induction is over the depth of the controls, with `Controls.sweepAll_visits` for the attached
devices of a composite.
-/

namespace Beamline

open Relation

variable {ι σ ε α : Type}

/-! ## Visits -/

/-- One call of a device, with the worlds before and after it and its result. -/
structure Visit (ι σ ε : Type) where
  device : ι
  before : σ
  result : Except ε Unit
  after : σ

namespace Visit

variable {vs : List (Visit ι σ ε)} {e : ε}

/-- The visit that `call d` makes in the world `s`. -/
def made (call : ι → Action σ ε Unit) (d : ι) (s : σ) : Visit ι σ ε :=
  ⟨d, s, (call d s).1, (call d s).2⟩

/-- The first error of a list of visits. -/
def outcome : List (Visit ι σ ε) → Except ε Unit
  | [] => .ok ()
  | v :: vs => Controls.firstError v.result (outcome vs)

theorem outcome_append (vs ws : List (Visit ι σ ε)) :
    outcome (vs ++ ws) = Controls.firstError (outcome vs) (outcome ws) := by
  induction vs with
  | nil => rfl
  | cons v vs ih =>
    rw [List.cons_append, outcome, outcome, ih]
    cases v.result <;> rfl

theorem outcome_ok_iff : outcome vs = .ok () ↔ ∀ v ∈ vs, v.result = .ok () := by
  induction vs with
  | nil => simp [outcome]
  | cons v vs ih =>
    rw [List.forall_mem_cons, ← ih, outcome]
    cases v.result <;> simp [Controls.firstError]

theorem outcome_single (v : Visit ι σ ε) : outcome [v] = v.result := by
  rw [outcome]
  cases v.result <;> rfl

theorem outcome_error_iff : outcome vs = .error e ↔ ∃ before v after,
    vs = before ++ v :: after ∧ (∀ u ∈ before, u.result = .ok ()) ∧ v.result = .error e := by
  constructor
  · intro h
    induction vs with
    | nil => cases h
    | cons v vs ih =>
      cases hv : v.result with
      | error e' =>
        rw [outcome, hv] at h
        exact ⟨[], v, vs, rfl, List.forall_mem_nil _, hv.trans h⟩
      | ok u =>
        rw [outcome, hv] at h
        obtain ⟨before, w, after, rfl, hbefore, hw⟩ := ih h
        exact ⟨v :: before, w, after, rfl, List.forall_mem_cons.mpr ⟨hv, hbefore⟩, hw⟩
  · rintro ⟨before, v, after, rfl, hbefore, hv⟩
    rw [outcome_append, outcome_ok_iff.mpr hbefore, outcome, hv]
    rfl

end Visit

/-- From one world to another by the visits of the list, with notes in between. -/
inductive Course (call : ι → Action σ ε Unit) (note : Event → σ → σ) :
    σ → List (Visit ι σ ε) → σ → Prop
  | done (s : σ) : Course call note s [] s
  | noted {s t : σ} {vs : List (Visit ι σ ε)} (e : Event) (h : Course call note (note e s) vs t) :
      Course call note s vs t
  | visit {s t : σ} {vs : List (Visit ι σ ε)} (d : ι) (h : Course call note (call d s).2 vs t) :
      Course call note s (.made call d s :: vs) t

/-- The run is a `Course` of visits to `ds`, in this order, with the first error as its result. -/
def VisitsInOrder (call : ι → Action σ ε Unit) (note : Event → σ → σ) (ds : List ι) (s : σ)
    (run : Except ε Unit × σ) : Prop :=
  ∃ vs, Course call note s vs run.2 ∧ vs.map (·.device) = ds ∧ run.1 = Visit.outcome vs

namespace Course

variable {call : ι → Action σ ε Unit} {note : Event → σ → σ} {s t u : σ}
  {vs ws : List (Visit ι σ ε)}

theorem append (h : Course call note s vs t) (h' : Course call note t ws u) :
    Course call note s (vs ++ ws) u := by
  induction h with
  | done s => exact h'
  | noted e _ ih => exact .noted e (ih h')
  | visit d _ ih => exact .visit d (ih h')

theorem mem {S : σ → σ → Prop} (hcall : ∀ d, Action.Within S (call d))
    (hnote : ∀ e s, ReflTransGen S s (note e s)) (h : Course call note s vs t)
    {v : Visit ι σ ε} (hv : v ∈ vs) :
    ReflTransGen S s v.before ∧ v = .made call v.device v.before ∧ ReflTransGen S v.after t := by
  have hrest : ∀ {s t : σ} {vs : List (Visit ι σ ε)}, Course call note s vs t →
      ReflTransGen S s t := by
    intro s t vs h
    induction h with
    | done s => exact .refl
    | noted e _ ih => exact (hnote e _).trans ih
    | visit d _ ih => exact (hcall d _).trans ih
  induction h with
  | done s => cases hv
  | noted e _ ih =>
    obtain ⟨hbefore, hmade, hafter⟩ := ih hv
    exact ⟨(hnote e _).trans hbefore, hmade, hafter⟩
  | @visit s t vs d h ih =>
    rcases List.mem_cons.mp hv with rfl | hv
    · exact ⟨.refl, rfl, hrest h⟩
    · obtain ⟨hbefore, hmade, hafter⟩ := ih hv
      exact ⟨(hcall d s).trans hbefore, hmade, hafter⟩

end Course

/-! ## All attached devices -/

/-- The two operations that a composite passes on to all attached devices. -/
inductive Sweep where
  | stop
  | wait

namespace Controls

variable [Scalar α] {k : Controls ι σ α}

def sweep (k : Controls ι σ α) : Sweep → ι → Action σ (DeviceError α) Unit
  | .stop => k.stop
  | .wait => k.wait

def sweepAll (k : Controls ι σ α) : Sweep → List ι → Action σ (DeviceError α) Unit
  | .stop => k.stopAll
  | .wait => k.waitAll

/-- The note before a device is called. -/
def announced (k : Controls ι σ α) (d : ι) (s : σ) : Sweep → σ
  | .stop => s
  | .wait => k.note ⟨.debug, some (k.name s d), "waiting"⟩ s

/-- The note after a device has answered. -/
def reported (k : Controls ι σ α) (d : ι) (s : σ) : Sweep → Except (DeviceError α) Unit → σ
  | .stop, .error e => k.note ⟨.warn, some (k.name s d), "stop failed: " ++ e.message⟩ s
  | _, _ => s

theorem sweepAll_cons_eq (k : Controls ι σ α) (x : Sweep) (d : ι) (ds : List ι) {s s' : σ}
    {r : Except (DeviceError α) Unit} (h : k.sweep x d (k.announced d s x) = (r, s')) :
    k.sweepAll x (d :: ds) s = (firstError r (k.sweepAll x ds (k.reported d s' x r)).1,
      (k.sweepAll x ds (k.reported d s' x r)).2) := by
  cases x with
  | stop =>
    have hrun : k.stop d s = (r, s') := h
    cases r <;> simp only [sweepAll, stopAll, hrun, reported]
  | wait =>
    have hrun : k.wait d (k.note ⟨.debug, some (k.name s d), "waiting"⟩ s) = (r, s') := h
    simp only [sweepAll, waitAll, hrun, reported]

/-- At most one note is made. -/
def Notes (k : Controls ι σ α) (s s' : σ) : Prop := s' = s ∨ ∃ e, s' = k.note e s

omit [Scalar α] in
theorem notes_announced (k : Controls ι σ α) (d : ι) (s : σ) (x : Sweep) :
    k.Notes s (k.announced d s x) := by
  cases x with
  | stop => exact .inl rfl
  | wait => exact .inr ⟨_, rfl⟩

theorem notes_reported (k : Controls ι σ α) (d : ι) (s : σ) (x : Sweep)
    (r : Except (DeviceError α) Unit) : k.Notes s (k.reported d s x r) := by
  cases x with
  | stop =>
    cases r with
    | error e => exact .inr ⟨_, rfl⟩
    | ok u => exact .inl rfl
  | wait => exact .inl rfl

theorem sweepAll_nil (k : Controls ι σ α) (x : Sweep) (s : σ) :
    k.sweepAll x [] s = (.ok (), s) := by
  cases x <;> rfl

theorem sweepAll_cons (k : Controls ι σ α) (x : Sweep) (d : ι) (ds : List ι) (s : σ) :
    ∃ s₁ s₂, k.Notes s s₁ ∧ k.Notes (k.sweep x d s₁).2 s₂ ∧
      k.sweepAll x (d :: ds) s =
        (firstError (k.sweep x d s₁).1 (k.sweepAll x ds s₂).1, (k.sweepAll x ds s₂).2) :=
  ⟨_, _, k.notes_announced d s x, k.notes_reported d _ x _, k.sweepAll_cons_eq x d ds rfl⟩

omit [Scalar α] in
theorem Notes.course {call : ι → Action σ ε Unit} {s s' t : σ} {vs : List (Visit ι σ ε)}
    (h : k.Notes s s') (hcourse : Course call k.note s' vs t) : Course call k.note s vs t := by
  rcases h with rfl | ⟨e, rfl⟩
  · exact hcourse
  · exact .noted e hcourse

/-- By induction on `ds`; `P` is what the worlds in which a device is called have in common. -/
theorem sweepAll_visits {call : ι → Action σ (DeviceError α) Unit} {P : σ → Prop}
    {below : ι → List ι} {x : Sweep} {ds : List ι} (hnote : ∀ e s, P s → P (k.note e s))
    (hsweep : ∀ d ∈ ds, ∀ s, P s →
      P (k.sweep x d s).2 ∧ VisitsInOrder call k.note (below d) s (k.sweep x d s))
    {s : σ} (hs : P s) :
    VisitsInOrder call k.note (ds.flatMap below) s (k.sweepAll x ds s) := by
  have hnotes : ∀ {s s'}, k.Notes s s' → P s → P s' := by
    rintro s s' (rfl | ⟨e, rfl⟩) hs
    · exact hs
    · exact hnote e s hs
  induction ds generalizing s with
  | nil =>
    rw [sweepAll_nil]
    exact ⟨[], .done s, rfl, rfl⟩
  | cons d ds ih =>
    obtain ⟨s₁, s₂, hfirst, hnext, hrun⟩ := k.sweepAll_cons x d ds s
    obtain ⟨hafter, vs, hvs, hdevices, hresult⟩ :=
      hsweep d List.mem_cons_self s₁ (hnotes hfirst hs)
    obtain ⟨ws, hws, hdevices', hresult'⟩ :=
      ih (fun e he => hsweep e (List.mem_cons_of_mem d he)) (hnotes hnext hafter)
    rw [hrun]
    refine ⟨vs ++ ws, hfirst.course (hvs.append (hnext.course hws)), ?_, ?_⟩
    · rw [List.map_append, hdevices, hdevices', List.flatMap_cons]
    · rw [Visit.outcome_append, ← hresult, ← hresult']

omit [Scalar α] in
theorem NonStartsWithin.sweep {S : σ → σ → Prop} (h : k.NonStartsWithin S) (x : Sweep) (d : ι) :
    Action.Within S (k.sweep x d) := by
  cases x with
  | stop => exact h.stop d
  | wait => exact h.wait d

end Controls

variable [Scalar α]

/-! ## Trees of composites -/

namespace Device

def composite? : Device α → Option (Composite DeviceId α)
  | composite c => some c
  | _ => none

theorem NonStartStep.composite? {since : Nat} {d d' : Device α} (h : d.NonStartStep since d') :
    d'.composite? = d.composite? := by
  cases h <;> rfl

end Device

namespace Lab

variable {lab lab' : Lab α} {i j : DeviceId} {c : Composite DeviceId α} {pace : Pace}
  {depth : Nat}

/-- The device `i`, if it is a composite. -/
def composite? (lab : Lab α) (i : DeviceId) : Option (Composite DeviceId α) :=
  (lab.device? i).bind Device.composite?

/-- A device that is no composite, or a composite in master mode over trees that are declared before
it. One device may be attached in several places. -/
inductive Tree (lab : Lab α) : DeviceId → Prop
  | leaf {i : DeviceId} {d : Device α} (h : lab.device? i = some d)
      (hleaf : lab.composite? i = none) : Tree lab i
  | composite {i : DeviceId} {c : Composite DeviceId α} (h : lab.composite? i = some c)
      (hmode : c.mode = .master) (hbehind : ∀ j ∈ c.attached, j < i)
      (hattached : ∀ j ∈ c.attached, Tree lab j) : Tree lab i

def leavesTo (lab : Lab α) : (depth : Nat) → DeviceId → List DeviceId
  | 0, _ => []
  | depth + 1, i =>
    match lab.composite? i with
    | some c => c.attached.flatMap (lab.leavesTo depth)
    | none => [i]

def leaves (lab : Lab α) (i : DeviceId) : List DeviceId := lab.leavesTo lab.devices.length i

theorem composite?_eq_some (h : lab.composite? i = some c) :
    lab.device? i = some (.composite c) := by
  obtain ⟨d, hd, hc⟩ := Option.bind_eq_some_iff.mp h
  cases d with
  | composite c' =>
    cases hc
    exact hd
  | motor m => cases hc
  | switch s => cases hc
  | standIn d => cases hc

theorem Tree.device? (h : lab.Tree i) : ∃ d, lab.device? i = some d := by
  cases h with
  | leaf h _ => exact ⟨_, h⟩
  | composite h _ _ _ => exact ⟨_, composite?_eq_some h⟩

theorem Tree.lt_length (h : lab.Tree i) : i < lab.devices.length := by
  obtain ⟨d, hd⟩ := h.device?
  exact (List.getElem?_eq_some_iff.mp hd).1

theorem Tree.congr (hsome : ∀ j, (lab.device? j).isSome → (lab'.device? j).isSome)
    (h : ∀ j, lab'.composite? j = lab.composite? j) (ht : lab.Tree i) : lab'.Tree i := by
  induction ht with
  | @leaf i d hd hleaf =>
    obtain ⟨d', hd'⟩ := Option.isSome_iff_exists.mp (hsome i (hd ▸ rfl))
    exact .leaf hd' ((h i).trans hleaf)
  | @composite i c hc hmode hbehind _ ih => exact .composite ((h i).trans hc) hmode hbehind ih

theorem leavesTo_congr (h : ∀ j, lab'.composite? j = lab.composite? j) (depth : Nat) :
    lab'.leavesTo depth = lab.leavesTo depth := by
  induction depth with
  | zero => rfl
  | succ depth ih =>
    funext i
    simp only [leavesTo, h, ih]

theorem NonStartRun.composite? (h : lab.NonStartRun lab') (j : DeviceId) :
    lab'.composite? j = lab.composite? j := by
  cases hd : lab.device? j with
  | some d =>
    obtain ⟨d', hd', hsame⟩ := h.keeps (P := fun _ e => e.composite? = d.composite?)
      (fun _ _ _ _ he => he) (fun _ _ _ hstep he => hstep.composite?.trans he) hd rfl
    simp only [Lab.composite?, hd, hd', Option.bind_some, hsame]
  | none =>
    have hnone : lab'.device? j = none := by
      simp only [device?, List.getElem?_eq_none_iff] at hd ⊢
      rwa [h.length]
    simp only [Lab.composite?, hd, hnone]

theorem NonStartRun.tree (h : lab.NonStartRun lab') (ht : lab.Tree i) : lab'.Tree i := by
  refine ht.congr (fun j hj => ?_) h.composite?
  simp only [device?, isSome_getElem?] at hj ⊢
  rwa [h.length]

/-- The depth makes no difference from the number of the root on, as devices are attached to later
ones. -/
theorem leavesTo_eq (ht : lab.Tree i) {depth depth' : Nat} (h : i < depth) (h' : i < depth') :
    lab.leavesTo depth i = lab.leavesTo depth' i := by
  induction ht generalizing depth depth' with
  | @leaf i d hd hleaf =>
    obtain ⟨n, rfl⟩ := Nat.exists_eq_add_one_of_ne_zero (Nat.ne_zero_of_lt h)
    obtain ⟨n', rfl⟩ := Nat.exists_eq_add_one_of_ne_zero (Nat.ne_zero_of_lt h')
    simp only [leavesTo, hleaf]
  | @composite i c hc hmode hbehind _ ih =>
    obtain ⟨n, rfl⟩ := Nat.exists_eq_add_one_of_ne_zero (Nat.ne_zero_of_lt h)
    obtain ⟨n', rfl⟩ := Nat.exists_eq_add_one_of_ne_zero (Nat.ne_zero_of_lt h')
    simp only [leavesTo, hc]
    refine List.flatMap_congr fun j hj => ?_
    have hji := hbehind j hj
    exact ih j hj (Nat.lt_of_lt_of_le hji (Nat.lt_succ_iff.mp h))
      (Nat.lt_of_lt_of_le hji (Nat.lt_succ_iff.mp h'))

/-! ## Visiting a tree -/

theorem sweep_leaf (pace : Pace) (x : Sweep) (hleaf : lab.composite? i = none) (depth n : Nat) :
    (controlsTo pace (depth + 1)).sweep x i lab = (controlsTo pace (n + 1)).sweep x i lab := by
  cases hd : lab.device? i with
  | none => cases x <;> simp only [Controls.sweep, controlsTo, hd]
  | some d =>
    cases d with
    | motor m => cases x <;> simp only [Controls.sweep, controlsTo, hd]
    | switch s => cases x <;> simp only [Controls.sweep, controlsTo, hd]
    | standIn d => cases x <;> simp only [Controls.sweep, controlsTo, hd]
    | composite c =>
      simp only [Lab.composite?, hd] at hleaf
      cases hleaf

theorem sweep_composite (pace : Pace) (x : Sweep) (depth : Nat) (hc : lab.composite? i = some c)
    (hmode : c.mode = .master) : (controlsTo pace (depth + 1)).sweep x i lab =
      (controlsTo pace depth).sweepAll x c.attached lab := by
  have hd := composite?_eq_some hc
  cases x with
  | stop => simp only [Controls.sweep, Controls.sweepAll, controlsTo, hd, Composite.stop, hmode]
  | wait => simp only [Controls.sweep, Controls.sweepAll, controlsTo, hd, Composite.wait, hmode]

theorem sweep_visits (pace : Pace) (x : Sweep) (n : Nat) (ht : lab.Tree i) (hdepth : i < depth) :
    VisitsInOrder ((controlsTo pace (n + 1)).sweep x) noted (lab.leavesTo depth i) lab
      ((controlsTo pace depth).sweep x i lab) := by
  induction depth generalizing lab i with
  | zero => exact absurd hdepth (Nat.not_lt_zero i)
  | succ depth ih =>
    cases ht with
    | leaf hd hleaf =>
      rw [sweep_leaf pace x hleaf depth n, leavesTo, hleaf]
      refine ⟨_, .visit i (.done _), rfl, ?_⟩
      exact (Visit.outcome_single (.made ((controlsTo pace (n + 1)).sweep x) i lab)).symm
    | @composite _ c hc hmode hbehind hattached =>
      have hbelow : ∀ j ∈ c.attached, j < depth := fun j hj =>
        Nat.lt_of_lt_of_le (hbehind j hj) (Nat.lt_succ_iff.mp hdepth)
      have hk := controlsTo_nonStartsWithin (α := α) pace depth
      rw [sweep_composite pace x depth hc hmode, leavesTo, hc,
        ← @controlsTo_note α _ pace depth]
      -- the calls made so far have left the tree as it was
      refine Controls.sweepAll_visits (P := lab.NonStartRun)
        (fun e s hs => hs.trans (hk.note e s)) ?_
        .refl
      intro j hj s hs
      refine ⟨ReflTransGen.trans hs (hk.sweep x j s), ?_⟩
      rw [controlsTo_note, ← leavesTo_congr hs.composite? depth]
      exact ih (hs.tree (hattached j hj)) (hbelow j hj)

/-- **Fan-out.** A stop of a tree, or a wait for it, visits each leaf once for every place where it
is attached, depth first, whatever the leaves answer. Its result is the first error. -/
theorem sweep_visits_leaves (pace : Pace) (x : Sweep) (ht : lab.Tree i) :
    VisitsInOrder ((lab.controls pace).sweep x) noted (lab.leaves i) lab
      ((lab.controls pace).sweep x i lab) := by
  obtain ⟨d, hd⟩ := ht.device?
  obtain ⟨n, hcontrols⟩ := exists_depth pace hd
  have hreaches := sweep_visits pace x n ht ht.lt_length
  rwa [← hcontrols] at hreaches

theorem visit_of_course {x : Sweep} {vs : List (Visit DeviceId (Lab α) (DeviceError α))}
    (h : Course ((controlsTo pace depth).sweep x) noted lab vs lab')
    {v : Visit DeviceId (Lab α) (DeviceError α)} (hv : v ∈ vs) :
    lab.NonStartRun v.before ∧ v = .made ((controlsTo pace depth).sweep x) v.device v.before ∧
      v.after.NonStartRun lab' :=
  h.mem (fun d => (controlsTo_nonStartsWithin pace depth).sweep x d) noted_nonStartRun hv

/-! ## Example -/

/-- The composites 3 and 5 share the switch 0, which is switching, and the motor 1, which is moving.
They are the axes of the composite 6, which has the same gate. -/
def shared : Lab Float :=
  { empty with devices := [
    .switch { Switch.make "gate" ["in", "out"] none with
      pacing := .realistic, current := none, pending := some ("out", 7) },
    .motor { Motor.make "a" with pacing := .realistic, motion := some ⟨0, 9, 0, 1000, 50⟩ },
    .motor (Motor.make "b"), .composite (Composite.pair 0 1 2 "out" Composite.in_ne_out),
    .motor (Motor.make "c"), .composite (Composite.pair 0 1 4 "out" Composite.in_ne_out),
    .composite (Composite.pair 0 3 5 "out" Composite.in_ne_out)] }

theorem tree_pair {lab : Lab Float} {g a b : DeviceId} {parked : String} {hp : "in" ≠ parked}
    (h : lab.device? i = some (.composite (Composite.pair g a b parked hp)))
    (hg : g < i ∧ lab.Tree g) (ha : a < i ∧ lab.Tree a) (hb : b < i ∧ lab.Tree b) :
    lab.Tree i := by
  have hall : ∀ j ∈ [g, a, b], j < i ∧ lab.Tree j := by simp [hg, ha, hb]
  have hc : lab.composite? i = some (Composite.pair g a b parked hp) := by
    rw [composite?, h]
    rfl
  exact .composite hc rfl (fun j hj => (hall j hj).1) fun j hj => (hall j hj).2

theorem shared_tree : shared.Tree 6 := by
  have gate : shared.Tree 0 := .leaf rfl rfl
  have axis : shared.Tree 1 := .leaf rfl rfl
  have left : shared.Tree 3 :=
    tree_pair rfl ⟨by decide, gate⟩ ⟨by decide, axis⟩ ⟨by decide, .leaf rfl rfl⟩
  have right : shared.Tree 5 :=
    tree_pair rfl ⟨by decide, gate⟩ ⟨by decide, axis⟩ ⟨by decide, .leaf rfl rfl⟩
  exact tree_pair rfl ⟨by decide, gate⟩ ⟨by decide, left⟩ ⟨by decide, right⟩

theorem shared_leaves : shared.leaves 6 = [0, 0, 1, 2, 0, 1, 4] := rfl

theorem shared_simulated : ∀ j ∈ shared.leaves 6, shared.Simulated j := by
  rw [shared_leaves]
  simp only [List.forall_mem_cons]
  exact ⟨⟨_, rfl, trivial⟩, ⟨_, rfl, trivial⟩, ⟨_, rfl, trivial⟩, ⟨_, rfl, trivial⟩,
    ⟨_, rfl, trivial⟩, ⟨_, rfl, trivial⟩, ⟨_, rfl, trivial⟩, nofun⟩

end Lab
end Beamline
