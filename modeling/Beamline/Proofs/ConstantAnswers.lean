import Beamline.Composite.Operation
import Mathlib.Data.List.Forall2

/-!
A composite over devices with constant answers. `P` is a set of worlds: in each of them a device
that `Reads` a value answers with it at every max age, one that `Idles` is idle, and both lead to a
world of `P`. Proved here, for a composite whose attached devices are so:

* `readRaw_positions`, `readRaw_parked`: the raw reading is that of the axes, or parked;
* `read_constant`: the composite reads the value that this reading is reconciled to;
* `status_constant`, `lifecycle_constant`: its status is idle, and its lifecycle is that of the
  value.
-/

namespace Beamline

variable {ι σ α : Type}

namespace Controls

def Reads (k : Controls ι σ α) (P : σ → Prop) (d : ι) (v : Value α) : Prop :=
  ∀ maxAge s, P s → ∃ s', k.read d maxAge s = (.ok v, s') ∧ P s'

def Idles (k : Controls ι σ α) (P : σ → Prop) (d : ι) : Prop :=
  ∀ maxAge s, P s → ∃ s', k.status d maxAge s = (.idle, s') ∧ P s'

theorem aggregateStatus_idle {k : Controls ι σ α} {P : σ → Prop} {ds : List ι}
    (h : ∀ d ∈ ds, k.Idles P d) (maxAge : Nat) {s : σ} (hs : P s) :
    ∃ s', k.aggregateStatus maxAge ds s = (.idle, s') ∧ P s' := by
  induction ds generalizing s with
  | nil => exact ⟨s, rfl, hs⟩
  | cons d ds ih =>
    obtain ⟨s', hd, hs'⟩ := h d List.mem_cons_self maxAge s hs
    obtain ⟨s'', hrest, hs''⟩ := ih (fun e he => h e (List.mem_cons_of_mem d he)) hs'
    refine ⟨s'', ?_, hs''⟩
    unfold aggregateStatus
    rw [hd]
    exact hrest

end Controls

variable [Scalar α]

namespace Composite

variable {c : Composite ι α} {k : Controls ι σ α} {P : σ → Prop} {maxAge : Nat} {s : σ}

/-! ## Reading -/

theorem checkInterlock_constant (h : ∀ l ∈ c.interlock, k.Reads P l.device (.state l.required))
    (maxAge : Nat) (hs : P s) : ∃ s', c.checkInterlock k maxAge s = (.ok (), s') ∧ P s' := by
  unfold checkInterlock
  cases hl : c.interlock with
  | none => exact ⟨s, rfl, hs⟩
  | some l =>
    obtain ⟨s', hread, hs'⟩ := h l hl maxAge s hs
    refine ⟨s', ?_, hs'⟩
    dsimp only
    rw [Action.bind_ok _ hread, if_pos (Value.isState_iff.mpr rfl)]
    rfl

omit [Scalar α] in
theorem readAxes_constant {axes : List (Axis ι)} {xs : List α}
    (h : List.Forall₂ (fun a x => k.Reads P a.device (.scalar x)) axes xs) (maxAge : Nat)
    (hs : P s) : ∃ s', readAxes k maxAge axes s = (.ok xs, s') ∧ P s' := by
  induction h generalizing s with
  | nil => exact ⟨s, rfl, hs⟩
  | @cons a x axes xs ha _ ih =>
    obtain ⟨s', hread, hs'⟩ := ha maxAge s hs
    obtain ⟨s'', hrest, hs''⟩ := ih hs'
    refine ⟨s'', ?_, hs''⟩
    unfold readAxes
    rw [Action.bind_ok _ hread]
    dsimp only
    rw [Action.bind_ok _ hrest]
    rfl

/-- With the gate in its active state. -/
theorem readRaw_positions {xs : List α}
    (hlock : ∀ l ∈ c.interlock, k.Reads P l.device (.state l.required))
    (hgate : ∀ g ∈ c.gate, k.Reads P g.device (.state g.active))
    (haxes : List.Forall₂ (fun a x => k.Reads P a.device (.scalar x)) c.axes xs) (maxAge : Nat)
    (hs : P s) : ∃ s', c.readRaw k maxAge s = (.ok (.positions xs), s') ∧ P s' := by
  have hpositions : ∀ s, P s → ∃ s', c.readPositions k maxAge s = (.ok (.positions xs), s') ∧
      P s' := by
    intro s hs
    obtain ⟨s', hread, hs'⟩ := readAxes_constant haxes maxAge hs
    exact ⟨s', Action.bind_ok _ hread, hs'⟩
  obtain ⟨s', hchecked, hs'⟩ := checkInterlock_constant hlock maxAge hs
  unfold readRaw
  rw [Action.bind_ok _ hchecked]
  cases hg : c.gate with
  | none => exact hpositions s' hs'
  | some g =>
    obtain ⟨s'', hread, hs''⟩ := hgate g hg maxAge s' hs'
    have hopen : ¬ (Value.state g.active : Value α).isState g.parked = true := fun h =>
      c.gate_states g hg (Value.state.inj (Value.isState_iff.mp h))
    dsimp only
    rw [Action.bind_ok _ hread, if_neg hopen]
    exact hpositions s'' hs''

/-- With the gate in its parked state, and nothing assumed of the axes. -/
theorem readRaw_parked {g : Gate ι}
    (hlock : ∀ l ∈ c.interlock, k.Reads P l.device (.state l.required)) (hg : c.gate = some g)
    (hgate : k.Reads P g.device (.state g.parked)) (maxAge : Nat) (hs : P s) :
    ∃ s', c.readRaw k maxAge s = (.ok .parked, s') ∧ P s' := by
  obtain ⟨s', hchecked, hs'⟩ := checkInterlock_constant hlock maxAge hs
  obtain ⟨s'', hread, hs''⟩ := hgate maxAge s' hs'
  refine ⟨s'', ?_, hs''⟩
  unfold readRaw
  rw [Action.bind_ok _ hchecked, hg]
  dsimp only
  rw [Action.bind_ok _ hread, if_pos (Value.isState_iff.mpr rfl)]
  rfl

omit [Scalar α] in
theorem noteAll_constant (hnote : ∀ e s, P s → P (k.note e s)) (f : String → Event)
    (texts : List String) (hs : P s) : P (texts.foldl (fun s text => k.note (f text) s) s) := by
  induction texts generalizing s with
  | nil => exact hs
  | cons text texts ih => exact ih (hnote _ s hs)

theorem read_constant (hmode : c.mode = .master) (hnote : ∀ e s, P s → P (k.note e s))
    {reading : Reading α} {v : Value α}
    (hraw : ∀ maxAge s, P s → ∃ s', c.readRaw k maxAge s = (.ok reading, s') ∧ P s')
    (hv : c.reconciled reading = .ok v) (maxAge : Nat) (hs : P s) :
    ∃ s', c.read k maxAge s = (.ok v, s') ∧ P s' := by
  obtain ⟨s', hreading, hs'⟩ := hraw maxAge s hs
  refine ⟨_, ?_, noteAll_constant hnote (⟨.debug, some c.name, ·⟩)
    (c.reconciler.remarks reading) hs'⟩
  unfold read
  rw [hmode]
  dsimp only
  rw [Action.bind_ok _ hreading, Action.bind_ok _ (rfl : c.sayAll k _ s' = (.ok (), _)),
    Action.settle, hv]

/-! ## Status -/

variable {v : Value α}

theorem status_constant (hmode : c.mode = .master) (hidle : ∀ d ∈ c.attached, k.Idles P d)
    (hread : ∀ maxAge s, P s → ∃ s', c.read k maxAge s = (.ok v, s') ∧ P s') (maxAge : Nat)
    (hs : P s) : (c.status k maxAge s).1 = .idle := by
  obtain ⟨s', haggregate, hs'⟩ := k.aggregateStatus_idle hidle maxAge hs
  obtain ⟨s'', hv, -⟩ := hread maxAge s' hs'
  unfold status
  rw [hmode]
  dsimp only
  rw [haggregate]
  dsimp only
  rw [hv]
  rfl

theorem lifecycle_constant (hmode : c.mode = .master) (hidle : ∀ d ∈ c.attached, k.Idles P d)
    (hread : ∀ maxAge s, P s → ∃ s', c.read k maxAge s = (.ok v, s') ∧ P s') (maxAge : Nat)
    (hs : P s) :
    (c.lifecycle k maxAge s).1 = if v.isNull then .parked else .positioned := by
  obtain ⟨s', haggregate, hs'⟩ := k.aggregateStatus_idle hidle maxAge hs
  obtain ⟨s'', hv, -⟩ := hread maxAge s' hs'
  unfold lifecycle
  rw [hmode]
  dsimp only
  rw [haggregate]
  dsimp only [Status.idle]
  rw [hv]

end Composite
end Beamline
