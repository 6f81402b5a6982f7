import Beamline.Instrument
import Beamline.Proofs.Checking
import Mathlib.Data.List.Basic
import Mathlib.Logic.Relation

/-!
The faults that the check of a setup reports, against a list `problems` that is defined without the
check, by indices instead of a recursion over seen names. Proved here:

* `duplicateFaults_eq`, `attachmentFaults_perm`, `CompositeConfig.faults_perm`: each part of the
  report;
* `Setup.faults_perm`: the reported faults are a permutation of the `problems`;
* `Setup.problems_eq_nil`: there are none if and only if the setup is `WellFormed`;
* `Setup.WellFormed.acyclic`: in a well-formed setup no composite is attached to itself in any
  number of steps;
* `Setup.faults_exact` puts these together.
-/

namespace Beamline

/-! ## Fields in range -/

def DoubleCrystalConfig.InRange (c : DoubleCrystalConfig) : Prop :=
  0 < c.dvalue1 ∧ 0 < c.dvalue2 ∧ 0 < c.distance ∧ 0 ≤ c.tolphi ∧ 0 ≤ c.toltrans ∧
    ∀ n ∈ c.attached.all, n ≠ ""

/-- The name of a crystal changer may be empty. -/
def BraggConfig.InRange (c : BraggConfig) : Prop :=
  0 ≤ c.tolTthm ∧ 0 ≤ c.tolOmgm ∧ c.attached.tthm ≠ "" ∧ c.attached.omgm ≠ ""

def CompositeKind.InRange : CompositeKind → Prop
  | doubleCrystal c => c.InRange
  | bragg c => c.InRange

def CompositeKind.StatesDiffer : CompositeKind → Prop
  | doubleCrystal c => c.activeState ≠ c.parkedState
  | bragg _ => True

instance : DecidablePred CompositeKind.InRange
  | .doubleCrystal _ => inferInstanceAs (Decidable (_ ∧ _))
  | .bragg _ => inferInstanceAs (Decidable (_ ∧ _))

instance : DecidablePred CompositeKind.StatesDiffer
  | .doubleCrystal c => inferInstanceAs (Decidable (¬ c.activeState = c.parkedState))
  | .bragg _ => inferInstanceAs (Decidable True)

theorem nameField_eq_nil {property name : String} : nameField property name = [] ↔ name ≠ "" := by
  rw [nameField, FieldFault.unless_eq_nil]
  simp

theorem CompositeKind.fieldFaults_isEmpty {k : CompositeKind} :
    k.fieldFaults.isEmpty = true ↔ k.InRange := by
  cases k with
  | doubleCrystal c =>
    simp only [fieldFaults, DoubleCrystalConfig.fieldFaults, CompositeFaults.isEmpty,
      Bool.and_eq_true, List.isEmpty_iff, List.append_eq_nil_iff, positiveField, toleranceField,
      FieldFault.unless_eq_nil, decide_eq_true_eq, nameField_eq_nil, InRange,
      DoubleCrystalConfig.InRange, DoubleCrystalNames.all, List.forall_mem_cons,
      List.not_mem_nil, false_imp_iff, implies_true, and_true, and_assoc]
  | bragg c =>
    simp only [fieldFaults, BraggConfig.fieldFaults, CompositeFaults.isEmpty, Bool.and_eq_true,
      List.isEmpty_iff, List.append_eq_nil_iff, toleranceField, FieldFault.unless_eq_nil,
      decide_eq_true_eq, nameField_eq_nil, InRange, BraggConfig.InRange, and_assoc]

/-! ## Repeated names -/

/-- The names at indices where the same name stands before. -/
def repeats (names : List String) : List String :=
  (names.zipIdx.filter fun p => decide (p.1 ∈ names.take p.2)).map (·.1)

/-- The names at indices where the same name stands before, or is one of `seen`. -/
def repeatsAfter (seen names : List String) : List String :=
  (names.zipIdx.filter fun p => decide (p.1 ∈ seen ∨ p.1 ∈ names.take p.2)).map (·.1)

theorem repeatsAfter_nil (names : List String) : repeatsAfter [] names = repeats names := by
  simp only [repeatsAfter, repeats, List.not_mem_nil, false_or]

theorem repeatsAfter_cons (seen : List String) (name : String) (names : List String) :
    repeatsAfter seen (name :: names) =
      (if name ∈ seen then [name] else []) ++ repeatsAfter (name :: seen) names := by
  -- behind the first name, what stands before a place is one longer
  have hbehind : (fun p => decide (p.1 ∈ seen ∨ p.1 ∈ (name :: names).take p.2)) ∘
      Prod.map id (· + 1) = fun p => decide (p.1 ∈ name :: seen ∨ p.1 ∈ names.take p.2) := by
    funext p
    rw [Function.comp, decide_eq_decide, Prod.map, List.take_succ_cons, List.mem_cons,
      List.mem_cons, or_left_comm, or_assoc]
    rfl
  have hrest : ((names.zipIdx.map (Prod.map id (· + 1))).filter
      fun p => decide (p.1 ∈ seen ∨ p.1 ∈ (name :: names).take p.2)).map (·.1) =
        repeatsAfter (name :: seen) names := by
    rw [List.filter_map, List.map_map, hbehind]
    rfl
  rw [← hrest, repeatsAfter, List.zipIdx_cons', List.filter_cons]
  by_cases hname : name ∈ seen <;> simp [hname]

theorem duplicateFaults_eq (seen names : List String) :
    duplicateFaults seen names = (repeatsAfter seen names).map .duplicateName := by
  induction names generalizing seen with
  | nil => rfl
  | cons name names ih =>
    rw [duplicateFaults, repeatsAfter_cons, List.map_append, ih]
    split <;> rfl

theorem repeats_eq_nil {names : List String} : repeats names = [] ↔ names.Nodup := by
  have h : duplicateFaults [] names = [] ↔ _ := duplicateFaults_eq_nil
  rw [duplicateFaults_eq, repeatsAfter_nil, List.map_eq_nil_iff] at h
  simpa using h

/-- The recursion of the check reports both kinds in one order, `problems` one kind after the other.
-/
theorem attachmentFaults_perm (composite : String) (known seen names : List String) :
    (attachmentFaults composite known seen names).Perm
      ((names.filter fun n => decide (n ∉ known)).map (.unknownAttachment composite) ++
        (repeatsAfter seen names).map (.repeatedAttachment composite)) := by
  induction names generalizing seen with
  | nil => exact .refl _
  | cons name names ih =>
    let unknown := if name ∈ known then [] else [SetupFault.unknownAttachment composite name]
    let repeated := if name ∈ seen then [SetupFault.repeatedAttachment composite name] else []
    have hunknown : ((name :: names).filter fun n => decide (n ∉ known)).map
        (.unknownAttachment composite) = unknown ++
          (names.filter fun n => decide (n ∉ known)).map (.unknownAttachment composite) := by
      rw [List.filter_cons]
      by_cases hname : name ∈ known <;> simp [hname, unknown]
    have hrepeated : (repeatsAfter seen (name :: names)).map (.repeatedAttachment composite) =
        repeated ++ (repeatsAfter (name :: seen) names).map (.repeatedAttachment composite) := by
      rw [repeatsAfter_cons, List.map_append]
      by_cases hname : name ∈ seen <;> simp [hname, repeated]
    rw [attachmentFaults, hunknown, hrepeated, List.append_assoc, List.append_assoc]
    refine List.Perm.append_left unknown ?_
    exact ((ih (name :: seen)).append_left repeated).trans (List.perm_append_comm_assoc _ _ _)

/-! ## All problems of a setup -/

/-- All that is wrong with a composite, if `known` are the names declared before it. -/
def CompositeConfig.problems (c : CompositeConfig) (known : List String) : List SetupFault :=
  (if c.kind.InRange then [] else [.invalidFields c.name c.kind.fieldFaults])
    ++ (if c.kind.limits.min ≤ c.kind.limits.max then [] else
      [.unorderedLimits c.name c.kind.limits])
    ++ (if c.kind.StatesDiffer then [] else [.equalStates c.name])
    ++ (c.kind.attachedNames.filter fun n => decide (n ∉ known)).map (.unknownAttachment c.name)
    ++ (repeats c.kind.attachedNames).map (.repeatedAttachment c.name)

/-- The names of the devices, and of the first `n` composites. -/
def Setup.knownAt (s : Setup) (n : Nat) : List String :=
  s.devices.map (·.name) ++ (s.composites.take n).map (·.name)

def Setup.problems (s : Setup) : List SetupFault :=
  (repeats s.names).map .duplicateName
    ++ s.composites.zipIdx.flatMap fun p => p.1.problems (s.knownAt p.2)

theorem CompositeConfig.faults_perm (c : CompositeConfig) (known : List String) :
    (c.faults known).Perm (c.problems known) := by
  obtain ⟨name, kind⟩ := c
  have hattached := attachmentFaults_perm name known [] kind.attachedNames
  rw [repeatsAfter_nil] at hattached
  simp only [faults, problems, CompositeKind.fieldFaults_isEmpty, Limits.isOrdered_iff]
  rw [List.append_assoc _ (List.map _ _)]
  refine List.Perm.append (.of_eq (congrArg _ ?_)) hattached
  cases kind with
  | doubleCrystal d =>
    by_cases h : d.activeState = d.parkedState <;> simp [CompositeKind.StatesDiffer, h]
  | bragg b => rfl

theorem CompositeConfig.problems_congr {c : CompositeConfig} {known known' : List String}
    (h : ∀ n, n ∈ known ↔ n ∈ known') : c.problems known = c.problems known' := by
  simp only [problems, h]

theorem compositeFaults_perm (known : List String) (cs : List CompositeConfig) :
    (compositeFaults known cs).Perm
      (cs.zipIdx.flatMap fun p => p.1.problems (known ++ (cs.take p.2).map (·.name))) := by
  induction cs generalizing known with
  | nil => exact .refl _
  | cons c cs ih =>
    have htail : (cs.zipIdx.map (Prod.map id (· + 1))).flatMap
        (fun p => p.1.problems (known ++ ((c :: cs).take p.2).map (·.name))) =
          cs.zipIdx.flatMap
            fun p => p.1.problems (c.name :: known ++ (cs.take p.2).map (·.name)) := by
      rw [List.flatMap_map]
      refine List.flatMap_congr fun p _ => CompositeConfig.problems_congr fun n => ?_
      simp only [Prod.map, id, List.take_succ_cons, List.map_cons, List.mem_append, List.mem_cons,
        List.cons_append]
      exact or_left_comm
    rw [compositeFaults, List.zipIdx_cons', List.flatMap_cons, htail]
    have hhead := c.faults_perm known
    simpa using hhead.append (ih (c.name :: known))

theorem Setup.faults_perm (s : Setup) : s.faults.Perm s.problems := by
  unfold faults problems
  rw [duplicateFaults_eq, repeatsAfter_nil]
  exact (compositeFaults_perm _ s.composites).append_left _

/-! ## Well-formed setups -/

structure CompositeConfig.WellFormed (c : CompositeConfig) (known : List String) : Prop where
  fields : c.kind.InRange
  limits : c.kind.limits.min ≤ c.kind.limits.max
  states : c.kind.StatesDiffer
  known : ∀ n ∈ c.kind.attachedNames, n ∈ known
  distinct : c.kind.attachedNames.Nodup

/-- Names are distinct, and each composite is well-formed with the names declared before it. -/
structure Setup.WellFormed (s : Setup) : Prop where
  distinct : s.names.Nodup
  composites : ∀ n (c : CompositeConfig), s.composites[n]? = some c → c.WellFormed (s.knownAt n)

theorem CompositeConfig.problems_eq_nil {c : CompositeConfig} {known : List String} :
    c.problems known = [] ↔ c.WellFormed known := by
  have hfields : c.WellFormed known ↔ c.kind.InRange ∧ c.kind.limits.min ≤ c.kind.limits.max ∧
      c.kind.StatesDiffer ∧ (∀ n ∈ c.kind.attachedNames, n ∈ known) ∧
      c.kind.attachedNames.Nodup :=
    ⟨fun h => ⟨h.fields, h.limits, h.states, h.known, h.distinct⟩,
      fun ⟨hf, hl, hs, hk, hd⟩ => ⟨hf, hl, hs, hk, hd⟩⟩
  rw [hfields, ← repeats_eq_nil]
  simp [problems]

theorem Setup.problems_eq_nil {s : Setup} : s.problems = [] ↔ s.WellFormed := by
  rw [problems, List.append_eq_nil_iff, List.map_eq_nil_iff, repeats_eq_nil,
    List.flatMap_eq_nil_iff]
  constructor
  · rintro ⟨hdistinct, hcomposites⟩
    refine ⟨hdistinct, fun n c hc => ?_⟩
    exact CompositeConfig.problems_eq_nil.mp
      (hcomposites (c, n) (List.mk_mem_zipIdx_iff_getElem?.mpr hc))
  · rintro ⟨hdistinct, hcomposites⟩
    refine ⟨hdistinct, fun p hp => ?_⟩
    exact CompositeConfig.problems_eq_nil.mpr
      (hcomposites p.2 p.1 (List.mem_zipIdx_iff_getElem?.mp hp))

/-- The name `b` is attached to a composite of the name `a`. -/
def Setup.Attaches (s : Setup) (a b : String) : Prop :=
  ∃ c ∈ s.composites, c.name = a ∧ b ∈ c.kind.attachedNames

theorem Setup.knownAt_eq_take (s : Setup) (n : Nat) :
    s.knownAt n = s.names.take (s.devices.length + n) := by
  have hlen : (s.devices.map (·.name)).length = s.devices.length := List.length_map _
  rw [knownAt, names, List.map_take, ← hlen, List.take_length_add_append]

theorem Setup.names_at {s : Setup} {n : Nat} {c : CompositeConfig}
    (hc : s.composites[n]? = some c) : s.names[s.devices.length + n]? = some c.name := by
  rw [names, List.getElem?_append_right (by simp), List.length_map, Nat.add_sub_cancel_left,
    List.getElem?_map, hc, Option.map_some]

theorem Setup.WellFormed.idxOf_lt {s : Setup} (h : s.WellFormed) {a b : String}
    (hab : s.Attaches a b) : s.names.idxOf b < s.names.idxOf a := by
  obtain ⟨c, hmem, rfl, hb⟩ := hab
  obtain ⟨n, hc⟩ := List.mem_iff_getElem?.mp hmem
  obtain ⟨hn, hname⟩ := List.getElem?_eq_some_iff.mp (names_at hc)
  have hknown : b ∈ s.names.take (s.devices.length + n) :=
    s.knownAt_eq_take n ▸ (h.composites n c hc).known b hb
  rw [← hname, h.distinct.idxOf_getElem]
  exact (List.mem_take_iff_idxOf_lt (List.mem_of_mem_take hknown)).mp hknown

theorem Setup.WellFormed.acyclic {s : Setup} (h : s.WellFormed) (n : String) :
    ¬ Relation.TransGen s.Attaches n n := by
  intro hcycle
  have hlt : ∀ {a b}, Relation.TransGen s.Attaches a b → s.names.idxOf b < s.names.idxOf a := by
    intro a b hab
    induction hab with
    | single hab => exact h.idxOf_lt hab
    | tail _ hbc ih => exact Nat.lt_trans (h.idxOf_lt hbc) ih
  exact Nat.lt_irrefl _ (hlt hcycle)

/-- **The check of a setup is exact.** For every setup: it reports no fault if and only if the setup
is `WellFormed`; its faults are a permutation of the `problems`; and if there are none, no name
`Attaches` itself in any number of steps. -/
theorem Setup.faults_exact (s : Setup) :
    (s.faults = [] ↔ s.WellFormed) ∧ s.faults.Perm s.problems ∧
      (s.faults = [] → ∀ n, ¬ Relation.TransGen s.Attaches n n) := by
  have hiff : s.faults = [] ↔ s.WellFormed := by
    rw [← problems_eq_nil, ← List.perm_nil, ← List.perm_nil]
    exact ⟨s.faults_perm.symm.trans, s.faults_perm.trans⟩
  exact ⟨hiff, s.faults_perm, fun h => (hiff.mp h).acyclic⟩

/-- With its composite declared twice the trial setup is not well-formed. -/
theorem Setup.faults_exact_trial :
    Instrument.trialSetup.WellFormed ∧
      (∀ n, ¬ Relation.TransGen Instrument.trialSetup.Attaches n n) ∧
      ¬ { Instrument.trialSetup with
          composites := Instrument.trialSetup.composites ++ Instrument.trialSetup.composites
        }.WellFormed := by
  obtain ⟨hiff, -, hacyclic⟩ := faults_exact Instrument.trialSetup
  have hfaults : Instrument.trialSetup.faults = [] := by decide +kernel
  refine ⟨hiff.mp hfaults, hacyclic hfaults, fun htwice => ?_⟩
  exact absurd ((faults_exact _).1.mpr htwice) (by decide +kernel)

end Beamline
