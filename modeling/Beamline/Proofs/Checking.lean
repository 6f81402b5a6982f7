import Beamline.Setup.Load

/-!
Setups for which the check reports no faults. Proved here, each list of faults being empty in terms
of the fields it is made from:

* `duplicateFaults_eq_nil`, `attachmentFaults_eq_nil`: names are distinct, attachments are known and
  distinct;
* `CompositeConfig.faults_eq_nil`: the fields of a composite are in range, its limits ordered and
  its gate states different;
* `Setup.faults_eq_nil`: the same of a setup.
-/

namespace Beamline

theorem fresh_cons {name : String} {seen names : List String} :
    ((name :: names).Nodup ∧ ∀ n ∈ name :: names, n ∉ seen) ↔
      name ∉ seen ∧ names.Nodup ∧ ∀ n ∈ names, n ∉ name :: seen := by
  rw [List.nodup_cons, List.forall_mem_cons]
  constructor
  · rintro ⟨⟨hname, hnodup⟩, hfresh, hseen⟩
    refine ⟨hfresh, hnodup, fun n hn hmem => ?_⟩
    rcases List.mem_cons.mp hmem with rfl | hmem
    · exact hname hn
    · exact hseen n hn hmem
  · rintro ⟨hfresh, hnodup, hseen⟩
    refine ⟨⟨fun hname => hseen name hname List.mem_cons_self, hnodup⟩, hfresh, fun n hn hmem => ?_⟩
    exact hseen n hn (List.mem_cons_of_mem _ hmem)

theorem duplicateFaults_eq_nil {seen names : List String} :
    duplicateFaults seen names = [] ↔ names.Nodup ∧ ∀ n ∈ names, n ∉ seen := by
  induction names generalizing seen with
  | nil => simp [duplicateFaults]
  | cons name names ih =>
    rw [duplicateFaults, List.append_eq_nil_iff, ih, fresh_cons]
    simp

theorem attachmentFaults_eq_nil {composite : String} {known seen names : List String} :
    attachmentFaults composite known seen names = [] ↔
      (∀ n ∈ names, n ∈ known) ∧ names.Nodup ∧ ∀ n ∈ names, n ∉ seen := by
  induction names generalizing seen with
  | nil => simp [attachmentFaults]
  | cons name names ih =>
    rw [attachmentFaults, List.append_eq_nil_iff, List.append_eq_nil_iff, ih, fresh_cons,
      List.forall_mem_cons]
    by_cases hknown : name ∈ known <;> by_cases hseen : name ∈ seen <;> simp [hknown, hseen]

theorem FieldFault.unless_eq_nil {ok : Bool} {property : String} {rule : RangeRule} :
    FieldFault.unless ok property rule = [] ↔ ok = true := by
  cases ok <;> simp [FieldFault.unless]

theorem CompositeConfig.faults_eq_nil {c : CompositeConfig} {known : List String} :
    c.faults known = [] ↔
      c.kind.fieldFaults.isEmpty = true ∧ c.kind.limits.isOrdered = true ∧
      (∀ d, c.kind = .doubleCrystal d → d.activeState ≠ d.parkedState) ∧
      (∀ n ∈ c.kind.attachedNames, n ∈ known) ∧ c.kind.attachedNames.Nodup := by
  obtain ⟨name, kind⟩ := c
  cases kind <;>
    simp [CompositeConfig.faults, attachmentFaults_eq_nil]

theorem compositeFaults_cons_eq_nil {known : List String} {c : CompositeConfig}
    {cs : List CompositeConfig} :
    compositeFaults known (c :: cs) = [] ↔
      c.faults known = [] ∧ compositeFaults (c.name :: known) cs = [] :=
  List.append_eq_nil_iff

/-- The field faults include every negative tolerance. -/
theorem DoubleCrystalConfig.tolerances_of_fields {c : DoubleCrystalConfig}
    (h : c.fieldFaults.isEmpty = true) : 0 ≤ c.tolphi ∧ 0 ≤ c.toltrans := by
  simp only [DoubleCrystalConfig.fieldFaults, CompositeFaults.isEmpty, Bool.and_eq_true,
    List.isEmpty_iff, List.append_eq_nil_iff, toleranceField, FieldFault.unless_eq_nil,
    decide_eq_true_eq] at h
  exact ⟨h.1.1.2, h.1.2⟩

theorem BraggConfig.tolerances_of_fields {c : BraggConfig} (h : c.fieldFaults.isEmpty = true) :
    0 ≤ c.tolTthm ∧ 0 ≤ c.tolOmgm := by
  simp only [BraggConfig.fieldFaults, CompositeFaults.isEmpty, Bool.and_eq_true,
    List.isEmpty_iff, List.append_eq_nil_iff, toleranceField, FieldFault.unless_eq_nil,
    decide_eq_true_eq] at h
  exact h.1

theorem Setup.check_eq_ok {s s' : Setup} :
    s.check = .ok s' ↔ s.deviceFaults = [] ∧ s.faults = [] ∧ s = s' := by
  unfold Setup.check
  split
  · simp_all
  · split
    · simp_all
    · simp_all

theorem Setup.faults_eq_nil {s : Setup} :
    s.faults = [] ↔
      s.names.Nodup ∧ compositeFaults (s.devices.map (·.name)) s.composites = [] := by
  simp [Setup.faults, duplicateFaults_eq_nil]

end Beamline
