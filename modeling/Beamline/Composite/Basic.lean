import Beamline.Controls
import Beamline.Reconciler

/-!
A composite drives the axes of a transform as one device, and may have two more devices attached.
A gate takes the whole assembly in and out of the way. An interlock must be in a certain state
for the axes to mean anything, and is never moved. `Draft.build` accepts a draft only if its axes
play the roles of the transform in order.
-/

namespace Beamline

structure Gate (ι : Type) where
  device : ι
  /-- The state in which the axes count. -/
  active : String
  /-- The state in which the composite reads as nothing. -/
  parked : String
  deriving DecidableEq, Repr

structure Interlock (ι : Type) where
  device : ι
  required : String
  deriving DecidableEq, Repr

structure Axis (ι : Type) where
  role : String
  device : ι
  deriving DecidableEq, Repr

inductive Mode where
  | master
  /-- Moves are planned and remembered, and no device is touched. -/
  | simulation
  deriving DecidableEq, Repr

variable {ι α : Type} [Scalar α]

structure Composite (ι α : Type) [Scalar α] where
  name : String
  unit : String
  gate : Option (Gate ι)
  interlock : Option (Interlock ι)
  axes : List (Axis ι)
  reconciler : Reconciler α
  limits : Limits α
  mode : Mode
  /-- The target of the last simulated move. -/
  remembered : Value α
  axes_roles : axes.map (·.role) = reconciler.roles
  limits_ordered : limits.isOrdered = true
  gate_states : ∀ g ∈ gate, g.active ≠ g.parked

/-- A composite that is not built yet: each axis comes with its tolerance. -/
structure Draft (ι α : Type) where
  name : String
  unit : String
  transform : Transform α
  gate : Option (Gate ι)
  interlock : Option (Interlock ι)
  axes : List (Axis ι × α)
  limits : Limits α
  mode : Mode

namespace Draft

private theorem roles_eq_of_find? {given expected : List String}
    (hlen : given.length = expected.length)
    (hfind : (given.zip expected).find? (fun p => p.1 != p.2) = none) : given = expected := by
  induction given generalizing expected with
  | nil =>
    cases expected with
    | nil => rfl
    | cons => simp at hlen
  | cons g gs ih =>
    cases expected with
    | nil => simp at hlen
    | cons e es =>
      simp only [List.zip_cons_cons, List.find?_cons] at hfind
      cases hge : g != e with
      | true => simp [hge] at hfind
      | false =>
        simp only [hge] at hfind
        have hes := ih (by simpa using hlen) hfind
        simp only [bne_eq_false_iff_eq] at hge
        rw [hge, hes]

private theorem find?_zip_self (roles : List String) :
    (roles.zip roles).find? (fun p => p.1 != p.2) = none := by
  induction roles with
  | nil => rfl
  | cons role roles ih => simp [ih]

/-- Fail if a gate could not be told to be in or out. -/
def checkGate (name : String) : (gate : Option (Gate ι)) →
    Except (DeviceError α) (PLift (∀ g ∈ gate, g.active ≠ g.parked))
  | none => .ok ⟨by simp⟩
  | some g =>
    if h : g.active = g.parked then .error (.configuration (.gateStates name g.active))
    else .ok ⟨by simpa using h⟩

omit [Scalar α] in
theorem checkGate_ok (name : String) {gate : Option (Gate ι)}
    (h : ∀ g ∈ gate, g.active ≠ g.parked) :
    ∃ checked, checkGate (α := α) name gate = .ok checked := by
  cases gate with
  | none => exact ⟨_, rfl⟩
  | some g => exact ⟨_, dif_neg (h g rfl)⟩

/-- Check the draft against the roles of its transform and build it. -/
def build (d : Draft ι α) : Except (DeviceError α) (Composite ι α) :=
  let axes := d.axes.map (·.1)
  let given := axes.map (·.role)
  let expected := d.transform.roles
  if hlen : given.length = expected.length then
    match hfind : (given.zip expected).find? fun p => p.1 != p.2 with
    | some (role, other) => .error (.configuration (.axisRole d.name role other))
    | none =>
      if hlim : d.limits.isOrdered = true then
        match checkGate (α := α) d.name d.gate with
        | .error e => .error e
        | .ok ⟨hgate⟩ =>
          match hrec : Reconciler.make d.name d.transform (d.axes.map (·.2)) with
          | .error e => .error e
          | .ok reconciler =>
            .ok {
              name := d.name
              unit := d.unit
              gate := d.gate
              interlock := d.interlock
              axes := axes
              reconciler := reconciler
              limits := d.limits
              mode := d.mode
              remembered := .null
              axes_roles := by
                rw [Reconciler.roles, Reconciler.transform_of_make hrec]
                exact roles_eq_of_find? hlen hfind
              limits_ordered := hlim
              gate_states := hgate }
      else .error (.configuration (.limits d.name d.limits))
  else .error (.configuration (.axisCount d.name given.length expected))

/-- Where the axes play the roles, the limits are ordered and the states of the gate differ, only
a tolerance can be at fault. -/
theorem build_cases {d : Draft ι α} (hroles : d.axes.map (·.1.role) = d.transform.roles)
    (hprimary : d.transform.primary < d.transform.roles.length)
    (hlimits : d.limits.isOrdered = true) (hgate : ∀ g ∈ d.gate, g.active ≠ g.parked) :
    ((∀ a ∈ d.axes, isTolerance a.2 = true) ∧ ∃ c, d.build = .ok c ∧ c.name = d.name) ∨
      ∃ role, ∃ a ∈ d.axes, isTolerance a.2 = false ∧
        d.build = .error (.configuration (.tolerance d.name role a.2)) := by
  have hgiven : (d.axes.map (·.1)).map (·.role) = d.transform.roles := by
    rw [List.map_map, ← hroles]
    rfl
  have hlen : ((d.axes.map (·.1)).map (·.role)).length = d.transform.roles.length := by rw [hgiven]
  have hfind : (((d.axes.map (·.1)).map (·.role)).zip d.transform.roles).find?
      (fun p => p.1 != p.2) = none := by
    rw [hgiven]
    exact find?_zip_self d.transform.roles
  have htol : (d.axes.map (·.2)).length = d.transform.roles.length := by
    rw [← hroles, List.length_map, List.length_map]
  have hmake := @Reconciler.make_cases α _ d.name d.transform _ htol hprimary
  obtain ⟨_, hchecked⟩ := checkGate_ok (α := α) d.name hgate
  unfold build
  simp only
  rw [dif_pos hlen]
  split
  · rename_i hother
    rw [hfind] at hother
    cases hother
  · rw [dif_pos hlimits, hchecked]
    simp only
    split
    · rename_i e he
      rcases hmake with ⟨-, r, hr⟩ | ⟨role, t, ht, hbad, hr⟩
      · rw [hr] at he
        cases he
      · rw [hr] at he
        cases he
        obtain ⟨a, ha, rfl⟩ := List.mem_map.mp ht
        exact .inr ⟨role, a, ha, hbad, rfl⟩
    · rename_i r hr
      rcases hmake with ⟨hok, -⟩ | ⟨_, _, _, -, he⟩
      · exact .inl ⟨fun a ha => hok _ (List.mem_map_of_mem ha), _, rfl, rfl⟩
      · rw [hr] at he
        cases he

/-- Replace the names of attached devices by handles, the gate first and the interlock next. -/
def resolve (d : Draft String α) (lookup : String → Except (DeviceError α) ι) :
    Except (DeviceError α) (Draft ι α) := do
  let gate ← d.gate.mapM fun g => return ⟨← lookup g.device, g.active, g.parked⟩
  let interlock ← d.interlock.mapM fun l => return ⟨← lookup l.device, l.required⟩
  let axes ← d.axes.mapM fun a => return (⟨a.1.role, ← lookup a.1.device⟩, a.2)
  return { d with gate, interlock, axes }

end Draft

namespace Composite

/-- The attached devices: gate, interlock, and the axes in the order of their roles. -/
def attached (c : Composite ι α) : List ι :=
  (c.gate.map (·.device)).toList ++ (c.interlock.map (·.device)).toList ++ c.axes.map (·.device)

def format (c : Composite ι α) : Value α → String
  | .scalar x => Scalar.fixed 4 x ++ " " ++ c.unit
  | v => v.text

theorem gate_mem_attached (c : Composite ι α) {g : Gate ι} (h : g ∈ c.gate) :
    g.device ∈ c.attached := by
  simp [attached, show c.gate = some g from h]

theorem interlock_mem_attached (c : Composite ι α) {l : Interlock ι} (h : l ∈ c.interlock) :
    l.device ∈ c.attached := by
  simp [attached, show c.interlock = some l from h]

theorem axis_mem_attached (c : Composite ι α) {a : Axis ι} (h : a ∈ c.axes) :
    a.device ∈ c.attached :=
  List.mem_append_right _ (List.mem_map_of_mem h)

/-- Where no device is attached twice, gate, interlock and axes are told apart by their devices. -/
theorem distinct_of_nodup {c : Composite ι α} (h : c.attached.Nodup) :
    (∀ g ∈ c.gate, ∀ l ∈ c.interlock, g.device ≠ l.device) ∧
      (∀ g ∈ c.gate, g.device ∉ c.axes.map (·.device)) ∧
      (∀ l ∈ c.interlock, l.device ∉ c.axes.map (·.device)) ∧ (c.axes.map (·.device)).Nodup := by
  unfold attached at h
  obtain ⟨hfront, haxes, hapart⟩ := List.nodup_append.mp h
  obtain ⟨-, -, hgate⟩ := List.nodup_append.mp hfront
  refine ⟨fun g hg l hl => hgate _ ?_ _ ?_, fun g hg hmem => hapart _ ?_ _ hmem rfl,
    fun l hl hmem => hapart _ ?_ _ hmem rfl, haxes⟩
  · simp [show c.gate = some g from hg]
  · simp [show c.interlock = some l from hl]
  · simp [show c.gate = some g from hg]
  · simp [show c.interlock = some l from hl]

theorem axes_length (c : Composite ι α) : c.axes.length = c.reconciler.roles.length := by
  rw [← c.axes_roles, List.length_map]

end Composite
end Beamline
