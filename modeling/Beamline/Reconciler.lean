import Beamline.Transform

/-!
From the positions of axes to the one number they stand for. The number comes from the primary
role alone; then every role, the primary too, is compared with the setpoint that the transform
gives for it, and the first role further off than its tolerance makes the reading inconsistent.
A deviation equal to the tolerance passes, a missing position does not.
-/

namespace Beamline

inductive Reading (α : Type) where
  /-- The assembly is out of the way, and where its axes are does not matter. -/
  | parked
  | positions (ps : List α)
  deriving DecidableEq, Repr

variable {α : Type} [Scalar α]

def isTolerance (t : α) : Bool := Scalar.isFinite t && decide (0 ≤ t)

theorem isTolerance_iff {t : α} : isTolerance t = true ↔ Scalar.isFinite t = true ∧ 0 ≤ t := by
  simp [isTolerance]

structure Reconciler (α : Type) [Scalar α] where
  device : String
  transform : Transform α
  tolerances : List α
  primary_lt : transform.primary < transform.roles.length
  length_eq : tolerances.length = transform.roles.length
  tolerances_ok : ∀ t ∈ tolerances, isTolerance t = true

/-- A role with where it is, where it should be, and how far off it may be. -/
structure Comparison (α : Type) where
  role : String
  actual : α
  expected : α
  tolerance : α
  deriving DecidableEq, Repr

namespace Comparison

def isWithin (c : Comparison α) : Bool := Scalar.abs (c.actual - c.expected) ≤ c.tolerance

def remark (c : Comparison α) (derived : α) : String :=
  c.role ++ " is at " ++ Scalar.fixed 4 c.actual ++ " and should be at "
    ++ Scalar.fixed 4 c.expected ++ " for " ++ Scalar.fixed 4 derived

/-- Pair roles with setpoints, tolerances and positions; positions may run out. -/
def all : List String → List α → List α → List α → List (Comparison α)
  | role :: roles, e :: es, t :: ts, ps =>
    ⟨role, ps.headD Scalar.nan, e, t⟩ :: all roles es ts ps.tail
  | _, _, _, _ => []

end Comparison

namespace Reconciler

private theorem all_isTolerance {roles : List String} {ts : List α}
    (hlen : ts.length = roles.length)
    (hfind : (roles.zip ts).find? (fun p => !isTolerance p.2) = none) :
    ∀ t ∈ ts, isTolerance t = true := by
  induction ts generalizing roles with
  | nil => simp
  | cons t ts ih =>
    cases roles with
    | nil => simp at hlen
    | cons role roles =>
      simp only [List.zip_cons_cons, List.find?_cons] at hfind
      cases ht : isTolerance t with
      | false => simp [ht] at hfind
      | true =>
        simp only [ht, Bool.not_true] at hfind
        simp only [List.mem_cons, forall_eq_or_imp]
        exact ⟨ht, ih (by simpa using hlen) hfind⟩

/-- One tolerance for each role, and a primary role that is one of them. -/
def make (device : String) (transform : Transform α) (tolerances : List α) :
    Except (DeviceError α) (Reconciler α) :=
  if transform.roles = [] then .error (.configuration (.noRoles device))
  else if hlen : tolerances.length = transform.roles.length then
    if hprim : transform.primary < transform.roles.length then
      match hfind : (transform.roles.zip tolerances).find? fun p => !isTolerance p.2 with
      | some (role, t) => .error (.configuration (.tolerance device role t))
      | none => .ok ⟨device, transform, tolerances, hprim, hlen, all_isTolerance hlen hfind⟩
    else .error (.configuration (.primaryRange device transform.primary))
  else .error (.configuration (.toleranceCount device tolerances.length transform.roles))

def roles (r : Reconciler α) : List String := r.transform.roles

theorem fields_of_make {device : String} {transform : Transform α} {tolerances : List α}
    {r : Reconciler α} (h : make device transform tolerances = .ok r) :
    r.device = device ∧ r.transform = transform ∧ r.tolerances = tolerances := by
  unfold make at h
  split at h
  · cases h
  · split at h
    · split at h
      · split at h
        · cases h
        · cases h
          exact ⟨rfl, rfl, rfl⟩
      · cases h
    · cases h

theorem transform_of_make {device : String} {transform : Transform α} {tolerances : List α}
    {r : Reconciler α} (h : make device transform tolerances = .ok r) :
    r.transform = transform :=
  (fields_of_make h).2.1

/-- With one tolerance for each role and a primary role, only a tolerance can be at fault. -/
theorem make_cases {device : String} {transform : Transform α} {tolerances : List α}
    (hlen : tolerances.length = transform.roles.length)
    (hprimary : transform.primary < transform.roles.length) :
    ((∀ t ∈ tolerances, isTolerance t = true) ∧ ∃ r, make device transform tolerances = .ok r) ∨
      ∃ role, ∃ t ∈ tolerances, isTolerance t = false ∧
        make device transform tolerances = .error (.configuration (.tolerance device role t)) := by
  have hroles : transform.roles ≠ [] := List.ne_nil_of_length_pos (Nat.zero_lt_of_lt hprimary)
  unfold make
  rw [if_neg hroles, dif_pos hlen, dif_pos hprimary]
  split
  · rename_i role t hfind
    have hmem := (List.of_mem_zip (List.mem_of_find?_eq_some hfind)).2
    have hbad := List.find?_some hfind
    exact .inr ⟨role, t, hmem, by simpa using hbad, rfl⟩
  · rename_i hfind
    exact .inl ⟨all_isTolerance hlen hfind, _, rfl⟩

def primaryRole (r : Reconciler α) : String := r.transform.roles.get ⟨_, r.primary_lt⟩

def primaryTolerance (r : Reconciler α) : α :=
  r.tolerances.get ⟨r.transform.primary, r.length_eq ▸ r.primary_lt⟩

def primaryPosition (r : Reconciler α) (ps : List α) : α :=
  ps.getD r.transform.primary Scalar.nan

/-- The number that the primary role stands for, nothing if parked. No other role is looked at. -/
def derive (r : Reconciler α) : Reading α → Except (PositionError α) (Option α)
  | .parked => .ok none
  | .positions ps =>
    let actual := r.primaryPosition ps
    let derived := r.transform.inverse actual
    if Scalar.isFinite derived then .ok (some derived)
    else .error (.undetermined r.device r.primaryRole actual)

/-- A failure to get setpoints is put down to the primary role. -/
def primaryError (r : Reconciler α) (derived : α) (ps : List α) (detail : Disagreement α) :
    PositionError α :=
  ⟨r.device, r.primaryRole, derived, r.primaryPosition ps, Scalar.nan, r.primaryTolerance, detail⟩

def deviation (r : Reconciler α) (derived : α) (c : Comparison α) : PositionError α :=
  ⟨r.device, c.role, derived, c.actual, c.expected, c.tolerance,
    .deviates c.actual c.expected c.tolerance⟩

/-- What each role is compared with for the number `derived`. -/
def comparisons (r : Reconciler α) (derived : α) (ps : List α) :
    Except (PositionError α) (List (Comparison α)) :=
  match r.transform.forward derived with
  | .error e => .error (r.primaryError derived ps (.unreachable e))
  | .ok es =>
    if es.length = r.roles.length then .ok (Comparison.all r.roles es r.tolerances ps)
    else .error (r.primaryError derived ps (.setpointCount es.length r.roles.length))

/-- Name the first role that is too far off, if there is one. -/
def checkConsistency (r : Reconciler α) (derived : α) (ps : List α) :
    Except (PositionError α) Unit :=
  match r.comparisons derived ps with
  | .error e => .error e
  | .ok cs =>
    match cs.find? fun c => !c.isWithin with
    | some c => .error (r.deviation derived c)
    | none => .ok ()

def reconcile (r : Reconciler α) (reading : Reading α) : Except (PositionError α) (Option α) :=
  match r.derive reading, reading with
  | .error e, _ => .error e
  | .ok (some derived), .positions ps => (r.checkConsistency derived ps).map fun _ => some derived
  | .ok derived, _ => .ok derived

/-- The comparisons up to the first that fails, which is the last one made. -/
def made : List (Comparison α) → List (Comparison α)
  | [] => []
  | c :: cs => if c.isWithin then c :: made cs else [c]

/-- What is noted while a reading is reconciled. -/
def remarks (r : Reconciler α) (reading : Reading α) : List String :=
  match r.derive reading, reading with
  | .ok (some derived), .positions ps =>
    let compared := match r.comparisons derived ps with
      | .ok cs => made cs
      | .error _ => []
    ("derived value seems to be " ++ Scalar.fixed 4 derived) ::
      compared.map fun c => c.remark derived
  | _, _ => []

end Reconciler
end Beamline
