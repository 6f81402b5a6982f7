import Beamline.Proofs.Checking
import Beamline.Setup.Assembly

/-!
The draft of a composite from its declaration, for a declaration without faults. Proved here:

* `DoubleCrystalConfig.draft_assembles`, `BraggConfig.draft_assembles`: the draft of each kind is
  built if and only if the kind is `Buildable`, and fails with a foreseen error if not;
* `CompositeConfig.draft_assembles`: the same of any kind.
-/

namespace Beamline

/-- The reasons that the check of a setup does not cover. -/
def Misfit.Foreseen : Misfit Float → Prop
  | parameter _ _ | offset | unknownPlane _ _ | noSpacing => True
  | tolerance _ _ _ | noCrystal _ => True
  | _ => False

def DeviceError.Foreseen : DeviceError Float → Prop
  | configuration why => why.Foreseen
  | _ => False

namespace CompositeKind

/-- The geometry can be made, the tolerances are finite, and an attached crystal changer has a
crystal to require. -/
def Buildable : CompositeKind → Prop
  | doubleCrystal c =>
    (∃ g, DoubleCrystal.make c.dvalue1 c.dvalue2 c.distance = .ok g) ∧
      Scalar.isFinite c.tolphi = true ∧ Scalar.isFinite c.toltrans = true
  | bragg c =>
    (∃ g, c.geometry = .ok g) ∧
      (Scalar.isFinite c.tolTthm = true ∧ Scalar.isFinite c.tolOmgm = true) ∧
      (c.attached.crystal.isSome = true → c.crystal.isSome = true)

end CompositeKind

/-! ## Geometries -/

theorem DoubleCrystal.positive_foreseen {name : String} {x : Float} {e : DeviceError Float}
    (h : positive name x = .error e) : e.Foreseen := by
  unfold positive at h
  split at h
  · cases h
  · cases h
    trivial

theorem DoubleCrystal.make_foreseen {x y z : Float} {e : DeviceError Float}
    (h : make x y z = .error e) : e.Foreseen := by
  rcases except_bind_eq_error.mp h with hx | ⟨_, -, h⟩
  · exact positive_foreseen hx
  rcases except_bind_eq_error.mp h with hy | ⟨_, -, h⟩
  · exact positive_foreseen hy
  rcases except_bind_eq_error.mp h with hz | ⟨_, -, h⟩
  · exact positive_foreseen hz
  · cases h

theorem Bragg.make_foreseen {spacing offset : Float} {e : DeviceError Float}
    (h : make spacing offset = .error e) : e.Foreseen := by
  unfold make at h
  split at h
  · split at h
    · cases h
    · cases h
      trivial
  · cases h
    trivial

theorem CrystalPlane.bragg_foreseen {crystal plane : String} {e : DeviceError Float}
    (h : bragg crystal plane = .error e) : e.Foreseen := by
  unfold bragg at h
  split at h
  · exact Bragg.make_foreseen h
  · cases h
    trivial

theorem BraggConfig.geometry_foreseen {c : BraggConfig} {e : DeviceError Float}
    (h : c.geometry = .error e) : e.Foreseen := by
  unfold BraggConfig.geometry at h
  split at h
  · exact Bragg.make_foreseen h
  · rcases except_bind_eq_error.mp h with hplane | ⟨_, -, hmake⟩
    · exact CrystalPlane.bragg_foreseen hplane
    · exact Bragg.make_foreseen hmake
  · cases h
    trivial

/-! ## Composites -/

variable {ι : Type}

/-- If `ok`, the result is a composite of that name; if not, a foreseen error. -/
def Assembles (ok : Prop) (name : String) : Except (DeviceError Float) (Composite ι Float) → Prop
  | .ok c => ok ∧ c.name = name
  | .error e => ¬ ok ∧ e.Foreseen

/-- Of the conditions of `build` the check leaves the tolerances only. -/
theorem Draft.build_assembles {ok : Prop} {d : Draft ι Float}
    (hroles : d.axes.map (·.1.role) = d.transform.roles)
    (hprimary : d.transform.primary < d.transform.roles.length)
    (hlimits : d.limits.isOrdered = true) (hgate : ∀ g ∈ d.gate, g.active ≠ g.parked)
    (hok : ok ↔ ∀ a ∈ d.axes, isTolerance a.2 = true) : Assembles ok d.name d.build := by
  rcases d.build_cases hroles hprimary hlimits hgate with
    ⟨htolerances, c, hc, hname⟩ | ⟨role, a, ha, hbad, he⟩
  · rw [hc]
    exact ⟨hok.mpr htolerances, hname⟩
  · rw [he]
    refine ⟨fun h => ?_, trivial⟩
    rw [hok.mp h a ha] at hbad
    cases hbad

theorem DoubleCrystalConfig.draft_assembles {c : DoubleCrystalConfig} {name : String} {mode : Mode}
    {lookup : String → Except (DeviceError Float) ι} (hfields : c.fieldFaults.isEmpty = true)
    (hlimits : c.limits.isOrdered = true) (hstates : c.activeState ≠ c.parkedState)
    (hlookup : ∀ n ∈ c.attached.all, ∃ i, lookup n = .ok i) :
    Assembles (CompositeKind.doubleCrystal c).Buildable name
      (c.draft name mode lookup >>= Draft.build) := by
  obtain ⟨inout, hinout⟩ := hlookup c.attached.inout (by simp [DoubleCrystalNames.all])
  obtain ⟨phi1, hphi1⟩ := hlookup c.attached.phi1 (by simp [DoubleCrystalNames.all])
  obtain ⟨phi2, hphi2⟩ := hlookup c.attached.phi2 (by simp [DoubleCrystalNames.all])
  obtain ⟨stage, hstage⟩ := hlookup c.attached.stage (by simp [DoubleCrystalNames.all])
  obtain ⟨hphi, htrans⟩ := c.tolerances_of_fields hfields
  simp only [DoubleCrystalConfig.draft, hinout, hphi1, hphi2, hstage, bind, Except.bind]
  cases hg : DoubleCrystal.make c.dvalue1 c.dvalue2 c.distance with
  | error e =>
    exact ⟨fun hok => by simp [CompositeKind.Buildable, hg] at hok, DoubleCrystal.make_foreseen hg⟩
  | ok g =>
    change Assembles _ _ (Draft.build _)
    refine Draft.build_assembles rfl (Nat.zero_lt_succ _) hlimits (by simpa using hstates) ?_
    simp [CompositeKind.Buildable, hg, isTolerance_iff, hphi, htrans]

theorem lookup_optional {lookup : String → Except (DeviceError Float) ι} {name : Option String}
    (h : ∀ n ∈ name, ∃ i, lookup n = .ok i) :
    ∃ found, name.mapM lookup = .ok found ∧ found.isSome = name.isSome := by
  cases name with
  | none => exact ⟨none, rfl, rfl⟩
  | some n =>
    obtain ⟨i, hi⟩ := h n rfl
    exact ⟨some i, congrArg (Except.map some) hi, rfl⟩

theorem BraggConfig.draft_assembles {c : BraggConfig} {name : String} {mode : Mode}
    {lookup : String → Except (DeviceError Float) ι} (hfields : c.fieldFaults.isEmpty = true)
    (hlimits : c.limits.isOrdered = true)
    (hlookup : ∀ n ∈ c.attached.all, ∃ i, lookup n = .ok i) :
    Assembles (CompositeKind.bragg c).Buildable name
      (c.draft name mode lookup >>= Draft.build) := by
  obtain ⟨tthm, htthm⟩ := hlookup c.attached.tthm (by simp [BraggNames.all])
  obtain ⟨omgm, homgm⟩ := hlookup c.attached.omgm (by simp [BraggNames.all])
  obtain ⟨htolTthm, htolOmgm⟩ := c.tolerances_of_fields hfields
  obtain ⟨changer, hchanger, hsome⟩ := lookup_optional fun n (hn : n ∈ c.attached.crystal) =>
    hlookup n (by simp [BraggNames.all, show c.attached.crystal = some n from hn])
  simp only [BraggConfig.draft, htthm, homgm, hchanger, bind, Except.bind]
  cases hg : c.geometry with
  | error e =>
    exact ⟨fun hok => by simp [CompositeKind.Buildable, hg] at hok,
      BraggConfig.geometry_foreseen hg⟩
  | ok g =>
    have hbuild : ∀ {interlock : Option (Interlock ι)},
        (c.attached.crystal.isSome = true → c.crystal.isSome = true) →
        Assembles (CompositeKind.bragg c).Buildable name (Draft.build {
          name
          unit := c.unit
          transform := g.transform
          gate := none
          interlock
          axes := [(⟨"tthm", tthm⟩, c.tolTthm), (⟨"omgm", omgm⟩, c.tolOmgm)]
          limits := c.limits
          mode }) := by
      intro interlock hcrystal
      refine Draft.build_assembles rfl (Nat.zero_lt_succ _) hlimits (by simp) ?_
      have htolerances : (∀ a ∈ [((⟨"tthm", tthm⟩ : Axis ι), c.tolTthm),
          (⟨"omgm", omgm⟩, c.tolOmgm)], isTolerance a.2 = true) ↔
          Scalar.isFinite c.tolTthm = true ∧ Scalar.isFinite c.tolOmgm = true := by
        simp [isTolerance_iff, htolTthm, htolOmgm]
      rw [htolerances]
      exact ⟨fun hok => hok.2.1, fun htol => ⟨⟨g, hg⟩, htol, hcrystal⟩⟩
    cases changer with
    | none => exact hbuild (by simp [← hsome])
    | some device =>
      cases hcrystal : c.crystal with
      | none =>
        refine ⟨fun hok => ?_, trivial⟩
        simp [CompositeKind.Buildable, ← hsome, hcrystal] at hok
      | some crystal => exact hbuild (by simp [hcrystal])

theorem CompositeConfig.draft_assembles {c : CompositeConfig} {known : List String} {mode : Mode}
    {lookup : String → Except (DeviceError Float) ι} (hfaults : c.faults known = [])
    (hlookup : ∀ n ∈ known, ∃ i, lookup n = .ok i) :
    Assembles c.kind.Buildable c.name (c.draft mode lookup >>= Draft.build) := by
  obtain ⟨hfields, hlimits, hstates, hattached, -⟩ := CompositeConfig.faults_eq_nil.mp hfaults
  obtain ⟨name, kind⟩ := c
  cases kind with
  | doubleCrystal d =>
    exact d.draft_assembles hfields hlimits (hstates d rfl) fun n hn => hlookup n (hattached n hn)
  | bragg b => exact b.draft_assembles hfields hlimits fun n hn => hlookup n (hattached n hn)

end Beamline
