import Beamline.Proofs.Building
import Mathlib.Control.Monad.Basic

/-!
Building a setup in any instrument, with any drivers and names. `Adds` relates an instrument to the
one after an item was registered, `Refuses` to the one after it failed, and `Built` after several
were registered. Proved here:

* `item_registers`: one item is registered or fails (`Registers`);
* `forEach_register`: items are registered in turn up to the first that fails, by induction;
* `Built.entries`: entries and devices are appended to those before;
* `buildSetup_prefix` puts these together.
-/

namespace Beamline

inductive Item where
  | device (c : DeviceConfig)
  | composite (c : CompositeConfig)

/-- Devices first, then composites. -/
def Setup.items (s : Setup) : List Item := s.devices.map .device ++ s.composites.map .composite

namespace Item

def name : Item → String
  | device c => c.name
  | composite c => c.name

/-- The driver of a device, or the kind of a composite, as the registry keeps it. -/
def label : Item → String
  | device c => c.driver
  | composite c => c.kind.label

def register (mode : Mode) : Item → Action Instrument RegisterError Unit
  | device c => Instrument.register c
  | composite c => Instrument.registerComposite mode c

/-- The device to be registered in `i`, or the error. A composite is built before its name is looked
up. -/
def made (mode : Mode) (i : Instrument) : Item → Except RegisterError (Device Float)
  | device c => i.build c
  | composite c =>
    match c.draft mode i.resolve >>= Draft.build with
    | .error e => .error (.composite c.name e)
    | .ok built =>
      if i.registry.contains c.name then .error (.device (.configuration (.taken c.name)))
      else .ok (.composite built)

end Item

theorem Registry.insert?_of_taken {δ : Type} {r : Registry δ} {name : String}
    (h : name ∈ r.entries.map (·.name)) (driver : String) (device : δ) :
    r.insert? name driver device = none := by
  unfold insert?
  split
  · rfl
  · rename_i hfree
    exact absurd h (find?_eq_none_iff.mp hfree)

theorem Registry.contains_eq_false_iff {δ : Type} {r : Registry δ} {name : String} :
    r.contains name = false ↔ name ∉ r.entries.map (·.name) := by
  rw [← find?_eq_none_iff, contains, Option.isSome_eq_false_iff, Option.isNone_iff_eq_none]

namespace Instrument

variable {i i' : Instrument} {mode : Mode} {x : Item} {e : RegisterError}

/-! ## Names -/

theorem insert_free {name : String} (h : name ∉ i.registry.entries.map (·.name))
    (driver : String) (id : DeviceId) :
    ∃ registry : Registry DeviceId, registry.entries = i.registry.entries ++ [⟨name, driver, id⟩] ∧
      insert name driver id i = (.ok (), { i with registry }) := by
  obtain ⟨registry, hregistry, hentries⟩ := Registry.insert?_of_free h driver id
  exact ⟨registry, hentries, by simp only [insert, hregistry]⟩

theorem insert_taken {name : String} (h : name ∈ i.registry.entries.map (·.name))
    (driver : String) (id : DeviceId) :
    insert name driver id i = (.error (.configuration (.taken name)), i) := by
  simp only [insert, Registry.insert?_of_taken h driver id]

theorem insert_error {name driver : String} {id : DeviceId} {e : DeviceError Float}
    (h : insert name driver id i = (.error e, i')) : i' = i := by
  by_cases hname : name ∈ i.registry.entries.map (·.name)
  · rw [insert_taken hname] at h
    exact (Prod.mk.inj h).2.symm
  · obtain ⟨registry, -, hinsert⟩ := insert_free hname driver id
    rw [hinsert] at h
    cases h

theorem insertDevice_error {name driver : String} {d : Device Float} {e : DeviceError Float}
    (h : insertDevice name driver d i = (.error e, i')) : i' = i := by
  unfold insertDevice at h
  dsimp only at h
  split at h
  · cases h
  · exact (Prod.mk.inj h).2.symm

/-! ## One item -/

/-- The item was registered under a free name, and nothing else has changed. -/
structure Adds (mode : Mode) (i : Instrument) (x : Item) (i' : Instrument) : Prop where
  free : x.name ∉ i.registry.entries.map (·.name)
  drivers : i'.drivers = i.drivers
  entries : i'.registry.entries =
    i.registry.entries ++ [⟨x.name, x.label, i.lab.devices.length⟩]
  devices : ∃ d, x.made mode i = .ok d ∧ i'.lab.devices = i.lab.devices ++ [d]

/-- The item failed and no entry was made. The device of a composite whose name is taken is appended
all the same. -/
structure Refuses (mode : Mode) (i : Instrument) (x : Item) (e : RegisterError)
    (i' : Instrument) : Prop where
  cause : x.made mode i = .error e
  drivers : i'.drivers = i.drivers
  registry : i'.registry = i.registry
  devices : i.lab.devices <+: i'.lab.devices

def Registers (mode : Mode) (i : Instrument) (x : Item) :
    Except RegisterError Unit × Instrument → Prop
  | (.ok (), i') => Adds mode i x i'
  | (.error e, i') => Refuses mode i x e i'

theorem free_of_build {c : DeviceConfig} {d : Device Float} (h : i.build c = .ok d) :
    c.name ∉ i.registry.entries.map (·.name) := by
  rw [← Registry.contains_eq_false_iff]
  unfold build at h
  cases hc : i.registry.contains c.name with
  | false => rfl
  | true =>
    rw [hc] at h
    cases h

theorem register_error {c : DeviceConfig} (h : i.build c = .error e) :
    register c i = (.error e, i) := by
  simp only [register, Action.bind_apply, Action.look, Action.settle, h]

theorem register_registers (i : Instrument) (c : DeviceConfig) :
    Registers mode i (.device c) (register c i) := by
  cases hbuild : i.build c with
  | error e =>
    rw [register_error hbuild]
    exact ⟨hbuild, rfl, rfl, List.prefix_rfl⟩
  | ok d =>
    have hfree := free_of_build hbuild
    obtain ⟨registry, hentries, hinsert⟩ :=
      insert_free (i := { i with lab := (i.lab.add d).2 }) hfree c.driver (i.lab.add d).1
    have hinserted : insertDevice c.name c.driver d i =
        (.ok (), { i with registry, lab := (i.lab.add d).2 }) := by
      simp only [insertDevice, hinsert]
    have hregister : register c i = say .info ("Registered device '" ++ c.name ++ "' (" ++ c.driver
        ++ ")") { i with registry, lab := (i.lab.add d).2 } := by
      simp only [register, Action.bind_apply, Action.look, Action.settle, hbuild, orElse,
        hinserted]
    rw [hregister]
    exact ⟨hfree, rfl, hentries, d, hbuild, rfl⟩

theorem registerComposite_registers (i : Instrument) (c : CompositeConfig) :
    Registers mode i (.composite c) (registerComposite mode c i) := by
  cases hdraft : c.draft mode i.resolve >>= Draft.build with
  | error e =>
    have hregister : registerComposite mode c i = (.error (.composite c.name e), i) := by
      simp only [registerComposite, Action.bind_apply, orElse, buildComposite_error hdraft]
    rw [hregister]
    exact ⟨by simp only [Item.made, hdraft], rfl, rfl, List.prefix_rfl⟩
  | ok built =>
    obtain ⟨event, hbuild⟩ := buildComposite_ok hdraft
    by_cases hname : c.name ∈ i.registry.entries.map (·.name)
    · have hcontains : i.registry.contains c.name = true := by
        rw [← Bool.not_eq_false, Registry.contains_eq_false_iff]
        exact not_not_intro hname
      have hinsert := insert_taken
        (i := { i with lab := ((i.lab.noted event).add (.composite built)).2 }) hname c.kind.label
        ((i.lab.noted event).add (.composite built)).1
      have hregister : registerComposite mode c i =
          (.error (.device (.configuration (.taken c.name))),
            { i with lab := ((i.lab.noted event).add (.composite built)).2 }) := by
        simp only [registerComposite, Action.bind_apply, orElse, hbuild, hinsert]
      rw [hregister]
      exact ⟨by simp only [Item.made, hdraft, hcontains, if_true], rfl, rfl,
        List.prefix_append _ _⟩
    · have hcontains := Registry.contains_eq_false_iff.mpr hname
      obtain ⟨registry, hentries, hinsert⟩ := insert_free
        (i := { i with lab := ((i.lab.noted event).add (.composite built)).2 }) hname c.kind.label
        ((i.lab.noted event).add (.composite built)).1
      have hregister : registerComposite mode c i = say .info ("Registered composite '" ++ c.name
          ++ "' (" ++ c.kind.label ++ ", " ++ modeName mode ++ " mode)")
          { i with registry, lab := ((i.lab.noted event).add (.composite built)).2 } := by
        simp only [registerComposite, Action.bind_apply, orElse, hbuild, hinsert]
      rw [hregister]
      refine ⟨hname, rfl, hentries, .composite built, ?_, rfl⟩
      simp only [Item.made, hdraft, hcontains, Bool.false_eq_true, if_false]

theorem item_registers (mode : Mode) (i : Instrument) (x : Item) :
    Registers mode i x (x.register mode i) := by
  cases x with
  | device c => exact register_registers i c
  | composite c => exact registerComposite_registers i c

/-! ## Several of them -/

/-- The items were registered in turn. -/
inductive Built (mode : Mode) : Instrument → List Item → Instrument → Prop
  | nil {i : Instrument} : Built mode i [] i
  | cons {i i' i'' : Instrument} {x : Item} {xs : List Item} (h : Adds mode i x i')
      (hs : Built mode i' xs i'') : Built mode i (x :: xs) i''

/-- The entries of items that are registered in turn, if there are `n` devices before. -/
def entriesFrom (n : Nat) : List Item → List (Entry DeviceId)
  | [] => []
  | x :: xs => ⟨x.name, x.label, n⟩ :: entriesFrom (n + 1) xs

theorem Built.drivers {xs : List Item} (h : Built mode i xs i') : i'.drivers = i.drivers := by
  induction h with
  | nil => rfl
  | cons h _ ih => rw [ih, h.drivers]

theorem Built.entries {xs : List Item} (h : Built mode i xs i') :
    i'.registry.entries = i.registry.entries ++ entriesFrom i.lab.devices.length xs ∧
      ∃ ds, ds.length = xs.length ∧ i'.lab.devices = i.lab.devices ++ ds := by
  induction h with
  | nil => exact ⟨(List.append_nil _).symm, [], rfl, (List.append_nil _).symm⟩
  | @cons i i' i'' x xs h _ ih =>
    obtain ⟨d, -, hd⟩ := h.devices
    obtain ⟨hentries, ds, hlen, hds⟩ := ih
    have hlength : i'.lab.devices.length = i.lab.devices.length + 1 := by simp [hd]
    refine ⟨?_, d :: ds, congrArg (· + 1) hlen, ?_⟩
    · rw [hentries, h.entries, hlength, List.append_assoc]
      rfl
    · rw [hds, hd, List.append_assoc]
      rfl

theorem forEach_register (mode : Mode) (i : Instrument) (xs : List Item) :
    ∃ done rest reached, xs = done ++ rest ∧ Built mode i done reached ∧
      ((rest = [] ∧ forEach (Item.register mode) xs i = (.ok (), reached)) ∨
        ∃ x rest' e i', rest = x :: rest' ∧ forEach (Item.register mode) xs i = (.error e, i') ∧
          Refuses mode reached x e i') := by
  induction xs generalizing i with
  | nil => exact ⟨[], [], i, rfl, .nil, .inl ⟨rfl, rfl⟩⟩
  | cons x xs ih =>
    have hregisters := item_registers mode i x
    rcases hrun : x.register mode i with ⟨e | _, i'⟩
    · rw [hrun] at hregisters
      exact ⟨[], x :: xs, i, rfl, .nil, .inr ⟨x, xs, e, i', rfl, Action.bind_error _ hrun,
        hregisters⟩⟩
    · rw [hrun] at hregisters
      obtain ⟨done, rest, reached, rfl, hbuilt, hend⟩ := ih i'
      have hstep : forEach (Item.register mode) (x :: (done ++ rest)) i =
          forEach (Item.register mode) (done ++ rest) i' := Action.bind_ok _ hrun
      refine ⟨x :: done, rest, reached, rfl, .cons hregisters hbuilt, ?_⟩
      rw [hstep]
      exact hend

theorem forEach_map {β γ : Type} (f : γ → Action Instrument RegisterError Unit) (g : β → γ)
    (bs : List β) : forEach f (bs.map g) = forEach (fun b => f (g b)) bs := by
  induction bs with
  | nil => rfl
  | cons b bs ih =>
    simp only [List.map_cons, forEach, ih]

theorem forEach_append {β : Type} (f : β → Action Instrument RegisterError Unit) (as bs : List β)
    (i : Instrument) :
    forEach f (as ++ bs) i = (forEach f as >>= fun _ => forEach f bs) i := by
  induction as generalizing i with
  | nil => rfl
  | cons a as ih =>
    rw [Action.bind_apply]
    simp only [List.cons_append, forEach, Action.bind_apply]
    rcases f a i with ⟨e | _, i'⟩
    · rfl
    · simp only [ih, Action.bind_apply]

theorem buildSetup_eq (s : Setup) (i : Instrument) :
    buildSetup s i = forEach (Item.register s.mode) s.items i := by
  rw [Setup.items, forEach_append, forEach_map, forEach_map]
  rfl

/-- **Partial builds.** In any instrument, the items of a setup are `Built` in order up to the first
that fails in the instrument reached by then, with the error of `made`, or all of them. Afterwards
the registry has the entries from before and one for each item built, with a device of its own, and
the devices from before are where they were. A registration or an insertion that fails leaves the
registry as it was. -/
theorem buildSetup_prefix (i : Instrument) (s : Setup) :
    (∃ done rest reached, s.items = done ++ rest ∧ Built s.mode i done reached ∧
      (∃ ds, ds.length = done.length ∧ reached.lab.devices = i.lab.devices ++ ds) ∧
      reached.registry.entries =
        i.registry.entries ++ entriesFrom i.lab.devices.length done ∧
      (buildSetup s i).2.registry = reached.registry ∧
      reached.lab.devices <+: (buildSetup s i).2.lab.devices ∧
      (buildSetup s i).2.drivers = i.drivers ∧
      ((buildSetup s i).1 = .ok () ↔ rest = []) ∧
      ∀ e, (buildSetup s i).1 = .error e →
        ∃ x rest', rest = x :: rest' ∧ x.made s.mode reached = .error e) ∧
    (∀ c e i', register c i = (.error e, i') → i' = i) ∧
    (∀ mode c e i', registerComposite mode c i = (.error e, i') →
      i'.registry = i.registry ∧ i.lab.devices <+: i'.lab.devices) ∧
    (∀ name driver d e i', insertDevice name driver d i = (.error e, i') → i' = i) ∧
    ∀ name driver id e i', insert name driver id i = (.error e, i') → i' = i := by
  refine ⟨?_, ?_, ?_, fun _ _ _ _ _ => insertDevice_error, fun _ _ _ _ _ => insert_error⟩
  · rw [buildSetup_eq]
    obtain ⟨done, rest, reached, hitems, hbuilt, hend⟩ := forEach_register s.mode i s.items
    obtain ⟨hentries, hdevices⟩ := hbuilt.entries
    refine ⟨done, rest, reached, hitems, hbuilt, hdevices, hentries, ?_⟩
    rcases hend with ⟨rfl, hrun⟩ | ⟨x, rest', e, i', rfl, hrun, hrefuses⟩
    · rw [hrun]
      exact ⟨rfl, List.prefix_rfl, hbuilt.drivers, by simp, by simp⟩
    · rw [hrun]
      refine ⟨hrefuses.registry, hrefuses.devices, hrefuses.drivers.trans hbuilt.drivers,
        by simp, ?_⟩
      rintro e ⟨⟩
      exact ⟨x, rest', rfl, hrefuses.cause⟩
  · intro c e i' h
    cases hbuild : i.build c with
    | error why =>
      rw [register_error hbuild] at h
      exact (Prod.mk.inj h).2.symm
    | ok d =>
      have hregisters : Registers .master i (.device c) (register c i) := register_registers i c
      rw [h] at hregisters
      rw [show i.build c = .error e from hregisters.cause] at hbuild
      cases hbuild
  · intro mode c e i' h
    have hregisters : Registers mode i (.composite c) (registerComposite mode c i) :=
      registerComposite_registers i c
    rw [h] at hregisters
    exact ⟨hregisters.registry, hregisters.devices⟩

/-- The name `mr2` is taken. -/
def occupied : Instrument :=
  (insertDevice "mr2" "mock_motor" (.motor (Motor.make "mr2")) simulated).2

/-- The two items before `mr2` are built. -/
theorem buildSetup_prefix_occupied :
    (buildSetup trialSetup occupied).1 = .error (.taken "mr2") ∧
      (∃ done rest, trialSetup.items = done ++ rest ∧ rest ≠ [] ∧
        (buildSetup trialSetup occupied).2.registry.entries =
          occupied.registry.entries ++ entriesFrom occupied.lab.devices.length done) ∧
      (buildSetup trialSetup occupied).2.registry.entries =
        [⟨"mr2", "mock_motor", 0⟩, ⟨"mono_inout", "mock_switch", 1⟩, ⟨"mr1", "mock_motor", 2⟩] := by
  obtain ⟨⟨done, rest, reached, hitems, -, -, hentries, hregistry, -, -, hok, -⟩, -⟩ :=
    buildSetup_prefix occupied trialSetup
  have hrun : (buildSetup trialSetup occupied).1 = .error (.taken "mr2") := by decide +kernel
  refine ⟨hrun, ⟨done, rest, hitems, ?_, by rw [hregistry, hentries]⟩, by decide +kernel⟩
  intro hrest
  rw [hok.mpr hrest] at hrun
  cases hrun

end Instrument
end Beamline
