import Beamline.Instrument
import Beamline.Proofs.Drafting

/-!
Building a setup that the check accepts, in an instrument with the simulated drivers and no names.
`Holds i names` says that `names` are registered in this order, each with a device of that name.
Proved here:

* `buildComposite_ok`, `registerComposite_ends`, `register_ends`: one item is registered, or fails
  with an error that is `Foreseen`;
* `forEach_ends`: so do items in turn, by induction, as each finds its attached names registered;
* `buildSetup_ok_iff`: which setups are built, and with what errors others fail.
-/

namespace Beamline

/-- A simulated driver of that name accepts the settings. -/
def DeviceConfig.Buildable (d : DeviceConfig) : Prop :=
  (d.driver = "mock_motor" ∧ motorDriver.validate d.settings = .ok ()) ∨
    (d.driver = "mock_switch" ∧ switchDriver.validate d.settings = .ok ())

/-- The errors that remain after the check: of the drivers, and of a composite as in
`Misfit.Foreseen`. -/
def RegisterError.Foreseen : RegisterError → Prop
  | noDriver _ _ | rejected _ _ _ => True
  | composite _ e => e.Foreseen
  | taken _ | notBuilt _ _ | device _ => False

/-! ## Drivers -/

theorem DeviceConfig.buildable_iff {d : DeviceConfig} :
    d.Buildable ↔ ∃ driver, simulatedDrivers.find? (fun e => e.id == d.driver) = some driver ∧
      driver.validate d.settings = .ok () := by
  unfold DeviceConfig.Buildable simulatedDrivers
  by_cases hmotor : d.driver = "mock_motor"
  · simp [hmotor, motorDriver]
  · by_cases hswitch : d.driver = "mock_switch"
    · simp [hswitch, motorDriver, switchDriver]
    · simp [hmotor, hswitch, Ne.symm hmotor, Ne.symm hswitch, motorDriver, switchDriver]

theorem build_of_validate {driver : Driver} (h : driver ∈ simulatedDrivers) {settings : Toml}
    (hvalid : driver.validate settings = .ok ()) (name : String) :
    ∃ d, driver.build name settings = .ok d ∧ d.name = name := by
  simp only [simulatedDrivers, List.mem_cons, List.not_mem_nil, or_false] at h
  rcases h with rfl | rfl
  · simp only [motorDriver] at hvalid ⊢
    split at hvalid
    · exact ⟨_, rfl, rfl⟩
    · cases hvalid
  · simp only [switchDriver] at hvalid ⊢
    split at hvalid
    · exact ⟨_, rfl, rfl⟩
    · cases hvalid

namespace Instrument

variable {i : Instrument} {names : List String}

/-- The drivers are the simulated ones, and `names` are registered, each with a device of that name.
-/
structure Holds (i : Instrument) (names : List String) : Prop where
  drivers : i.drivers = simulatedDrivers
  names_eq : i.registry.entries.map (·.name) = names
  reports : ∀ e ∈ i.registry.entries, (i.lab.device? e.device).map Device.name = some e.name

theorem Holds.noted (hi : i.Holds names) (e : Event) :
    ({ i with lab := i.lab.noted e } : Instrument).Holds names :=
  ⟨hi.drivers, hi.names_eq, hi.reports⟩

theorem Holds.resolves (hi : i.Holds names) {n : String} (hn : n ∈ names) :
    ∃ id, i.resolve n = .ok id := by
  obtain ⟨id, hid⟩ := Registry.get?_of_mem (hi.names_eq ▸ hn)
  exact ⟨id, by rw [resolve, hid]⟩

theorem Holds.added (hi : i.Holds names) {d : Device Float} (hd : d.name ∉ names)
    (driver : String) :
    ∃ registry, i.registry.insert? d.name driver (i.lab.add d).1 = some registry ∧
      ({ i with registry, lab := (i.lab.add d).2 } : Instrument).Holds (names ++ [d.name]) := by
  obtain ⟨registry, hregistry, hentries⟩ :=
    Registry.insert?_of_free (hi.names_eq ▸ hd) driver (i.lab.add d).1
  refine ⟨registry, hregistry, hi.drivers, ?_, ?_⟩
  · simp [hentries, hi.names_eq]
  · intro e he
    change ((i.lab.devices ++ [d])[e.device]?).map Device.name = some e.name
    rcases List.mem_append.mp (hentries ▸ he) with he | he
    · obtain ⟨d', hd', hname⟩ := Option.map_eq_some_iff.mp (hi.reports e he)
      rw [List.getElem?_append_left (List.getElem?_eq_some_iff.mp hd').1]
      exact hi.reports e he
    · obtain rfl := List.mem_singleton.mp he
      simp [Lab.add]

theorem Holds.build_cases (hi : i.Holds names) {d : DeviceConfig} (hd : d.name ∉ names) :
    (d.Buildable ∧ ∃ built, i.build d = .ok built ∧ built.name = d.name) ∨
      (¬ d.Buildable ∧ ∃ e, i.build d = .error e ∧ e.Foreseen) := by
  have hfree : i.registry.contains d.name = false := Registry.contains_of_free (hi.names_eq ▸ hd)
  unfold Instrument.build
  rw [hfree, driver?, hi.drivers, DeviceConfig.buildable_iff]
  cases hdriver : simulatedDrivers.find? fun e => e.id == d.driver with
  | none => exact .inr ⟨by simp, _, rfl, trivial⟩
  | some driver =>
    cases hvalid : driver.validate d.settings with
    | error why =>
      exact .inr ⟨by simp [hvalid], .rejected d.name d.driver why, by simp [hvalid], trivial⟩
    | ok u =>
      obtain ⟨built, hbuilt, hname⟩ :=
        build_of_validate (List.mem_of_find?_eq_some hdriver) hvalid d.name
      exact .inl ⟨⟨driver, rfl, hvalid⟩, built, by simp [hvalid, hbuilt], hname⟩

/-! ## One item -/

/-- If `ok`, the action succeeds and `names` are registered; if not, it fails with a foreseen error.
-/
def Ends (ok : Prop) (names : List String) : Except RegisterError Unit × Instrument → Prop
  | (.ok (), i) => ok ∧ i.Holds names
  | (.error e, _) => ¬ ok ∧ e.Foreseen

theorem Ends.bind {p q : Prop} {names' : List String} {x y : Action Instrument RegisterError Unit}
    (hx : Ends p names (x i)) (hy : ∀ i', i'.Holds names → Ends q names' (y i')) :
    Ends (p ∧ q) names' ((x >>= fun _ => y) i) := by
  rw [Action.bind_apply]
  revert hx
  rcases x i with ⟨_ | _, i'⟩
  · exact fun hx => ⟨fun hpq => hx.1 hpq.1, hx.2⟩
  · rintro ⟨hp, hi'⟩
    have hend := hy i' hi'
    revert hend
    change Ends q names' (y i') → Ends (p ∧ q) names' (y i')
    rcases y i' with ⟨_ | _, i''⟩
    · exact fun hend => ⟨fun hpq => hend.1 hpq.2, hend.2⟩
    · exact fun hend => ⟨⟨hp, hend.1⟩, hend.2⟩

theorem register_ends (hi : i.Holds names) {d : DeviceConfig} (hd : d.name ∉ names) :
    Ends d.Buildable (names ++ [d.name]) (register d i) := by
  rcases hi.build_cases hd with ⟨hok, built, hbuilt, hname⟩ | ⟨hbad, e, he, hforeseen⟩
  · rw [← hname] at hd ⊢
    obtain ⟨registry, hregistry, hholds⟩ := hi.added hd d.driver
    have hinsert : insertDevice built.name d.driver built i =
        (.ok (), { i with registry, lab := (i.lab.add built).2 }) := by
      simp [insertDevice, insert, hregistry]
    have hregister : register d i = say .info ("Registered device '" ++ d.name ++ "' (" ++ d.driver
        ++ ")") { i with registry, lab := (i.lab.add built).2 } := by
      simp only [register, Action.bind_apply, Action.look, Action.settle, hbuilt, orElse, ← hname,
        hinsert]
    rw [hregister]
    exact ⟨hok, hholds.noted _⟩
  · have hregister : register d i = (.error e, i) := by
      simp only [register, Action.bind_apply, Action.look, Action.settle, he]
    rw [hregister]
    exact ⟨hbad, hforeseen⟩

theorem buildComposite_ok {c : CompositeConfig} {mode : Mode} {built : Composite DeviceId Float}
    (h : (c.draft mode i.resolve >>= Draft.build) = .ok built) :
    ∃ e, buildComposite c mode i = (.ok ((i.lab.noted e).add (.composite built)).1,
      { i with lab := ((i.lab.noted e).add (.composite built)).2 }) := by
  obtain ⟨draft, hdraft, hbuilt⟩ := except_bind_eq_ok.mp h
  simp only [buildComposite, Action.bind_apply, Action.look, Action.settle, hdraft, inLab,
    Lab.addComposite, hbuilt]
  exact ⟨_, rfl⟩

theorem buildComposite_error {c : CompositeConfig} {mode : Mode} {e : DeviceError Float}
    (h : (c.draft mode i.resolve >>= Draft.build) = .error e) :
    buildComposite c mode i = (.error e, i) := by
  simp only [buildComposite, Action.bind_apply, Action.look, Action.settle]
  rcases except_bind_eq_error.mp h with hdraft | ⟨draft, hdraft, hbuild⟩
  · rw [hdraft]
  · simp only [hdraft, inLab, Lab.addComposite, hbuild]

theorem registerComposite_ends (hi : i.Holds names) {c : CompositeConfig} (hc : c.name ∉ names)
    {known : List String} (hknown : ∀ n ∈ known, n ∈ names) (hfaults : c.faults known = [])
    (mode : Mode) :
    Ends c.kind.Buildable (names ++ [c.name]) (registerComposite mode c i) := by
  have hassembles : Assembles c.kind.Buildable c.name (c.draft mode i.resolve >>= Draft.build) :=
    CompositeConfig.draft_assembles hfaults fun n hn => hi.resolves (hknown n hn)
  cases hdraft : c.draft mode i.resolve >>= Draft.build with
  | error e =>
    rw [hdraft] at hassembles
    obtain ⟨hbad, hforeseen⟩ := hassembles
    have hregister : registerComposite mode c i = (.error (.composite c.name e), i) := by
      simp only [registerComposite, Action.bind_apply, orElse, buildComposite_error hdraft]
    rw [hregister]
    exact ⟨hbad, hforeseen⟩
  | ok built =>
    rw [hdraft] at hassembles
    obtain ⟨hok, hname⟩ := hassembles
    obtain ⟨e, hbuild⟩ := buildComposite_ok hdraft
    have hfree : (Device.composite built).name ∉ names := by
      change built.name ∉ names
      rwa [hname]
    obtain ⟨registry, hregistry, hholds⟩ := (hi.noted e).added hfree c.kind.label
    rw [show (Device.composite built).name = c.name from hname] at hregistry hholds
    have hregister : registerComposite mode c i = say .info ("Registered composite '" ++ c.name
        ++ "' (" ++ c.kind.label ++ ", " ++ modeName mode ++ " mode)")
        { i with registry, lab := ((i.lab.noted e).add (.composite built)).2 } := by
      simp only [registerComposite, Action.bind_apply, orElse, hbuild, insert, hregistry]
    rw [hregister]
    exact ⟨hok, hholds.noted _⟩

/-! ## All of them -/

/-- `R names bs` is what the items `bs` need of the names registered so far. -/
theorem forEach_ends {β : Type} {f : β → Action Instrument RegisterError Unit} {name : β → String}
    {ok : β → Prop} {R : List String → List β → Prop}
    (hready : ∀ {names b bs}, R names (b :: bs) → R (names ++ [name b]) bs)
    (hstep : ∀ {names b bs i}, R names (b :: bs) → Holds i names →
      Ends (ok b) (names ++ [name b]) (f b i))
    {bs : List β} (hbs : R names bs) (hi : i.Holds names) :
    Ends (∀ b ∈ bs, ok b) (names ++ bs.map name) (forEach f bs i) := by
  induction bs generalizing names i with
  | nil =>
    rw [List.map_nil, List.append_nil]
    exact ⟨by simp, hi⟩
  | cons b bs ih =>
    have hend := (hstep hbs hi).bind fun i' hi' => ih (hready hbs) hi'
    rwa [List.append_assoc, List.singleton_append, ← List.map_cons, ← List.forall_mem_cons] at hend

theorem composites_end {cs : List CompositeConfig} {known : List String} (mode : Mode)
    (hi : i.Holds names) (hnames : (names ++ cs.map (·.name)).Nodup)
    (hknown : ∀ n ∈ known, n ∈ names) (hfaults : compositeFaults known cs = []) :
    Ends (∀ c ∈ cs, c.kind.Buildable) (names ++ cs.map (·.name))
      (forEach (registerComposite mode) cs i) := by
  refine forEach_ends (R := fun names cs => (names ++ cs.map (·.name)).Nodup ∧
    ∃ known, (∀ n ∈ known, n ∈ names) ∧ compositeFaults known cs = []) ?_ ?_
    ⟨hnames, known, hknown, hfaults⟩ hi
  · rintro names c cs ⟨hnames, known, hknown, hfaults⟩
    refine ⟨by simpa using hnames, c.name :: known, ?_, (compositeFaults_cons_eq_nil.mp hfaults).2⟩
    intro n hn
    rcases List.mem_cons.mp hn with rfl | hn
    · exact List.mem_append_right _ List.mem_cons_self
    · exact List.mem_append_left _ (hknown n hn)
  · rintro names c cs i ⟨hnames, known, hknown, hfaults⟩ hi
    have hfree : c.name ∉ names := fun hmem =>
      (List.nodup_append.mp hnames).2.2 _ hmem _ List.mem_cons_self rfl
    exact registerComposite_ends hi hfree hknown (compositeFaults_cons_eq_nil.mp hfaults).1 mode

theorem devices_end {ds : List DeviceConfig} (hi : i.Holds names)
    (hnames : (names ++ ds.map (·.name)).Nodup) :
    Ends (∀ d ∈ ds, d.Buildable) (names ++ ds.map (·.name)) (forEach register ds i) := by
  refine forEach_ends (R := fun names ds => (names ++ ds.map (·.name)).Nodup) ?_ ?_ hnames hi
  · intro names d ds hnames
    simpa using hnames
  · intro names d ds i hnames hi
    exact register_ends hi fun hmem =>
      (List.nodup_append.mp hnames).2.2 _ hmem _ List.mem_cons_self rfl

theorem buildSetup_ends {s : Setup} (hcheck : s.check = .ok s) (hi : i.Holds []) :
    Ends ((∀ d ∈ s.devices, d.Buildable) ∧ ∀ c ∈ s.composites, c.kind.Buildable) s.names
      (buildSetup s i) := by
  obtain ⟨-, hfaults, -⟩ := Setup.check_eq_ok.mp hcheck
  obtain ⟨hnodup, hcomposites⟩ := Setup.faults_eq_nil.mp hfaults
  exact (devices_end hi (List.nodup_append.mp hnodup).1).bind fun i' hi' =>
    composites_end s.mode hi' hnodup (fun n hn => hn) hcomposites

theorem addDrivers_holds (lab : Lab Float) :
    (addDrivers simulatedDrivers { empty with lab }).Holds [] := by
  refine ⟨?_, rfl, fun e he => ?_⟩
  · simp [addDrivers, simulatedDrivers, addDriver, driver?, note, empty, motorDriver, switchDriver]
  · cases he

/-- **Building an accepted setup.** Let the check accept the setup `s`. With the simulated drivers
and no names, over any laboratory, building it is `.ok ()` if and only if every device and every
composite is `Buildable`. Then the names of the setup are registered in order, and each device has
its name. An error is always `Foreseen`: never a taken or unresolved name, limits out of order,
equal gate states or wrong roles. -/
theorem buildSetup_ok_iff (s : Setup) (lab : Lab Float) (hcheck : s.check = .ok s) :
    let run := buildSetup s (addDrivers simulatedDrivers { empty with lab })
    (run.1 = .ok () ↔
      (∀ d ∈ s.devices, d.Buildable) ∧ ∀ c ∈ s.composites, c.kind.Buildable) ∧
    (run.1 = .ok () → run.2.registry.entries.map (·.name) = s.names ∧
      ∀ e ∈ run.2.registry.entries,
        (run.2.lab.device? e.device).map Device.name = some e.name) ∧
    ∀ e, run.1 = .error e → e.Foreseen := by
  intro run
  have hends : Ends _ s.names run := buildSetup_ends hcheck (addDrivers_holds lab)
  rcases hrun : run with ⟨e | _, i⟩
  · rw [hrun] at hends
    obtain ⟨hbad, hforeseen⟩ := hends
    refine ⟨⟨by simp, fun hok => absurd hok hbad⟩, by simp, ?_⟩
    rintro _ ⟨⟩
    exact hforeseen
  · rw [hrun] at hends
    obtain ⟨hok, hholds⟩ := hends
    exact ⟨⟨fun _ => hok, fun _ => rfl⟩, fun _ => ⟨hholds.names_eq, hholds.reports⟩, by simp⟩

theorem buildSetup_ok_iff_trial :
    trialSetup.check = .ok trialSetup ∧ (buildSetup trialSetup simulated).1 = .ok () ∧
      (∀ d ∈ trialSetup.devices, d.Buildable) ∧ ∀ c ∈ trialSetup.composites, c.kind.Buildable := by
  have hcheck : trialSetup.check = .ok trialSetup :=
    Setup.check_eq_ok.mpr ⟨by decide +kernel, by decide +kernel, rfl⟩
  have hrun : (buildSetup trialSetup simulated).1 = .ok () :=
    except_eq_ok_of_isOk (by decide +kernel)
  exact ⟨hcheck, hrun, (buildSetup_ok_iff trialSetup Lab.empty hcheck).1.mp hrun⟩

end Instrument
end Beamline
