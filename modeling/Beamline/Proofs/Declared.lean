import Beamline.Driver
import Beamline.Proofs.Polling
import Beamline.Proofs.NonStartSteps

/-!
A switch built from a validated table, in every orderly run without `place`. Proved here:

* `Follows.run`: the switch is what `depart` left at the last start that was accepted, advanced to
  some time since (`Follows`, an invariant kept by `Follows.serve`);
* `Follows.showsTarget`: so current and pending state are declared, and what the switch reads and
  its status are determined by the last accepted start and the time since (`ShowsTarget`);
* `configured_switch_declared`: all this for every table that `validate` accepts.
-/

namespace Beamline

namespace Switch

variable {α : Type} [Scalar α] {s s' : Switch α} {last : Option (Nat × String)} {since now : Nat}

/-! ## The last start -/

/-- No request of the run is a `place`. -/
def Unhandled (xs : List (Timed (Request α))) : Prop := ∀ x ∈ xs, ∀ state, x.request ≠ .place state

/-- The target state, if the request is a start and the reply is `.ok ()`. -/
def accepted? : Request α → Reply α → Option String
  | .start (.state name), .done (.ok ()) => some name
  | _, _ => none

/-- Time and target state of the last accepted start of the run. -/
def lastStart : List (Timed (Request α)) → Switch α → Option (Nat × String)
  | [], _ => none
  | x :: xs, s =>
    (lastStart xs (serve x.now x.request s).2.1).or
      ((accepted? x.request (serve x.now x.request s).1).map fun name => (x.now, name))

/-- The switch after `depart` for the last accepted start, or as it was built. -/
def departed (s : Switch α) : Option (Nat × String) → Switch α
  | none => s
  | some (now, name) => s.depart now name

/-- The invariant of a run from `s` up to the time `since`, with `last` as the last accepted start.
-/
structure Follows (s : Switch α) (last : Option (Nat × String)) (since : Nat) (s' : Switch α) :
    Prop where
  declared : ∀ a ∈ last, a.2 ∈ s.states
  course : s' = s.departed last ∨ ∃ now ≤ since, s' = (s.departed last).advance now

omit [Scalar α] in
theorem fixed_departed (s : Switch α) (last : Option (Nat × String)) :
    (s.departed last).fixed = s.fixed := by
  unfold departed
  split
  · rfl
  · exact fixed_depart s _ _

omit [Scalar α] in
/-- `depart` overwrites everything but the settings. -/
theorem depart_of_fixed (h : s'.fixed = s.fixed) (now : Nat) (name : String) :
    s'.depart now name = s.depart now name := by
  have hs : ∀ k : Switch α, k.fixed.depart now name = k.depart now name := fun _ => rfl
  rw [← hs, h, hs]

omit [Scalar α] in
theorem states_of_fixed (h : s'.fixed = s.fixed) : s'.states = s.states := by
  have hstates : s'.fixed.states = s.fixed.states := by rw [h]
  exact hstates

omit [Scalar α] in
theorem allowed_cases {target : Value α} (h : s.isAllowed target = .ok ()) :
    ∃ name ∈ s.states, target = .state name := by
  cases target with
  | state name => exact ⟨name, isAllowed_state.mp h, rfl⟩
  | scalar x => cases h
  | null => cases h

namespace Follows

omit [Scalar α] in
theorem fixed (h : s.Follows last since s') : s'.fixed = s.fixed := by
  rcases h.course with rfl | ⟨now, -, rfl⟩
  · exact fixed_departed s last
  · exact (fixed_advance _ now).trans (fixed_departed s last)

omit [Scalar α] in
theorem of_le (h : s.Follows last since s') (hnow : since ≤ now) : s.Follows last now s' := by
  refine ⟨h.declared, h.course.imp id ?_⟩
  rintro ⟨t, ht, hs⟩
  exact ⟨t, Nat.le_trans ht hnow, hs⟩

omit [Scalar α] in
theorem advance (h : s.Follows last since s') (hnow : since ≤ now) :
    s.Follows last now (s'.advance now) := by
  refine ⟨h.declared, .inr ⟨now, Nat.le_refl now, ?_⟩⟩
  rcases h.course with rfl | ⟨t, ht, rfl⟩
  · rfl
  · exact advance_advance _ (Nat.le_trans ht hnow)

/-- One request keeps the invariant, with a new `last` if it is an accepted start. -/
theorem serve (hquiet : s.faults.Quiet) (h : s.Follows last since s') (hnow : since ≤ now)
    {q : Request α} (hq : ∀ state, q ≠ .place state) :
    s.Follows (((accepted? q (serve now q s').1).map fun name => (now, name)).or last)
      (serve now q s').2.2 (serve now q s').2.1 := by
  have hquiet' : s'.faults.Quiet := faults_of_fixed h.fixed ▸ hquiet
  cases q with
  | read =>
    rw [Switch.serve, read_of_quiet hquiet']
    exact h.advance hnow
  | start target =>
    rw [Switch.serve, start_of_quiet hquiet']
    cases hallowed : s'.isAllowed target with
    | error e =>
      have hrefused : accepted? (.start target) (.done (.error e) : Reply α) = none := by
        cases target <;> rfl
      dsimp only [Except.map]
      rw [hrefused]
      exact h.of_le hnow
    | ok u =>
      obtain ⟨name, hname, rfl⟩ := allowed_cases hallowed
      rw [states_of_fixed h.fixed] at hname
      refine ⟨fun a ha => ?_, .inl (depart_of_fixed h.fixed now name)⟩
      cases ha
      exact hname
  | stop => exact h.of_le hnow
  | wait pace beats =>
    have hwait := wait_of_guard pace ⟨now, beats, 0⟩ (guard_of_quiet hquiet' .wait)
    have hle := now_le_awaited s' pace ⟨now, beats, 0⟩
    rw [Switch.serve, hwait]
    rcases hawait : s'.awaited pace ⟨now, beats, 0⟩ with ⟨_ | _, clock⟩
    · rw [hawait] at hle
      exact h.of_le (Nat.le_trans hnow hle)
    · rw [hawait] at hle
      exact h.advance (Nat.le_trans hnow hle)
  | status => exact h.advance hnow
  | place state => exact absurd rfl (hq state)
  | current => exact h.advance hnow

end Follows

/-- By induction on the run, as `serve` ends no request before it is made. -/
theorem Follows.run (hquiet : s.faults.Quiet) (h : s.Follows last since s')
    {xs : List (Timed (Request α))} (horderly : Switch.serve.Orderly since xs s')
    (hxs : Unhandled xs) :
    s.Follows ((lastStart xs s').or last) (Switch.serve.ends since xs s')
      (Switch.serve.after xs s') := by
  induction xs generalizing last since s' with
  | nil => exact h
  | cons x xs ih =>
    have hnext := h.serve hquiet horderly.1 (hxs x List.mem_cons_self)
    have hrest := ih hnext horderly.2 fun y hy => hxs y (List.mem_cons_of_mem x hy)
    rw [← Option.or_assoc] at hrest
    exact hrest

/-! ## Readings and status -/

/-- A declared state is current and none pending, or none is current and a declared one pending. -/
def Declared (s : Switch α) : Prop :=
  (∃ name ∈ s.states, s.current = some name ∧ s.pending = none) ∨
    ∃ name ∈ s.states, ∃ done, s.current = none ∧ s.pending = some (name, done)

/-- The target state of the last accepted start, or the initial state. -/
def goal (home : String) (last : Option (Nat × String)) : String := (last.map Prod.snd).getD home

/-- The switch is realistic, and its switching time since the last accepted start is not over. -/
def Changing (s : Switch α) (last : Option (Nat × String)) (now : Nat) : Prop :=
  s.pacing = .realistic ∧ ∃ a ∈ last, now < a.1 + s.timing.switching

section

omit [Scalar α]

theorem Declared.advance (h : s.Declared) (now : Nat) : (s.advance now).Declared := by
  rcases s.advance_cases now with hn | ⟨state, done, hp, -, hn⟩
  · rwa [hn]
  · rw [hn]
    rcases h with ⟨name, -, -, hpending⟩ | ⟨name, hname, done', -, hpending⟩
    · rw [hpending] at hp
      cases hp
    · rw [hpending] at hp
      cases hp
      exact .inl ⟨_, hname, rfl, rfl⟩

theorem declared_depart {state : String} (h : state ∈ s.states) (now : Nat) :
    (s.depart now state).Declared := by
  unfold depart
  split
  · exact .inl ⟨state, h, rfl, rfl⟩
  · exact .inr ⟨state, h, _, rfl, rfl⟩

theorem isSwitching_depart (s : Switch α) (t : Nat) (name : String) (now : Nat) :
    (s.depart t name).isSwitching now = true ↔
      s.pacing = .realistic ∧ now < t + s.timing.switching := by
  unfold depart
  cases hp : s.pacing with
  | instant => simp [isSwitching]
  | realistic => simp [isSwitching]

/-- The switch as it is built: in the declared state `home`. -/
structure Begins (s : Switch α) (home : String) : Prop where
  declared : home ∈ s.states
  current : s.current = some home
  pending : s.pending = none

namespace Follows

variable {home : String}

theorem isDeclared (hhome : s.Begins home) (h : s.Follows last since s') : s'.Declared := by
  have hdeparted : (s.departed last).Declared := by
    cases last with
    | none => exact .inl ⟨home, hhome.declared, hhome.current, hhome.pending⟩
    | some a => exact declared_depart (h.declared a rfl) a.1
  rcases h.course with rfl | ⟨now, -, rfl⟩
  · exact hdeparted
  · exact hdeparted.advance now

theorem isSwitching_iff (hhome : s.Begins home) (h : s.Follows last since s')
    (hnow : since ≤ now) : s'.isSwitching now = true ↔ s.Changing last now := by
  have hdeparted : (s.departed last).isSwitching now = true ↔ s.Changing last now := by
    cases last with
    | none => simp [departed, isSwitching, hhome.pending, Changing]
    | some a => simpa [departed, Changing] using isSwitching_depart s a.1 a.2 now
  rw [← hdeparted]
  rcases h.course with rfl | ⟨t, ht, rfl⟩
  · exact Iff.rfl
  · rw [isSwitching_advance _ (Nat.le_trans ht hnow)]

theorem destination (hhome : s.Begins home) (h : s.Follows last since s') :
    s'.destination = some (goal home last) := by
  have hdeparted : (s.departed last).destination = some (goal home last) := by
    cases last with
    | none => exact (destination_of_still hhome.pending).trans hhome.current
    | some a => exact destination_depart s a.1 a.2
  rcases h.course with rfl | ⟨t, -, rfl⟩
  · exact hdeparted
  · exact (destination_advance _ t).trans hdeparted

theorem readingAt (hhome : s.Begins home) (h : s.Follows last since s') (now : Nat) :
    s'.readingAt now = if s'.isSwitching now then undefinedState else goal home last := by
  cases hidle : s'.isSwitching now with
  | true => simp [Switch.readingAt, hidle]
  | false =>
    have hhalted : s'.Halted now (some (goal home last)) := ⟨hidle, h.destination hhome⟩
    exact hhalted.readingAt

end Follows

end

namespace Follows

variable {home : String}

theorem read_eq (hquiet : s.faults.Quiet) (hhome : s.Begins home) (h : s.Follows last since s')
    (hnow : since ≤ now) : (read now s').1 =
      .ok (.state (if s'.isSwitching now then undefinedState else goal home last)) := by
  rw [read_of_quiet (faults_of_fixed h.fixed ▸ hquiet), (h.advance hnow).readingAt hhome,
    isSwitching_advance _ (Nat.le_refl now)]

theorem status_eq (hquiet : s.faults.Quiet) (hhome : s.Begins home) (h : s.Follows last since s')
    (now : Nat) :
    s'.status now = if s'.isSwitching now then ⟨.busy, "switching"⟩ else .idle := by
  have hquiet' : s'.faults.Quiet := faults_of_fixed h.fixed ▸ hquiet
  cases hidle : s'.isSwitching now with
  | true => simp [status, Faults.fault, hquiet'.1, hidle]
  | false =>
    have hpending := pending_advance hidle
    rcases (h.isDeclared hhome).advance now with ⟨name, -, hcurrent, -⟩ | ⟨name, -, done, -, hsome⟩
    · rw [← status_advance, status_of_still (faults_advance s' now ▸ hquiet') hpending hcurrent]
      rfl
    · rw [hpending] at hsome
      cases hsome

end Follows

/-- What holds at the time `now` of the switch `s'`, which a run from `s` has left, with the initial
state `home` and `last` as the last accepted start. -/
structure ShowsTarget (s : Switch α) (home : String) (last : Option (Nat × String)) (now : Nat)
    (s' : Switch α) : Prop where
  current : ∀ state ∈ s'.current, state ∈ s.states
  pending : ∀ p ∈ s'.pending, p.1 ∈ s.states
  missing : s'.current = none → s'.pending.isSome = true
  between : s'.currentAt now = none → s'.isSwitching now = true
  switching : s'.isSwitching now = true ↔ s.Changing last now
  reads : (read now s').1 =
    .ok (.state (if s'.isSwitching now then undefinedState else goal home last))
  marker : undefinedState ∉ s.states →
    ((read now s').1 = .ok (.state undefinedState) ↔ s'.isSwitching now = true)
  status : s'.status now = if s'.isSwitching now then ⟨.busy, "switching"⟩ else .idle
  sound : s'.status now ≠ ⟨.error, "position is " ++ undefinedState⟩

theorem Follows.showsTarget {home : String} (hquiet : s.faults.Quiet) (hhome : s.Begins home)
    (h : s.Follows last since s') (hnow : since ≤ now) : s.ShowsTarget home last now s' := by
  have hstates : s'.states = s.states := states_of_fixed h.fixed
  have hdeclared := h.isDeclared hhome
  have hreads := h.read_eq hquiet hhome hnow
  have hstatus := h.status_eq hquiet hhome now
  have hgoal : goal home last ∈ s.states := by
    cases last with
    | none => exact hhome.declared
    | some a => exact h.declared a rfl
  refine ⟨?_, ?_, ?_, ?_, h.isSwitching_iff hhome hnow, hreads, ?_, hstatus, ?_⟩
  · rcases hdeclared with ⟨state, hstate, hcurrent, -⟩ | ⟨state, -, done, hcurrent, -⟩
    · simpa [hcurrent, ← hstates] using hstate
    · simp [hcurrent]
  · rcases hdeclared with ⟨state, -, -, hpending⟩ | ⟨state, hstate, done, -, hpending⟩
    · simp [hpending]
    · simpa [hpending, ← hstates] using hstate
  · rcases hdeclared with ⟨state, -, hcurrent, -⟩ | ⟨state, -, done, -, hpending⟩
    · simp [hcurrent]
    · simp [hpending]
  · intro hnone
    rw [← Bool.not_eq_false]
    intro hidle
    rcases hdeclared.advance now with ⟨state, -, hcurrent, -⟩ | ⟨state, -, done, -, hpending⟩
    · cases hcurrent.symm.trans hnone
    · cases hpending.symm.trans (pending_advance hidle)
  · intro hmarker
    rw [hreads]
    cases s'.isSwitching now with
    | true => simp
    | false =>
      have hne : goal home last ≠ undefinedState := fun heq => hmarker (heq ▸ hgoal)
      simp [hne]
  · rw [hstatus]
    split <;> decide

end Switch

/-! ## The main result -/

/-- The initial state of checked settings, or else the first declared state, is a declared one. -/
theorem SwitchSettings.begins {s : SwitchSettings} (h : s.check = .ok ()) (name : String) :
    ∃ home, s.initial.or s.states.head? = some home ∧ (s.switch name).Begins home := by
  unfold check at h
  split at h
  · cases h
  · rename_i hstates
    cases hinitial : s.initial with
    | some home =>
      rw [hinitial] at h
      dsimp only at h
      split at h
      · rename_i hhome
        refine ⟨home, rfl, hhome, ?_, rfl⟩
        simp [switch, Switch.make, hinitial]
      · cases h
    | none =>
      obtain ⟨home, rest, hcons⟩ := List.exists_cons_of_ne_nil hstates
      have hhead : s.states.head? = some home := by rw [hcons]; rfl
      refine ⟨home, hhead, List.mem_of_mem_head? hhead, ?_, rfl⟩
      simp [switch, Switch.make, hinitial, hhead]

/-- **Declared states.** For every table that `validate` accepts, the driver builds a switch in the
initial state of the settings, or else in the first declared one. After any orderly run without
`place`, at every time from its end on, `ShowsTarget` holds: current and pending state are declared;
with no current state there is a pending one, and while it reads as `undefinedState` the switch is
switching; it is switching if and only if it is `Changing`; it reads as `undefinedState` and is busy
while switching, and otherwise reads as its `goal` and is idle. If `undefinedState` is not a
declared state, it reads so only while switching. Its status is never the error of a switch in no
state. -/
theorem configured_switch_declared (name : String) (v : Toml)
    (h : switchDriver.validate v = .ok ()) :
    ∃ s home, SwitchSettings.ofToml? v = some s ∧
      switchDriver.build name v = .ok (.switch (s.switch name)) ∧
      home ∈ s.states ∧ s.initial.or s.states.head? = some home ∧
      ∀ since xs, Switch.serve.Orderly since xs (s.switch name) → Switch.Unhandled xs →
        ∀ now, Switch.serve.ends since xs (s.switch name) ≤ now →
          (s.switch name).ShowsTarget home (Switch.lastStart xs (s.switch name)) now
            (Switch.serve.after xs (s.switch name)) := by
  cases hs : SwitchSettings.ofToml? v with
  | none =>
    simp only [switchDriver, hs] at h
    cases h
  | some s =>
    simp only [switchDriver, hs] at h
    obtain ⟨home, hinitial, hhome⟩ := s.begins h name
    refine ⟨s, home, rfl, by simp only [switchDriver, hs], hhome.declared, hinitial, ?_⟩
    intro since xs horderly hxs now hnow
    have hquiet : (s.switch name).faults.Quiet := Faults.quiet_none
    have hstart : (s.switch name).Follows none since (s.switch name) := ⟨by simp, .inl rfl⟩
    have hrun := hstart.run hquiet horderly hxs
    rw [Option.or_none] at hrun
    exact hrun.showsTarget hquiet hhome hnow

/-- A realistic switch with two states, which begins in the first. -/
def changerTable : Toml := .table .header
  [("states", .list false [.text "Si111", .text "Si311"]), ("mode", .text "realistic")]

def changer : Switch Float :=
  SwitchSettings.switch ⟨["Si111", "Si311"], none, .realistic⟩ "mono"

/-- Three starts, of which the second is refused. -/
def changes : List (Timed (Switch.Request Float)) :=
  [⟨0, .start (.state "Si311")⟩, ⟨ofMs 50, .start (.state "Ge111")⟩,
    ⟨ofMs 100, .start (.state "Si111")⟩, ⟨ofMs 250, .read⟩]

/-- The switching time of 200 ms runs from the last accepted start, at 100 ms. -/
theorem configured_switch_declared_changer :
    switchDriver.validate changerTable = .ok () ∧
      switchDriver.build "mono" changerTable = .ok (.switch changer) ∧
      Switch.serve.Orderly 0 changes changer ∧
      Switch.lastStart changes changer = some (ofMs 100, "Si111") ∧
      (Switch.read (ofMs 250) (Switch.serve.after changes changer)).1 =
        .ok (.state undefinedState) ∧
      (Switch.read (ofMs 300) (Switch.serve.after changes changer)).1 = .ok (.state "Si111") := by
  have h : switchDriver.validate changerTable = .ok () := except_eq_ok_of_isOk (by decide)
  have hread : SwitchSettings.ofToml? changerTable =
      some ⟨["Si111", "Si311"], none, .realistic⟩ := by decide
  obtain ⟨s, home, hs, hbuild, -, -, hruns⟩ := configured_switch_declared "mono" changerTable h
  obtain rfl := Option.some.inj (hread.symm.trans hs)
  have horderly : Switch.serve.Orderly 0 changes changer :=
    ⟨by decide, by decide, by decide, by decide, trivial⟩
  have hshows : ∀ now, ofMs 250 ≤ now →
      changer.ShowsTarget home (some (ofMs 100, "Si111")) now
        (Switch.serve.after changes changer) :=
    hruns 0 changes horderly (by simp [Switch.Unhandled, changes])
  have hearly := hshows (ofMs 250) (by decide)
  have hlate := hshows (ofMs 300) (by decide)
  refine ⟨h, hbuild, horderly, rfl, ?_, ?_⟩
  · exact (hearly.marker (by decide)).mpr (hearly.switching.mpr ⟨rfl, _, rfl, by decide⟩)
  · have hidle : ¬ changer.Changing (some (ofMs 100, "Si111")) (ofMs 300) := by
      rintro ⟨-, a, ha, hlt⟩
      cases ha
      revert hlt
      decide
    rw [hlate.reads, if_neg (mt hlate.switching.mp hidle)]
    rfl

end Beamline
