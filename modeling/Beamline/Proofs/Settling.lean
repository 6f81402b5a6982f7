import Beamline.Proofs.Outcomes
import Beamline.Proofs.ConstantAnswers

/-!
Motors and switches without faults for which nothing is under way. A device `WillRead` a value if it
reads it once nothing is under way, and `Stands` at the value if moreover nothing is. Proved here:

* `depart_ok`, `start_ok`: a start that succeeds leaves a device that `WillRead` its target;
* `wait_quiet`, `waitAll_settles`: a wait that succeeds leaves the device advanced and `Still`;
* `read_stands`, `status_rests`: reading a `Still` device, or asking for its status, keeps all that
  holds of it (`Remains`, `Keeps`);
* `reads_of_stands`, `idles_of_rests`: so its answers are constant.
-/

namespace Beamline

variable {α : Type}

namespace Motor

variable {m : Motor α} {now : Nat}

/-- The position of the axis once nothing is under way. -/
def destination (m : Motor α) : α :=
  match m.motion with
  | some k => k.target
  | none => m.position

theorem destination_of_still (h : m.motion = none) : m.destination = m.position := by
  simp only [destination, h]

theorem advance_of_still (h : m.motion = none) (now : Nat) : m.advance now = m := by
  simp only [advance, h]

theorem destination_advance (m : Motor α) (now : Nat) :
    (m.advance now).destination = m.destination := by
  unfold advance
  split
  · rename_i k hk
    split <;> simp [destination, hk]
  · rfl

theorem cache_advance (m : Motor α) (now : Nat) : (m.advance now).cache = m.cache := by
  unfold advance
  split
  · split <;> rfl
  · rfl

theorem motion_advance (h : m.isMoving now = false) : (m.advance now).motion = none := by
  unfold isMoving at h
  unfold advance
  split
  · rename_i k hk
    rw [hk] at h
    simp only [Bool.not_eq_false'] at h
    rw [if_pos h]
  · assumption

theorem faults_advance (m : Motor α) (now : Nat) : (m.advance now).faults = m.faults := by
  unfold advance
  split
  · split <;> rfl
  · rfl

variable [Scalar α]

theorem depart_ok {x origin : α} (h : (depart now x m).1 = .ok origin) :
    (depart now x m).2.destination = x ∧ (depart now x m).2.cache = .empty := by
  unfold depart at h ⊢
  dsimp only at h ⊢
  split
  · rename_i ht
    rw [ht] at h
    cases h
  · split
    · exact ⟨rfl, rfl⟩
    · exact ⟨rfl, rfl⟩

theorem start_ok (hquiet : m.faults.Quiet) {x origin : α}
    (h : (start now (.scalar x) m).1 = .ok origin) :
    (start now (.scalar x) m).2.destination = x ∧ (start now (.scalar x) m).2.cache = .empty ∧
      Scalar.isFinite x = true := by
  rw [start_of_quiet hquiet] at h ⊢
  have hchecked : m.checkedTarget (.scalar x) = .ok x ∧ Scalar.isFinite x = true ∨
      ∃ e, m.checkedTarget (.scalar x) = .error e := by
    cases hx : m.checkedTarget (.scalar x) with
    | error e => exact .inr ⟨e, rfl⟩
    | ok y =>
      unfold checkedTarget at hx
      dsimp only at hx
      split at hx
      · rename_i hfinite
        refine .inl ⟨?_, hfinite⟩
        split at hx
        · obtain ⟨_, _, rfl⟩ := except_map_eq_ok.mp hx
          rfl
        · cases hx
          rfl
      · cases hx
  rcases hchecked with ⟨hx, hfinite⟩ | ⟨e, hx⟩
  · rw [hx] at h ⊢
    exact ⟨(depart_ok h).1, (depart_ok h).2, hfinite⟩
  · rw [hx] at h
    cases h

end Motor

namespace Switch

variable {α : Type} {s : Switch α} {now : Nat}

/-- The state of the switch once nothing is pending. -/
def destination (s : Switch α) : Option String :=
  match s.pending with
  | some (state, _) => some state
  | none => s.current

theorem destination_of_still (h : s.pending = none) : s.destination = s.current := by
  simp only [destination, h]

theorem advance_of_still (h : s.pending = none) (now : Nat) : s.advance now = s := by
  simp only [advance, h]

theorem destination_advance (s : Switch α) (now : Nat) :
    (s.advance now).destination = s.destination := by
  unfold advance
  split
  · rename_i state done hp
    split <;> simp [destination, hp]
  · rfl

theorem pending_advance (h : s.isSwitching now = false) : (s.advance now).pending = none := by
  unfold isSwitching at h
  unfold advance
  split
  · rename_i state done hp
    rw [hp] at h
    rw [if_pos (by simpa using h)]
  · assumption

theorem faults_advance (s : Switch α) (now : Nat) : (s.advance now).faults = s.faults := by
  unfold advance
  split
  · split <;> rfl
  · rfl

theorem destination_depart (s : Switch α) (now : Nat) (state : String) :
    (s.depart now state).destination = some state := by
  unfold depart
  split <;> rfl

theorem destination_of_reading {name : String} (h : s.readingAt now = name)
    (hname : name ≠ undefinedState) : s.destination = some name := by
  unfold readingAt at h
  split at h
  · exact absurd h.symm hname
  · rename_i hidle
    have hpending := pending_advance (Bool.not_eq_true _ ▸ hidle)
    rw [← destination_advance s now, destination_of_still hpending]
    change (s.currentAt now).getD undefinedState = name at h
    change s.currentAt now = some name
    cases hc : s.currentAt now with
    | none => rw [hc] at h; exact absurd h.symm hname
    | some state => rw [hc] at h; exact congrArg some h

theorem readingAt_of_still (h : s.pending = none) {name : String} (hc : s.current = some name) :
    s.readingAt now = name := by
  simp only [readingAt, isSwitching, h, currentAt, advance_of_still h, hc]
  rfl

variable [Scalar α]

theorem start_ok (hquiet : s.faults.Quiet) {name answer : String}
    (h : (start now (.state name) s).1 = .ok answer) :
    (start now (.state name) s).2.destination = some name := by
  rw [start_of_quiet hquiet] at h ⊢
  split
  · rename_i e he
    rw [he] at h
    cases h
  · exact destination_depart s now name

theorem status_of_still (hquiet : s.faults.Quiet) (h : s.pending = none) {name : String}
    (hc : s.current = some name) : s.status now = .idle := by
  simp only [status, Faults.fault, hquiet.1, Option.map_none, isSwitching, h, currentAt,
    advance_of_still h, hc]
  rfl

end Switch

/-! ## Devices at rest -/

variable [Scalar α]

namespace Device

variable {d d' : Device α} {v : Value α}

/-- The device is a motor or a switch without faults. -/
def Quiet : Device α → Prop
  | motor m => m.faults.Quiet
  | switch s => s.faults.Quiet
  | _ => False

/-- Nothing is under way. -/
def Still : Device α → Prop
  | motor m => m.motion = none
  | switch s => s.pending = none
  | _ => False

/-- The device reads `v` once nothing is under way, and no cached reading differs from it. -/
def WillRead : Device α → Value α → Prop
  | motor m, .scalar x => m.destination = x ∧ ∀ y stamp, m.cache.entry = some (y, stamp) → y = x
  | switch s, .state name => s.destination = some name
  | _, _ => False

/-- A switch with neither a current nor a pending state is never idle. -/
def Placed : Device α → Prop
  | switch s => s.destination ≠ none
  | _ => True

def advance (now : Nat) : Device α → Device α
  | motor m => motor (m.advance now)
  | switch s => switch (s.advance now)
  | d => d

theorem WillRead.placed (h : d.WillRead v) : d.Placed := by
  cases d with
  | switch s =>
    cases v with
    | state name => exact fun hnone => nomatch hnone.symm.trans h
    | null => cases h
    | scalar x => cases h
  | motor m => trivial
  | standIn d => trivial
  | composite c => trivial

theorem willRead_advance (h : d.WillRead v) (now : Nat) : (d.advance now).WillRead v := by
  cases d with
  | motor m =>
    cases v with
    | scalar x =>
      refine ⟨(m.destination_advance now).trans h.1, ?_⟩
      rw [Motor.cache_advance]
      exact h.2
    | null => cases h
    | state name => cases h
  | switch s =>
    cases v with
    | state name => exact (s.destination_advance now).trans h
    | null => cases h
    | scalar x => cases h
  | standIn d => cases h
  | composite c => cases h

theorem quiet_advance (h : d.Quiet) (now : Nat) : (d.advance now).Quiet := by
  cases d with
  | motor m =>
    change (m.advance now).faults.Quiet
    rw [Motor.faults_advance]
    exact h
  | switch s =>
    change (s.advance now).faults.Quiet
    rw [Switch.faults_advance]
    exact h
  | standIn d => cases h
  | composite c => cases h

/-- What is kept of a `Still` device when it is read or asked for its status. -/
structure Remains (d d' : Device α) : Prop where
  quiet : d'.Quiet
  still : d'.Still
  placed : d.Placed → d'.Placed
  willRead : ∀ v, d.WillRead v → d'.WillRead v

theorem Remains.refl (hquiet : d.Quiet) (hstill : d.Still) : d.Remains d :=
  ⟨hquiet, hstill, id, fun _ => id⟩

theorem Remains.trans {d'' : Device α} (h : d.Remains d') (h' : d'.Remains d'') : d.Remains d'' :=
  ⟨h'.quiet, h'.still, h'.placed ∘ h.placed, fun v => h'.willRead v ∘ h.willRead v⟩

theorem read_motor_remains {m : Motor α} {x : α} (hquiet : (motor m).Quiet)
    (hstill : (motor m).Still) (hwill : (motor m).WillRead (.scalar x)) (now maxAge : Nat) :
    (Motor.read now maxAge m).1 = .ok (.scalar x) ∧
      (motor m).Remains (motor (Motor.read now maxAge m).2) := by
  obtain ⟨hx, hkept⟩ := hwill
  rw [Motor.read_of_quiet hquiet]
  cases hc : m.cache.get? now maxAge with
  | some y =>
    obtain ⟨stamp, hentry⟩ := Cache.entry_of_get? hc
    exact ⟨by rw [hkept y stamp hentry], .refl hquiet hstill⟩
  | none =>
    have hat : m.positionAt now = x := by
      rw [← hx, Motor.destination_of_still hstill]
      simp only [Motor.positionAt, show m.motion = none from hstill]
    simp only [hat, Motor.advance_of_still hstill]
    refine ⟨trivial, hquiet, hstill, id, ?_⟩
    intro w hw
    cases w with
    | scalar y =>
      refine ⟨hw.1, fun z stamp hz => ?_⟩
      cases hz
      exact hx.symm.trans hw.1
    | null => exact hw
    | state name => exact hw

end Device

namespace Lab

variable {lab lab' : Lab α} {i j : DeviceId} {d d' : Device α} {v : Value α} {pace : Pace}
  {depth : Nat}

def Stands (lab : Lab α) (i : DeviceId) (v : Value α) : Prop :=
  ∃ d, lab.device? i = some d ∧ d.Quiet ∧ d.Still ∧ d.WillRead v

def Rests (lab : Lab α) (i : DeviceId) : Prop :=
  ∃ d, lab.device? i = some d ∧ d.Quiet ∧ d.Still ∧ d.Placed

/-- Every device without faults that is `Still` in `lab` `Remains` in `lab'`. -/
def Keeps (lab lab' : Lab α) : Prop :=
  ∀ i d, lab.device? i = some d → d.Quiet → d.Still →
    ∃ d', lab'.device? i = some d' ∧ d.Remains d'

theorem Stands.rests (h : lab.Stands i v) : lab.Rests i := by
  obtain ⟨d, hd, hquiet, hstill, hwill⟩ := h
  exact ⟨d, hd, hquiet, hstill, hwill.placed⟩

theorem Keeps.refl (lab : Lab α) : lab.Keeps lab := fun _ d hd hquiet hstill =>
  ⟨d, hd, .refl hquiet hstill⟩

theorem Keeps.trans {lab'' : Lab α} (h : lab.Keeps lab') (h' : lab'.Keeps lab'') :
    lab.Keeps lab'' := by
  intro i d hd hquiet hstill
  obtain ⟨d', hd', hremains⟩ := h i d hd hquiet hstill
  obtain ⟨d'', hd'', hremains'⟩ := h' i d' hd' hremains.quiet hremains.still
  exact ⟨d'', hd'', hremains.trans hremains'⟩

theorem Keeps.of_puts (hd : lab.device? i = some d) (hputs : lab.Puts i d' lab')
    (hremains : d.Remains d') : lab.Keeps lab' := by
  intro j e he hquiet hstill
  by_cases hj : j = i
  · subst hj
    obtain rfl : d = e := by simpa [hd] using he
    exact ⟨d', hputs.same hd, hremains⟩
  · exact ⟨e, (hputs.other hj).trans he, .refl hquiet hstill⟩

theorem Keeps.stands (h : lab.Keeps lab') (hs : lab.Stands i v) : lab'.Stands i v := by
  obtain ⟨d, hd, hquiet, hstill, hwill⟩ := hs
  obtain ⟨d', hd', hremains⟩ := h i d hd hquiet hstill
  exact ⟨d', hd', hremains.quiet, hremains.still, hremains.willRead v hwill⟩

theorem Keeps.rests (h : lab.Keeps lab') (hr : lab.Rests i) : lab'.Rests i := by
  obtain ⟨d, hd, hquiet, hstill, hplaced⟩ := hr
  obtain ⟨d', hd', hremains⟩ := h i d hd hquiet hstill
  exact ⟨d', hd', hremains.quiet, hremains.still, hremains.placed hplaced⟩

/-! ## Reading a device at rest -/

theorem read_stands (hs : lab.Stands i v) (maxAge : Nat) :
    ∃ lab', (controlsTo pace (depth + 1)).read i maxAge lab = (.ok v, lab') ∧ lab.Keeps lab' := by
  obtain ⟨d, hd, hquiet, hstill, hwill⟩ := hs
  cases d with
  | motor m =>
    cases v with
    | scalar x =>
      obtain ⟨lab', hrun, hputs⟩ := read_motor pace depth hd maxAge
      obtain ⟨hx, hremains⟩ :=
        Device.read_motor_remains hquiet hstill hwill (lab.callTime pace) maxAge
      rw [hx] at hrun
      exact ⟨lab', hrun, .of_puts hd hputs hremains⟩
    | null => cases hwill
    | state name => cases hwill
  | switch s =>
    cases v with
    | state name =>
      obtain ⟨lab', hrun, hputs⟩ := read_switch pace depth hd maxAge
      have hcurrent : s.current = some name :=
        (Switch.destination_of_still hstill).symm.trans hwill
      rw [Switch.read_of_quiet hquiet, Switch.advance_of_still hstill] at hrun hputs
      rw [Switch.readingAt_of_still hstill hcurrent] at hrun
      exact ⟨lab', hrun, .of_puts hd hputs (.refl hquiet hstill)⟩
    | null => cases hwill
    | scalar x => cases hwill
  | standIn d => cases hwill
  | composite c => cases hwill

theorem status_rests (hr : lab.Rests i) (maxAge : Nat) :
    ∃ lab', (controlsTo pace (depth + 1)).status i maxAge lab = (.idle, lab') ∧
      lab.Keeps lab' := by
  obtain ⟨d, hd, hquiet, hstill, hplaced⟩ := hr
  cases d with
  | motor m =>
    obtain ⟨lab', hrun, hputs⟩ := status_motor pace depth hd maxAge
    rw [Motor.advance_of_still hstill] at hputs
    have hidle : m.isMoving (lab.callTime pace) = false := by
      simp only [Motor.isMoving, show m.motion = none from hstill]
    rw [Motor.status_of_quiet hquiet hidle] at hrun
    exact ⟨lab', hrun, .of_puts hd hputs (.refl hquiet hstill)⟩
  | switch s =>
    obtain ⟨lab', hrun, hputs⟩ := status_switch pace depth hd maxAge
    rw [Switch.advance_of_still hstill] at hputs
    obtain ⟨name, hname⟩ := Option.ne_none_iff_exists'.mp hplaced
    rw [Switch.status_of_still hquiet hstill
      ((Switch.destination_of_still hstill).symm.trans hname)] at hrun
    exact ⟨lab', hrun, .of_puts hd hputs (.refl hquiet hstill)⟩
  | standIn d => cases hquiet
  | composite c => cases hquiet

theorem noted_keeps (lab : Lab α) (e : Event) : lab.Keeps (lab.noted e) := Keeps.refl lab

/-! ## Waiting for devices -/

theorem wait_quiet (pace : Pace) (depth : Nat) (hd : lab.device? i = some d) (hquiet : d.Quiet) :
    ∃ r now lab', (controlsTo pace (depth + 1)).wait i lab = (r, lab') ∧
      lab.Puts i (d.advance now) lab' ∧ (r = .ok () → (d.advance now).Still) := by
  cases d with
  | motor m =>
    obtain ⟨lab', hrun, hputs⟩ := wait_motor pace depth hd
    obtain ⟨now, -, -, hm, hidle⟩ :=
      Motor.wait_advance pace (lab.tick pace).clock (Motor.guard_of_quiet hquiet .wait)
    rw [hm] at hputs
    exact ⟨_, now, lab', hrun, hputs, fun h => Motor.motion_advance (hidle h).2⟩
  | switch s =>
    obtain ⟨lab', hrun, hputs⟩ := wait_switch pace depth hd
    obtain ⟨now, -, -, hs, hidle⟩ :=
      Switch.wait_advance pace (lab.tick pace).clock (Switch.guard_of_quiet hquiet .wait)
    rw [hs] at hputs
    exact ⟨_, now, lab', hrun, hputs, fun h => Switch.pending_advance (hidle h).2⟩
  | standIn d => cases hquiet
  | composite c => cases hquiet

/-- Each device of `ds` is `Still`, and is the one of `lab` advanced to some time. -/
def Awaited (lab : Lab α) (ds : List DeviceId) (lab' : Lab α) : Prop :=
  ∀ j ∈ ds, ∀ d, lab.device? j = some d →
    ∃ now, lab'.device? j = some (d.advance now) ∧ (d.advance now).Still

/-- By induction on `ds`, whose other devices a wait does not change. -/
theorem waitAll_settles {ds : List DeviceId} (hnodup : ds.Nodup)
    (hquiet : ∀ i ∈ ds, ∃ d, lab.device? i = some d ∧ d.Quiet)
    (h : (controlsTo pace (depth + 1)).waitAll ds lab = (.ok (), lab')) :
    lab.Awaited ds lab' ∧ ∀ j ∉ ds, lab'.device? j = lab.device? j := by
  induction ds generalizing lab with
  | nil =>
    cases h
    exact ⟨by simp [Awaited], fun _ _ => rfl⟩
  | cons i ds ih =>
    obtain ⟨hi, hnodup⟩ := List.nodup_cons.mp hnodup
    obtain ⟨d, hd, hq⟩ := hquiet i List.mem_cons_self
    obtain ⟨e, lab₁, hwait, hrest⟩ := Controls.waitAll_cons_ok h
    rw [controlsTo_note] at hwait
    have hnoted : (lab.noted e).device? i = some d := hd
    obtain ⟨r, now, lab₂, hrun, hputs, hstill⟩ := wait_quiet pace depth hnoted hq
    obtain ⟨rfl, rfl⟩ := Prod.mk.inj (hwait.symm.trans hrun)
    have hother : ∀ j ≠ i, lab₁.device? j = lab.device? j := fun j hj => hputs.other hj
    have hquiet' : ∀ j ∈ ds, ∃ d, lab₁.device? j = some d ∧ d.Quiet := by
      intro j hj
      rw [hother j fun hji => hi (hji ▸ hj)]
      exact hquiet j (List.mem_cons_of_mem i hj)
    obtain ⟨hsettled, hsame⟩ := ih hnodup hquiet' hrest
    refine ⟨fun j hj d' hd' => ?_, fun j hj => ?_⟩
    · rcases List.mem_cons.mp hj with rfl | hj
      · obtain rfl : d = d' := by simpa [hd] using hd'
        exact ⟨now, (hsame j hi).trans (hputs.same hd), hstill rfl⟩
      · exact hsettled j hj d' ((hother j fun hji => hi (hji ▸ hj)).trans hd')
    · rw [List.mem_cons, not_or] at hj
      exact (hsame j hj.2).trans (hother j hj.1)

/-! ## Constant answers -/

theorem reads_of_stands (hs : lab.Stands i v) :
    (controlsTo pace (depth + 1)).Reads lab.Keeps i v := by
  intro maxAge s hkeeps
  obtain ⟨s', hrun, hkeeps'⟩ := read_stands (hkeeps.stands hs) maxAge
  exact ⟨s', hrun, hkeeps.trans hkeeps'⟩

theorem idles_of_rests (hr : lab.Rests i) : (controlsTo pace (depth + 1)).Idles lab.Keeps i := by
  intro maxAge s hkeeps
  obtain ⟨s', hrun, hkeeps'⟩ := status_rests (hkeeps.rests hr) maxAge
  exact ⟨s', hrun, hkeeps.trans hkeeps'⟩

theorem note_keeps (e : Event) (s : Lab α) (h : lab.Keeps s) :
    lab.Keeps ((controlsTo pace depth).note e s) := by
  rw [controlsTo_note]
  exact h.trans (noted_keeps s e)

end Lab

end Beamline
