import Beamline.Proofs.Interlocking
import Beamline.Proofs.Reconciling

/-!
The exchanges of a read of a composite in master mode, for any controls. Proved here:

* `readAxes_scan`: the axes are read in order, up to the first without a position (`AxesScan`);
* `readRaw_finds`: how a read goes on after the answers of interlock and gate (`Finds`);
* `readRaw_scans`, `read_scans`: its exchanges, and the raw reading, are those of a case of `Scans`;
* `Scans.positions_iff`, `Scans.scalar_iff`, `read_null_iff`: which exchanges give positions, a
  number, or `.null`;
* `read_mirrors`: recording the exchanges changes neither the answer nor the world;
* `read_in_order` puts these together.
-/

namespace Beamline

variable {ι σ α : Type}

/-! ## Axes one after another -/

/-- The exchanges of reading all axes in order, each answered with its position in `ps`. -/
def axisReads (maxAge : Nat) (axes : List (Axis ι)) (ps : List α) : List (Exchange ι α) :=
  (axes.zip ps).map fun p => .read p.1.device maxAge (.ok (.scalar p.2))

/-- The exchanges of reading the axes in order, up to the first without a position, and the result.
-/
inductive AxesScan (maxAge : Nat) (names : ι → String) :
    List (Axis ι) → List (Exchange ι α) → Except (DeviceError α) (List α) → Prop
  | done : AxesScan maxAge names [] [] (.ok [])
  | unreadable {a : Axis ι} {axes : List (Axis ι)} {e : DeviceError α} :
      AxesScan maxAge names (a :: axes) [.read a.device maxAge (.error e)] (.error e)
  | mute {a : Axis ι} {axes : List (Axis ι)} {v : Value α} (hv : ∀ x, v ≠ .scalar x) :
      AxesScan maxAge names (a :: axes) [.read a.device maxAge (.ok v)]
        (.error (.invalidValue (names a.device) (.noPosition v)))
  | next {a : Axis ι} {axes : List (Axis ι)} {x : α} {xs : List (Exchange ι α)}
      {r : Except (DeviceError α) (List α)} (h : AxesScan maxAge names axes xs r) :
      AxesScan maxAge names (a :: axes) (.read a.device maxAge (.ok (.scalar x)) :: xs)
        (r.map (x :: ·))

namespace AxesScan

variable {maxAge : Nat} {names names' : ι → String} {axes : List (Axis ι)}
  {xs : List (Exchange ι α)} {r : Except (DeviceError α) (List α)} {ps : List α}

theorem all_reads (h : AxesScan maxAge names axes xs r) :
    ∀ x ∈ xs, ∃ d answer, x = .read d maxAge answer := by
  induction h with
  | done => simp
  | unreadable => simp
  | mute => simp
  | next _ ih =>
    intro x hx
    rcases List.mem_cons.mp hx with rfl | hx
    · exact ⟨_, _, rfl⟩
    · exact ih x hx

theorem ok_iff (h : AxesScan maxAge names axes xs r) :
    r = .ok ps ↔ ps.length = axes.length ∧ xs = axisReads maxAge axes ps := by
  induction h generalizing ps with
  | done => cases ps <;> simp [axisReads]
  | unreadable => cases ps <;> simp [axisReads]
  | mute hv =>
    cases ps with
    | nil => simp
    | cons p ps => simp [axisReads, hv]
  | @next a axes x xs r _ ih =>
    cases ps with
    | nil => simp [except_map_eq_ok]
    | cons p ps =>
      rw [except_map_eq_ok]
      constructor
      · rintro ⟨qs, hr, heq⟩
        obtain ⟨rfl, rfl⟩ := List.cons.inj heq
        obtain ⟨hlen, hxs⟩ := ih.mp hr
        exact ⟨congrArg (· + 1) hlen, by rw [hxs]; rfl⟩
      · rintro ⟨hlen, hxs⟩
        obtain ⟨hx, hrest⟩ := List.cons.inj hxs
        cases hx
        exact ⟨ps, ih.mpr ⟨Nat.succ.inj hlen, hrest⟩, rfl⟩

/-- Names matter for errors only. -/
theorem rename (h : AxesScan maxAge names axes xs (.ok ps)) :
    AxesScan maxAge names' axes xs (.ok ps) := by
  obtain ⟨hlen, rfl⟩ := h.ok_iff.mp rfl
  clear h
  induction axes generalizing ps with
  | nil =>
    obtain rfl := List.eq_nil_of_length_eq_zero hlen
    exact .done
  | cons a axes ih =>
    obtain ⟨p, ps, rfl⟩ := List.exists_cons_of_length_eq_add_one hlen
    exact .next (ih (by simpa using hlen))

end AxesScan

theorem Controls.recorded_read {k : Controls ι σ α} {d : ι} {maxAge : Nat} {w w' : Recorded ι σ α}
    {r : Except (DeviceError α) (Value α)} (h : k.recorded.read d maxAge w = (r, w')) :
    w'.2 = w.2 ++ [.read d maxAge r] := by
  obtain ⟨rfl, rfl⟩ := Prod.mk.inj h
  rfl

namespace Composite

variable {k : Controls ι σ α} {a : Axis ι} {axes : List (Axis ι)} {s s' : σ} {maxAge : Nat}

theorem readAxes_unreadable {e : DeviceError α}
    (h : k.read a.device maxAge s = (.error e, s')) :
    readAxes k maxAge (a :: axes) s = (.error e, s') := by
  unfold readAxes
  exact Action.bind_error _ h

theorem readAxes_mute {v : Value α} (h : k.read a.device maxAge s = (.ok v, s'))
    (hv : ∀ x, v ≠ .scalar x) :
    readAxes k maxAge (a :: axes) s =
      (.error (.invalidValue (k.name s' a.device) (.noPosition v)), s') := by
  unfold readAxes
  rw [Action.bind_ok _ h]
  cases v with
  | scalar x => exact absurd rfl (hv x)
  | null => rfl
  | state name => rfl

theorem readAxes_next {x : α} (h : k.read a.device maxAge s = (.ok (.scalar x), s')) :
    readAxes k maxAge (a :: axes) s =
      ((readAxes k maxAge axes s').1.map (x :: ·), (readAxes k maxAge axes s').2) := by
  refine (Action.bind_ok _ h).trans ?_
  rcases hrest : readAxes k maxAge axes s' with ⟨r, s''⟩
  cases r with
  | ok xs => exact Action.bind_ok _ hrest
  | error e => exact Action.bind_error _ hrest

theorem length_of_readAxes {ps : List α} (h : (readAxes k maxAge axes s).1 = .ok ps) :
    ps.length = axes.length := by
  induction axes generalizing s ps with
  | nil =>
    cases h
    rfl
  | cons a axes ih =>
    rcases hread : k.read a.device maxAge s with ⟨e | v, s'⟩
    · rw [readAxes_unreadable hread] at h
      cases h
    · by_cases hv : ∃ x, v = .scalar x
      · obtain ⟨x, rfl⟩ := hv
        rw [readAxes_next hread] at h
        obtain ⟨qs, hqs, rfl⟩ := except_map_eq_ok.mp h
        rw [List.length_cons, List.length_cons, ih hqs]
      · rw [readAxes_mute hread fun x hx => hv ⟨x, hx⟩] at h
        cases h

theorem readAxes_scan (k : Controls ι σ α) (maxAge : Nat) (axes : List (Axis ι))
    (w : Recorded ι σ α) :
    ∃ xs, (readAxes k.recorded maxAge axes w).2.2 = w.2 ++ xs ∧
      AxesScan maxAge (k.name (readAxes k.recorded maxAge axes w).2.1) axes xs
        (readAxes k.recorded maxAge axes w).1 := by
  induction axes generalizing w with
  | nil => exact ⟨[], (List.append_nil _).symm, .done⟩
  | cons a axes ih =>
    rcases hread : k.recorded.read a.device maxAge w with ⟨r, w'⟩
    have htrace := Controls.recorded_read hread
    cases r with
    | error e =>
      rw [readAxes_unreadable hread]
      exact ⟨_, htrace, .unreadable⟩
    | ok v =>
      by_cases hv : ∃ x, v = .scalar x
      · obtain ⟨x, rfl⟩ := hv
        rw [readAxes_next hread]
        obtain ⟨xs, hrest, hscan⟩ := ih w'
        refine ⟨.read a.device maxAge (.ok (.scalar x)) :: xs, ?_, .next hscan⟩
        rw [hrest, htrace, List.append_assoc]
        rfl
      · have hmute : ∀ x, v ≠ .scalar x := fun x hx => hv ⟨x, hx⟩
        rw [readAxes_mute hread hmute]
        exact ⟨_, htrace, .mute hmute⟩

/-! ## The interlock and the gate in front of them -/

/-- The exchange with a gate that does not read its parked state. -/
inductive Opened (maxAge : Nat) : Option (Gate ι) → List (Exchange ι α) → Prop
  | absent : Opened maxAge none []
  | reads {g : Gate ι} {v : Value α} (hv : v ≠ .state g.parked) :
      Opened maxAge (some g) [.read g.device maxAge (.ok v)]

theorem Opened.reads_eq {g : Gate ι} {xs : List (Exchange ι α)}
    (h : Opened maxAge (some g) xs) :
    ∃ v, v ≠ .state g.parked ∧ xs = [.read g.device maxAge (.ok v)] := by
  cases h with
  | reads hv => exact ⟨_, hv, rfl⟩

theorem Opened.reads_of_mem {gate : Option (Gate ι)} {xs : List (Exchange ι α)}
    (h : Opened maxAge gate xs) {x : Exchange ι α} (hx : x ∈ xs) :
    ∃ d answer, x = .read d maxAge answer := by
  cases h with
  | absent => cases hx
  | reads hv => exact ⟨_, _, List.mem_singleton.mp hx⟩

variable [Scalar α] {c : Composite ι α}

/-- The interlock, if there is one, reads the required state. -/
def Satisfied (c : Composite ι α) (k : Controls ι σ α) (maxAge : Nat) (s : σ) : Prop :=
  ∀ l ∈ c.interlock, (k.read l.device maxAge s).1 = .ok (.state l.required)

/-- The world after the interlock was read. -/
def afterLock (c : Composite ι α) (k : Controls ι σ α) (maxAge : Nat) (s : σ) : σ :=
  match c.interlock with
  | none => s
  | some l => (k.read l.device maxAge s).2

/-- The exchange with an interlock that reads the required state. -/
def lockPassed (c : Composite ι α) (maxAge : Nat) : List (Exchange ι α) :=
  match c.interlock with
  | none => []
  | some l => [.read l.device maxAge (.ok (.state l.required))]

/-- The raw reading and the world after it, by the answers of interlock and gate. -/
inductive Finds (c : Composite ι α) (k : Controls ι σ α) (maxAge : Nat) (s : σ) :
    Except (DeviceError α) (Reading α) × σ → Prop
  | locked {l : Interlock ι} (hl : c.interlock = some l)
      (hbad : (k.read l.device maxAge s).1 ≠ .ok (.state l.required)) :
      Finds c k maxAge s (.error (c.lockFailureAt k l maxAge s), (k.read l.device maxAge s).2)
  | gateFails {g : Gate ι} {e : DeviceError α} {s' : σ} (hlock : c.Satisfied k maxAge s)
      (hg : c.gate = some g)
      (hread : k.read g.device maxAge (c.afterLock k maxAge s) = (.error e, s')) :
      Finds c k maxAge s (.error e, s')
  | parked {g : Gate ι} {s' : σ} (hlock : c.Satisfied k maxAge s) (hg : c.gate = some g)
      (hread : k.read g.device maxAge (c.afterLock k maxAge s) = (.ok (.state g.parked), s')) :
      Finds c k maxAge s (.ok .parked, s')
  | ungated (hlock : c.Satisfied k maxAge s) (hg : c.gate = none) :
      Finds c k maxAge s (c.readPositions k maxAge (c.afterLock k maxAge s))
  | opened {g : Gate ι} {v : Value α} {s' : σ} (hlock : c.Satisfied k maxAge s)
      (hg : c.gate = some g)
      (hread : k.read g.device maxAge (c.afterLock k maxAge s) = (.ok v, s'))
      (hv : v ≠ .state g.parked) :
      Finds c k maxAge s (c.readPositions k maxAge s')

theorem checkInterlock_passes (h : c.Satisfied k maxAge s) :
    c.checkInterlock k maxAge s = (.ok (), c.afterLock k maxAge s) := by
  unfold checkInterlock afterLock
  cases hl : c.interlock with
  | none => rfl
  | some l =>
    have hread : k.read l.device maxAge s =
        (.ok (.state l.required), (k.read l.device maxAge s).2) := Prod.ext (h l hl) rfl
    dsimp only
    rw [Action.bind_ok _ hread, if_pos (Value.isState_iff.mpr rfl)]
    rfl

theorem checkInterlock_fails {l : Interlock ι} (hl : c.interlock = some l)
    (hbad : (k.read l.device maxAge s).1 ≠ .ok (.state l.required)) :
    c.checkInterlock k maxAge s =
      (.error (c.lockFailureAt k l maxAge s), (k.read l.device maxAge s).2) := by
  unfold checkInterlock lockFailureAt
  rw [hl]
  rcases hread : k.read l.device maxAge s with ⟨r, s'⟩
  rw [hread] at hbad
  cases r with
  | error e => exact Action.bind_error _ hread
  | ok v =>
    dsimp only
    rw [Action.bind_ok _ hread, if_neg fun h => hbad (congrArg _ (Value.isState_iff.mp h))]
    rfl

theorem readRaw_finds (c : Composite ι α) (k : Controls ι σ α) (maxAge : Nat) (s : σ) :
    Finds c k maxAge s (c.readRaw k maxAge s) := by
  by_cases hlock : c.Satisfied k maxAge s
  · unfold readRaw
    rw [Action.bind_ok _ (checkInterlock_passes hlock)]
    cases hg : c.gate with
    | none => exact .ungated hlock hg
    | some g =>
      dsimp only
      rcases hread : k.read g.device maxAge (c.afterLock k maxAge s) with ⟨r, s'⟩
      cases r with
      | error e =>
        rw [Action.bind_error _ hread]
        exact .gateFails hlock hg hread
      | ok v =>
        rw [Action.bind_ok _ hread]
        by_cases hv : v = .state g.parked
        · rw [if_pos (Value.isState_iff.mpr hv)]
          exact .parked hlock hg (hv ▸ hread)
        · rw [if_neg fun h => hv (Value.isState_iff.mp h)]
          exact .opened hlock hg hread hv
  · obtain ⟨l, hl, hbad⟩ : ∃ l, c.interlock = some l ∧
        (k.read l.device maxAge s).1 ≠ .ok (.state l.required) := by
      simpa [Satisfied] using hlock
    have hraw : c.readRaw k maxAge s =
        (.error (c.lockFailureAt k l maxAge s), (k.read l.device maxAge s).2) :=
      Action.bind_error _ (checkInterlock_fails hl hbad)
    rw [hraw]
    exact .locked hl hbad

/-! ## The exchanges of a read -/

/-- The exchanges of a read up to the first answer that ends it, with the raw reading. -/
inductive Scans (c : Composite ι α) (maxAge : Nat) (names : ι → String) :
    List (Exchange ι α) → Except (DeviceError α) (Reading α) → Prop
  | locked {l : Interlock ι} {answer : Except (DeviceError α) (Value α)}
      (hl : c.interlock = some l) (hbad : answer ≠ .ok (.state l.required)) :
      Scans c maxAge names [.read l.device maxAge answer]
        (.error (c.lockFailure l (names l.device) answer))
  | gateFails {g : Gate ι} {e : DeviceError α} (hg : c.gate = some g) :
      Scans c maxAge names (c.lockPassed maxAge ++ [.read g.device maxAge (.error e)]) (.error e)
  | parked {g : Gate ι} (hg : c.gate = some g) :
      Scans c maxAge names
        (c.lockPassed maxAge ++ [.read g.device maxAge (.ok (.state g.parked))]) (.ok .parked)
  | axes {gate xs : List (Exchange ι α)} {r : Except (DeviceError α) (List α)}
      (hgate : Opened maxAge c.gate gate) (haxes : AxesScan maxAge names c.axes xs r) :
      Scans c maxAge names (c.lockPassed maxAge ++ gate ++ xs) (r.map .positions)

theorem lockPassed_reads {x : Exchange ι α} (h : x ∈ c.lockPassed maxAge) :
    ∃ d answer, x = .read d maxAge answer := by
  unfold lockPassed at h
  split at h
  · cases h
  · exact ⟨_, _, List.mem_singleton.mp h⟩

theorem Scans.all_reads {names : ι → String} {xs : List (Exchange ι α)}
    {r : Except (DeviceError α) (Reading α)} (h : Scans c maxAge names xs r) :
    ∀ x ∈ xs, ∃ d answer, x = .read d maxAge answer := by
  intro x hx
  cases h with
  | locked => exact ⟨_, _, List.mem_singleton.mp hx⟩
  | gateFails | parked =>
    rcases List.mem_append.mp hx with hx | hx
    · exact lockPassed_reads hx
    · exact ⟨_, _, List.mem_singleton.mp hx⟩
  | axes hgate haxes =>
    rcases List.mem_append.mp hx with hx | hx
    · rcases List.mem_append.mp hx with hx | hx
      · exact lockPassed_reads hx
      · exact hgate.reads_of_mem hx
    · exact haxes.all_reads x hx

theorem Scans.rename {names names' : ι → String} {xs : List (Exchange ι α)} {reading : Reading α}
    (h : Scans c maxAge names xs (.ok reading)) : Scans c maxAge names' xs (.ok reading) := by
  generalize hr : (Except.ok reading : Except (DeviceError α) (Reading α)) = r at h
  cases h with
  | locked => cases hr
  | gateFails => cases hr
  | parked hg => exact .parked hg
  | axes hgate haxes =>
    obtain ⟨ps, rfl, -⟩ := except_map_eq_ok.mp hr.symm
    exact .axes hgate haxes.rename

theorem readPositions_eq (c : Composite ι α) (k : Controls ι σ α) (maxAge : Nat) (s : σ) :
    c.readPositions k maxAge s =
      ((readAxes k maxAge c.axes s).1.map .positions, (readAxes k maxAge c.axes s).2) := by
  unfold readPositions
  rcases hread : readAxes k maxAge c.axes s with ⟨r, s'⟩
  cases r with
  | ok xs => exact Action.bind_ok _ hread
  | error e => exact Action.bind_error _ hread

theorem afterLock_recorded {w : Recorded ι σ α} (h : c.Satisfied k.recorded maxAge w) :
    (c.afterLock k.recorded maxAge w).2 = w.2 ++ c.lockPassed maxAge := by
  unfold afterLock lockPassed
  cases hl : c.interlock with
  | none => exact (List.append_nil _).symm
  | some l => exact Controls.recorded_read (Prod.ext (h l hl) rfl)

theorem readRaw_scans (c : Composite ι α) (k : Controls ι σ α) (maxAge : Nat)
    (w : Recorded ι σ α) :
    ∃ xs, (c.readRaw k.recorded maxAge w).2.2 = w.2 ++ xs ∧
      Scans c maxAge (k.name (c.readRaw k.recorded maxAge w).2.1) xs
        (c.readRaw k.recorded maxAge w).1 := by
  have hfinds := readRaw_finds c k.recorded maxAge w
  generalize c.readRaw k.recorded maxAge w = run at hfinds
  have haxes : ∀ gate w', Opened maxAge c.gate gate →
      w'.2 = w.2 ++ c.lockPassed maxAge ++ gate →
      ∃ xs, (c.readPositions k.recorded maxAge w').2.2 = w.2 ++ xs ∧
        Scans c maxAge (k.name (c.readPositions k.recorded maxAge w').2.1) xs
          (c.readPositions k.recorded maxAge w').1 := by
    intro gate w' hgate htrace
    obtain ⟨xs, hrest, hscan⟩ := readAxes_scan k maxAge c.axes w'
    rw [readPositions_eq]
    refine ⟨c.lockPassed maxAge ++ gate ++ xs, ?_, .axes hgate hscan⟩
    rw [hrest, htrace]
    simp only [List.append_assoc]
  cases hfinds with
  | locked hl hbad => exact ⟨_, rfl, .locked hl hbad⟩
  | gateFails hlock hg hread =>
    refine ⟨_, ?_, .gateFails hg⟩
    rw [Controls.recorded_read hread, afterLock_recorded hlock, List.append_assoc]
  | parked hlock hg hread =>
    refine ⟨_, ?_, .parked hg⟩
    rw [Controls.recorded_read hread, afterLock_recorded hlock, List.append_assoc]
  | ungated hlock hg =>
    refine haxes [] _ (hg ▸ .absent) ?_
    rw [afterLock_recorded hlock, List.append_nil]
  | opened hlock hg hread hv =>
    refine haxes _ _ (hg ▸ Opened.reads hv) ?_
    rw [Controls.recorded_read hread, afterLock_recorded hlock]

/-! ## What a composite reads as -/

theorem reconciled_null_iff {reading : Reading α} :
    c.reconciled reading = .ok .null ↔ reading = .parked := by
  rw [← Reconciler.reconcile_none_iff (r := c.reconciler)]
  unfold reconciled
  cases c.reconciler.reconcile reading with
  | error e => simp
  | ok x => cases x <;> simp [Value.ofOption]

theorem reconciled_scalar_iff {reading : Reading α} {x : α} :
    c.reconciled reading = .ok (.scalar x) ↔ c.reconciler.reconcile reading = .ok (some x) := by
  unfold reconciled
  cases c.reconciler.reconcile reading with
  | error e => simp
  | ok x => cases x <;> simp [Value.ofOption]

theorem reconciled_rejected {reading : Reading α} {e : PositionError α}
    (h : c.reconciler.reconcile reading = .error e) :
    c.reconciled reading = .error (.position e) := by
  rw [reconciled, h]

theorem reconciled_ne_state {reading : Reading α} {name : String} :
    c.reconciled reading ≠ .ok (.state name) := by
  unfold reconciled
  cases c.reconciler.reconcile reading with
  | error e => simp
  | ok x => cases x <;> simp [Value.ofOption]

theorem read_of_raw_error (hmode : c.mode = .master) {e : DeviceError α}
    (h : c.readRaw k maxAge s = (.error e, s')) : c.read k maxAge s = (.error e, s') := by
  unfold read
  rw [hmode]
  exact Action.bind_error _ h

theorem read_of_raw_ok (hmode : c.mode = .master) {reading : Reading α}
    (h : c.readRaw k maxAge s = (.ok reading, s')) :
    c.read k maxAge s = (c.reconciled reading,
      (c.sayAll (ε := DeviceError α) k (c.reconciler.remarks reading) s').2) := by
  unfold read
  rw [hmode]
  exact Action.bind_ok _ h

theorem read_fst (hmode : c.mode = .master) :
    (c.read k maxAge s).1 = (c.readRaw k maxAge s).1 >>= c.reconciled := by
  rcases hraw : c.readRaw k maxAge s with ⟨r, s'⟩
  cases r with
  | error e => rw [read_of_raw_error hmode hraw]; rfl
  | ok reading => rw [read_of_raw_ok hmode hraw]; rfl

theorem readRaw_parked_iff :
    (c.readRaw k maxAge s).1 = .ok .parked ↔ c.Satisfied k maxAge s ∧ ∃ g ∈ c.gate,
      (k.read g.device maxAge (c.afterLock k maxAge s)).1 = .ok (.state g.parked) := by
  have hpositions : ∀ s', (c.readPositions k maxAge s').1 ≠ .ok .parked := by
    intro s' h
    rw [readPositions_eq] at h
    obtain ⟨ps, -, hps⟩ := except_map_eq_ok.mp h
    cases hps
  have hfinds := readRaw_finds c k maxAge s
  generalize c.readRaw k maxAge s = run at hfinds
  cases hfinds with
  | locked hl hbad =>
    refine ⟨fun h => ?_, fun h => absurd (h.1 _ hl) hbad⟩
    cases h
  | gateFails hlock hg hread => simp [hg, hread]
  | parked hlock hg hread => simp [hg, hread, hlock]
  | ungated hlock hg => simp [hg, hpositions]
  | opened hlock hg hread hv => simp [hg, hread, hv, hpositions]

/-- The world after interlock and gate were read. -/
def afterGate (c : Composite ι α) (k : Controls ι σ α) (maxAge : Nat) (s : σ) : σ :=
  match c.gate with
  | none => c.afterLock k maxAge s
  | some g => (k.read g.device maxAge (c.afterLock k maxAge s)).2

theorem readAxes_of_readRaw {ps : List α} (h : (c.readRaw k maxAge s).1 = .ok (.positions ps)) :
    (readAxes k maxAge c.axes (c.afterGate k maxAge s)).1 = .ok ps := by
  have hpositions : ∀ s', (c.readPositions k maxAge s').1 = .ok (.positions ps) →
      (readAxes k maxAge c.axes s').1 = .ok ps := by
    intro s' hread
    rw [readPositions_eq] at hread
    obtain ⟨qs, hqs, heq⟩ := except_map_eq_ok.mp hread
    cases heq
    exact hqs
  have hfinds := readRaw_finds c k maxAge s
  generalize c.readRaw k maxAge s = run at hfinds h
  unfold afterGate
  cases hfinds with
  | locked | gateFails | parked => cases h
  | ungated hlock hg => simpa only [hg] using hpositions _ h
  | opened hlock hg hread hv => simpa only [hg, hread] using hpositions _ h

theorem read_null_iff (hmode : c.mode = .master) :
    (c.read k maxAge s).1 = .ok .null ↔ c.Satisfied k maxAge s ∧ ∃ g ∈ c.gate,
      (k.read g.device maxAge (c.afterLock k maxAge s)).1 = .ok (.state g.parked) := by
  rw [read_fst hmode, except_bind_eq_ok, ← readRaw_parked_iff]
  constructor
  · rintro ⟨reading, hraw, hnull⟩
    rwa [reconciled_null_iff.mp hnull] at hraw
  · intro hraw
    exact ⟨.parked, hraw, reconciled_null_iff.mpr rfl⟩

theorem read_of_parked (hmode : c.mode = .master) (hlock : c.Satisfied k maxAge s) {g : Gate ι}
    (hg : c.gate = some g)
    (hread : (k.read g.device maxAge (c.afterLock k maxAge s)).1 = .ok (.state g.parked)) :
    c.read k maxAge s = (.ok .null, (k.read g.device maxAge (c.afterLock k maxAge s)).2) := by
  have hraw : c.readRaw k maxAge s =
      (.ok .parked, (k.read g.device maxAge (c.afterLock k maxAge s)).2) := by
    unfold readRaw
    rw [Action.bind_ok _ (checkInterlock_passes hlock), hg]
    dsimp only
    rw [Action.bind_ok _ (Prod.ext hread rfl), if_pos (Value.isState_iff.mpr rfl)]
    rfl
  rw [read_of_raw_ok hmode hraw, reconciled_null_iff.mpr rfl]
  rfl

/-! ## Recording a read -/

theorem sayAll_recorded {ε : Type} (c : Composite ι α) (k : Controls ι σ α) (texts : List String)
    (w : Recorded ι σ α) :
    (c.sayAll (ε := ε) k.recorded texts w).2 = ((c.sayAll (ε := ε) k texts w.1).2, w.2) := by
  induction texts generalizing w with
  | nil => rfl
  | cons text texts ih => exact ih (k.note ⟨.debug, some c.name, text⟩ w.1, w.2)

omit [Scalar α] in
theorem readAxes_mirrors (k : Controls ι σ α) (maxAge : Nat) (axes : List (Axis ι)) :
    Mirrors (readAxes k.recorded maxAge axes) (readAxes k maxAge axes) := by
  induction axes with
  | nil => exact Mirrors.pure []
  | cons a axes ih =>
    refine (Mirrors.exchange (k.read a.device maxAge) (.read a.device maxAge)).bind fun v => ?_
    cases v with
    | scalar x => exact ih.bind fun xs => Mirrors.pure (x :: xs)
    | null => exact Mirrors.look fun w => Mirrors.fail _
    | state name => exact Mirrors.look fun w => Mirrors.fail _

theorem readRaw_mirrors (c : Composite ι α) (k : Controls ι σ α) (maxAge : Nat) :
    Mirrors (c.readRaw k.recorded maxAge) (c.readRaw k maxAge) := by
  have hpositions : Mirrors (c.readPositions k.recorded maxAge) (c.readPositions k maxAge) :=
    (readAxes_mirrors k maxAge c.axes).bind fun xs => Mirrors.pure _
  refine (checkInterlock_mirrors c k maxAge).bind fun _ => ?_
  cases c.gate with
  | none => exact hpositions
  | some g =>
    exact (Mirrors.exchange (k.read g.device maxAge) (.read g.device maxAge)).bind fun v =>
      Mirrors.ite (Mirrors.pure _) hpositions

theorem read_mirrors (c : Composite ι α) (k : Controls ι σ α) (maxAge : Nat) :
    Mirrors (c.read k.recorded maxAge) (c.read k maxAge) := by
  unfold read
  cases c.mode with
  | simulation => exact Mirrors.pure _
  | master =>
    refine (readRaw_mirrors c k maxAge).bind fun reading => ?_
    refine Mirrors.bind (fun w => ?_) fun _ => Mirrors.settle _
    rw [sayAll_recorded]
    rfl

theorem read_scans (k : Controls ι σ α) (maxAge : Nat) (w : Recorded ι σ α)
    (hmode : c.mode = .master) :
    ∃ xs raw, (c.read k.recorded maxAge w).2.2 = w.2 ++ xs ∧
      Scans c maxAge (k.name (c.read k.recorded maxAge w).2.1) xs raw ∧
      (c.read k.recorded maxAge w).1 = raw >>= c.reconciled := by
  obtain ⟨xs, htrace, hscans⟩ := readRaw_scans c k maxAge w
  refine ⟨xs, (c.readRaw k.recorded maxAge w).1, ?_, ?_, read_fst hmode⟩
  all_goals
    rcases hraw : c.readRaw k.recorded maxAge w with ⟨r, w'⟩
    rw [hraw] at htrace hscans
  · cases r with
    | error e => rwa [read_of_raw_error hmode hraw]
    | ok reading => rwa [read_of_raw_ok hmode hraw, sayAll_recorded]
  · cases r with
    | error e => rwa [read_of_raw_error hmode hraw]
    | ok reading => exact hscans.rename

/-! ## The whole read -/

theorem Scans.positions_iff {names : ι → String} {xs : List (Exchange ι α)}
    {raw : Except (DeviceError α) (Reading α)} (h : Scans c maxAge names xs raw) {ps : List α} :
    raw = .ok (.positions ps) ↔ ∃ gate, Opened maxAge c.gate gate ∧
      ps.length = c.axes.length ∧
        xs = c.lockPassed maxAge ++ gate ++ axisReads maxAge c.axes ps := by
  constructor
  · rintro rfl
    generalize hr : (Except.ok (.positions ps) : Except (DeviceError α) (Reading α)) = r at h
    cases h with
    | locked => cases hr
    | gateFails => cases hr
    | parked => cases hr
    | @axes gate xs r hgate haxes =>
      obtain ⟨qs, hqs, heq⟩ := except_map_eq_ok.mp hr.symm
      cases heq
      obtain ⟨hlen, rfl⟩ := haxes.ok_iff.mp hqs
      exact ⟨gate, hgate, hlen, rfl⟩
  · rintro ⟨gate, hgate, hlen, hxs⟩
    cases h with
    | locked hl hbad =>
      simp only [lockPassed, hl] at hxs
      exact absurd (Exchange.read.inj (List.cons.inj hxs).1).2.2 hbad
    | gateFails hg =>
      rw [hg] at hgate
      obtain ⟨v, -, rfl⟩ := hgate.reads_eq
      simp at hxs
    | parked hg =>
      rw [hg] at hgate
      obtain ⟨v, hv, rfl⟩ := hgate.reads_eq
      simp [Ne.symm hv] at hxs
    | axes hgate' haxes =>
      rw [List.append_assoc, List.append_assoc, List.append_cancel_left_eq] at hxs
      cases hg : c.gate with
      | none =>
        rw [hg] at hgate hgate'
        cases hgate
        cases hgate'
        rw [haxes.ok_iff.mpr ⟨hlen, hxs⟩]
        rfl
      | some g =>
        rw [hg] at hgate hgate'
        obtain ⟨v, -, rfl⟩ := hgate.reads_eq
        obtain ⟨v', -, rfl⟩ := hgate'.reads_eq
        rw [haxes.ok_iff.mpr ⟨hlen, (List.cons.inj hxs).2⟩]
        rfl

theorem Scans.scalar_iff {names : ι → String} {xs : List (Exchange ι α)}
    {raw : Except (DeviceError α) (Reading α)} (h : Scans c maxAge names xs raw) {x : α} :
    raw >>= c.reconciled = .ok (.scalar x) ↔ ∃ gate ps, Opened maxAge c.gate gate ∧
      ps.length = c.axes.length ∧
      xs = c.lockPassed maxAge ++ gate ++ axisReads maxAge c.axes ps ∧
      c.reconciler.reconcile (.positions ps) = .ok (some x) := by
  rw [except_bind_eq_ok]
  constructor
  · rintro ⟨reading, hraw, hreading⟩
    have hreconcile := reconciled_scalar_iff.mp hreading
    cases reading with
    | parked =>
      rw [Reconciler.reconcile_none_iff.mpr rfl] at hreconcile
      cases hreconcile
    | positions ps =>
      obtain ⟨gate, hgate, hlen, hxs⟩ := h.positions_iff.mp hraw
      exact ⟨gate, ps, hgate, hlen, hxs, hreconcile⟩
  · rintro ⟨gate, ps, hgate, hlen, hxs, hreconcile⟩
    exact ⟨.positions ps, h.positions_iff.mpr ⟨gate, hgate, hlen, hxs⟩,
      reconciled_scalar_iff.mpr hreconcile⟩

theorem Scans.parked_trace {names : ι → String} {xs : List (Exchange ι α)}
    (h : Scans c maxAge names xs (.ok .parked)) :
    ∃ g ∈ c.gate, xs = c.lockPassed maxAge ++ [.read g.device maxAge (.ok (.state g.parked))] := by
  generalize hr : (Except.ok .parked : Except (DeviceError α) (Reading α)) = r at h
  cases h with
  | locked => cases hr
  | gateFails => cases hr
  | parked hg => exact ⟨_, hg, rfl⟩
  | axes hgate haxes =>
    obtain ⟨ps, -, hps⟩ := except_map_eq_ok.mp hr.symm
    cases hps

/-- A reading of `.null` depends on the gate and the interlock only. -/
theorem read_parked_congr {c' : Composite ι α} {k' : Controls ι σ α} (hmode : c.mode = .master)
    (hmode' : c'.mode = .master) (hgate : c'.gate = c.gate)
    (hinterlock : c'.interlock = c.interlock)
    (hg : ∀ g ∈ c.gate, k'.read g.device maxAge = k.read g.device maxAge)
    (hl : ∀ l ∈ c.interlock, k'.read l.device maxAge = k.read l.device maxAge)
    (h : (c.read k maxAge s).1 = .ok .null) : c'.read k' maxAge s = c.read k maxAge s := by
  obtain ⟨hlock, g, hg', hread⟩ := (read_null_iff hmode).mp h
  have hafter : c'.afterLock k' maxAge s = c.afterLock k maxAge s := by
    unfold afterLock
    rw [hinterlock]
    cases hi : c.interlock with
    | none => rfl
    | some l => simp only [hl l hi]
  have hlock' : c'.Satisfied k' maxAge s := by
    intro l hmem
    rw [hinterlock] at hmem
    rw [hl l hmem]
    exact hlock l hmem
  have hread' : (k'.read g.device maxAge (c'.afterLock k' maxAge s)).1 = .ok (.state g.parked) := by
    rw [hafter, hg g hg']
    exact hread
  rw [read_of_parked hmode hlock hg' hread, read_of_parked hmode' hlock' (hgate ▸ hg') hread',
    hafter, hg g hg']

/-- **Reading in order.** A read of a composite in master mode makes no exchange but reads at its
own max age: of the interlock, the gate and the axes in order, as in one of the cases of `Scans`,
whose raw reading is reconciled. It gives `.null` if and only if the interlock reads the required
state and the gate its parked one; then no axis is asked, and the result depends on gate and
interlock only. It gives the number `x` if and only if all were asked, the gate does not read its
parked state, and the reconciler gives `x` for the positions; an error of the reconciler is a
position error. It never gives a state. -/
theorem read_in_order (c : Composite ι α) (k : Controls ι σ α) (maxAge : Nat) (s : σ)
    (hmode : c.mode = .master) :
    let run := c.read k.recorded maxAge (s, [])
    c.read k maxAge s = (run.1, run.2.1) ∧
    (∀ x ∈ run.2.2, ∃ d answer, x = .read d maxAge answer) ∧
    (∃ raw, Scans c maxAge (k.name run.2.1) run.2.2 raw ∧ run.1 = raw >>= c.reconciled) ∧
    (run.1 = .ok .null ↔ c.Satisfied k maxAge s ∧ ∃ g ∈ c.gate,
      (k.read g.device maxAge (c.afterLock k maxAge s)).1 = .ok (.state g.parked)) ∧
    (run.1 = .ok .null →
      (∃ g ∈ c.gate,
        run.2.2 = c.lockPassed maxAge ++ [.read g.device maxAge (.ok (.state g.parked))]) ∧
      ∀ (c' : Composite ι α) (k' : Controls ι σ α), c'.mode = .master → c'.gate = c.gate →
        c'.interlock = c.interlock →
        (∀ g ∈ c.gate, k'.read g.device maxAge = k.read g.device maxAge) →
        (∀ l ∈ c.interlock, k'.read l.device maxAge = k.read l.device maxAge) →
        c'.read k'.recorded maxAge (s, []) = run) ∧
    (∀ x, run.1 = .ok (.scalar x) ↔ ∃ gate ps, Opened maxAge c.gate gate ∧
      ps.length = c.axes.length ∧
      run.2.2 = c.lockPassed maxAge ++ gate ++ axisReads maxAge c.axes ps ∧
      c.reconciler.reconcile (.positions ps) = .ok (some x)) ∧
    (∀ gate ps e, Opened maxAge c.gate gate → ps.length = c.axes.length →
      run.2.2 = c.lockPassed maxAge ++ gate ++ axisReads maxAge c.axes ps →
      c.reconciler.reconcile (.positions ps) = .error e → run.1 = .error (.position e)) ∧
    ∀ name, run.1 ≠ .ok (.state name) := by
  intro run
  have hmirror : (run.1, run.2.1) = c.read k maxAge s := read_mirrors c k maxAge (s, [])
  have hfst : run.1 = (c.read k maxAge s).1 := congrArg Prod.fst hmirror
  obtain ⟨xs, raw, htrace, hscans, hrun⟩ := read_scans k maxAge (s, []) hmode
  obtain rfl : run.2.2 = xs := htrace
  change run.1 = raw >>= c.reconciled at hrun
  refine ⟨hmirror.symm, hscans.all_reads, ⟨raw, hscans, hrun⟩, ?_, ?_, ?_, ?_, ?_⟩
  · rw [hfst]
    exact read_null_iff hmode
  · intro hnull
    refine ⟨?_, ?_⟩
    · rw [hrun, except_bind_eq_ok] at hnull
      obtain ⟨reading, rfl, hreading⟩ := hnull
      rw [reconciled_null_iff.mp hreading] at hscans
      exact hscans.parked_trace
    · intro c' k' hmode' hgate hinterlock hg hl
      have hrecorded : ∀ d, k'.read d maxAge = k.read d maxAge →
          k'.recorded.read d maxAge = k.recorded.read d maxAge := by
        intro d hd
        simp only [Controls.recorded, hd]
      exact read_parked_congr hmode hmode' hgate hinterlock
        (fun g hmem => hrecorded _ (hg g hmem)) (fun l hmem => hrecorded _ (hl l hmem)) hnull
  · intro x
    rw [hrun]
    exact hscans.scalar_iff
  · intro gate ps e hgate hlen hxs hreconcile
    rw [hrun, hscans.positions_iff.mpr ⟨gate, hgate, hlen, hxs⟩]
    exact reconciled_rejected hreconcile
  · intro name hstate
    rw [hrun, except_bind_eq_ok] at hstate
    obtain ⟨reading, -, hreading⟩ := hstate
    exact reconciled_ne_state hreading

/-- The gate 0 reads its parked state, and the axes cannot be read. -/
private def shut : Controls Nat Unit Float where
  name _ d := toString d
  format _ _ v := v.text
  isAllowed _ _ _ := .ok ()
  read d _ := if d = 0 then pure (.state "out") else Action.fail (.notFound (toString d))
  start _ _ := pure ()
  stop _ := pure ()
  wait _ := pure ()
  status _ _ s := (.idle, s)
  note _ s := s

/-- The pair reads `.null`, and its axes are not asked. -/
theorem read_in_order_shut :
    (pair 0 1 2 "out" in_ne_out).mode = .master ∧
      ((pair 0 1 2 "out" in_ne_out).read shut.recorded 7 ((), [])).1 = .ok .null ∧
      ((pair 0 1 2 "out" in_ne_out).read shut.recorded 7 ((), [])).2.2 =
        [.read 0 7 (.ok (.state "out"))] := by
  obtain ⟨-, -, -, hnull, htrace, -⟩ :=
    read_in_order (pair 0 1 2 "out" in_ne_out) shut 7 () rfl
  have hlock : (pair 0 1 2 "out" in_ne_out).Satisfied shut 7 () := by
    intro l hl
    cases hl
  have hread := hnull.mpr ⟨hlock, ⟨0, "in", "out"⟩, rfl, rfl⟩
  obtain ⟨⟨g, hg, hasked⟩, -⟩ := htrace hread
  cases hg
  exact ⟨rfl, hread, hasked⟩

end Composite
end Beamline
