import Beamline.Proofs.Operating
import Mathlib.Data.List.Induction

/-!
`failAfter` scenarios: an entry for an operation passes so many checks of it and fails later ones,
until a reset. Each entry that a check goes through adds one to the counter of the operation. Proved
here:

* `Scenario.consult_counted`: one check, as the fold `exceed` over the limits of the operation;
* `Counting.counts_after`: the counter depends on the resets and the checks of that operation only;
* `Counting.reached`: what the counter can be after `k` checks (`Reached`);
* `check_counted_iff`: which checks fail;
* `listed_twice_fails_early`: an operation with two entries fails before either limit is exceeded.
-/

namespace Beamline

/-! ## Requests -/

inductive Faults.Request where
  | check (device operation : String)
  | fault (device : String)
  | reset
  deriving DecidableEq, Repr

namespace Faults.Request

def isReset : Request → Bool
  | reset => true
  | _ => false

def checks (operation : String) : Request → Bool
  | check _ other => other == operation
  | _ => false

def concerns (operation : String) (q : Request) : Bool := q.isReset || q.checks operation

/-- The requests after the last reset, in reverse order. -/
def sinceReset (past : List Request) : List Request := past.reverse.takeWhile fun q => !q.isReset

/-- The number of checks of the operation since the last reset. -/
def asked (operation : String) (past : List Request) : Nat :=
  (sinceReset past).countP (checks operation)

theorem asked_concat (operation : String) (past : List Request) (q : Request) :
    asked operation (past ++ [q]) =
      if q.isReset then 0 else asked operation past + if q.checks operation then 1 else 0 := by
  unfold asked sinceReset
  rw [List.reverse_concat, List.takeWhile_cons]
  cases q.isReset with
  | true => rfl
  | false => exact List.countP_cons

end Faults.Request

namespace Faults

variable {α : Type} [Scalar α]

/-- The faults after a request. -/
def serve (f : Faults α) : Request → Faults α
  | .check device operation => (check device operation f).2
  | .fault _ => f
  | .reset => f.reset

def after (f : Faults α) (past : List Request) : Faults α := past.foldl serve f

theorem after_concat (f : Faults α) (past : List Request) (q : Request) :
    f.after (past ++ [q]) = (f.after past).serve q := List.foldl_append

end Faults

/-! ## One check -/

/-- One `failAfter` scenario for each entry. -/
def Scenario.counted (entries : List (String × Nat)) : List Scenario :=
  entries.map fun e => .failAfter e.1 e.2

/-- The limits of the entries for an operation, in order. -/
def Scenario.limits (operation : String) (entries : List (String × Nat)) : List Nat :=
  (entries.filter fun e => e.1 == operation).map Prod.snd

/-- Add one to `seen` for each limit, up to the first limit that is exceeded. -/
def exceed (seen : Nat) : List Nat → Option Nat × Nat
  | [] => (none, seen)
  | limit :: limits =>
    let seen := (seen + 1) % twoTo 32
    if seen ≤ limit then exceed seen limits else (some limit, seen)

/-- `exceed` without the counter wrapping around. -/
theorem exceed_cases (seen : Nat) (limits : List Nat) (h : seen + limits.length < twoTo 32) :
    (exceed seen limits = (none, seen + limits.length) ∧
        ∀ i c, limits[i]? = some c → seen + (i + 1) ≤ c) ∨
      ∃ i c, limits[i]? = some c ∧ c < seen + (i + 1) ∧
        exceed seen limits = (some c, seen + (i + 1)) := by
  induction limits generalizing seen with
  | nil => exact .inl ⟨rfl, by simp⟩
  | cons limit limits ih =>
    rw [List.length_cons] at h
    have hseen : (seen + 1) % twoTo 32 = seen + 1 := Nat.mod_eq_of_lt (by omega)
    unfold exceed
    simp only [hseen]
    split
    · rename_i hle
      rcases ih (seen + 1) (by omega) with ⟨hrun, hall⟩ | ⟨i, c, hc, hlt, hrun⟩
      · refine .inl ⟨by rw [hrun, List.length_cons]; congr 1; omega, fun i c hc => ?_⟩
        cases i with
        | zero =>
          obtain rfl := Option.some.inj hc
          exact hle
        | succ i =>
          have := hall i c hc
          omega
      · exact .inr ⟨i + 1, c, hc, by omega, by rw [hrun]; congr 1; omega⟩
    · rename_i hgt
      exact .inr ⟨0, limit, rfl, by omega, rfl⟩

theorem mem_of_exceed {seen c : Nat} {limits : List Nat} (h : (exceed seen limits).1 = some c) :
    c ∈ limits := by
  induction limits generalizing seen with
  | nil => cases h
  | cons limit limits ih =>
    unfold exceed at h
    dsimp only at h
    split at h
    · exact List.mem_cons_of_mem _ (ih h)
    · cases h
      exact List.mem_cons_self

/-- One check evaluates `exceed` on the limits of its operation, and leaves the other counters. -/
theorem Scenario.consult_counted (operation : String) (entries : List (String × Nat))
    (counts : Counts) :
    ∃ counts', consult operation (counted entries) counts =
        ((exceed (counts operation) (limits operation entries)).1.elim .pass
          fun c => .once (.afterOperations c), counts') ∧
      counts' operation = (exceed (counts operation) (limits operation entries)).2 ∧
      ∀ other, other ≠ operation → counts' other = counts other := by
  induction entries generalizing counts with
  | nil => exact ⟨counts, rfl, rfl, fun _ _ => rfl⟩
  | cons e entries ih =>
    obtain ⟨name, count⟩ := e
    by_cases hname : name = operation
    · subst hname
      have hlimits : limits name ((name, count) :: entries) = count :: limits name entries := by
        simp [limits]
      have hbump : counts.bump name name = (counts name + 1) % twoTo 32 := by simp [Counts.bump]
      have hother : ∀ other, other ≠ name → counts.bump name other = counts other := by
        intro other hne
        simp [Counts.bump, hne]
      rw [hlimits]
      simp only [counted, List.map_cons, consult, exceed, hbump, if_true]
      split
      · obtain ⟨counts', hrun, hself, hrest⟩ := ih (counts.bump name)
        rw [hbump] at hrun hself
        exact ⟨counts', hrun, hself, fun other hne => (hrest other hne).trans (hother other hne)⟩
      · exact ⟨counts.bump name, rfl, hbump, hother⟩
    · have hlimits : limits operation ((name, count) :: entries) = limits operation entries := by
        simp [limits, hname]
      rw [hlimits]
      simp only [counted, List.map_cons, consult, if_neg hname]
      exact ih counts

namespace Faults

variable {entries : List (String × Nat)} {f : Faults Float} {past : List Request}

/-- The scenarios are those of `entries`, with no rates and no fault that sticks. -/
structure Counting (entries : List (String × Nat)) (f : Faults Float) : Prop where
  scenarios : f.scenarios = Scenario.counted entries
  sticky : f.sticky = Option.none
  rates : f.rates = []

theorem Counting.check (h : f.Counting entries) (device operation : String) :
    (check device operation f).1 =
        (exceed (f.counts operation) (Scenario.limits operation entries)).1.elim (.ok ())
          (fun c => .error ⟨device, .afterOperations c⟩) ∧
      (check device operation f).2.Counting entries ∧
      (check device operation f).2.counts operation =
        (exceed (f.counts operation) (Scenario.limits operation entries)).2 ∧
      ∀ other, other ≠ operation →
        (check device operation f).2.counts other = f.counts other := by
  obtain ⟨counts', hrun, hself, hrest⟩ := Scenario.consult_counted operation entries f.counts
  have hrate := rate_of_nil h.rates operation
  simp only [Faults.check, h.sticky, h.scenarios, hrun]
  cases (exceed (f.counts operation) (Scenario.limits operation entries)).1 with
  | none =>
    simp only [Option.elim_none, Random.Source.happens_never _ hrate]
    exact ⟨rfl, ⟨rfl, rfl, h.rates⟩, hself, hrest⟩
  | some c =>
    simp only [Option.elim_some]
    exact ⟨trivial, ⟨rfl, rfl, h.rates⟩, hself, hrest⟩

theorem Counting.serve (h : f.Counting entries) (q : Request) : (f.serve q).Counting entries := by
  cases q with
  | check device operation => exact (h.check device operation).2.1
  | fault device => exact h
  | reset => exact ⟨h.scenarios, rfl, h.rates⟩

theorem Counting.after (h : f.Counting entries) (past : List Request) :
    (f.after past).Counting entries := by
  induction past generalizing f with
  | nil => exact h
  | cons q past ih => exact ih (h.serve q)

theorem counting_ofScenarios (entries : List (String × Nat)) :
    (ofScenarios (Scenario.counted entries) : Faults Float).Counting entries := ⟨rfl, rfl, rfl⟩

/-! ## Runs -/

/-- The counter after `k` checks: each check has passed all limits, or some limit is already
exceeded. -/
def Reached (limits : List Nat) (k seen : Nat) : Prop :=
  seen ≤ limits.length * k ∧
    (seen = limits.length * k ∨ ∃ i c, limits[i]? = some c ∧ c < seen + (i + 1))

theorem Reached.next {limits : List Nat} {k seen : Nat} (h : Reached limits k seen)
    (hk : limits.length * (k + 1) < twoTo 32) : Reached limits (k + 1) (exceed seen limits).2 := by
  obtain ⟨hle, hcount⟩ := h
  rw [Nat.mul_succ] at hk
  unfold Reached
  rw [Nat.mul_succ]
  rcases exceed_cases seen limits (by omega) with ⟨hrun, hall⟩ | ⟨i, c, hc, hlt, hrun⟩
  · rw [hrun]
    refine ⟨Nat.add_le_add_right hle _, .inl (congrArg (· + limits.length) ?_)⟩
    refine hcount.resolve_right ?_
    rintro ⟨i, c, hc, hlt⟩
    exact absurd (hall i c hc) (Nat.not_le_of_lt hlt)
  · rw [hrun]
    have hi := (List.getElem?_eq_some_iff.mp hc).1
    exact ⟨by dsimp only; omega, .inr ⟨i, c, hc, by dsimp only; omega⟩⟩

/-- The next check fails if and only if it exceeds a limit with all limits passed by the checks
before. -/
theorem Reached.exceeds_iff {limits : List Nat} {k seen : Nat} (h : Reached limits k seen)
    (hk : limits.length * (k + 1) < twoTo 32) :
    (exceed seen limits).1 ≠ Option.none ↔
      ∃ i c, limits[i]? = some c ∧ c < limits.length * k + (i + 1) := by
  obtain ⟨hle, hcount⟩ := h
  rw [Nat.mul_succ] at hk
  have hseen : (exceed seen limits).1 ≠ Option.none ↔
      ∃ i c, limits[i]? = some c ∧ c < seen + (i + 1) := by
    rcases exceed_cases seen limits (by omega) with ⟨hrun, hall⟩ | ⟨i, c, hc, hlt, hrun⟩
    · rw [hrun]
      refine iff_of_false (by simp) ?_
      rintro ⟨i, c, hc, hlt⟩
      exact absurd (hall i c hc) (Nat.not_le_of_lt hlt)
    · rw [hrun]
      exact iff_of_true (by simp) ⟨i, c, hc, hlt⟩
  rw [hseen]
  rcases hcount with rfl | ⟨i, c, hc, hlt⟩
  · rfl
  · exact iff_of_true ⟨i, c, hc, hlt⟩ ⟨i, c, hc, by omega⟩

theorem exceeded_of_single {limits : List Nat} (hone : limits.length ≤ 1) (k : Nat) :
    (∃ i c, limits[i]? = some c ∧ c < limits.length * k + (i + 1)) ↔ ∃ c ∈ limits, c < k + 1 := by
  match limits, hone with
  | [], _ => simp
  | [c], _ => simp [List.getElem?_singleton]

theorem Counting.reached (h : f.Counting entries) (hzero : ∀ operation, f.counts operation = 0)
    (operation : String) (past : List Request)
    (hk : (Scenario.limits operation entries).length * Request.asked operation past < twoTo 32) :
    Reached (Scenario.limits operation entries) (Request.asked operation past)
      ((f.after past).counts operation) := by
  have hstart : Reached (Scenario.limits operation entries) 0 0 := ⟨Nat.zero_le _, .inl rfl⟩
  induction past using List.reverseRecOn with
  | nil =>
    rw [show f.after [] = f from rfl, hzero]
    exact hstart
  | append_singleton past q ih =>
    rw [after_concat]
    rw [Request.asked_concat] at hk ⊢
    cases q with
    | reset => exact hstart
    | fault device => exact ih hk
    | check device other =>
      obtain ⟨-, -, hself, hrest⟩ := (h.after past).check device other
      by_cases hother : other = operation
      · subst hother
        simp only [Request.isReset, Request.checks, beq_self_eq_true, if_true,
          Bool.false_eq_true, if_false] at hk ⊢
        rw [Faults.serve, hself]
        exact (ih (Nat.lt_of_le_of_lt (Nat.mul_le_mul_left _ (Nat.le_succ _)) hk)).next hk
      · simp only [Request.isReset, Request.checks, beq_iff_eq, hother, Bool.false_eq_true,
          if_false, Nat.add_zero] at hk ⊢
        rw [Faults.serve, hrest operation (Ne.symm hother)]
        exact ih hk

theorem Counting.counts_after (h : f.Counting entries) (operation : String)
    (past : List Request) :
    (f.after past).counts operation =
      (f.after (past.filter (Request.concerns operation))).counts operation := by
  induction past using List.reverseRecOn with
  | nil => rfl
  | append_singleton past q ih =>
    rw [after_concat, List.filter_append]
    cases q with
    | reset =>
      rw [show [Request.reset].filter (Request.concerns operation) = [Request.reset] from rfl,
        after_concat]
      rfl
    | fault device =>
      rw [show [Request.fault device].filter (Request.concerns operation) = [] from rfl,
        List.append_nil]
      exact ih
    | check device other =>
      obtain ⟨-, -, hself, hrest⟩ := (h.after past).check device other
      by_cases hother : other = operation
      · subst hother
        have hfilter : [Request.check device other].filter (Request.concerns other) =
            [Request.check device other] := by
          simp [Request.concerns, Request.checks]
        rw [hfilter, after_concat, Faults.serve, Faults.serve, hself, ih]
        exact ((h.after _).check device other).2.2.1.symm
      · have hfilter : [Request.check device other].filter (Request.concerns operation) = [] := by
          simp [Request.concerns, Request.checks, Request.isReset, hother]
        rw [hfilter, List.append_nil, Faults.serve, hrest operation (Ne.symm hother)]
        exact ih

/-- **Failing after a count.** Let the scenarios be those of `entries`, with `n` limits for an
operation and `k` checks of it since the last reset. Below the bound of the counter the next check
fails if and only if for some `i` the `i`-th limit, from 0 on, is less than `n * k + (i + 1)`; so
with at most one entry for the operation if and only if `k + 1` exceeds its limit. A failure names
one of these limits. Requests that do not concern the operation make no difference. -/
theorem check_counted_iff (entries : List (String × Nat)) (past : List Request)
    (device operation : String) :
    let faults : Faults Float := ofScenarios (Scenario.counted entries)
    let limits := Scenario.limits operation entries
    let k := Request.asked operation past
    let outcome := (check device operation (faults.after past)).1
    (limits.length * (k + 1) < twoTo 32 →
      (outcome ≠ .ok () ↔ ∃ i c, limits[i]? = some c ∧ c < limits.length * k + (i + 1)) ∧
      (limits.length ≤ 1 → (outcome ≠ .ok () ↔ ∃ c ∈ limits, c < k + 1))) ∧
    (outcome = .ok () ∨ ∃ c ∈ limits, outcome = .error ⟨device, .afterOperations c⟩) ∧
    outcome = (check device operation
      (faults.after (past.filter (Request.concerns operation)))).1 := by
  intro faults limits k outcome
  have hcounting : faults.Counting entries := counting_ofScenarios entries
  have houtcome : outcome = (exceed ((faults.after past).counts operation) limits).1.elim (.ok ())
      fun c => .error ⟨device, .afterOperations c⟩ :=
    ((hcounting.after past).check device operation).1
  have hfails : outcome ≠ .ok () ↔
      (exceed ((faults.after past).counts operation) limits).1 ≠ Option.none := by
    rw [houtcome]
    cases (exceed ((faults.after past).counts operation) limits).1 <;> simp
  refine ⟨fun hk => ?_, ?_, ?_⟩
  · have hk' : limits.length * k < twoTo 32 :=
      Nat.lt_of_le_of_lt (Nat.mul_le_mul_left _ (Nat.le_succ _)) hk
    have hreached := hcounting.reached (fun _ => rfl) operation past hk'
    have hiff := hfails.trans (hreached.exceeds_iff hk)
    exact ⟨hiff, fun hone => hiff.trans (exceeded_of_single hone k)⟩
  · rw [houtcome]
    cases hc : (exceed ((faults.after past).counts operation) limits).1 with
    | none => exact .inl rfl
    | some c => exact .inr ⟨c, mem_of_exceed hc, rfl⟩
  · rw [((hcounting.after _).check device operation).1, ← hcounting.counts_after operation past]
    exact houtcome

/-- The checks before the reset do not count, and neither do those of another operation. -/
theorem check_counted_iff_reset :
    let entries := [("start", 2), ("read", 1)]
    let past : List Request := [.check "a" "read", .check "a" "read", .reset, .check "a" "read",
      .check "b" "start", .check "a" "start"]
    let faults : Faults Float := ofScenarios (Scenario.counted entries)
    1 * (Request.asked "start" past + 1) < twoTo 32 ∧
      (Scenario.limits "start" entries).length ≤ 1 ∧
      (check "b" "start" (faults.after past)).1 ≠ .ok () ∧
      1 * (Request.asked "read" past + 1) < twoTo 32 ∧
      (Scenario.limits "read" entries).length ≤ 1 ∧
      (check "b" "read" (faults.after past)).1 ≠ .ok () := by
  intro entries past faults
  have hstart := (check_counted_iff entries past "b" "start").1 (by decide)
  have hread := (check_counted_iff entries past "b" "read").1 (by decide)
  exact ⟨by decide, by decide, (hstart.2 (by decide)).mpr ⟨2, by decide, by decide⟩, by decide,
    by decide, (hread.2 (by decide)).mpr ⟨1, by decide, by decide⟩⟩

/-- With the limit 2 listed twice, the second check fails. -/
theorem listed_twice_fails_early :
    let entries := [("start", 2), ("start", 2)]
    let past : List Request := [.check "mr1" "start"]
    let faults : Faults Float := ofScenarios (Scenario.counted entries)
    Request.asked "start" past = 1 ∧ (¬ ∃ c ∈ Scenario.limits "start" entries, c < 2) ∧
      (check "mr1" "start" (faults.after past)).1 = .error ⟨"mr1", .afterOperations 2⟩ :=
  ⟨by decide, by decide, by decide⟩

end Faults
end Beamline
