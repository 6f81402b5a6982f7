import Beamline.Proofs.Interpolating
import Beamline.Proofs.Reconciling
import Beamline.Proofs.Sticking

/-!
Failures at a rate, as a function of the rate, the seed and the number of draws made before. Proved
here:

* `happensEach_getElem?`: the `k`-th answer is `failsAt` with the number of rates before it that are
  `isOpen`, that is, need a draw;
* `answersTo_eq`: calls whose rate is not `isOpen` can be left out without any effect on the others;
* `failsAt_mono`: a call that fails at a rate fails at every higher rate;
* `SingleRate.failures`: with one rate for all operations, which checks fail depends on their number
  only;
* `failures_by_draw` puts these together.
-/

namespace Beamline

namespace Random

variable {α : Type} [Scalar α]

/-- A call at this rate makes a draw. NaN does not compare with 0 or 1, and so makes one. -/
def isOpen (rate : α) : Bool := !(decide (rate ≤ 0) || decide (1 ≤ rate))

theorem isOpen_iff {rate : α} : isOpen rate = true ↔ ¬ rate ≤ 0 ∧ ¬ 1 ≤ rate := by
  simp [isOpen]

/-- Whether a call at this rate fails if the next draw has the number `index`. -/
def failsAt (seed : UInt64) (index : Nat) (rate : α) : Bool :=
  if rate ≤ 0 then false
  else if 1 ≤ rate then true
  else decide ((Scalar.draw (draw seed index) : α) < rate)

theorem failsAt_of_settled {rate : α} (h : isOpen rate = false) (seed : UInt64) (i j : Nat) :
    failsAt seed i rate = failsAt seed j rate := by
  unfold failsAt
  split
  · rfl
  · split
    · rfl
    · next hlow hhigh =>
      rw [isOpen_iff.mpr ⟨hlow, hhigh⟩] at h
      cases h

namespace Source

theorem happens_eq (s : Source) (rate : α) : s.happens rate =
    (failsAt s.seed s.drawn rate, { s with drawn := s.drawn + (isOpen rate).toNat }) := by
  unfold happens failsAt
  split
  · next hlow => simp [isOpen, hlow]
  · split
    · next hhigh => simp [isOpen, hhigh]
    · next hlow hhigh =>
      rw [isOpen_iff.mpr ⟨hlow, hhigh⟩]
      rfl

theorem happensEach_getElem? (s : Source) (rates : List α) (k : Nat) :
    (s.happensEach rates)[k]? =
      rates[k]?.map (failsAt s.seed (s.drawn + (rates.take k).countP isOpen)) := by
  induction rates generalizing s k with
  | nil => simp [happensEach]
  | cons rate rates ih =>
    simp only [happensEach, happens_eq]
    cases k with
    | zero => simp
    | succ k =>
      rw [List.getElem?_cons_succ, ih, List.getElem?_cons_succ, List.take_succ_cons,
        List.countP_cons]
      congr 2
      cases isOpen rate with
      | true => simp; omega
      | false => simp

/-- The answers to the calls marked `true`, with the calls marked `false` made in between. -/
def answersTo (s : Source) (calls : List (α × Bool)) : List Bool :=
  (((s.happensEach (calls.map Prod.fst)).zip (calls.map Prod.snd)).filter Prod.snd).map Prod.fst

theorem answersTo_eq (s : Source) (calls : List (α × Bool))
    (h : ∀ c ∈ calls, c.2 = false → isOpen c.1 = false) :
    s.answersTo calls = s.happensEach ((calls.filter Prod.snd).map Prod.fst) := by
  induction calls generalizing s with
  | nil => rfl
  | cons c calls ih =>
    obtain ⟨rate, marked⟩ := c
    obtain ⟨hc, hcalls⟩ := List.forall_mem_cons.mp h
    have hrest := fun s => ih s hcalls
    simp only [answersTo] at hrest
    simp only [answersTo, List.map_cons, happensEach, happens_eq, List.zip_cons_cons]
    cases marked with
    | true =>
      simp only [List.filter_cons_of_pos, List.map_cons, happensEach, happens_eq, hrest]
    | false =>
      have hsettled : isOpen rate = false := hc rfl
      simp only [hsettled, Bool.toNat_false, Nat.add_zero, Bool.false_eq_true, not_false_eq_true,
        List.filter_cons_of_neg, hrest]

end Source

/-! ## Rates of binary64 -/

open Rounding in
theorem not_compares_of_isNaN {x y : Float} (h : x.isNaN = true) :
    ¬ x ≤ y ∧ ¬ y ≤ x ∧ ¬ y < x := by
  have hrank : rank? x.toModel.unpack = none := by rw [unpack_of_isNaN h]; rfl
  rw [le_iff_rank, le_iff_rank, lt_iff_rank, hrank]
  simp

theorem happens_nan (s : Source) {rate : Float} (h : rate.isNaN = true) :
    s.happens rate = (false, { s with drawn := s.drawn + 1 }) := by
  have hlow : ¬ rate ≤ 0 := (not_compares_of_isNaN h).1
  have hhigh : ¬ 1 ≤ rate := (not_compares_of_isNaN h).2.1
  have hdraw : ¬ (s.peek : Float) < rate := (not_compares_of_isNaN h).2.2
  simp only [Source.happens, if_neg hlow, if_neg hhigh, hdraw, decide_false]

open Rounding in
theorem failsAt_mono {r r' : Float} (h : r ≤ r') {seed : UInt64} {index : Nat}
    (hfails : failsAt seed index r = true) : failsAt seed index r' = true := by
  unfold failsAt at hfails
  split at hfails
  · cases hfails
  · next hlow =>
    have hlow' : ¬ r' ≤ 0 := fun hle => hlow (float_le_trans h hle)
    rw [failsAt, if_neg hlow']
    split at hfails
    · next hhigh => rw [if_pos (float_le_trans hhigh h)]
    · split
      · rfl
      · exact decide_eq_true (float_lt_of_lt_of_le (of_decide_eq_true hfails) h)

end Random

namespace Faults

variable {α : Type} [Scalar α] {f : Faults α} {rate : α} {seed : UInt64} {n : Nat}

/-! ## Checks at a single rate -/

def Request.isCheck : Request → Bool
  | check _ _ => true
  | _ => false

/-- Whether the check failed, for the reply to a check. -/
def Reply.failed? : Reply → Option Bool
  | checked (.ok ()) => some false
  | checked (.error _) => some true
  | fault _ | done => Option.none

/-- The results of the checks among the requests, `true` for a failure. -/
def failures (f : Faults α) (requests : List Request) : List Bool :=
  (f.answers requests).filterMap Reply.failed?

/-- One rate for every operation, no scenarios, and `n` checks made so far. -/
structure SingleRate (f : Faults α) (rate : α) (seed : UInt64) (n : Nat) : Prop where
  scenarios : f.scenarios = []
  rates : f.rates = [("*", rate)]
  sticky : f.sticky = Option.none
  seed_eq : f.source.seed = seed
  drawn_eq : Random.isOpen rate = true → f.source.drawn = n

theorem rate_of_single (h : f.rates = [("*", rate)]) (operation : String) :
    f.rate operation = rate := by
  rw [Faults.rate, h]
  simp only [List.lookup_cons, List.lookup_nil, beq_self_eq_true]
  cases operation == "*" <;> rfl

theorem singleRate_random (rate : α) (seed : UInt64) : (random rate seed).SingleRate rate seed 0 :=
  ⟨rfl, rfl, rfl, rfl, fun _ => rfl⟩

theorem SingleRate.check (h : f.SingleRate rate seed n) (device operation : String) :
    (Reply.checked (check device operation f).1).failed? = some (Random.failsAt seed n rate) ∧
      (Faults.check device operation f).2.SingleRate rate seed (n + 1) := by
  -- where no check draws, the draws fall behind the checks, but none of the answers needs them
  have hindex : Random.failsAt f.source.seed f.source.drawn rate = Random.failsAt seed n rate := by
    rw [h.seed_eq]
    cases hopen : Random.isOpen rate with
    | true => rw [h.drawn_eq hopen]
    | false => exact Random.failsAt_of_settled hopen seed _ _
  have hrun : Faults.check device operation f =
      (if Random.failsAt seed n rate then .error ⟨device, .random operation⟩ else .ok (),
        { f with source := { f.source with
            drawn := f.source.drawn + (Random.isOpen rate).toNat } }) := by
    simp only [Faults.check, h.sticky, h.scenarios, Scenario.consult, rate_of_single h.rates,
      Random.Source.happens_eq, hindex]
  rw [hrun]
  refine ⟨by cases Random.failsAt seed n rate <;> rfl, h.scenarios, h.rates, h.sticky, h.seed_eq,
    ?_⟩
  intro hopen
  change f.source.drawn + (Random.isOpen rate).toNat = n + 1
  rw [h.drawn_eq hopen, hopen]
  rfl

/-- By induction on the requests. Only checks count, and a reset does not set the draws back. -/
theorem SingleRate.failures (h : f.SingleRate rate seed n) (requests : List Request) :
    f.failures requests = (List.range' n (requests.countP Request.isCheck)).map
      fun index => Random.failsAt seed index rate := by
  induction requests generalizing f n with
  | nil => rfl
  | cons q requests ih =>
    cases q with
    | check device operation =>
      obtain ⟨hanswer, hnext⟩ := h.check device operation
      have hrest := ih hnext
      rw [Faults.failures] at hrest
      rw [Faults.failures, answers, answer, List.filterMap_cons, hanswer,
        List.countP_cons_of_pos rfl, List.range'_succ, List.map_cons]
      exact congrArg _ hrest
    | fault device => exact ih h
    | reset => exact ih ⟨h.scenarios, h.rates, rfl, h.seed_eq, h.drawn_eq⟩

/-! ## The main result -/

/-- **Failures by seed and number.** The `k`-th answer of a list of calls is determined by its rate,
the seed, and the number of calls before it whose rates are `isOpen`. Calls at rates of at most 0 or
at least 1 can be left out or put in without any effect on the others. NaN never fails, and makes a
draw. For two lists of requests with the same number of checks, of any devices and operations and
with resets anywhere: with one seed, a check that fails at the rate `r` fails at every `r' ≥ r`, and
at one rate the same checks fail. -/
theorem failures_by_draw :
    (∀ (s : Random.Source) (rates : List Float) (k : Nat), (s.happensEach rates)[k]? =
      rates[k]?.map (Random.failsAt s.seed (s.drawn + (rates.take k).countP Random.isOpen))) ∧
    (∀ (s : Random.Source) (calls : List (Float × Bool)),
      (∀ c ∈ calls, c.2 = false → c.1 ≤ 0 ∨ 1 ≤ c.1) →
      s.answersTo calls = s.happensEach ((calls.filter Prod.snd).map Prod.fst)) ∧
    (∀ (s : Random.Source) (rate : Float), rate.isNaN = true →
      s.happens rate = (false, { s with drawn := s.drawn + 1 })) ∧
    ∀ (seed : UInt64) (requests requests' : List Request),
      requests.countP Request.isCheck = requests'.countP Request.isCheck →
      (∀ r r' : Float, r ≤ r' → ∀ k : Nat, ((random r seed).failures requests)[k]? = some true →
        ((random r' seed).failures requests')[k]? = some true) ∧
      ∀ r : Float, (random r seed).failures requests = (random r seed).failures requests' := by
  refine ⟨Random.Source.happensEach_getElem?, fun s calls h => ?_,
    fun s rate => Random.happens_nan s, fun seed requests requests' hcount => ⟨?_, ?_⟩⟩
  · refine s.answersTo_eq calls fun c hc hmark => ?_
    rw [Bool.eq_false_iff, ne_eq, Random.isOpen_iff]
    rintro ⟨hlow, hhigh⟩
    exact (h c hc hmark).elim hlow hhigh
  · intro r r' hle k hfails
    rw [(singleRate_random r seed).failures, List.getElem?_map, Option.map_eq_some_iff] at hfails
    rw [(singleRate_random r' seed).failures, ← hcount, List.getElem?_map, Option.map_eq_some_iff]
    obtain ⟨index, hindex, hfails⟩ := hfails
    exact ⟨index, hindex, Random.failsAt_mono hle hfails⟩
  · intro r
    rw [(singleRate_random r seed).failures, (singleRate_random r seed).failures, hcount]

/-- The fourth call answers by the third draw, with or without the calls at the rates 0 and 1. At
0.25 the second check fails, and at 0.75 too, though of another device and after a reset. -/
theorem failures_by_draw_quarter :
    let calls : List (Float × Bool) :=
      [(0.25, true), (2, false), (Scalar.nan, true), (0.25, true), (0, false), (0.25, true)]
    let mine : List Request := [.check "a" "read", .fault "a", .check "a" "start"]
    let yours : List Request := [.check "b" "wait", .reset, .check "c" "wait"]
    (Random.Source.ofSeed 9).answersTo calls =
      (Random.Source.ofSeed 9).happensEach [0.25, Scalar.nan, 0.25, 0.25] ∧
    (Random.Source.ofSeed 9).happensEach [(0.25 : Float), Scalar.nan, 0.25, 0.25] =
      [true, false, false, true] ∧
    (0.25 : Float) ≤ 0.75 ∧ ((random (0.25 : Float) 1).failures mine)[1]? = some true ∧
    ((random (0.75 : Float) 1).failures yours)[1]? = some true := by
  intro calls mine yours
  obtain ⟨-, hkept, -, hgrow⟩ := failures_by_draw
  have hcalls := hkept (.ofSeed 9) calls (by decide)
  have hle : (0.25 : Float) ≤ 0.75 := by decide
  have hfails : ((random (0.25 : Float) 1).failures mine)[1]? = some true := by decide +kernel
  exact ⟨hcalls, by decide +kernel, hle, hfails, (hgrow 1 mine yours rfl).1 _ _ hle 1 hfails⟩

end Faults
end Beamline
