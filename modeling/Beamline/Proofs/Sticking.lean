import Beamline.Proofs.Counting

/-!
Faults that stick: a lost connection, and a hardware fault. Proved here:

* `Scenario.consult_stick_iff`: a check makes `s` stick if and only if it `Reaches` an entry for
  `s`, all entries in front of it having let the check pass;
* `check_struck`: the check that does so fails with the fault and makes no draw;
* `sticky_after`: after any list of requests `s` sticks if and only if a check since the last reset
  has made it stick (`StruckBy`);
* `after_of_sticky`: while a fault sticks, no request but a reset changes anything;
* `answers_undrawn`, `undrawn_reset`: without rates, the answers after a reset are those of faults
  newly made from the same scenarios;
* `sticking_exact` puts these together.
-/

namespace Beamline

/-! ## Going through the scenarios -/

namespace Scenario

variable {operation : String} {counts : Counts} {entry : Scenario} {earlier later : List Scenario}
  {s : StickyFault}

/-- The fault that an entry makes stick. -/
def lasting? : Scenario → Option StickyFault
  | communicationLoss => some .communicationLost
  | hardwareFault code => some (.hardware code)
  | _ => none

/-- The scenarios have an entry for `s` such that `consult` passes the entries in front of it. -/
def Reaches (operation : String) (scenarios : List Scenario) (counts : Counts)
    (s : StickyFault) : Prop :=
  ∃ earlier entry later, scenarios = earlier ++ entry :: later ∧
    (consult operation earlier counts).1 = .pass ∧ entry.lasting? = some s

theorem consult_append (operation : String) (earlier later : List Scenario) (counts : Counts) :
    consult operation (earlier ++ later) counts =
      match consult operation earlier counts with
      | (.pass, counts') => consult operation later counts'
      | decided => decided := by
  fun_induction consult operation earlier counts with
  | case1 counts => rfl
  | case2 count rest counts counts' hle ih =>
    rw [List.cons_append, consult, if_pos rfl]
    exact (if_pos hle).trans ih
  | case3 count rest counts counts' hgt =>
    rw [List.cons_append, consult, if_pos rfl]
    exact if_neg hgt
  | case4 op count rest counts hop ih =>
    rw [List.cons_append, consult, if_neg hop]
    exact ih
  | case5 rest counts => rw [List.cons_append, consult, if_pos rfl]
  | case6 op rest counts hop ih =>
    rw [List.cons_append, consult, if_neg hop]
    exact ih
  | case7 rest counts => rfl
  | case8 code rest counts => rfl

theorem consult_lasting (h : entry.lasting? = some s) (later : List Scenario) (counts : Counts) :
    consult operation (entry :: later) counts = (.stick s, counts) := by
  cases entry with
  | failAfter op count => cases h
  | timeout op => cases h
  | communicationLoss => cases h; rfl
  | hardwareFault code => cases h; rfl

theorem lasting_of_consult (h : (consult operation [entry] counts).1 = .stick s) :
    entry.lasting? = some s := by
  cases entry with
  | failAfter op count =>
    simp only [consult] at h
    split at h
    · split at h <;> cases h
    · cases h
  | timeout op =>
    simp only [consult] at h
    split at h <;> cases h
  | communicationLoss => cases h; rfl
  | hardwareFault code => cases h; rfl

theorem consult_stick_iff (operation : String) (scenarios : List Scenario) (counts : Counts)
    (s : StickyFault) :
    (consult operation scenarios counts).1 = .stick s ↔ Reaches operation scenarios counts s := by
  constructor
  · intro h
    induction scenarios generalizing counts with
    | nil => cases h
    | cons entry rest ih =>
      have hsplit := consult_append operation [entry] rest counts
      rw [List.singleton_append] at hsplit
      rcases hfirst : consult operation [entry] counts with ⟨verdict, counts'⟩
      rw [hfirst] at hsplit
      cases verdict with
      | pass =>
        rw [hsplit] at h
        obtain ⟨earlier, found, later, rfl, hpass, hlasting⟩ := ih counts' h
        refine ⟨entry :: earlier, found, later, rfl, ?_, hlasting⟩
        have hboth := consult_append operation [entry] earlier counts
        rw [hfirst, List.singleton_append] at hboth
        rw [hboth]
        exact hpass
      | once fault =>
        rw [hsplit] at h
        cases h
      | stick s' =>
        rw [hsplit] at h
        cases h
        exact ⟨[], entry, rest, rfl, rfl, lasting_of_consult (congrArg Prod.fst hfirst)⟩
  · rintro ⟨earlier, entry, later, rfl, hpass, hlasting⟩
    rw [consult_append]
    rcases hearlier : consult operation earlier counts with ⟨verdict, counts'⟩
    rw [hearlier] at hpass
    cases hpass
    exact congrArg Prod.fst (consult_lasting hlasting later counts')

end Scenario

namespace Faults

variable {α : Type} [Scalar α] {f : Faults α} {q : Request} {past rest : List Request}
  {device operation : String} {s : StickyFault}

/-! ## One request -/

/-- Nothing sticks yet, and `q` is a check that `Reaches` an entry for `s`. -/
def Strikes (f : Faults α) (q : Request) (s : StickyFault) : Prop :=
  ∃ device operation, q = .check device operation ∧ f.sticky = Option.none ∧
    Scenario.Reaches operation f.scenarios f.counts s

omit [Scalar α] in
theorem strikes_check_iff : f.Strikes (.check device operation) s ↔
    f.sticky = Option.none ∧ Scenario.Reaches operation f.scenarios f.counts s := by
  constructor
  · rintro ⟨_, _, ⟨⟩, h⟩
    exact h
  · intro h
    exact ⟨device, operation, rfl, h⟩

theorem check_struck (h : f.Strikes (.check device operation) s) :
    ∃ counts, check device operation f =
      (.error ⟨device, s.fault⟩, { f with counts, sticky := some s }) := by
  obtain ⟨hsticky, hreaches⟩ := strikes_check_iff.mp h
  have hstick := (Scenario.consult_stick_iff operation f.scenarios f.counts s).mpr hreaches
  rcases hconsult : Scenario.consult operation f.scenarios f.counts with ⟨verdict, counts⟩
  rw [hconsult] at hstick
  cases hstick
  exact ⟨counts, by simp only [check, hsticky, hconsult]⟩

theorem sticky_check (h : ∀ s, ¬ f.Strikes (.check device operation) s) :
    (check device operation f).2.sticky = f.sticky := by
  cases hsticky : f.sticky with
  | some s => rw [check_of_sticky hsticky, hsticky]
  | none =>
    have hpass : ∀ s, (Scenario.consult operation f.scenarios f.counts).1 ≠ .stick s := by
      intro s hstick
      exact h s (strikes_check_iff.mpr
        ⟨hsticky, (Scenario.consult_stick_iff operation f.scenarios f.counts s).mp hstick⟩)
    rcases hconsult : Scenario.consult operation f.scenarios f.counts with ⟨verdict, counts⟩
    rw [hconsult] at hpass
    cases verdict with
    | pass => simp only [check, hsticky, hconsult]
    | once fault => simp only [check, hsticky, hconsult]
    | stick s => exact absurd rfl (hpass s)

theorem serve_of_sticky (h : f.sticky = some s) (hq : q.isReset = false) : f.serve q = f := by
  cases q with
  | check device operation => exact congrArg Prod.snd (check_of_sticky h device operation)
  | fault device => rfl
  | reset => cases hq

theorem sticky_serve (f : Faults α) (q : Request) (s : StickyFault) :
    (f.serve q).sticky = some s ↔ q.isReset = false ∧ f.sticky = some s ∨ f.Strikes q s := by
  cases q with
  | reset => simp [serve, reset, Request.isReset, Strikes]
  | fault device => simp [serve, Request.isReset, Strikes]
  | check device operation =>
    by_cases h : ∃ s', f.Strikes (.check device operation) s'
    · obtain ⟨s', hs'⟩ := h
      obtain ⟨counts, hrun⟩ := check_struck hs'
      have hsticky := (strikes_check_iff.mp hs').1
      rw [serve, hrun]
      constructor
      · intro h
        cases h
        exact .inr hs'
      · rintro (⟨-, h⟩ | h)
        · cases hsticky.symm.trans h
        · obtain ⟨counts', hrun'⟩ := check_struck h
          exact congrArg (fun r => r.2.sticky) (hrun.symm.trans hrun')
    · have hnone : ∀ s', ¬ f.Strikes (.check device operation) s' := fun s' hs' => h ⟨s', hs'⟩
      rw [serve, sticky_check hnone]
      exact ⟨fun h => .inl ⟨rfl, h⟩, fun h => (h.resolve_right (hnone s)).2⟩

/-! ## Runs -/

/-- A request since the last reset of `past` made `s` stick. -/
def StruckBy (f : Faults α) (past : List Request) (s : StickyFault) : Prop :=
  ∃ before q rest, past = before ++ q :: rest ∧ (∀ r ∈ rest, r.isReset = false) ∧
    (f.after before).Strikes q s

theorem struckBy_concat : f.StruckBy (past ++ [q]) s ↔
    q.isReset = false ∧ f.StruckBy past s ∨ (f.after past).Strikes q s := by
  constructor
  · rintro ⟨before, q', rest, hsplit, hrest, hstrikes⟩
    rcases List.eq_nil_or_concat rest with rfl | ⟨rest, last, rfl⟩
    · obtain ⟨rfl, hq⟩ := List.append_inj' hsplit rfl
      cases hq
      exact .inr hstrikes
    · rw [List.concat_eq_append, ← List.cons_append, ← List.append_assoc] at hsplit
      obtain ⟨rfl, hq⟩ := List.append_inj' hsplit rfl
      cases hq
      rw [List.concat_eq_append] at hrest
      refine .inl ⟨hrest q (by simp), before, q', rest, rfl, fun r hr => ?_, hstrikes⟩
      exact hrest r (List.mem_append_left _ hr)
  · rintro (⟨hq, before, q', rest, rfl, hrest, hstrikes⟩ | hstrikes)
    · refine ⟨before, q', rest ++ [q], by simp, ?_, hstrikes⟩
      intro r hr
      rcases List.mem_append.mp hr with hr | hr
      · exact hrest r hr
      · rw [List.mem_singleton.mp hr]
        exact hq
    · exact ⟨past, q, [], rfl, List.forall_mem_nil _, hstrikes⟩

/-- By induction on `past` from its end, with `sticky_serve` for the last request. -/
theorem sticky_after (h : f.sticky = Option.none) (past : List Request) (s : StickyFault) :
    (f.after past).sticky = some s ↔ f.StruckBy past s := by
  induction past using List.reverseRecOn with
  | nil =>
    refine iff_of_false ?_ ?_
    · rw [show f.after [] = f from rfl, h]
      simp
    · rintro ⟨before, q, rest, hsplit, -⟩
      simp at hsplit
  | append_singleton past q ih => rw [after_concat, sticky_serve, struckBy_concat, ih]

theorem after_of_sticky (h : f.sticky = some s) (hrest : ∀ r ∈ rest, r.isReset = false) :
    f.after rest = f := by
  induction rest with
  | nil => rfl
  | cons r rest ih =>
    obtain ⟨hr, hrest⟩ := List.forall_mem_cons.mp hrest
    have hstep := serve_of_sticky h hr
    rw [after, List.foldl_cons, hstep]
    exact ih hrest

theorem settings_after (f : Faults α) (past : List Request) :
    (f.after past).rates = f.rates ∧ (f.after past).scenarios = f.scenarios := by
  induction past using List.reverseRecOn with
  | nil => exact ⟨rfl, rfl⟩
  | append_singleton past q ih =>
    have hserve : ((f.after past).serve q).rates = (f.after past).rates ∧
        ((f.after past).serve q).scenarios = (f.after past).scenarios := by
      cases q with
      | reset => exact ⟨rfl, rfl⟩
      | fault device => exact ⟨rfl, rfl⟩
      | check device operation =>
        simp only [serve, check]
        split
        · exact ⟨rfl, rfl⟩
        · split <;> exact ⟨rfl, rfl⟩
    rw [after_concat]
    exact ⟨hserve.1.trans ih.1, hserve.2.trans ih.2⟩

/-! ## Answers -/

inductive Reply where
  | checked (r : Except DriverError Unit)
  | fault (e : Option DriverError)
  | done

def answer (f : Faults α) : Request → Reply
  | .check device operation => .checked (check device operation f).1
  | .fault device => .fault (f.fault device)
  | .reset => .done

def answers (f : Faults α) : List Request → List Reply
  | [] => []
  | q :: rest => f.answer q :: (f.serve q).answers rest

/-! ## Without rates -/

/-- The faults with a fresh source, so that two of them can be compared up to their draws. -/
def undrawn (f : Faults α) : Faults α := { f with source := .ofSeed 0 }

theorem check_undrawn {f : Faults Float} (h : f.rates = []) (device operation : String) :
    check device operation f.undrawn =
      ((check device operation f).1, (check device operation f).2.undrawn) := by
  have hrate := rate_of_nil h operation
  have hrate' : f.undrawn.rate operation ≤ 0 := hrate
  simp only [check]
  rw [show f.undrawn.sticky = f.sticky from rfl,
    show f.undrawn.scenarios = f.scenarios from rfl, show f.undrawn.counts = f.counts from rfl]
  cases f.sticky with
  | some s => rfl
  | none =>
    rcases Scenario.consult operation f.scenarios f.counts with ⟨verdict, counts⟩
    cases verdict with
    | once fault => rfl
    | stick s => rfl
    | pass =>
      dsimp only
      rw [Random.Source.happens_never _ hrate, Random.Source.happens_never _ hrate']
      rfl

theorem answers_undrawn {f : Faults Float} (h : f.rates = []) (later : List Request) :
    f.undrawn.answers later = f.answers later := by
  induction later generalizing f with
  | nil => rfl
  | cons q later ih =>
    have hrates : (f.serve q).rates = [] := (settings_after f [q]).1.trans h
    have hstep : f.undrawn.answer q = f.answer q ∧ f.undrawn.serve q = (f.serve q).undrawn := by
      cases q with
      | check device operation =>
        simp only [answer, serve, check_undrawn h]
        exact ⟨trivial, trivial⟩
      | fault device => exact ⟨rfl, rfl⟩
      | reset => exact ⟨rfl, rfl⟩
    rw [answers, answers, hstep.1, hstep.2, ih hrates]

omit [Scalar α] in
theorem undrawn_reset {f : Faults α} (h : f.rates = []) (seed : UInt64) :
    f.reset.undrawn = (make [] f.scenarios seed : Faults α).undrawn := by
  simp only [reset, undrawn, make, h]

omit [Scalar α] in
theorem fault_eq_some_iff {f : Faults α} {device : String} {s : StickyFault} :
    f.fault device = some ⟨device, s.fault⟩ ↔ f.sticky = some s := by
  have hinj : ∀ t : StickyFault, t.fault = s.fault → t = s := by
    intro t ht
    cases t <;> cases s <;> cases ht <;> rfl
  simp only [fault, Option.map_eq_some_iff, DriverError.mk.injEq, true_and]
  constructor
  · rintro ⟨t, hsticky, ht⟩
    rw [hsticky, hinj t ht]
  · intro h
    exact ⟨s, h, rfl⟩

/-! ## The main result -/

/-- **Faults that stick.** For every list of rates and of scenarios, every seed and every list of
requests: `fault` is some fault if and only if a check since the last reset has made one stick
(`StruckBy`), and it is that one, with the name of the device that is asked. That check fails with
the fault and makes no draw. Every later request but a reset leaves the faults unchanged, and every
check fails with the fault. Without rates the answers after a reset are those of newly made faults,
whatever the seed. -/
theorem sticking_exact (rates : List (String × Float)) (scenarios : List Scenario) (seed : UInt64)
    (past : List Request) :
    let faults : Faults Float := make rates scenarios seed
    (∀ device, ((faults.after past).fault device).isSome = true ↔
      ∃ s, faults.StruckBy past s) ∧
    (∀ device s, (faults.after past).fault device = some ⟨device, s.fault⟩ ↔
      faults.StruckBy past s) ∧
    (∀ device operation s, (faults.after past).Strikes (.check device operation) s →
      let struck := faults.after (past ++ [.check device operation])
      (check device operation (faults.after past)).1 = .error ⟨device, s.fault⟩ ∧
      struck.source = (faults.after past).source ∧
      ∀ rest, (∀ r ∈ rest, r.isReset = false) →
        faults.after (past ++ .check device operation :: rest) = struck ∧
        ∀ asked other, struck.fault asked = some ⟨asked, s.fault⟩ ∧
          check asked other struck = (.error ⟨asked, s.fault⟩, struck)) ∧
    (rates = [] → ∀ seed' later, (faults.after (past ++ [.reset])).answers later =
      (make [] scenarios seed' : Faults Float).answers later) := by
  intro faults
  have hsticky : ∀ s, (faults.after past).sticky = some s ↔ faults.StruckBy past s :=
    sticky_after rfl past
  refine ⟨fun device => ?_, fun device s => fault_eq_some_iff.trans (hsticky s), ?_, ?_⟩
  · rw [fault, Option.isSome_map, Option.isSome_iff_exists]
    exact exists_congr hsticky
  · intro device operation s hstrikes struck
    obtain ⟨counts, hrun⟩ := check_struck hstrikes
    have hstruck : struck = { faults.after past with counts, sticky := some s } :=
      (after_concat faults past _).trans (congrArg Prod.snd hrun)
    have hs : struck.sticky = some s := by rw [hstruck]
    refine ⟨congrArg Prod.fst hrun, by rw [hstruck], fun rest hrest => ⟨?_, ?_⟩⟩
    · have hsplit : faults.after (past ++ .check device operation :: rest) = struck.after rest := by
        rw [List.append_cons]
        exact List.foldl_append
      rw [hsplit, after_of_sticky hs hrest]
    · intro asked other
      exact ⟨fault_eq_some_iff.mpr hs, check_of_sticky hs asked other⟩
  · rintro rfl seed' later
    obtain ⟨hrates, hscenarios⟩ := settings_after faults past
    have hreset := undrawn_reset hrates seed'
    rw [hscenarios] at hreset
    rw [after_concat, serve, ← answers_undrawn (f := (faults.after past).reset) hrates, hreset]
    exact answers_undrawn rfl later

/-- A timeout of waits in front of a lost connection. -/
def flaky : List Scenario := [.timeout "wait", .communicationLoss]

/-- The check of a wait does not reach the lost connection; that of a reading does. -/
theorem sticking_exact_flaky :
    let faults : Faults Float := make [("*", 0.5)] flaky 7
    let past : List Request := [.check "a" "wait", .fault "a"]
    (faults.after past).fault "a" = Option.none ∧
      (faults.after past).Strikes (.check "a" "read") .communicationLost ∧
      (check "b" "wait" (faults.after (past ++ [.check "a" "read", .fault "b"]))).1 =
        .error ⟨"b", .communicationLost⟩ ∧
      ((make [] flaky 7 : Faults Float).after (past ++ [.check "a" "read", .reset])).answers past =
        (make [] flaky 8 : Faults Float).answers past := by
  intro faults past
  have hstrikes : (faults.after past).Strikes (.check "a" "read") .communicationLost :=
    strikes_check_iff.mpr ⟨rfl, [.timeout "wait"], .communicationLoss, [], rfl, rfl, rfl⟩
  obtain ⟨-, -, hstruck, -⟩ := sticking_exact [("*", 0.5)] flaky 7 past
  obtain ⟨-, -, hrest⟩ := hstruck "a" "read" .communicationLost hstrikes
  obtain ⟨hsame, hfails⟩ := hrest [.fault "b"] (by simp [Request.isReset])
  obtain ⟨-, -, -, hreset⟩ := sticking_exact [] flaky 7 (past ++ [.check "a" "read"])
  refine ⟨rfl, hstrikes, ?_, hreset rfl 8 past⟩
  rw [hsame]
  exact congrArg Prod.fst (hfails "b" "wait").2

end Faults
end Beamline
