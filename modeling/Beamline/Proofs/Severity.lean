import Beamline.Status
import Mathlib.Data.List.Induction
import Mathlib.Order.Bounds.Basic

/-!
`Status.worst`, for every list of statuses. `peaks l` is the set of indices of `l` whose code no
code of `l` exceeds. Proved here:

* `worst_eq_some_iff`: `worst l = some s` if and only if `s` stands at the least element of
  `peaks l`;
* `worst_eq_none_iff`: `worst l = none` if and only if `l = []`;
* `worst_append`: `worst (l ++ l')` is the `worse` of `worst l` and `worst l'`;
* `code_eq_of_perm`: the code of `worst l` does not depend on the order of `l`;
* `worst_first` puts these together.

The induction is over `l` from its end (`IsWorst.concat`), as `worst` is a left fold of `worse`.
-/

namespace Beamline
namespace Status

variable {a b s t w : Status} {l l' : List Status} {n : Nat}

/-! ## Two statuses -/

theorem worse_of_le (h : b.code.number ≤ a.code.number) : worse a b = a := if_pos h

theorem worse_of_lt (h : a.code.number < b.code.number) : worse a b = b := if_neg (Nat.not_le.mpr h)

theorem worse_assoc (a b c : Status) : worse (worse a b) c = worse a (worse b c) := by
  rcases Nat.lt_or_ge a.code.number b.code.number with hab | hab
  · rw [worse_of_lt hab]
    rcases Nat.lt_or_ge b.code.number c.code.number with hbc | hbc
    · rw [worse_of_lt hbc, worse_of_lt (hab.trans hbc)]
    · rw [worse_of_le hbc, worse_of_lt hab]
  · rw [worse_of_le hab]
    rcases Nat.lt_or_ge b.code.number c.code.number with hbc | hbc
    · rw [worse_of_lt hbc]
    · rw [worse_of_le hbc, worse_of_le hab, worse_of_le (hbc.trans hab)]

instance : Std.Associative worse := ⟨worse_assoc⟩

/-! ## The first of the most severe -/

/-- The indices of `l` whose code is at least every code of `l`. -/
def peaks (l : List Status) : Set Nat :=
  {n | ∃ s, l[n]? = some s ∧ ∀ t ∈ l, t.code.number ≤ s.code.number}

/-- `s` is the element of `l` at the least element of `peaks l`. -/
def IsWorst (l : List Status) (s : Status) : Prop := ∃ n, IsLeast (peaks l) n ∧ l[n]? = some s

theorem IsWorst.exceeds (h : IsWorst l s) : ∀ t ∈ l, t.code.number ≤ s.code.number := by
  obtain ⟨n, ⟨⟨s', hs', hpeak⟩, -⟩, hs⟩ := h
  obtain rfl := Option.some.inj (hs'.symm.trans hs)
  exact hpeak

theorem IsWorst.mem (h : IsWorst l s) : s ∈ l := by
  obtain ⟨n, -, hs⟩ := h
  exact List.mem_of_getElem? hs

theorem IsWorst.unique (hs : IsWorst l s) (ht : IsWorst l t) : s = t := by
  obtain ⟨n, hn, hs⟩ := hs
  obtain ⟨m, hm, ht⟩ := ht
  rw [hn.unique hm, ht] at hs
  exact (Option.some.inj hs).symm

/-- One step of the fold: `worse w t` is `t` only if the code of `t` exceeds that of `w`. -/
theorem IsWorst.concat (h : IsWorst l w) (t : Status) : IsWorst (l ++ [t]) (worse w t) := by
  have hexceeds := h.exceeds
  obtain ⟨n, ⟨-, hleast⟩, hw⟩ := h
  have hn : n < l.length := (List.getElem?_eq_some_iff.mp hw).1
  have hfront : (l ++ [t])[n]? = some w := by rw [List.getElem?_append_left hn, hw]
  have hlast : (l ++ [t])[l.length]? = some t := List.getElem?_concat_length
  rcases Nat.lt_or_ge w.code.number t.code.number with hlt | hle
  · rw [worse_of_lt hlt]
    -- no peak of the list is left, as all of it lies below the new status
    refine ⟨l.length, ⟨⟨t, hlast, ?_⟩, ?_⟩, hlast⟩
    · intro u hu
      rcases List.mem_append.mp hu with hu | hu
      · exact (hexceeds u hu).trans hlt.le
      · rw [List.mem_singleton.mp hu]
    · rintro m ⟨u, hu, hpeak⟩
      by_contra hm
      rw [List.getElem?_append_left (Nat.not_le.mp hm)] at hu
      have htu := hpeak t (List.mem_append_right l List.mem_cons_self)
      have huw := hexceeds u (List.mem_of_getElem? hu)
      omega
  · rw [worse_of_le hle]
    -- the new status may be a peak as well, but it comes last
    refine ⟨n, ⟨⟨w, hfront, ?_⟩, ?_⟩, hfront⟩
    · intro u hu
      rcases List.mem_append.mp hu with hu | hu
      · exact hexceeds u hu
      · rw [List.mem_singleton.mp hu]
        exact hle
    · rintro m ⟨u, hu, hpeak⟩
      rcases Nat.lt_or_ge m l.length with hm | hm
      · rw [List.getElem?_append_left hm] at hu
        exact hleast ⟨u, hu, fun v hv => hpeak v (List.mem_append_left _ hv)⟩
      · exact hn.le.trans hm

theorem isWorst_singleton (s : Status) : IsWorst [s] s :=
  ⟨0, ⟨⟨s, rfl, fun t ht => by rw [List.mem_singleton.mp ht]⟩, fun _ _ => Nat.zero_le _⟩, rfl⟩

theorem isWorst_foldl (s : Status) (rest : List Status) :
    IsWorst (s :: rest) (rest.foldl worse s) := by
  induction rest using List.reverseRecOn with
  | nil => exact isWorst_singleton s
  | append_singleton rest t ih =>
    rw [List.foldl_append, ← List.cons_append]
    exact ih.concat t

theorem worst_eq_some_iff : worst l = some s ↔ IsWorst l s := by
  cases l with
  | nil =>
    refine iff_of_false (by simp [worst]) ?_
    rintro ⟨n, -, hs⟩
    simp at hs
  | cons a rest =>
    have hworst := isWorst_foldl a rest
    rw [worst, Option.some.injEq]
    exact ⟨fun h => h ▸ hworst, hworst.unique⟩

theorem worst_eq_none_iff : worst l = none ↔ l = [] := by
  cases l <;> simp [worst]

/-! ## Concatenations and permutations -/

theorem worst_append (l l' : List Status) :
    worst (l ++ l') = (worst l).merge worse (worst l') := by
  cases l with
  | nil => cases l' <;> rfl
  | cons a l =>
    cases l' with
    | nil => rw [List.append_nil]; rfl
    | cons b l' =>
      simp only [List.cons_append, worst, Option.merge_some_some, List.foldl_append,
        List.foldl_cons, List.foldl_assoc]

/-- On a tie of the codes the result is `a`, from the first list. -/
theorem worst_append_of_some (ha : worst l = some a) (hb : worst l' = some b) :
    worst (l ++ l') = some (if a.code.number < b.code.number then b else a) := by
  rw [worst_append, ha, hb, Option.merge_some_some]
  split
  · next hlt => rw [worse_of_lt hlt]
  · next hle => rw [worse_of_le (Nat.not_lt.mp hle)]

theorem code_eq_of_perm (h : l.Perm l') (hs : IsWorst l s) (ht : IsWorst l' t) :
    s.code = t.code := by
  have hle := ht.exceeds s (h.mem_iff.mp hs.mem)
  have hge := hs.exceeds t (h.mem_iff.mpr ht.mem)
  exact StatusCode.number_injective (Nat.le_antisymm hle hge)

/-- **The first of the most severe.** For every list `l`: `worst l = none` if and only if `l = []`;
`worst l = some s` if and only if `s` is the element at the least element of `peaks l`; the worst of
`l ++ l'` is the worst of the list of `worst l` and `worst l'`, and of two with equal codes it is
that of `l`; and for a permutation of `l` the code of `worst` is the same. -/
theorem worst_first (l : List Status) :
    (worst l = none ↔ l = []) ∧
    (∀ s, worst l = some s ↔ ∃ n, IsLeast (peaks l) n ∧ l[n]? = some s) ∧
    (∀ l', worst (l ++ l') = worst ((worst l).toList ++ (worst l').toList)) ∧
    (∀ l' a b, worst l = some a → worst l' = some b →
      worst (l ++ l') = some (if a.code.number < b.code.number then b else a)) ∧
    ∀ l', l.Perm l' → (worst l).map Status.code = (worst l').map Status.code := by
  refine ⟨worst_eq_none_iff, fun s => worst_eq_some_iff, fun l' => ?_,
    fun l' a b => worst_append_of_some, fun l' hperm => ?_⟩
  · have hsame : ∀ w : Option Status, worst w.toList = w := by
      intro w
      cases w <;> rfl
    rw [worst_append, worst_append, hsame, hsame]
  · cases hs : worst l with
    | none =>
      obtain rfl := worst_eq_none_iff.mp hs
      obtain rfl := hperm.nil_eq
      rfl
    | some s =>
      cases ht : worst l' with
      | none =>
        obtain rfl := worst_eq_none_iff.mp ht
        obtain rfl := hperm.eq_nil
        cases hs
      | some t =>
        exact congrArg some (code_eq_of_perm hperm (worst_eq_some_iff.mp hs)
          (worst_eq_some_iff.mp ht))

/-- Two busy statuses between an idle one and a warning. -/
def underWay : List Status := [.idle, ⟨.busy, "first"⟩, ⟨.busy, "second"⟩, ⟨.warn, "late"⟩]

/-- Reversing `underWay` changes `worst` from the first busy status to the second, with the same
code. -/
theorem worst_first_under_way :
    worst underWay = some ⟨.busy, "first"⟩ ∧ worst underWay.reverse = some ⟨.busy, "second"⟩ ∧
      (∃ n, IsLeast (peaks underWay) n ∧ underWay[n]? = some ⟨.busy, "first"⟩) ∧
      worst (underWay.reverse ++ underWay) = some ⟨.busy, "second"⟩ ∧
      (worst underWay).map Status.code = (worst underWay.reverse).map Status.code := by
  have hfirst : worst underWay = some ⟨.busy, "first"⟩ := by decide
  have hsecond : worst underWay.reverse = some ⟨.busy, "second"⟩ := by decide
  obtain ⟨-, hleads, -, -, hperm⟩ := worst_first underWay
  obtain ⟨-, -, -, happend, -⟩ := worst_first underWay.reverse
  refine ⟨hfirst, hsecond, (hleads _).mp hfirst, ?_, hperm _ (List.reverse_perm _).symm⟩
  exact happend underWay _ _ hsecond hfirst

end Status
end Beamline
