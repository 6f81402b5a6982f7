import Beamline.Powers

/-!
Time in nanoseconds, and a clock that only goes forward. Some time may pass before each look at the
clock, and a nap may last longer than asked for; a `Pace` lists these delays. `await` polls: it looks
at the clock once for `busy`, and once more for the deadline. Proved here:

* `await_idle`: `busy` is false at the end of an `await` with the result `true`;
* `await_late`: with the result `false` it was true one look before, and the deadline has come;
* `now_le_await`: the clock does not go back.
-/

namespace Beamline

def ofMs (n : Nat) : Nat := n * 1000000

/-- A max age that no cached reading meets. -/
def fresh : Nat := 0

/-- The length of a nap between two polls. -/
def pollInterval : Nat := ofMs 20

/-- 2 ^ 64 seconds, the least number of nanoseconds that is not a duration. -/
def durationEnd : Nat := twoTo 64 * tenTo 9

structure Pace where
  /-- The delay before look `n` at the clock. -/
  look : Nat → Nat
  /-- The delay after nap `n`. -/
  nap : Nat → Nat

/-- No delays at all. -/
def Pace.prompt : Pace := ⟨fun _ => 0, fun _ => 0⟩

structure Clock where
  now : Nat
  /-- Count of the looks so far. -/
  beats : Nat
  /-- Count of the naps so far. -/
  naps : Nat
  deriving DecidableEq, Repr

namespace Clock

def start : Clock := ⟨0, 0, 0⟩

/-- `span` goes by before the next look at the clock. -/
def pass (pace : Pace) (span : Nat) (c : Clock) : Clock :=
  { c with now := c.now + span + pace.look c.beats, beats := c.beats + 1 }

/-- Look at the clock again. -/
def look (pace : Pace) (c : Clock) : Clock := c.pass pace 0

def nap (pace : Pace) (c : Clock) : Clock :=
  { c with now := c.now + pollInterval + pace.nap c.naps, naps := c.naps + 1 }

/-- Nap until `busy` is false, which gives `true`, or until `busy` is true and the next look finds the
clock at the deadline, which gives `false`. -/
def await (pace : Pace) (busy : Nat → Bool) (deadline : Nat) (c : Clock) : Bool × Clock :=
  if busy c.now then
    if deadline ≤ (c.look pace).now then (false, c.look pace)
    else await pace busy deadline ((c.look pace).nap pace)
  else (true, c)
termination_by deadline - c.now
decreasing_by
  simp only [look, nap, pass, pollInterval, ofMs] at *
  omega

theorem now_le_pass (pace : Pace) (span : Nat) (c : Clock) :
    c.now ≤ (c.pass pace span).now := by
  simp only [pass]
  omega

theorem now_le_look (pace : Pace) (c : Clock) : c.now ≤ (c.look pace).now := now_le_pass pace 0 c

theorem now_le_nap (pace : Pace) (c : Clock) : c.now ≤ (c.nap pace).now := by
  simp only [nap]
  omega

theorem await_idle {pace : Pace} {busy : Nat → Bool} {deadline : Nat} {c : Clock}
    (h : (c.await pace busy deadline).1 = true) :
    busy (c.await pace busy deadline).2.now = false := by
  fun_induction await pace busy deadline c with
  | case1 => cases h
  | case2 c _ _ ih => exact ih h
  | case3 c hbusy => simpa using hbusy

theorem await_late {pace : Pace} {busy : Nat → Bool} {deadline : Nat} {c : Clock}
    (h : (c.await pace busy deadline).1 = false) :
    ∃ seen : Clock, c.now ≤ seen.now ∧ busy seen.now = true ∧ deadline ≤ (seen.look pace).now ∧
      (c.await pace busy deadline).2 = seen.look pace := by
  fun_induction await pace busy deadline c with
  | case1 c hbusy hdeadline => exact ⟨c, Nat.le_refl _, hbusy, hdeadline, rfl⟩
  | case2 c hbusy hdeadline ih =>
    obtain ⟨seen, hseen, hrest⟩ := ih h
    have hnext := Nat.le_trans (now_le_look pace c) (now_le_nap pace (c.look pace))
    exact ⟨seen, Nat.le_trans hnext hseen, hrest⟩
  | case3 c hbusy => cases h

theorem now_le_await (pace : Pace) (busy : Nat → Bool) (deadline : Nat) (c : Clock) :
    c.now ≤ (c.await pace busy deadline).2.now := by
  fun_induction await pace busy deadline c with
  | case1 c => exact now_le_look pace c
  | case2 c _ _ ih =>
    exact Nat.le_trans (Nat.le_trans (now_le_look pace c) (now_le_nap pace _)) ih
  | case3 => exact Nat.le_refl _

end Clock
end Beamline
