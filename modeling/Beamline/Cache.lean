import Beamline.Clock

/-!
The last reading of a device and when it was taken. A caller says how old a reading may be; a
max age of zero always misses.
-/

namespace Beamline

structure Cache (β : Type) where
  entry : Option (β × Nat)
  deriving DecidableEq, Repr

namespace Cache

variable {β : Type}

def empty : Cache β := ⟨none⟩

def put (x : β) (now : Nat) : Cache β := ⟨some (x, now)⟩

def get? (c : Cache β) (now maxAge : Nat) : Option β :=
  match c.entry with
  | some (x, stamp) => if maxAge ≠ 0 ∧ now - stamp ≤ maxAge then some x else none
  | none => none

theorem get?_fresh (c : Cache β) (now : Nat) : c.get? now fresh = none := by
  unfold get?
  split <;> simp [fresh]

theorem get?_eq_some {c : Cache β} {x : β} {now maxAge : Nat} : c.get? now maxAge = some x ↔
    ∃ stamp, c.entry = some (x, stamp) ∧ maxAge ≠ 0 ∧ now - stamp ≤ maxAge := by
  unfold get?
  constructor
  · intro h
    split at h
    · rename_i y stamp hy
      split at h
      · rename_i hage
        cases h
        exact ⟨stamp, hy, hage⟩
      · cases h
    · cases h
  · rintro ⟨stamp, hx, hage⟩
    simp only [hx, if_pos hage]

theorem entry_of_get? {c : Cache β} {x : β} {now maxAge : Nat} (h : c.get? now maxAge = some x) :
    ∃ stamp, c.entry = some (x, stamp) := by
  obtain ⟨stamp, hx, -⟩ := get?_eq_some.mp h
  exact ⟨stamp, hx⟩

end Cache
end Beamline
