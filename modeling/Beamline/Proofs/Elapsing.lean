import Beamline.Motor
import Beamline.Switch

/-!
`advance` of a motor and of a switch, from one time to a later one. Proved here, for both:

* `advance_advance`: to advance to `now` and then to `later` is to advance to `later`;
* `isMoving_advance`, `positionAt_advance`, `isSwitching_advance`, `currentAt_advance`: advancing to
  `now` does not change what is seen at any time from `now` on.
-/

namespace Beamline

variable {α : Type}

theorem Motion.isDone_of_le {k : Motion α} {t now : Nat} (h : k.isDone t = true) (ht : t ≤ now) :
    k.isDone now = true := by
  obtain ⟨hends, hlong⟩ := isDone_iff.mp h
  exact isDone_iff.mpr ⟨hends, by omega⟩

namespace Motor

variable {m : Motor α} {t now : Nat}

theorem isMoving_of_le (h : m.isMoving t = false) (ht : t ≤ now) : m.isMoving now = false := by
  unfold isMoving at h ⊢
  split
  · rename_i k hk
    simp only [hk, Bool.not_eq_false'] at h
    rw [Motion.isDone_of_le h ht]
    rfl
  · rfl

theorem advance_cases (m : Motor α) (now : Nat) :
    m.advance now = m ∨
      ∃ k, m.motion = some k ∧ k.isDone now = true ∧
        m.advance now = { m with position := k.target, motion := none } := by
  unfold advance
  split
  · rename_i k hk
    split
    · rename_i hdone
      exact .inr ⟨k, hk, hdone, rfl⟩
    · exact .inl rfl
  · exact .inl rfl

theorem isMoving_advance (m : Motor α) (ht : t ≤ now) :
    (m.advance t).isMoving now = m.isMoving now := by
  rcases m.advance_cases t with h | ⟨k, hk, hdone, h⟩
  · rw [h]
  · rw [h]
    simp only [isMoving, hk, Motion.isDone_of_le hdone ht, Bool.not_true]

theorem advance_advance (m : Motor α) (ht : t ≤ now) :
    (m.advance t).advance now = m.advance now := by
  rcases m.advance_cases t with h | ⟨k, hk, hdone, h⟩
  · rw [h]
  · rw [h]
    simp only [advance, hk, Motion.isDone_of_le hdone ht, if_true]

theorem target_advance (m : Motor α) (now : Nat) : (m.advance now).target = m.target := by
  rcases m.advance_cases now with h | ⟨k, -, -, h⟩ <;> rw [h]

theorem positionAt_advance [Scalar α] (m : Motor α) (ht : t ≤ now) :
    (m.advance t).positionAt now = m.positionAt now := by
  rcases m.advance_cases t with h | ⟨k, hk, hdone, h⟩
  · rw [h]
  · have hover : k.positionAt now = k.target := by
      have hlong := (Motion.isDone_iff.mp (Motion.isDone_of_le hdone ht)).2
      unfold Motion.positionAt
      rw [if_pos (by omega)]
    rw [h]
    simp only [positionAt, hk, hover]

end Motor

namespace Switch

variable {s : Switch α} {t now : Nat}

theorem isSwitching_of_le (h : s.isSwitching t = false) (ht : t ≤ now) :
    s.isSwitching now = false := by
  unfold isSwitching at h ⊢
  split
  · rename_i state done hp
    simp only [hp, decide_eq_false_iff_not] at h ⊢
    omega
  · rfl

theorem advance_cases (s : Switch α) (now : Nat) :
    s.advance now = s ∨
      ∃ state done, s.pending = some (state, done) ∧ done ≤ now ∧
        s.advance now = { s with current := some state, pending := none } := by
  unfold advance
  split
  · rename_i state done hp
    split
    · rename_i hdone
      exact .inr ⟨state, done, hp, hdone, rfl⟩
    · exact .inl rfl
  · exact .inl rfl

theorem isSwitching_advance (s : Switch α) (ht : t ≤ now) :
    (s.advance t).isSwitching now = s.isSwitching now := by
  rcases s.advance_cases t with h | ⟨state, done, hp, hdone, h⟩
  · rw [h]
  · have hover : ¬ now < done := by omega
    rw [h]
    simp only [isSwitching, hp, hover, decide_false]

theorem advance_advance (s : Switch α) (ht : t ≤ now) :
    (s.advance t).advance now = s.advance now := by
  rcases s.advance_cases t with h | ⟨state, done, hp, hdone, h⟩
  · rw [h]
  · have hover : done ≤ now := by omega
    rw [h]
    simp only [advance, hp, hover, if_true]

theorem currentAt_advance (s : Switch α) (ht : t ≤ now) :
    (s.advance t).currentAt now = s.currentAt now := by
  unfold currentAt
  rw [advance_advance s ht]

end Switch
end Beamline
