import Beamline.Action
import Beamline.Error
import Beamline.Event
import Beamline.Status

/-!
What can be asked of devices by someone who holds handles `ι` to them, in a world `σ` where the
devices live. A composite knows its attached devices in this way only, so whatever answers these
questions can be attached to it. `waitAll` and `stopAll` reach every device even if some fail.
-/

namespace Beamline

structure Controls (ι σ α : Type) where
  name : σ → ι → String
  /-- Text of a value of the device, for messages. -/
  format : σ → ι → Value α → String
  /-- Whether a target would be accepted by `start`. -/
  isAllowed : σ → ι → Value α → Except (DeviceError α) Unit
  /-- The value of the device, from a reading no older than a max age. -/
  read : ι → Nat → Action σ (DeviceError α) (Value α)
  /-- Set off for a target; the answer does not wait for the arrival. -/
  start : ι → Value α → Action σ (DeviceError α) Unit
  stop : ι → Action σ (DeviceError α) Unit
  /-- Come back when the device is no longer busy. -/
  wait : ι → Action σ (DeviceError α) Unit
  status : ι → Nat → σ → Status × σ
  note : Event → σ → σ

namespace Controls

variable {ι σ α : Type}

def say {ε : Type} (k : Controls ι σ α) (level : Level) (device text : String) : Action σ ε Unit :=
  Action.change (k.note ⟨level, some device, text⟩)

/-- The first status that is not OK, or else idle. Devices behind it are not asked. -/
def aggregateStatus (k : Controls ι σ α) (maxAge : Nat) : List ι → σ → Status × σ
  | [], s => (.idle, s)
  | d :: ds, s =>
    let (status, s) := k.status d maxAge s
    if status.isOk then k.aggregateStatus maxAge ds s
    else (status, k.note ⟨.debug, some (k.name s d), "status " ++ status.text⟩ s)

/-- Of two outcomes, the first that is an error. -/
def firstError {ε : Type} : Except ε Unit → Except ε Unit → Except ε Unit
  | .error e, _ => .error e
  | .ok (), r => r

/-- Wait for every device, and then answer with the first error. -/
def waitAll (k : Controls ι σ α) : List ι → Action σ (DeviceError α) Unit
  | [], s => (.ok (), s)
  | d :: ds, s =>
    let (first, s) := k.wait d (k.note ⟨.debug, some (k.name s d), "waiting"⟩ s)
    let (rest, s) := k.waitAll ds s
    (firstError first rest, s)

/-- A wait for several devices succeeds only if each wait does. -/
theorem waitAll_cons_ok {k : Controls ι σ α} {d : ι} {ds : List ι} {s s'' : σ}
    (h : k.waitAll (d :: ds) s = (.ok (), s'')) :
    ∃ e s', k.wait d (k.note e s) = (.ok (), s') ∧ k.waitAll ds s' = (.ok (), s'') := by
  let e : Event := ⟨.debug, some (k.name s d), "waiting"⟩
  unfold waitAll at h
  rcases hfirst : k.wait d (k.note e s) with ⟨first, s'⟩
  rcases hrest : k.waitAll ds s' with ⟨rest, t⟩
  simp only [e, hfirst, hrest] at h
  obtain ⟨hok, rfl⟩ := Prod.mk.inj h
  cases first with
  | error e => cases hok
  | ok u =>
    cases rest with
    | error e => cases hok
    | ok u => exact ⟨e, s', hfirst, hrest⟩

/-- Stop every device, even if some fail, and then answer with the first error. -/
def stopAll [Scalar α] (k : Controls ι σ α) : List ι → Action σ (DeviceError α) Unit
  | [], s => (.ok (), s)
  | d :: ds, s =>
    let (first, s) := k.stop d s
    let s := match first with
      | .error e => k.note ⟨.warn, some (k.name s d), "stop failed: " ++ e.message⟩ s
      | .ok () => s
    let (rest, s) := k.stopAll ds s
    (firstError first rest, s)

end Controls
end Beamline
