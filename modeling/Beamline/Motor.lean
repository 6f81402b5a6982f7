import Beamline.Cache
import Beamline.CallLog
import Beamline.Faults
import Beamline.Simulated
import Beamline.Status

/-!
A simulated axis. It travels to its target at a constant speed and then settles; until both are
over it is busy. Readings are cached and served as long as the caller's max age allows, and
whatever moves the axis or stops it empties the cache. Each operation but `status` may first fail
by injection, and then does nothing else.

The sum of travel and settling may not be a duration (`Motion.isEndless`). Such a move is never done,
and both `wait` and `seen`, a look at the axis from outside, panic during it (`endlessTravel`). The
other operations are modelled for moves that are not endless.
-/

namespace Beamline

/-- A move under way: after `travel` the axis is at `target`, after `settling` more it is done. -/
structure Motion (α : Type) where
  origin : α
  target : α
  started : Nat
  travel : Nat
  settling : Nat
  deriving DecidableEq, Repr

namespace Motion

variable {α : Type}

/-- `travel + settling` is not a duration. -/
def isEndless (k : Motion α) : Bool := durationEnd ≤ k.travel + k.settling

def isDone (k : Motion α) (now : Nat) : Bool :=
  !k.isEndless && decide (k.travel + k.settling ≤ now - k.started)

theorem isDone_iff {k : Motion α} {now : Nat} : k.isDone now = true ↔
    k.isEndless = false ∧ k.travel + k.settling ≤ now - k.started := by
  simp [isDone]

def positionAt [Scalar α] (k : Motion α) (now : Nat) : α :=
  let elapsed := now - k.started
  if k.travel ≤ elapsed then k.target
  else
    let part : α := Scalar.seconds elapsed / Scalar.seconds k.travel
    k.origin + (k.target - k.origin) * part

end Motion

structure Motor (α : Type) where
  name : String
  unit : String
  limits : Option (Limits α)
  /-- Units in a second. -/
  speed : α
  pacing : Pacing
  timing : Timing
  faults : Faults α
  position : α
  target : Option α
  motion : Option (Motion α)
  cache : Cache α
  hardwareReads : Nat

namespace Motor

variable {α : Type} [Scalar α]

/-- An instant motor at zero, without limits. -/
def make (name : String) : Motor α where
  name
  unit := "mm"
  limits := none
  speed := 5
  pacing := .instant
  timing := .motor
  faults := .none
  position := 0
  target := none
  motion := none
  cache := .empty
  hardwareReads := 0

def isEndless (m : Motor α) : Bool := m.motion.any Motion.isEndless

def isMoving (m : Motor α) (now : Nat) : Bool :=
  match m.motion with
  | some k => !k.isDone now
  | none => false

def positionAt (m : Motor α) (now : Nat) : α :=
  match m.motion with
  | some k => k.positionAt now
  | none => m.position

/-- Take note of a move that is over. -/
def advance (m : Motor α) (now : Nat) : Motor α :=
  match m.motion with
  | some k => if k.isDone now then { m with position := k.target, motion := none } else m
  | none => m

/-- What `look` shows of the axis from outside, which panics during an endless move. -/
def seen {β : Type} (look : Motor α → Nat → β) (m : Motor α) (now : Nat) :
    Except (DeviceError α) β :=
  if m.isEndless then .error (.endlessTravel m.name) else .ok (look m now)

/-- Put the axis somewhere by hand. -/
def place (m : Motor α) (position : α) : Motor α :=
  { m with position, motion := none, cache := .empty }

/-- A finite position inside of the limits. -/
def checkedTarget (m : Motor α) (target : Value α) : Except (DeviceError α) α :=
  match target with
  | .scalar x =>
    if Scalar.isFinite x then
      match m.limits with
      | some l => (l.check m.name x).map fun _ => x
      | none => .ok x
    else .error (.invalidValue m.name (.notAPosition target))
  | _ => .error (.invalidValue m.name (.notAPosition target))

def isAllowed (m : Motor α) (target : Value α) : Except (DeviceError α) Unit :=
  (m.checkedTarget target).map fun _ => ()

def travelTime (m : Motor α) (distance : α) : Option Nat :=
  match m.pacing with
  | .instant => some 0
  | .realistic => Scalar.nanoseconds? (Scalar.abs distance / m.speed)

def settlingTime (m : Motor α) : Nat :=
  match m.pacing with
  | .instant => 0
  | .realistic => m.timing.settling

/-- Fail here if `operation` is to fail by injection. -/
def guard (operation : Operation) : Action (Motor α) (DeviceError α) Unit := fun m =>
  match Faults.check m.name operation.name m.faults with
  | (.ok (), faults) => (.ok (), { m with faults })
  | (.error e, faults) => (.error (.driver e), { m with faults })

/-- A cached reading that is not too old, or the position now. -/
def read (now maxAge : Nat) : Action (Motor α) (DeviceError α) (Value α) := do
  guard .read
  let m ← Action.look
  match m.cache.get? now maxAge with
  | some x => pure (.scalar x)
  | none =>
    let x := m.positionAt now
    Action.change fun m =>
      { m.advance now with cache := .put x now, hardwareReads := m.hardwareReads + 1 }
    pure (.scalar x)

/-- Start for an accepted `target`, and answer from where. A travel time out of range leaves the
target stored and all else as it was. -/
def depart (now : Nat) (target : α) : Action (Motor α) (DeviceError α) α := fun m =>
  let origin := m.positionAt now
  let m := { m.advance now with target := some target }
  match m.travelTime (target - origin) with
  | none => (.error (.endlessTravel m.name), m)
  | some travel =>
    let settling := m.settlingTime
    let m := { m with cache := .empty }
    if travel = 0 ∧ settling = 0 then
      (.ok origin, { m with position := target, motion := none })
    else (.ok origin, { m with motion := some ⟨origin, target, now, travel, settling⟩ })

def start (now : Nat) (target : Value α) : Action (Motor α) (DeviceError α) α := do
  guard .start
  let m ← Action.look
  let x ← Action.settle (m.checkedTarget target)
  depart now x

/-- Freeze the axis where it is, and answer where if it was moving. -/
def stop (now : Nat) : Action (Motor α) (DeviceError α) (Option α) := do
  guard .stop
  let m ← Action.look
  let x := m.positionAt now
  let moving := m.isMoving now
  Action.change fun m => { m with position := x, motion := none, cache := .empty }
  pure (if moving then some x else none)

/-- The end of a wait, by the result of `await`. -/
def afterWait (m : Motor α) : Bool × Clock → Except (DeviceError α) Unit × Motor α × Clock
  | (true, clock) => (.ok (), m.advance clock.now, clock)
  | (false, clock) =>
    (.error (.driver ⟨m.name, .stillMoving m.timing.waitTimeoutMs⟩), m, clock)

/-- Wait until the axis is done, no longer than its timeout. The clock is looked at for the deadline
first. -/
def wait (pace : Pace) : Action (Motor α × Clock) (DeviceError α) Unit := fun (m, clock) =>
  match guard .wait m with
  | (.error e, m) => (.error e, m, clock)
  | (.ok (), m) =>
    if m.isEndless then (.error (.endlessTravel m.name), m, clock)
    else m.afterWait
      ((clock.look pace).await pace m.isMoving (clock.now + m.timing.waitTimeout))

/-- A fault that sticks is reported, and never an error. -/
def status (m : Motor α) (now : Nat) : Status :=
  match m.faults.fault m.name with
  | some e => ⟨.error, e.fault.message⟩
  | none =>
    match m.isMoving now, m.target with
    | true, some x => ⟨.busy, "moving to " ++ Scalar.fixed 3 x ++ " " ++ m.unit⟩
    | true, none => ⟨.busy, "moving"⟩
    | false, _ => .idle

end Motor
end Beamline
