/-!
How a device is doing, as a code and a message. Codes rise with severity, and the most severe of
several statuses is the first that no other exceeds.
-/

namespace Beamline

inductive StatusCode where
  | ok
  | warn
  | busy
  | notReached
  | error
  | unknown
  deriving DecidableEq, Repr

namespace StatusCode

def number : StatusCode → Nat
  | ok => 200
  | warn => 210
  | busy => 220
  | notReached => 230
  | error => 240
  | unknown => 999

def label : StatusCode → String
  | ok => "OK"
  | warn => "WARN"
  | busy => "BUSY"
  | notReached => "NOTREACHED"
  | error => "ERROR"
  | unknown => "UNKNOWN"

theorem number_injective {a b : StatusCode} (h : a.number = b.number) : a = b := by
  cases a <;> cases b <;> simp_all [number]

end StatusCode

structure Status where
  code : StatusCode
  message : String
  deriving DecidableEq, Repr

namespace Status

def idle : Status := ⟨.ok, "idle"⟩

def isOk (s : Status) : Bool := s.code == .ok

def isBusy (s : Status) : Bool := s.code == .busy

def text (s : Status) : String := s.code.label ++ ": " ++ s.message

/-- The more severe of two statuses, the first one if they are equally severe. -/
def worse (a b : Status) : Status := if b.code.number ≤ a.code.number then a else b

/-- The first of the most severe statuses. -/
def worst : List Status → Option Status
  | [] => none
  | s :: rest => some (rest.foldl worse s)

end Status
end Beamline
