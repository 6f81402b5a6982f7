import Beamline.Scalar
import Beamline.Text.Json

/-!
What a device can be told and can answer: a number, the name of a state, or nothing, which a
device gives that is out of the way.
-/

namespace Beamline

inductive Value (α : Type) where
  | null
  | scalar (x : α)
  | state (name : String)
  deriving DecidableEq, Repr

namespace Value

variable {α : Type}

def scalar? : Value α → Option α
  | scalar x => some x
  | _ => none

def state? : Value α → Option String
  | state name => some name
  | _ => none

def isNull : Value α → Bool
  | null => true
  | _ => false

def isState (v : Value α) (name : String) : Bool := v.state? == some name

/-- A number that may be missing. -/
def ofOption : Option α → Value α
  | none => null
  | some x => scalar x

def text [Scalar α] : Value α → String
  | null => "None"
  | scalar x => Scalar.text x
  | state name => name

theorem isState_iff {v : Value α} {name : String} : v.isState name = true ↔ v = state name := by
  cases v <;> simp [isState, state?]

end Value

/-- A value as a JSON document; a number that is not finite is written as nothing is. -/
def Value.json (numberText : α → Option String) : Value α → String
  | .null => "null"
  | .scalar x => (numberText x).getD "null"
  | .state name => Text.jsonQuoted name

end Beamline
