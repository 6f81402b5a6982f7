import Beamline.Limits
import Beamline.Scalar.Binary64
import Beamline.Toml.Basic
import Beamline.Value

/-!
Typed views of TOML values. An integer is taken where a number is wanted. A record may be written
as a table, or as a list of its fields in order.
-/

namespace Beamline.Toml

/-- What becomes of the items of a list beyond those that are asked for. -/
inductive Surplus where
  | rejected
  | ignored
  deriving DecidableEq, Repr

def Surplus.admits (surplus : Surplus) (rest : List Toml) : Bool :=
  surplus == .ignored || rest.isEmpty

def text? : Toml → Option String
  | .text s => some s
  | _ => none

/-- Free settings take a moment for its text. -/
def wording? : Toml → Option String
  | .text s => some s
  | .moment s => some s
  | _ => none

/-- An integer is rounded to the nearest number. -/
def number? : Toml → Option Float
  | .float x => some x
  | .integer n => some (Decimal.negateIf (n < 0) (Decimal.nearest n.natAbs 0))
  | _ => none

def list? : Toml → Option (List Toml)
  | .list _ items => some items
  | _ => none

/-- Two numbers. -/
def limits? (surplus : Surplus) (v : Toml) : Option (Limits Float) :=
  match v with
  | .list _ (a :: b :: rest) =>
    if surplus.admits rest then do return ⟨← a.number?, ← b.number?⟩ else none
  | _ => none

def wordings? (v : Toml) : Option (List String) := v.list?.bind (·.mapM wording?)

/-- A number is a position, any wording a state. -/
def value? (v : Toml) : Option (Value Float) :=
  (v.number?.map Value.scalar).or (v.wording?.map Value.state)

/-- A choice is named by a text, or by the only key of a table, which then holds nothing. -/
def choice? : Toml → Option String
  | .text s => some s
  | .table _ [(key, .table _ [])] => some key
  | .table _ [(key, .list _ [])] => some key
  | _ => none

/-- Access to the fields of a record with these names. -/
def record? (surplus : Surplus) (names : List String) : Toml → Option (String → Option Toml)
  | .table _ es => some fun key => es.lookup key
  | .list _ items =>
    if surplus.admits (items.drop names.length) then
      some fun key => (names.zip items).lookup key
    else none
  | _ => none

/-- Access to the fields of a record that can only be a table. -/
def fields? : Toml → Option (String → Option Toml)
  | .table _ es => some fun key => es.lookup key
  | _ => none

/-- Whether a record has no fields but these. -/
def hasOnly (names : List String) : Toml → Bool
  | .table _ es => es.all fun e => names.contains e.1
  | _ => true

variable {β : Type}

/-- A field that must be there. -/
def required (field : String → Option Toml) (name : String) (view : Toml → Option β) : Option β :=
  (field name).bind view

/-- A field that may be missing, but must be right if it is there. -/
def optional (field : String → Option Toml) (name : String) (view : Toml → Option β) :
    Option (Option β) :=
  match field name with
  | none => some none
  | some v => (view v).map some

/-- A field that has a value of its own if it is missing. -/
def defaulted (field : String → Option Toml) (name : String) (view : Toml → Option β) (b : β) :
    Option β :=
  (optional field name view).map (·.getD b)

end Beamline.Toml
