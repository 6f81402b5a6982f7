import Beamline.Toml.Basic

/-!
Documents as files store them. The entries of a table are in the order of their keys, and two keys
are reserved inside of a document: a table with the one is nothing but the value of that key, and
the other numbers where a value is from, which is left out.
-/

namespace Beamline.Toml

/-- The reserved key of a table that stands for one value. -/
def wrappedKey : String := "___figment_value_value"

/-- The reserved key of the number of a source. -/
def sourceKey : String := "___figment_value_id"

/-- Whether a table numbers its source, if at all, by an integer. -/
def numbersSource (es : List (String × Toml)) : Bool :=
  match es.lookup sourceKey with
  | none => true
  | some (.integer _) => true
  | some _ => false

def sortedByKey (es : List (String × Toml)) : List (String × Toml) :=
  es.mergeSort fun a b => decide (a.1 ≤ b.1)

mutual

/-- A value inside of a file. -/
def stored? : Toml → Option Toml
  | .list isOpen items => (storedItems? items).map (.list isOpen)
  | .table origin es =>
    if numbersSource es then do
      let stored ← storedEntries? es
      match stored.lookup wrappedKey with
      | some v => return v
      | none => return .table origin (sortedByKey (stored.filter fun e => e.1 != sourceKey))
    else none
  | v => some v

def storedItems? : List Toml → Option (List Toml)
  | [] => some []
  | v :: vs => do return (← stored? v) :: (← storedItems? vs)

def storedEntries? : List (String × Toml) → Option (List (String × Toml))
  | [] => some []
  | (key, v) :: es => do return (key, ← stored? v) :: (← storedEntries? es)

end

/-- A whole document, in which no key is reserved. -/
def storedDocument? : Toml → Option Toml
  | .table origin es => (storedEntries? es).map fun es => .table origin (sortedByKey es)
  | _ => none

end Beamline.Toml
