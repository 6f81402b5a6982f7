import Beamline.Toml.Access
import Beamline.Toml.Scalar

/-!
Free settings: a value that a document carries for a driver to understand. It is kept as it is
written, but for tables that stand for moments: the first key of such a table is a reserved one,
and has the moment as a text. What else is in the table does not count.
-/

namespace Beamline.Toml

/-- The reserved key of a moment. -/
def momentKey : String := "$__toml_private_datetime"

/-- The moment that a text spells. -/
def spelledMoment? (v : Toml) : Option Toml :=
  (v.text?.bind fun s => moment? s.toList).map fun m => .moment (String.ofList m)

mutual

/-- A value as free settings. None if a reserved key has no moment. -/
def settings? : Toml → Option Toml
  | .list isOpen items => (settingsItems? items).map (.list isOpen)
  | .table origin [] => some (.table origin [])
  | .table origin ((key, v) :: es) =>
    if key = momentKey then spelledMoment? v
    else do return .table origin ((key, ← settings? v) :: (← settingsEntries? es))
  | v => some v

def settingsItems? : List Toml → Option (List Toml)
  | [] => some []
  | v :: vs => do return (← settings? v) :: (← settingsItems? vs)

def settingsEntries? : List (String × Toml) → Option (List (String × Toml))
  | [] => some []
  | (key, v) :: es => do return (key, ← settings? v) :: (← settingsEntries? es)

end

/-- A table whose values are free settings, and which is no moment itself. -/
def settingsTable? : Toml → Option Toml
  | .table origin es => (settingsEntries? es).map (.table origin)
  | _ => none

end Beamline.Toml
