import Beamline.Event
import Beamline.Setup.Check
import Beamline.Toml.Document
import Beamline.Toml.Stored

/-!
Setups from texts. A text is read, its fields are checked, and then the setup as a whole; the
first of these steps that fails decides.
-/

namespace Beamline

inductive SetupError where
  | notFound (path : String)
  /-- The text, of a file if there is a path, is no setup. -/
  | malformed (path : Option String)
  | outOfRange (faults : List (Nat × List FieldFault))
  | invalid (faults : List SetupFault)
  deriving DecidableEq

/-- Stands for the reason why a text is no setup. -/
def unreadable : String := "<parse>"

/-- What went wrong, and in front of it in doing what. -/
def SetupError.chain : SetupError → List String
  | notFound path => ["Setup file not found: " ++ path]
  | malformed none => [unreadable]
  | malformed (some path) => ["Failed to load setup file: " ++ path, unreadable]
  | outOfRange faults => ["Schema validation failed:\n" ++ deviceReport faults]
  | invalid faults =>
    ["Setup validation failed:\n" ++ String.intercalate "\n" (faults.map SetupFault.message)]

namespace Setup

/-- A text as a setup, whatever its fields hold. -/
def parse? (text : String) : Option Setup := (Toml.read? text).bind Setup.ofToml?

/-- Whether a document names its mode by a text, if it names one. -/
def namesModeByText (v : Toml) : Bool :=
  match v.fields?.bind (· "mode") with
  | some mode => mode.text?.isSome
  | none => true

/-- The text of a file as a setup, whatever its fields hold. Only a text names its mode. -/
def parseFile? (text : String) : Option Setup := do
  let v ← (← Toml.read? text).storedDocument?
  if namesModeByText v then Setup.ofToml? v else none

def check (s : Setup) : Except SetupError Setup :=
  if s.deviceFaults ≠ [] then .error (.outOfRange s.deviceFaults)
  else if s.faults ≠ [] then .error (.invalid s.faults)
  else .ok s

def load (text : String) : Except SetupError Setup :=
  match parse? text with
  | some s => s.check
  | none => .error (.malformed none)

/-- Load the file at `path`, if it has a content. -/
def loadFile (path : String) (content : Option String) : Except SetupError Setup × List Event :=
  match content with
  | none => (.error (.notFound path), [])
  | some text =>
    let begun : Event := ⟨.debug, none, "Loading setup from: " ++ path⟩
    match parseFile? text with
    | none => (.error (.malformed (some path)), [begun])
    | some s =>
      match s.check with
      | .error e => (.error e, [begun])
      | .ok s =>
        let counts := toString s.devices.length ++ " devices, " ++ toString s.composites.length
          ++ " composites"
        (.ok s, [begun, ⟨.info, none, "Loaded setup " ++ path ++ ": " ++ counts⟩])

end Setup
end Beamline
