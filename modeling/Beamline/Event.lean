/-!
What is noted while devices are operated, for whoever follows along.
-/

namespace Beamline

inductive Level where
  | debug
  | info
  | warn
  deriving DecidableEq, Repr

def Level.label : Level → String
  | debug => "DEBUG"
  | info => "INFO"
  | warn => "WARN"

structure Event where
  level : Level
  device : Option String
  text : String
  deriving DecidableEq, Repr

end Beamline
