/-!
# Faults of a database driver

What a driver raises has a class and a text. The adapters tidy up after the classes of their own
driver and let every other class pass.
-/

namespace BoundSql

/-- The class of an error that a driver raises. -/
inductive FaultClass where
  /-- An error of no database driver. -/
  | foreign
  /-- The errors of the cursor driver: the general class and its four special ones. -/
  | database | operational | integrity | programming | interface
  /-- The errors of the buffered driver: the general class and the one for misuse. -/
  | engine | invalidRequest
  deriving DecidableEq, Repr

/-- An error raised by a driver. -/
structure DriverFault where
  /-- Its class. -/
  kind : FaultClass
  /-- Its text. -/
  message : String
  deriving DecidableEq, Repr

namespace FaultClass

/-- Whether the class belongs to the cursor driver. -/
def ofCursorDriver : FaultClass → Bool
  | database | operational | integrity | programming | interface => true
  | _ => false

/-- Whether the class belongs to the buffered driver. -/
def ofBufferedDriver : FaultClass → Bool
  | engine | invalidRequest => true
  | _ => false

end FaultClass

end BoundSql
