import SchemaBridge.Json.Pointer
import SchemaBridge.JsonSchema.Basic

/-!
This module contains what the operations on schemas have to tell about their progress. An operation
is written over a monad that takes notices; in `Except` they are dropped.
-/

namespace SchemaBridge

inductive Notice where
  | unionSchema (path : Json.Pointer) (kinds : List JsonSchema.Kind)
  | unregisteredFormat (path : Json.Pointer) (format : String)
  | flattening (maxDepth : Int) (separator : String)
  | lifting (key : String)
  | toColumnar (root : String)
  | toDescriptive (fields : Nat)
  | unwrappingRoot
  | foldingNullability (base : String)
  | wroteOutput (inputs : Nat) (out : String)

class MonadNotice (m : Type → Type) where
  notice : Notice → m Unit

export MonadNotice (notice)

instance : MonadNotice (Except ε) where
  notice _ := .ok ()

@[simp]
theorem notice_except (n : Notice) : (notice n : Except ε Unit) = .ok () := rfl

/--
A computation that keeps its notices, also those before a failure.
-/
abbrev Recorded (ε : Type) := ExceptT ε (StateM (Array Notice))

instance : MonadNotice (Recorded ε) where
  notice n := modifyThe (Array Notice) (·.push n)

/--
The outcome of a computation and its notices in order.
-/
def Recorded.run (x : Recorded ε α) : Except ε α × Array Notice :=
  StateT.run (ExceptT.run x) #[]

end SchemaBridge
