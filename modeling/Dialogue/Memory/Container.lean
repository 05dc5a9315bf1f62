import Std.Data.HashMap
import Dialogue.Memory.Bucket

/-! # Containers of facts

    Guards look up plain values, or facts with their provenance, of which they see those that
    somebody has written. Either kind is kept in the order of the variables, or hashed. -/

namespace Dialogue.Memory

open Json

/-- What guards can look facts up in: values or facts, in order or hashed. -/
inductive Container where
  | values (d : Dict Value)
  | hashedValues (m : Std.HashMap String Value)
  | facts (b : Bucket)
  | hashedFacts (m : Std.HashMap String Fact)

/-- What guards see of the container. -/
def Container.seen : Container → StateMachine.Facts
  | .values d => valueFacts d
  | .hashedValues m => fun id => m[id]?
  | .facts b => b.facts
  | .hashedFacts m =>
    fun id => m[id]?.bind fun f => if f.updatedAt.isSome then some f.value else none

end Dialogue.Memory
