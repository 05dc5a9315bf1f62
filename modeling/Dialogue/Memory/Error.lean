import Dialogue.Memory.Fact

/-! # Errors of memory -/

namespace Dialogue.Memory

/-- Why an operation on memory fails. -/
inductive StoreError where
  | unavailable (reason : String)
  | writeConflict (conversationId : String) (source : Source)
  | undeclaredVariables (ids : List String)
  | serialization (reason : String)
  deriving DecidableEq, Repr

/-- The error in words. -/
def StoreError.message : StoreError → String
  | .unavailable reason => s!"Memory store unavailable: {reason}"
  | .writeConflict id source => s!"Write conflict on {id}::vars::{source.bucketKey}"
  | .undeclaredVariables ids => "Undeclared variables: " ++ ", ".intercalate ids
  | .serialization reason => s!"Failed to (de)serialize memory: {reason}"

/-- A day, in seconds. -/
def defaultTtlSeconds : Nat := 24 * 60 * 60

/-- A hundred years of 365 days, in seconds. -/
def longestTtlSeconds : Nat := 100 * 365 * 24 * 60 * 60

/-- Seconds as the time a memory is kept, a hundred years at most. -/
def ttlOfSeconds (secs : UInt64) : Int := Time.seconds (min secs.toNat longestTtlSeconds)

end Dialogue.Memory
