import Dialogue.Time.Instant
import Dialogue.Json.Record

/-! # Timestamps in documents

    A timestamp stands in a document as a string, which is read as an instant. -/

namespace Dialogue.Time

instance : Json.ToJson Timestamp := ⟨fun t => .string t.text⟩

instance : Json.ToJson Instant := ⟨fun t => .string t.text⟩

end Dialogue.Time

namespace Dialogue.Json

/-- The instant that a string tells. -/
def Written.instant? (w : Written) : Option Time.Instant := w.string? >>= Time.Instant.ofText?

/-- A timestamp is read as the instant that its text tells. -/
def Written.timestamp? (w : Written) : Option Time.Timestamp := w.instant?.map Time.Instant.stamp

end Dialogue.Json
