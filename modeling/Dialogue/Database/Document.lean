import Dialogue.Database

/-! # Databases as documents

    A database file holds the four tables as one document. Tables that are gone come back empty, and
    nothing stays blocked. -/

namespace Dialogue.Database

open Json

instance : ToJson Database :=
  ⟨fun db => .object [("versions", toJson db.versions), ("snapshots", toJson db.snapshots),
    ("expiries", toJson db.expiries), ("tools", toJson db.tools),
    ("extraction", toJson db.extraction)]⟩

/-- The members of the document. -/
def keys : List String := ["versions", "snapshots", "expiries", "tools", "extraction"]

/-- The database that a document tells. -/
def ofWritten? (w : Written) : Option Database := do
  let fs ← w.fields? keys
  let texts := Written.dict? Written.string?
  return {
    versions := ← fs.required "versions" (Written.dict? texts)
    snapshots := ← fs.required "snapshots" texts
    expiries := ← fs.required "expiries" (Written.dict? Written.int?)
    tools := ← fs.required "tools" (Written.dict? texts)
    extraction := ← fs.required "extraction" (Written.dict? texts) }

/-- The database that the text of a file tells. -/
def ofText? (s : String) : Option Database := Written.ofText? s >>= ofWritten?

end Dialogue.Database
