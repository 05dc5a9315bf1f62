import Dialogue.Memory.Store

/-! # Concurrent calls on the store

    Calls that run at the same time meet at the locks of the store: one on the table of namespaces,
    one on each bucket and one on each expiry. Here a call is the list of its steps from one lock to
    the next, and `Shelf.step` takes one step of one call, so an interleaving is a list of steps. A
    call that holds a namespace keeps it when the table lets go of it, therefore namespaces are
    numbered and the table maps conversations to numbers. -/

namespace Dialogue.Memory

open Time

/-- Namespaces as they lie in memory, by number, and the one in use for each conversation. -/
structure Shelf where
  /-- Every namespace there has been, by number. -/
  spaces : List Namespace := []
  /-- The namespace that each conversation uses. -/
  table : Dict Nat := .empty
  ttl : Int

/-- What a read is after. -/
inductive Access where
  | merged
  | bucket (source : Source)
  | presence
  deriving DecidableEq, Repr

/-- A write, which knows the time it was started at. -/
structure Write where
  startedAt : Instant
  contactId : String
  updates : List Update
  writer : Writer

/-- What the store can be asked. -/
inductive Call where
  | read (access : Access)
  | set (write : Write)
  | delete
  | purge (startedAt : Instant)

/-- What the store answers. -/
inductive Answer where
  | facts (b : Bucket)
  | present (b : Bool)
  | count (n : Nat)
  | done
  | beyondCalendar

/-- How far a call has come; `n` is the number of the namespace it holds. -/
inductive Stage where
  | begun
  /-- A read has looked the namespace up. -/
  | found (n : Nat)
  /-- A read has seen that the namespace is live. -/
  | live (n : Nat)
  /-- A read of both buckets has copied the first one. -/
  | half (n : Nat) (tools : Bucket)
  /-- A read has seen that the namespace is expired. -/
  | expired (n : Nat)
  /-- A write has the namespace it will write to. -/
  | acquired (n : Nat)
  /-- A write has written its updates. -/
  | written (n : Nat)
  | answered (a : Answer)

namespace Access

/-- The answer where there is no live namespace. -/
def absent : Access → Answer
  | .merged | .bucket _ => .facts .empty
  | .presence => .present false

end Access

namespace Shelf

/-- The namespace with the number. -/
def space? (s : Shelf) (n : Nat) : Option Namespace := s.spaces[n]?

/-- Replaces a namespace. -/
def putSpace (s : Shelf) (n : Nat) (x : Namespace) : Shelf := { s with spaces := s.spaces.set n x }

/-- The namespace for a write begun at `now`: the one in use while it is not expired,
    else a fresh one. -/
def acquire (s : Shelf) (conversationId : String) (now : Instant) : Shelf × Stage :=
  match (s.table.get? conversationId).filter fun n => (s.space? n).any fun x =>
      !x.isExpired now with
  | some n => (s, .acquired n)
  | none =>
    match now.add? s.ttl with
    | none => (s, .answered .beyondCalendar)
    | some expiresAt =>
      ({ s with spaces := s.spaces ++ [{ expiresAt }],
                table := s.table.insert conversationId s.spaces.length },
        .acquired s.spaces.length)

/-- One step of a read, at the time `now`. -/
def stepRead (s : Shelf) (conversationId : String) (now : Instant) (access : Access) :
    Stage → Shelf × Stage
  | .begun =>
    match s.table.get? conversationId with
    | some n => (s, .found n)
    | none => (s, .answered access.absent)
  | .found n =>
    match s.space? n with
    | some x =>
      if x.isExpired now then (s, .expired n)
      else if access = .presence then (s, .answered (.present true))
      else (s, .live n)
    | none => (s, .answered access.absent)
  | .expired n =>
    let table := if s.table.get? conversationId = some n then s.table.erase conversationId
      else s.table
    ({ s with table }, .answered access.absent)
  | .live n =>
    match s.space? n, access with
    | some x, .bucket source => (s, .answered (.facts (x.bucket source)))
    | some x, _ => (s, .half n x.tools)
    | none, _ => (s, .answered access.absent)
  | .half n tools =>
    (s, .answered (.facts (merge tools (((s.space? n).map (·.extraction)).getD .empty))))
  | stage => (s, stage)

/-- One step of a write. -/
def stepSet (s : Shelf) (conversationId : String) (w : Write) : Stage → Shelf × Stage
  | .begun => s.acquire conversationId w.startedAt
  | .acquired n =>
    match s.space? n with
    | some x => (s.putSpace n (x.write w.contactId w.writer w.startedAt w.updates), .written n)
    | none => (s, .written n)
  | .written n =>
    match s.space? n, w.startedAt.add? s.ttl with
    | some x, some expiresAt =>
      (s.putSpace n { x with expiresAt }, .answered (.count w.updates.length))
    | none, some _ => (s, .answered (.count w.updates.length))
    | _, none => (s, .answered .beyondCalendar)
  | stage => (s, stage)

/-- Drops every namespace that is expired at `now`. -/
def purge (s : Shelf) (now : Instant) : Shelf × Nat :=
  let rest := s.table.filter fun _ n => !(s.space? n).any fun x => x.isExpired now
  ({ s with table := rest }, s.table.size - rest.size)

/-- One step of a call on a conversation, at the time `now`. -/
def step (s : Shelf) (conversationId : String) (now : Instant) : Call → Stage → Shelf × Stage
  | .read access, stage => s.stepRead conversationId now access stage
  | .set w, stage => s.stepSet conversationId w stage
  | .delete, .begun => ({ s with table := s.table.erase conversationId }, .answered .done)
  | .purge startedAt, .begun =>
    let (s, n) := s.purge startedAt
    (s, .answered (.count n))
  | _, stage => (s, stage)

/-- No call takes more steps than this. -/
def mostSteps : Nat := 4

/-- Takes the steps of a call that are left, with no other call between them. -/
def finish (s : Shelf) (conversationId : String) (now : Instant) (call : Call) (stage : Stage) :
    Shelf × Stage :=
  (List.range mostSteps).foldl (fun (s, stage) _ => s.step conversationId now call stage) (s, stage)

end Shelf

/-! ### Between calls -/

/-- The namespaces of a store with numbers, in the order of their conversations. -/
def Store.shelf (s : Store) : Shelf :=
  { spaces := s.namespaces.entries.map (·.2)
    table := Dict.ofList ((s.namespaces.entries.map (·.1)).zip (List.range s.namespaces.size))
    ttl := s.ttl }

/-- The namespaces in use. -/
def Shelf.store (s : Shelf) : Store :=
  { namespaces := Dict.ofList (s.table.entries.filterMap fun e => (s.space? e.2).map fun x =>
      (e.1, x)), ttl := s.ttl }

/-- A read into which a write to a conversation falls, after the read has looked its namespace up
    and before it judges the expiry. Where the read finds no namespace, there is no write. -/
def Store.readAround (s : Store) (conversationId : String) (access : Access) (now : Instant)
    (written : String) (w : Write) : Store × Answer :=
  let (shelf, stage) := s.shelf.step conversationId now (.read access) .begun
  let (shelf, wrote) := match stage with
    | .found _ => shelf.finish written now (.set w) .begun
    | _ => (shelf, .begun)
  let (shelf, stage) := shelf.finish conversationId now (.read access) stage
  (shelf.store, match wrote, stage with
    | .answered .beyondCalendar, _ => .beyondCalendar
    | _, .answered a => a
    | _, _ => access.absent)

end Dialogue.Memory
