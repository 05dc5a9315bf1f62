import Dialogue.Memory.Bucket
import Dialogue.Memory.Error

/-! # The store in the process

    Each conversation has a namespace with two buckets and one expiry. Every write moves the expiry
    to its own time plus the time to live; from the expiry on, the namespace is gone: reads find
    nothing and drop it, and a write starts a fresh one. -/

namespace Dialogue.Memory

open Time

/-- The memory of one conversation, with its expiry. -/
structure Namespace where
  tools : Bucket := .empty
  extraction : Bucket := .empty
  expiresAt : Instant

namespace Namespace

/-- The clock has come to the expiry. -/
def isExpired (n : Namespace) (now : Instant) : Bool := n.expiresAt.rank ≤ now.rank

/-- The facts of one source. -/
def bucket (n : Namespace) : Source → Bucket
  | .tools => n.tools
  | .extraction => n.extraction

/-- Replaces the facts of one source. -/
def setBucket (n : Namespace) (source : Source) (b : Bucket) : Namespace :=
  match source with
  | .tools => { n with tools := b }
  | .extraction => { n with extraction := b }

/-- Both buckets as one. -/
def merged (n : Namespace) : Bucket := merge n.tools n.extraction

/-- Writes the updates to the bucket of the writer. -/
def write (n : Namespace) (contactId : String) (writer : Writer) (now : Instant)
    (us : List Update) : Namespace :=
  n.setBucket writer.source ((n.bucket writer.source).writeAll contactId writer now us)

end Namespace

/-- The memory of all conversations, kept in the process. -/
structure Store where
  namespaces : Dict Namespace := .empty
  /-- The time to live, in nanoseconds. -/
  ttl : Int

namespace Store

/-- The namespace of a conversation, unless it has expired. -/
def live? (s : Store) (now : Instant) (conversationId : String) : Option Namespace :=
  (s.namespaces.get? conversationId).filter fun n => !n.isExpired now

/-- The store after a read, which drops the namespace it found expired. -/
def evict (s : Store) (now : Instant) (conversationId : String) : Store :=
  match s.namespaces.get? conversationId with
  | some n =>
    if n.isExpired now then { s with namespaces := s.namespaces.erase conversationId } else s
  | none => s

/-- Both buckets as one, empty where there is nothing live. -/
def get (s : Store) (now : Instant) (conversationId : String) : Bucket :=
  ((s.live? now conversationId).map (·.merged)).getD .empty

/-- One bucket, empty where there is nothing live. -/
def getBucket (s : Store) (now : Instant) (conversationId : String) (source : Source) : Bucket :=
  ((s.live? now conversationId).map (·.bucket source)).getD .empty

/-- The conversation has a live namespace. -/
def contains (s : Store) (now : Instant) (conversationId : String) : Bool :=
  (s.live? now conversationId).isSome

/-- Writes the updates and moves the expiry. Where the calendar ends before the new expiry there is
    no answer; a namespace that was live has then been written to, but keeps its expiry. -/
def set (s : Store) (now : Instant) (conversationId contactId : String) (us : List Update)
    (writer : Writer) :
    Store × Option Nat :=
  let put (n : Namespace) : Store := { s with namespaces := s.namespaces.insert conversationId n }
  match s.live? now conversationId, now.add? s.ttl with
  | some n, some expiresAt =>
    (put { n.write contactId writer now us with expiresAt }, some us.length)
  | none, some expiresAt =>
    (put ({ expiresAt : Namespace }.write contactId writer now us), some us.length)
  | some n, none => (put (n.write contactId writer now us), none)
  | none, none => (s, none)

/-- Drops the memory of a conversation. -/
def delete (s : Store) (conversationId : String) : Store :=
  { s with namespaces := s.namespaces.erase conversationId }

/-- Drops every expired namespace. -/
def purge (s : Store) (now : Instant) : Store × Nat :=
  let rest := s.namespaces.filter fun _ n => !n.isExpired now
  ({ s with namespaces := rest }, s.namespaces.size - rest.size)

end Store
end Dialogue.Memory
