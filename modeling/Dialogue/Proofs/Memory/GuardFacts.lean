import Dialogue.Proofs.Memory.LastWrites

/-! # What guards see of a write

    A write of a tool covers what guards saw before: of the variables it names they see the last
    value it gives them, of the others what they saw (`facts_written`). Whatever either bucket held,
    such a write is made if only it can be read, and is seen until it expires
    (`Backend.Finds.setMemory`). -/

namespace Dialogue.Memory

open Json Time

/-- What guards see once the updates cover what they saw. -/
def cover (us : List Update) (facts : StateMachine.Facts) : StateMachine.Facts := fun id =>
  (lastValue? us id).or (facts id)

namespace Bucket

variable {us : List Update} {id : String} {contactId : String} {writer : Writer} {now : Instant}

theorem facts_merge (tools extraction : Bucket) (id : String) : (merge tools extraction).facts id =
    if (tools.get? id).isSome then tools.facts id else extraction.facts id := by
  unfold facts
  rw [get?_merge]
  cases tools.get? id <;> rfl

/-- A write of a tool covers what guards saw before. -/
theorem facts_written (tools extraction : Bucket) (id : String) :
    (merge (tools.writeAll contactId writer now us) extraction).facts id =
        cover us (merge tools extraction).facts id := by
  unfold cover
  cases hlast : lastValue? us id with
  | some a =>
    obtain ⟨f, hf, hvalue, hat⟩ := get?_writeAll_of_lastValue contactId writer now hlast
    rw [facts_merge, hf]
    simp [facts, hf, hvalue, hat]
  | none =>
    have hsame : (tools.writeAll contactId writer now us).get? id = tools.get? id :=
      get?_writeAll (lastValue?_eq_none.1 hlast)
    rw [Option.none_or, facts_merge, facts_merge, hsame]
    simp only [facts, hsame]

end Bucket
end Dialogue.Memory

namespace Dialogue.Live.Backend

open Json Time Memory

/-! ### In either memory -/

/-- What is there of the conversation can be read, and more can be put to it. -/
def Legible (c : String) : Backend → Prop
  | .process .. => True
  | .database db _ => db.Legible c

/-- The buckets of the conversation, and when they expire. -/
def Holds (c : String) (expiry : Option Instant) (buckets : Source → Bucket) : Backend → Prop
  | .process _ _ memory => memory.Holds c expiry buckets
  | .database db _ => db.Holds c expiry buckets

/-- The buckets that a write finds. -/
def Finds (c : String) (now : Instant) (buckets : Source → Bucket) : Backend → Prop
  | .process _ _ memory => ∀ source, memory.getBucket now c source = buckets source
  | .database db _ => ∃ db', db.Finds c now db' buckets

/-- What guards see of the conversation until it expires. -/
def Shows (c : String) (expiry : Option Instant) (facts : StateMachine.Facts) (b : Backend) :
    Prop :=
  ∃ buckets, b.Holds c expiry buckets ∧ (merge (buckets .tools) (buckets .extraction)).facts = facts

variable {b b' : Backend} {c : String} {expiry : Option Instant} {now expiresAt : Instant}
    {buckets : Source → Bucket}
  {facts : StateMachine.Facts} {us : List Update}

theorem Holds.legible (h : b.Holds c expiry buckets) : b.Legible c := by
  cases b with
  | process versions snapshots memory => trivial
  | database db ttl => exact ⟨h.takesRows, fun source => ⟨_, h.reads source⟩⟩

theorem Legible.finds (h : b.Legible c) (now : Instant) : ∃ buckets, b.Finds c now buckets := by
  cases b with
  | process versions snapshots memory =>
    exact ⟨fun source => memory.getBucket now c source, fun _ => rfl⟩
  | database db ttl =>
    obtain ⟨db', buckets, hfinds⟩ := Database.Legible.finds h now
    exact ⟨buckets, db', hfinds⟩

theorem Holds.finds (h : b.Holds c expiry buckets) (hnow : ∀ t ∈ expiry, b.IsBefore now t) :
    b.Finds c now buckets := by
  cases b with
  | process versions snapshots memory => exact fun source => Store.Holds.getBucket h hnow source
  | database db ttl => exact ⟨db, Database.Holds.finds h hnow⟩

theorem Holds.getMemory (h : b.Holds c expiry buckets) (hnow : ∀ t ∈ expiry, b.IsBefore now t) :
    b.getMemory c now = .ok (b, merge (buckets .tools) (buckets .extraction)) := by
  cases b with
  | process versions snapshots memory =>
    simp only [Backend.getMemory, Store.Holds.get h hnow, (Store.Holds.live h hnow).2]
  | database db ttl => simp only [Backend.getMemory, Database.Holds.getMemory h hnow]

/-- From the expiry on nothing is read. -/
theorem Holds.getMemory_expired (h : b.Holds c (some expiresAt) buckets)
    (hnow : ¬ b.IsBefore now expiresAt) :
    ∃ b', b.getMemory c now = .ok (b', .empty) := by
  cases b with
  | process versions snapshots memory =>
    refine ⟨.process versions snapshots (memory.evict now c), ?_⟩
    simp only [Backend.getMemory, Store.Holds.get_expired h hnow]
  | database db ttl =>
    obtain ⟨db', hget, -⟩ := Database.Holds.getMemory_expired h hnow
    exact ⟨.database db' ttl, by simp only [Backend.getMemory, hget]⟩

theorem Holds.getBucket (h : b.Holds c expiry buckets) (hnow : ∀ t ∈ expiry, b.IsBefore now t)
    (source : Source) :
    b.getBucket c source now = .ok (b, buckets source) := by
  cases b with
  | process versions snapshots memory =>
    simp only [Backend.getBucket, Store.Holds.getBucket h hnow, (Store.Holds.live h hnow).2]
  | database db ttl => simp only [Backend.getBucket, Database.Holds.getBucket h hnow]

theorem Holds.getBucket_expired (h : b.Holds c (some expiresAt) buckets)
    (hnow : ¬ b.IsBefore now expiresAt) (source : Source) :
    ∃ b', b.getBucket c source now = .ok (b', .empty) := by
  cases b with
  | process versions snapshots memory =>
    refine ⟨.process versions snapshots (memory.evict now c), ?_⟩
    simp only [Backend.getBucket, Store.Holds.getBucket_expired h hnow]
  | database db ttl =>
    obtain ⟨db', hget, -⟩ := Database.Holds.getBucket_expired h hnow source
    exact ⟨.database db' ttl, by simp only [Backend.getBucket, hget]⟩

/-- Putting a snapshot leaves the memory. -/
theorem alike_putSnapshot {id : String} {x : Conversation.Snapshot}
    (h : b.putSnapshot id x = .ok b') : b.Alike b' := by
  cases b with
  | process versions snapshots memory =>
    cases h
    exact ⟨rfl, fun _ _ => .rfl, fun _ => .rfl⟩
  | database db ttl =>
    simp only [Backend.putSnapshot] at h
    split at h
    · cases h
      exact ⟨rfl, fun _ _ => .rfl, fun _ => .rfl⟩
    · cases h

theorem Holds.putSnapshot {id : String} {x : Conversation.Snapshot} (h : b.Holds c expiry buckets)
    (hput : b.putSnapshot id x = .ok b') : b'.Holds c expiry buckets := by
  cases b with
  | process versions snapshots memory =>
    cases hput
    exact h
  | database db ttl =>
    simp only [Backend.putSnapshot] at hput
    split at hput
    · rename_i db' hdb
      obtain ⟨_, -, hdb⟩ := StateMachine.bind_eq_ok.1 hdb
      cases hdb
      cases hput
      exact ⟨⟨h.takesRows.namespaces, h.takesRows.facts⟩, h.expires, h.reads, h.vacant⟩
    · cases hput

/-- A write is made to the buckets it finds, and left in the bucket of its writer. -/
theorem Finds.setMemory (h : b.Finds c now buckets) (contactId : String) (writer : Writer)
    (hexpiry : now.add? b.ttl = some expiresAt) (hus : b.CanKeep us) :
    ∃ b', b.setMemory c contactId us writer now = .ok (b', some us.length) ∧ b.Alike b' ∧
      b'.Holds c (some expiresAt) fun source =>
        if source = writer.source then (buckets source).writeAll contactId writer now us
          else buckets source := by
  cases b with
  | process versions snapshots memory =>
    obtain ⟨memory', hset, httl, hholds⟩ := memory.set_holds c contactId us writer hexpiry
    refine ⟨.process versions snapshots memory', ?_, ⟨httl, fun _ _ => .rfl, fun _ => .rfl⟩, ?_⟩
    · simp only [Backend.setMemory, hset]
    · simp only [h _] at hholds
      exact hholds
  | database db ttl =>
    obtain ⟨_, hfinds⟩ := h
    have hexpiry : now.add? ttl = some expiresAt := hexpiry
    obtain ⟨db', hset, hholds⟩ := Database.Finds.setMemory hfinds contactId writer hexpiry hus
    refine ⟨.database db' ttl, ?_, ⟨rfl, fun _ _ => .rfl, fun _ => .rfl⟩, hholds⟩
    simp only [Backend.setMemory, hset]

/-- A write whose expiry lies beyond the calendar has no count. -/
theorem Finds.setMemory_beyond (h : b.Finds c now buckets) (contactId : String) (us : List Update)
    (writer : Writer) (hexpiry : now.add? b.ttl = none) :
    ∃ b', b.setMemory c contactId us writer now = .ok (b', none) := by
  cases b with
  | process versions snapshots memory =>
    have hnone : (memory.set now c contactId us writer).2 = none :=
      Store.set_beyond memory c hexpiry
    refine ⟨.process versions snapshots (memory.set now c contactId us writer).1, ?_⟩
    rw [← hnone]
    rfl
  | database db ttl =>
    obtain ⟨_, hfinds⟩ := h
    have hexpiry : now.add? ttl = none := hexpiry
    refine ⟨.database db ttl, ?_⟩
    simp only [Backend.setMemory,
      Database.Finds.setMemory_beyond hfinds contactId us writer hexpiry]

/-! ### What guards see -/

theorem Shows.legible (h : b.Shows c expiry facts) : b.Legible c := by
  obtain ⟨buckets, hholds, -⟩ := h
  exact hholds.legible

theorem Shows.getMemory (h : b.Shows c expiry facts) (hnow : ∀ t ∈ expiry, b.IsBefore now t) :
    ∃ bucket, b.getMemory c now = .ok (b, bucket) ∧ bucket.facts = facts := by
  obtain ⟨buckets, hholds, hfacts⟩ := h
  exact ⟨_, hholds.getMemory hnow, hfacts⟩

theorem Shows.getMemory_expired (h : b.Shows c (some expiresAt) facts)
    (hnow : ¬ b.IsBefore now expiresAt) :
    ∃ b', b.getMemory c now = .ok (b', .empty) := by
  obtain ⟨buckets, hholds, -⟩ := h
  exact hholds.getMemory_expired hnow

theorem Shows.putSnapshot {id : String} {x : Conversation.Snapshot} (h : b.Shows c expiry facts)
    (hput : b.putSnapshot id x = .ok b') : b'.Shows c expiry facts := by
  obtain ⟨buckets, hholds, hfacts⟩ := h
  exact ⟨buckets, hholds.putSnapshot hput, hfacts⟩

/-- What a tool writes is seen until it expires, and else what was found. -/
theorem Finds.setMemory_tool (h : b.Finds c now buckets) (contactId name : String)
    (hexpiry : now.add? b.ttl = some expiresAt) (hus : b.CanKeep us) :
    ∃ b', b.setMemory c contactId us (.tool name) now = .ok (b', some us.length) ∧ b.Alike b' ∧
      b'.Shows c (some expiresAt)
          (cover us (merge (buckets .tools) (buckets .extraction)).facts) := by
  obtain ⟨b', hset, halike, hholds⟩ := h.setMemory contactId (.tool name) hexpiry hus
  refine ⟨b', hset, halike, _, hholds, ?_⟩
  funext id
  exact Bucket.facts_written (buckets .tools) (buckets .extraction) id

theorem Legible.setMemory (h : b.Legible c) (contactId name : String)
    (hexpiry : now.add? b.ttl = some expiresAt) (hus : b.CanKeep us) :
    ∃ b' facts, b.setMemory c contactId us (.tool name) now = .ok (b', some us.length) ∧
      b.Alike b' ∧ b'.Shows c (some expiresAt) (cover us facts) := by
  obtain ⟨buckets, hfinds⟩ := h.finds now
  obtain ⟨b', hset, halike, hshows⟩ := hfinds.setMemory_tool contactId name hexpiry hus
  exact ⟨b', _, hset, halike, hshows⟩

theorem Shows.setMemory (h : b.Shows c expiry facts) (contactId name : String)
    (hnow : ∀ t ∈ expiry, b.IsBefore now t) (hexpiry : now.add? b.ttl = some expiresAt)
    (hus : b.CanKeep us) :
    ∃ b', b.setMemory c contactId us (.tool name) now = .ok (b', some us.length) ∧ b.Alike b' ∧
      b'.Shows c (some expiresAt) (cover us facts) := by
  obtain ⟨buckets, hholds, rfl⟩ := h
  exact (hholds.finds hnow).setMemory_tool contactId name hexpiry hus

theorem Vacant.shows (h : b.Vacant c) : b.Shows c none fun _ => none := by
  refine ⟨fun _ => .empty, ?_, rfl⟩
  cases b with
  | process versions snapshots memory => exact (Store.written_nothing h).holds
  | database db ttl =>
    have hwritten : db.Written ttl c [] := Database.written_nothing h.1 h.2.1 h.2.2
    exact hwritten.holds

end Dialogue.Live.Backend
