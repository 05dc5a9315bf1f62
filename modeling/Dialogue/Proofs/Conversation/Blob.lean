import Dialogue.Conversation.Snapshot
import Dialogue.Proofs.Json.Documents
import Dialogue.Proofs.Time.Printed

/-! # What the text of a snapshot tells

    Of a snapshot of any timestamps the text is read as the snapshot of the instants that their
    texts tell (`ofBlob_blob_asRead`). So a snapshot is read back exactly when its timestamps are
    instants (`readBack_iff`). -/

namespace Dialogue.Time

open Json

theorem readsAs_timestamp (t : Timestamp) : ReadsAs Written.instant? t t.asRead := by
  constructor
  · exact (readsBack_string t.text).numbers
  · simp [toJson, Value.written, Written.instant?, Written.string?, Instant.ofText?_text]

theorem readsBack_instant (t : Instant) : ReadsBack Written.instant? t := by
  have hstamp := readsAs_timestamp t.stamp
  rw [Instant.asRead_stamp] at hstamp
  exact ⟨hstamp.numbers, hstamp.reads⟩

end Dialogue.Time

namespace Dialogue.Conversation

open Json Time Dialogue.Flow

variable {T U : Type}

/-! ### Other times in the same places -/

/-- The summary with `f` of its time. -/
def ContactSummary.mapTime (f : T → U) (c : ContactSummary T) : ContactSummary U :=
  { contactId := c.contactId, taskName := c.taskName, reason := c.reason, endedAt := f c.endedAt
    durationSecs := c.durationSecs, summary := c.summary }

/-- The context with `f` of its time. -/
def Context.mapTime (f : T → U) (c : Context T) : Context U :=
  { conversationId := c.conversationId, contactId := c.contactId, currentTask := c.currentTask
    channel := c.channel, startedAt := f c.startedAt, previousContactIds := c.previousContactIds }

/-- The snapshot with `f` of each of its times. -/
def Snapshot.mapTime (f : T → U) (s : Snapshot T) : Snapshot U :=
  { fingerprint := s.fingerprint, flowId := s.flowId, versionId := s.versionId
    currentTaskId := s.currentTaskId, context := s.context.mapTime f
    previousContacts := s.previousContacts.map (·.mapTime f) }

theorem Snapshot.mapTime_id (s : Snapshot T) : s.mapTime id = s := by
  have hsummaries : s.previousContacts.map (·.mapTime id) = s.previousContacts.map id := rfl
  rw [Snapshot.mapTime, hsummaries, List.map_id]
  rfl

/-! ### Parts -/

theorem readsBack_channel (c : Channel) : ReadsBack Channel.ofWritten? c := by
  cases c <;> exact ⟨trivial, rfl⟩

theorem readsBack_endReason (r : EndReason) : ReadsBack EndReason.ofWritten? r := by
  cases r <;> exact ⟨trivial, rfl⟩

/-- A name or a number is not written as nothing. -/
theorem written_endReason_ne_null (r : EndReason) : (toJson r).written ≠ .null := by
  simp [toJson, Value.written]

theorem written_uint64_ne_null (n : UInt64) : (toJson n).written ≠ .null := by
  simp [toJson, Value.written]

/-! ### Records -/

section

-- times of any kind, each of which is read as some instant
variable [ToJson T] {told : T → Instant} (htime : ∀ t, ReadsAs Written.instant? t (told t))

include htime

theorem readsAs_contactSummary (c : ContactSummary T) :
    ReadsAs ContactSummary.ofWritten? c (c.mapTime told) := by
  have hid := readsBack_string c.contactId
  have htask := readsBack_string c.taskName
  have hreason : ∀ r ∈ c.reason, ReadsBack EndReason.ofWritten? r ∧ (toJson r).written ≠ .null := by
    intro r _
    exact ⟨readsBack_endReason r, written_endReason_ne_null r⟩
  have hend := htime c.endedAt
  have hduration : ∀ n ∈ c.durationSecs, ReadsBack Written.uint64? n ∧
      (toJson n).written ≠ .null := by
    intro n _
    exact ⟨readsBack_uint64 n, written_uint64_ne_null n⟩
  have hsummary := readsBack_string c.summary
  refine readsAs_record rfl rfl (by decide) ?_ ?_
  · simp only [List.forall_mem_cons, List.not_mem_nil, false_imp_iff, implies_true, and_true]
    exact ⟨hid.numbers, htask.numbers, reads_option fun r hr => (hreason r hr).1.numbers,
      hend.numbers, reads_option fun n hn => (hduration n hn).1.numbers, hsummary.numbers⟩
  · rw [required_written hid (by rfl), required_written htask (by rfl),
      optional_written hreason (by rfl), required_written hend (by rfl),
      optional_written hduration (by rfl), required_written hsummary (by rfl)]
    rfl

theorem readsAs_context (c : Context T) : ReadsAs Context.ofWritten? c (c.mapTime told) := by
  have hid := readsBack_string c.conversationId
  have hcontact := readsBack_string c.contactId
  have htask := readsBack_string c.currentTask
  have hchannel := readsBack_channel c.channel
  have hstart := htime c.startedAt
  have hprevious : ReadsBack (Written.list? Written.string?) c.previousContactIds :=
    readsBack_list fun id _ => readsBack_string id
  refine readsAs_record rfl rfl (by decide) ?_ ?_
  · simp only [List.forall_mem_cons, List.not_mem_nil, false_imp_iff, implies_true, and_true]
    exact ⟨hid.numbers, hcontact.numbers, htask.numbers, hchannel.numbers, hstart.numbers,
      hprevious.numbers⟩
  · rw [required_written hid (by rfl), required_written hcontact (by rfl),
      required_written htask (by rfl), required_written hchannel (by rfl),
      required_written hstart (by rfl), withDefault_written hprevious (by rfl)]
    rfl

theorem readsAs_snapshot (s : Snapshot T) : ReadsAs Snapshot.ofWritten? s (s.mapTime told) := by
  have hfingerprint := readsBack_string s.fingerprint
  have hflow := readsBack_string s.flowId
  have hversion := readsBack_string s.versionId
  have htask := readsBack_string s.currentTaskId
  have hcontext := readsAs_context htime s.context
  have hprevious : ReadsAs (Written.list? ContactSummary.ofWritten?) s.previousContacts
      (s.previousContacts.map (·.mapTime told)) :=
    readsAs_list fun c _ => readsAs_contactSummary htime c
  refine readsAs_record rfl rfl (by decide) ?_ ?_
  · simp only [List.forall_mem_cons, List.not_mem_nil, false_imp_iff, implies_true, and_true]
    exact ⟨hfingerprint.numbers, hflow.numbers, hversion.numbers, htask.numbers, hcontext.numbers,
      hprevious.numbers⟩
  · rw [required_written hfingerprint (by rfl), required_written hflow (by rfl),
      required_written hversion (by rfl), required_written htask (by rfl),
      required_written hcontext (by rfl), withDefault_written hprevious (by rfl)]
    rfl

theorem ofBlob_blob_told (s : Snapshot T) : Snapshot.ofBlob s.blob = .ok (s.mapTime told) := by
  rw [Snapshot.ofBlob, Snapshot.blob, (readsAs_snapshot htime s).ofText]

end

/-! ### Snapshots -/

namespace Snapshot

/-- The text of a snapshot of instants reads back as the snapshot. -/
theorem ofBlob_blob (s : Snapshot) : ofBlob s.blob = .ok s := by
  have hself (t : Instant) : ReadsAs Written.instant? t (id t) := readsBack_instant t
  rw [ofBlob_blob_told hself, mapTime_id]

/-- The snapshot that the text of a snapshot tells. -/
def asRead (s : Snapshot Timestamp) : Snapshot := s.mapTime Timestamp.asRead

/-- The snapshot as a record, which can hold any timestamps. -/
def stamp (s : Snapshot) : Snapshot Timestamp := s.mapTime Instant.stamp

/-- All timestamps of the snapshot are instants. -/
structure OfInstants (s : Snapshot Timestamp) : Prop where
  startedAt : s.context.startedAt.IsInstant
  endedAt : ∀ c ∈ s.previousContacts, c.endedAt.IsInstant

theorem ofBlob_blob_asRead (s : Snapshot Timestamp) : ofBlob s.blob = .ok s.asRead :=
  ofBlob_blob_told readsAs_timestamp s

/-- Times stay in their places exactly when `f` leaves each of them as it is. -/
theorem mapTime_eq_self_iff {f : T → T} (s : Snapshot T) :
    s.mapTime f = s ↔
    f s.context.startedAt = s.context.startedAt ∧
      ∀ c ∈ s.previousContacts, f c.endedAt = c.endedAt := by
  obtain ⟨fingerprint, flowId, versionId, currentTaskId, context, summaries⟩ := s
  have hcontext : context.mapTime f = context ↔ f context.startedAt = context.startedAt := by
    cases context
    simp [Context.mapTime]
  have hsummary (c : ContactSummary T) : c.mapTime f = c ↔ f c.endedAt = c.endedAt := by
    cases c
    simp [ContactSummary.mapTime]
  have hsummaries : summaries.map (·.mapTime f) = summaries ↔
      ∀ c ∈ summaries, f c.endedAt = c.endedAt := by
    have hsame : summaries.map (·.mapTime f) = summaries.map id ↔
        ∀ c ∈ summaries, c.mapTime f = c :=
      List.map_inj_left
    simpa only [List.map_id, hsummary] using hsame
  simp [mapTime, hcontext, hsummaries]

/-- A snapshot is read back from its text exactly when its timestamps are instants. -/
theorem readBack_iff (s : Snapshot Timestamp) :
    (ofBlob s.blob).map stamp = .ok s ↔ s.OfInstants := by
  have hback : s.asRead.stamp = s.mapTime fun t => t.asRead.stamp := by
    simp [asRead, stamp, mapTime, Context.mapTime, ContactSummary.mapTime]
  rw [ofBlob_blob_asRead, Except.map, Except.ok.injEq, hback, mapTime_eq_self_iff]
  simp only [Timestamp.stamp_asRead_iff]
  exact ⟨fun h => ⟨h.1, h.2⟩, fun h => ⟨h.1, h.2⟩⟩

end Snapshot
end Dialogue.Conversation
