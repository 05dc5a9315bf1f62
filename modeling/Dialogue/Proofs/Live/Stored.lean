import Dialogue.Live.Actor
import Dialogue.Proofs.StateMachine.Compiled
import Dialogue.Proofs.Conversation.Blob
import Dialogue.Proofs.Memory.Store

/-! # What is stored

    `Stores.stored` is the snapshot that lies in a backend for each conversation. Only putting and
    deleting a snapshot changes it, for one conversation, and only when it succeeds; the versions,
    the clock and the faults are left by all operations (`Stores.Keeps`). -/

namespace Dialogue.Database

open Time Memory Conversation Dialogue.Flow StateMachine

/-! ### Memory in the database -/

/-- What operations on memory leave. -/
structure Spares (db db' : Database) : Prop where
  versions : db'.versions = db.versions
  snapshots : db'.snapshots = db.snapshots
  missing : db'.missing = db.missing
  blocked : db'.blocked = db.blocked

theorem Spares.refl (db : Database) : db.Spares db := ⟨rfl, rfl, rfl, rfl⟩

theorem Spares.trans {a b c : Database} (h : a.Spares b) (h' : b.Spares c) : a.Spares c :=
  ⟨h'.versions.trans h.versions, h'.snapshots.trans h.snapshots, h'.missing.trans h.missing,
    h'.blocked.trans h.blocked⟩

theorem dropNamespace_spares {db db' : Database} {id : String} (h : db.dropNamespace id = .ok db') :
    db.Spares db' := by
  obtain ⟨_, -, h⟩ := bind_eq_ok.1 h
  obtain ⟨_, -, h⟩ := bind_eq_ok.1 h
  cases h
  exact ⟨rfl, rfl, rfl, rfl⟩

theorem checkLive_spares {db : Database} {r : Database × Bool} {id : String} {now : Instant}
    (h : db.checkLive id now = .ok r) : db.Spares r.1 := by
  obtain ⟨_, -, h⟩ := bind_eq_ok.1 h
  split at h
  · cases h
    exact .refl db
  · split at h
    · cases h
      exact .refl db
    · obtain ⟨db', hdrop, h⟩ := bind_eq_ok.1 h
      cases h
      exact dropNamespace_spares hdrop

theorem getMemory_spares {db : Database} {r : Database × Bucket} {id : String} {now : Instant}
    (h : db.getMemory id now = .ok r) : db.Spares r.1 := by
  obtain ⟨⟨db', live⟩, hlive, h⟩ := bind_eq_ok.1 h
  have hspares := checkLive_spares hlive
  cases live with
  | false =>
    cases h
    exact hspares
  | true =>
    obtain ⟨tools, -, h⟩ := bind_eq_ok.1 h
    obtain ⟨extraction, -, h⟩ := bind_eq_ok.1 h
    cases h
    exact hspares

theorem putRow_spares {source : Source} {id variableId : String} {b : Bucket} {db db' : Database}
    (h : putRow source id b db variableId = .ok db') : db.Spares db' := by
  rw [putRow] at h
  split at h
  · cases h
    exact .refl db
  · obtain ⟨_, -, h⟩ := bind_eq_ok.1 h
    cases h
    cases source <;> exact ⟨rfl, rfl, rfl, rfl⟩

theorem putRows_spares {source : Source} {id : String} {b : Bucket} {ids : List String}
    {db db' : Database} (h : ids.foldlM (putRow source id b) db = .ok db') : db.Spares db' := by
  induction ids generalizing db with
  | nil =>
    cases h
    exact .refl _
  | cons variableId ids ih =>
    rw [List.foldlM_cons] at h
    obtain ⟨mid, hfirst, hrest⟩ := bind_eq_ok.1 h
    exact (putRow_spares hfirst).trans (ih hrest)

theorem setMemory_spares {db : Database} {r : Database × Nat} {id contactId : String}
    {us : List Update} {writer : Writer} {now : Instant} {ttl : Int}
    (h : db.setMemory id contactId us writer now ttl = .ok (some r)) :
    db.Spares r.1 := by
  obtain ⟨⟨db₁, live⟩, hlive, h⟩ := bind_eq_ok.1 h
  obtain ⟨b, -, h⟩ := bind_eq_ok.1 h
  obtain ⟨db₂, hrows, h⟩ := bind_eq_ok.1 h
  have hspares := (checkLive_spares hlive).trans (putRows_spares hrows)
  split at h
  · cases h
  · obtain ⟨_, -, h⟩ := bind_eq_ok.1 h
    cases h
    exact ⟨hspares.versions, hspares.snapshots, hspares.missing, hspares.blocked⟩

/-- The versions that are read depend on nothing else. -/
theorem Spares.getVersion {db db' : Database} (h : db.Spares db') (f v : String) :
    db'.getVersion f v = db.getVersion f v := by
  simp only [Database.getVersion, needTable, versionText?, h.versions, h.missing]

/-- So do the snapshots that are read, and whether one can be put. -/
theorem Spares.getSnapshot {db db' : Database} (h : db.Spares db') (c : String) :
    db'.getSnapshot c = db.getSnapshot c := by
  simp only [Database.getSnapshot, needTable, h.snapshots, h.missing]

theorem Spares.needInsert {db db' : Database} (h : db.Spares db') (t : Table)
    (variableId : Option String) :
    db'.needInsert t variableId = db.needInsert t variableId := by
  simp only [Database.needInsert, needTable, h.missing, h.blocked]

end Dialogue.Database

namespace Dialogue.Live

open Time Dialogue.Flow Conversation StateMachine Memory

/-- The snapshot stored for a conversation, if there is one that can be read. -/
def Backend.stored (conversationId : String) : Backend → Option Snapshot
  | .process _ snapshots _ => snapshots.get? conversationId
  | .database db _ =>
    (db.snapshots.get? conversationId).bind fun blob => (Snapshot.ofBlob blob).toOption

/-- The snapshot that is stored of the conversation, past all faults. -/
def Stores.stored (s : Stores) (conversationId : String) : Option Snapshot :=
  s.backend.stored conversationId

/-- How long a backend keeps the memory of a conversation. -/
def Backend.ttl : Backend → Int
  | .process _ _ memory => memory.ttl
  | .database _ ttl => ttl

/-- Every snapshot can be read, and any can be put. -/
structure Backend.Serves (b : Backend) : Prop where
  reads : ∀ c, ∃ r, b.getSnapshot c = .ok r
  puts : ∀ c x, ∃ b', b.putSnapshot c x = .ok b'

/-- What no operation changes. -/
structure Stores.Keeps (s t : Stores) : Prop where
  versions : ∀ f v, t.backend.getVersion f v = s.backend.getVersion f v
  clock : t.clock = s.clock
  faults : t.faults = s.faults
  ttl : t.backend.ttl = s.backend.ttl
  serves : s.backend.Serves → t.backend.Serves

/-- What most operations keep: the snapshots too. -/
structure Stores.Same (s t : Stores) : Prop extends s.Keeps t where
  stored : ∀ c, t.stored c = s.stored c

/-- The snapshot of the session has been stored, and nothing else. -/
structure Stores.Stored (s t : Stores) (x : Session) : Prop extends s.Keeps t where
  stored : ∀ c, t.stored c = if c = x.conversationId then some x.snapshot else s.stored c

namespace Stores

theorem Keeps.refl (s : Stores) : s.Keeps s := ⟨fun _ _ => rfl, rfl, rfl, rfl, id⟩

theorem Keeps.trans {s t u : Stores} (h : s.Keeps t) (h' : t.Keeps u) : s.Keeps u :=
  ⟨fun f v => (h'.versions f v).trans (h.versions f v), h'.clock.trans h.clock,
    h'.faults.trans h.faults, h'.ttl.trans h.ttl, h'.serves ∘ h.serves⟩

theorem Same.refl (s : Stores) : s.Same s := ⟨.refl s, fun _ => rfl⟩

theorem Same.trans {s t u : Stores} (h : s.Same t) (h' : t.Same u) : s.Same u :=
  ⟨h.toKeeps.trans h'.toKeeps, fun c => (h'.stored c).trans (h.stored c)⟩

/-- Trying an operation only logs it. -/
theorem attempt_same (s : Stores) (op : Operation) : s.Same (s.attempt op).1 :=
  ⟨⟨fun _ _ => rfl, rfl, rfl, rfl, id⟩, fun _ => rfl⟩

end Stores

/-! ### Backends -/

namespace Backend

/-- What operations on memory leave of a backend. -/
structure Spares (b b' : Backend) : Prop where
  versions : ∀ f v, b'.getVersion f v = b.getVersion f v
  stored : ∀ c, b'.stored c = b.stored c
  ttl : b'.ttl = b.ttl
  serves : b.Serves → b'.Serves

theorem serves_process (versions : Dict (Dict Version)) (snapshots : Dict Snapshot) (m : Store) :
    (process versions snapshots m).Serves :=
  ⟨fun _ => ⟨_, rfl⟩, fun _ _ => ⟨_, rfl⟩⟩

/-- A database that reads all its snapshots serves when rows can be put into their table. -/
theorem serves_database {db : Database} {ttl : Int} : (database db ttl).Serves ↔
    (∀ c, ∃ r, db.getSnapshot c = .ok r) ∧ db.needInsert .snapshots none = .ok () := by
  have hget (c : String) : (∃ r, (database db ttl).getSnapshot c = .ok r) ↔
      ∃ r, db.getSnapshot c = .ok r := by
    simp only [Backend.getSnapshot]
    cases db.getSnapshot c <;> simp [Except.mapError]
  have hput (c : String) (x : Snapshot) : (∃ b', (database db ttl).putSnapshot c x = .ok b') ↔
      db.needInsert .snapshots none = .ok () := by
    simp only [Backend.putSnapshot, Database.putSnapshot]
    cases db.needInsert .snapshots none <;> simp [bind, Except.bind, pure, Except.pure]
  constructor
  · intro h
    let blank : Snapshot := ⟨"", "", "", "", ⟨"", "", "", .phone, .epoch, []⟩, []⟩
    exact ⟨fun c => (hget c).1 (h.reads c), (hput "" blank).1 (h.puts "" blank)⟩
  · rintro ⟨hreads, hputs⟩
    exact ⟨fun c => (hget c).2 (hreads c), fun c x => (hput c x).2 hputs⟩

theorem spares_process {versions : Dict (Dict Version)} {snapshots : Dict Snapshot} {m m' : Store}
    (h : m'.ttl = m.ttl) : (process versions snapshots m).Spares (process versions snapshots m') :=
  ⟨fun _ _ => rfl, fun _ => rfl, h, fun _ => serves_process ..⟩

theorem spares_database {db db' : Database} {ttl : Int} (h : db.Spares db') :
    (database db ttl).Spares (database db' ttl) := by
  refine ⟨?_, ?_, rfl, ?_⟩
  · intro f v
    simp only [Backend.getVersion, h.getVersion]
  · intro c
    simp only [Backend.stored, h.snapshots]
  · rw [serves_database, serves_database, h.needInsert]
    simp only [h.getSnapshot]
    exact id

theorem getMemory_spares {b : Backend} {r : Backend × Bucket} {id : String} {now : Instant}
    (h : b.getMemory id now = .ok r) : b.Spares r.1 := by
  cases b with
  | process versions snapshots memory =>
    cases h
    exact spares_process (memory.evict_ttl now id)
  | database db ttl =>
    simp only [Backend.getMemory] at h
    split at h
    · rename_i hget
      cases h
      exact spares_database (Database.getMemory_spares hget)
    · cases h

theorem setMemory_spares {b : Backend} {r : Backend × Option Nat} {id contactId : String}
    {us : List Update} {writer : Writer} {now : Instant}
    (h : b.setMemory id contactId us writer now = .ok r) : b.Spares r.1 := by
  cases b with
  | process versions snapshots memory =>
    cases h
    exact spares_process (memory.set_ttl ..)
  | database db ttl =>
    simp only [Backend.setMemory] at h
    split at h
    · rename_i hset
      cases h
      exact spares_database (Database.setMemory_spares hset)
    · cases h
      exact spares_database (.refl db)
    · cases h

theorem deleteMemory_spares {b b' : Backend} {id : String} (h : b.deleteMemory id = .ok b') :
    b.Spares b' := by
  cases b with
  | process versions snapshots memory =>
    cases h
    exact spares_process rfl
  | database db ttl =>
    simp only [Backend.deleteMemory] at h
    split at h
    · rename_i hdelete
      cases h
      exact spares_database (Database.dropNamespace_spares hdelete)
    · cases h

/-- What is read of a conversation is what is stored of it. -/
theorem getSnapshot_eq {b : Backend} {id : String} {r : Option Snapshot}
    (h : b.getSnapshot id = .ok r) :
    b.stored id = r := by
  cases b with
  | process versions snapshots memory =>
    cases h
    rfl
  | database db ttl =>
    obtain ⟨_, -, hget⟩ := bind_eq_ok.1 (mapError_eq_ok.1 h)
    simp only [Backend.stored]
    split at hget
    · rename_i hnone
      cases hget
      simp [hnone]
    · rename_i blob hblob
      split at hget
      · rename_i s hs
        cases hget
        simp [hblob, hs, Except.toOption]
      · cases hget

/-- A database serves on if the snapshots that have changed can be read. -/
theorem Serves.snapshots {db : Database} {ttl : Int} {snapshots : Dict String}
    (h : (database db ttl).Serves)
    (hs : ∀ c, snapshots.get? c = db.snapshots.get? c ∨
      ∀ blob, snapshots.get? c = some blob → ∃ s, Snapshot.ofBlob blob = .ok s) :
    (database { db with snapshots } ttl).Serves := by
  obtain ⟨hreads, hputs⟩ := serves_database.1 h
  refine serves_database.2 ⟨?_, hputs⟩
  intro c
  obtain ⟨r, hr⟩ := hreads c
  obtain ⟨_, htable, hr⟩ := bind_eq_ok.1 hr
  simp only [Database.getSnapshot, bind_eq_ok]
  -- a snapshot as it was, or one that is read back
  rcases hs c with hsame | hread
  · exact ⟨r, (), htable, by rw [hsame]; exact hr⟩
  · cases hget : snapshots.get? c with
    | none => exact ⟨none, (), htable, rfl⟩
    | some blob =>
      obtain ⟨s, hs⟩ := hread blob hget
      exact ⟨some s, (), htable, by simp [hs, pure, Except.pure]⟩

theorem putSnapshot_eq {b b' : Backend} {id : String} {x : Snapshot}
    (h : b.putSnapshot id x = .ok b') :
    (∀ f v, b'.getVersion f v = b.getVersion f v) ∧ b'.ttl = b.ttl ∧ (b.Serves → b'.Serves) ∧
      ∀ c, b'.stored c = if c = id then some x else b.stored c := by
  cases b with
  | process versions snapshots memory =>
    cases h
    exact ⟨fun _ _ => rfl, rfl, fun _ => serves_process .., fun c => Dict.get?_insert ..⟩
  | database db ttl =>
    simp only [Backend.putSnapshot] at h
    split at h
    · rename_i db' hput
      cases h
      obtain ⟨_, -, hput⟩ := bind_eq_ok.1 hput
      cases hput
      refine ⟨fun _ _ => rfl, rfl, ?_, ?_⟩
      -- the text that is put is read back
      · intro hserves
        refine hserves.snapshots ?_
        intro c
        by_cases hc : c = id
        · right
          rintro blob hblob
          obtain rfl : x.blob = blob := by simpa [hc] using hblob
          exact ⟨x, Snapshot.ofBlob_blob x⟩
        · exact .inl (by simp [hc])
      intro c
      simp only [Backend.stored, Dict.get?_insert]
      split
      · simp [Snapshot.ofBlob_blob, Except.toOption]
      · rfl
    · cases h

theorem putSnapshot_error {b : Backend} {id : String} {x : Snapshot} {e : RuntimeError}
    (h : b.putSnapshot id x = .error e) : ∃ reason, e = .snapshot reason := by
  cases b with
  | process versions snapshots memory => cases h
  | database db ttl =>
    simp only [Backend.putSnapshot] at h
    split at h
    · cases h
    · cases h
      exact ⟨_, rfl⟩

theorem deleteSnapshot_eq {b b' : Backend} {id : String} (h : b.deleteSnapshot id = .ok b') :
    (∀ f v, b'.getVersion f v = b.getVersion f v) ∧ b'.ttl = b.ttl ∧ (b.Serves → b'.Serves) ∧
      ∀ c, b'.stored c = if c = id then none else b.stored c := by
  cases b with
  | process versions snapshots memory =>
    cases h
    exact ⟨fun _ _ => rfl, rfl, fun _ => serves_process .., fun c => Dict.get?_erase ..⟩
  | database db ttl =>
    simp only [Backend.deleteSnapshot] at h
    split at h
    · rename_i db' hdelete
      cases h
      obtain ⟨_, -, hdelete⟩ := bind_eq_ok.1 hdelete
      cases hdelete
      refine ⟨fun _ _ => rfl, rfl, ?_, ?_⟩
      · intro hserves
        refine hserves.snapshots ?_
        intro c
        by_cases hc : c = id
        · exact .inr (by simp [hc])
        · exact .inl (by simp [hc])
      intro c
      simp only [Backend.stored, Dict.get?_erase]
      split <;> rfl
    · cases h

end Backend

/-! ### Operations -/

namespace Stores

/-- Logging and going on with a backend that memory operations made. -/
theorem same_of_spares {s : Stores} {b : Backend} (op : Operation) (h : s.backend.Spares b) :
    s.Same { s with backend := b, log := op :: s.log } :=
  ⟨⟨h.versions, rfl, rfl, h.ttl, h.serves⟩, h.stored⟩

theorem getVersion_same (s : Stores) (f v : String) : s.Same (s.getVersion f v).1 := by
  unfold getVersion
  cases h : s.faults .getVersion <;> simp only [attempt, h] <;> exact s.attempt_same .getVersion

/-- A version that is read is the one of the backend. -/
theorem getVersion_eq {s : Stores} (h : s.faults .getVersion = none) (f v : String) :
    (s.getVersion f v).2 = s.backend.getVersion f v := by
  simp [getVersion, attempt, h]

theorem getSnapshot_same (s : Stores) (c : String) : s.Same (s.getSnapshot c).1 := by
  unfold getSnapshot
  cases h : s.faults .getSnapshot <;> simp only [attempt, h] <;> exact s.attempt_same .getSnapshot

theorem getSnapshot_eq {s : Stores} {c : String} {r : Option Snapshot}
    (h : (s.getSnapshot c).2 = .ok r) :
    s.stored c = r := by
  unfold getSnapshot at h
  cases hfault : s.faults .getSnapshot with
  | some fault => simp [attempt, hfault] at h
  | none =>
    simp only [attempt, hfault] at h
    exact Backend.getSnapshot_eq h

theorem getMemory_same (s : Stores) (c : String) : s.Same (s.getMemory c).1 := by
  unfold getMemory
  cases hfault : s.faults .getMemory with
  | some fault =>
    simp only [attempt, hfault]
    exact s.attempt_same .getMemory
  | none =>
    simp only [attempt, hfault]
    split
    · rename_i hget
      exact same_of_spares _ (Backend.getMemory_spares hget)
    · exact s.attempt_same .getMemory

theorem setMemory_same (s : Stores) (c contactId : String) (us : List Update) (writer : Writer) :
    s.Same (s.setMemory c contactId us writer).1 := by
  unfold setMemory
  cases hfault : s.faults .setMemory with
  | some fault =>
    simp only [attempt, hfault]
    exact s.attempt_same .setMemory
  | none =>
    simp only [attempt, hfault]
    split
    · rename_i hset
      exact same_of_spares _ (Backend.setMemory_spares hset)
    · exact s.attempt_same .setMemory

theorem deleteMemory_same (s : Stores) (c : String) : s.Same (s.deleteMemory c).1 := by
  unfold deleteMemory
  cases hfault : s.faults .deleteMemory with
  | some fault =>
    simp only [attempt, hfault]
    exact s.attempt_same .deleteMemory
  | none =>
    simp only [attempt, hfault]
    split
    · rename_i hdelete
      exact same_of_spares _ (Backend.deleteMemory_spares hdelete)
    · exact s.attempt_same .deleteMemory

/-- A snapshot is stored, or the stores are as they were. -/
theorem persist_cases (s : Stores) (x : Session) :
    (∃ reason, (s.persist x).2 = .error (.snapshot reason) ∧ s.Same (s.persist x).1) ∨
      ((s.persist x).2 = .ok () ∧ s.Stored (s.persist x).1 x) := by
  unfold persist putSnapshot
  cases hfault : s.faults .putSnapshot with
  | some fault =>
    simp only [attempt, hfault]
    exact .inl ⟨fault.text, rfl, s.attempt_same .putSnapshot⟩
  | none =>
    simp only [attempt, hfault]
    cases hput : s.backend.putSnapshot x.conversationId x.snapshot with
    | error e =>
      obtain ⟨reason, rfl⟩ := Backend.putSnapshot_error hput
      exact .inl ⟨reason, rfl, s.attempt_same .putSnapshot⟩
    | ok b =>
      obtain ⟨hversions, httl, hserves, hstored⟩ := Backend.putSnapshot_eq hput
      exact .inr ⟨rfl, ⟨hversions, rfl, rfl, httl, hserves⟩, hstored⟩

/-- A snapshot is deleted, or the stores are as they were. -/
theorem deleteSnapshot_cases (s : Stores) (c : String) :
    (∃ reason, (s.deleteSnapshot c).2 = .error reason ∧ s.Same (s.deleteSnapshot c).1) ∨
      ((s.deleteSnapshot c).2 = .ok () ∧ s.Keeps (s.deleteSnapshot c).1 ∧
        ∀ k, (s.deleteSnapshot c).1.stored k = if k = c then none else s.stored k) := by
  unfold deleteSnapshot
  cases hfault : s.faults .deleteSnapshot with
  | some fault =>
    simp only [attempt, hfault]
    exact .inl ⟨fault.text, rfl, s.attempt_same .deleteSnapshot⟩
  | none =>
    simp only [attempt, hfault]
    cases hdelete : s.backend.deleteSnapshot c with
    | error reason => exact .inl ⟨reason, rfl, s.attempt_same .deleteSnapshot⟩
    | ok b =>
      obtain ⟨hversions, httl, hserves, hstored⟩ := Backend.deleteSnapshot_eq hdelete
      exact .inr ⟨rfl, ⟨hversions, rfl, rfl, httl, hserves⟩, hstored⟩

end Stores
end Dialogue.Live
