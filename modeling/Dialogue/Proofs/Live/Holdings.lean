import Dialogue.Proofs.Live.Absent
import Dialogue.Proofs.Memory.Tables

/-! # What is held of a conversation

    `Backend.holding` is all that a backend keeps of one conversation: its snapshot as it is stored,
    both buckets of its memory, and when they expire. Every operation concerns one conversation and
    leaves what is held of the others (`Stores.OnlyChanges`); a deletion leaves nothing. Looking a
    conversation up is only logged (`Manager.find_relogged`). -/

namespace Dialogue.Live

open Time Dialogue.Flow Conversation StateMachine Memory

/-- What is held of one conversation. A database holds texts, and the expiry in milliseconds. -/
inductive Holding where
  | process (snapshot : Option Snapshot) (memory : Option Namespace)
  | tables (blob : Option String) (rows : Source → Dict String) (expiry : Option Int)

namespace Holding

/-- The snapshot as a text. -/
def blob? : Holding → Option String
  | .process snapshot _ => snapshot.map Snapshot.blob
  | .tables blob _ _ => blob

/-- There is no memory of the conversation. -/
def Forgotten : Holding → Prop
  | .process _ memory => memory = none
  | .tables _ rows expiry => (∀ source, rows source = .empty) ∧ expiry = none

/-- The same memory with another snapshot, or with none. -/
def withSnapshot (s : Option Snapshot) : Holding → Holding
  | .process _ memory => .process s memory
  | .tables _ rows expiry => .tables (s.map Snapshot.blob) rows expiry

@[simp] theorem blob?_withSnapshot (h : Holding) (s : Option Snapshot) :
    (h.withSnapshot s).blob? = s.map Snapshot.blob := by
  cases h <;> rfl

@[simp] theorem forgotten_withSnapshot (h : Holding) (s : Option Snapshot) :
    (h.withSnapshot s).Forgotten ↔ h.Forgotten := by
  cases h <;> rfl

end Holding

namespace Backend

/-- All that a backend holds of the conversation. -/
def holding (c : String) : Backend → Holding
  | .process _ snapshots memory => .process (snapshots.get? c) (memory.namespaces.get? c)
  | .database db _ =>
    .tables (db.snapshots.get? c) (fun source => db.rows source c) (db.expiries.get? c)

/-- Expiries can be looked up. -/
def Opens : Backend → Prop
  | .process _ _ _ => True
  | .database db _ => db.needTable .namespaces = .ok ()

/-- The text of the snapshot that is stored. -/
def blob? (b : Backend) (c : String) : Option String := (b.holding c).blob?

variable {b b' : Backend} {c d : String}

/-! ### Snapshots and their texts -/

/-- A snapshot is stored where its text can be read. -/
theorem stored_eq (b : Backend) (c : String) :
    b.stored c = (b.blob? c).bind fun blob => (Snapshot.ofBlob blob).toOption := by
  cases b with
  | process versions snapshots memory =>
    simp only [stored, blob?, holding, Holding.blob?]
    cases snapshots.get? c with
    | none => rfl
    | some s => simp [Snapshot.ofBlob_blob, Except.toOption]
  | database db ttl => rfl

/-- The read of a snapshot finds none only where no text is stored: one that is no
    snapshot is an error. -/
theorem blob?_of_getSnapshot (h : b.getSnapshot c = .ok none) : b.blob? c = none := by
  cases b with
  | process versions snapshots memory =>
    simp only [getSnapshot, Except.ok.injEq] at h
    simp only [blob?, holding, Holding.blob?, h, Option.map_none]
  | database db ttl =>
    obtain ⟨_, -, hget⟩ := bind_eq_ok.1 (mapError_eq_ok.1 h)
    split at hget
    · rename_i hnone
      exact hnone
    · split at hget <;> cases hget

/-! ### Operations on other conversations -/

theorem holding_database {db db' : Database} {ttl ttl' : Int} (hspares : db.Spares db')
    (hmemory : db.SameMemory db' d) :
    (database db' ttl').holding d = (database db ttl).holding d := by
  simp only [holding, hspares.snapshots, hmemory.expiry, hmemory.rows]

theorem getMemory_others {now : Instant} {r : Backend × Bucket} (h : b.getMemory c now = .ok r)
    (hd : d ≠ c) :
    r.1.holding d = b.holding d := by
  cases b with
  | process versions snapshots memory =>
    cases h
    simp only [holding, memory.get?_evict_of_ne now hd]
  | database db ttl =>
    simp only [getMemory] at h
    split at h
    · rename_i hget
      cases h
      obtain ⟨_, hchecked⟩ := Database.getMemory_checked hget
      exact holding_database (Database.getMemory_spares hget) (hchecked.others hd)
    · cases h

theorem setMemory_others {contactId : String} {us : List Update} {writer : Writer} {now : Instant}
    {r : Backend × Option Nat} (h : b.setMemory c contactId us writer now = .ok r) (hd : d ≠ c) :
    r.1.holding d = b.holding d := by
  cases b with
  | process versions snapshots memory =>
    cases h
    show Holding.process _ ((memory.set now c contactId us writer).1.namespaces.get? d) = _
    rw [memory.get?_set_of_ne now hd]
    rfl
  | database db ttl =>
    simp only [setMemory] at h
    split at h
    · rename_i hset
      cases h
      exact holding_database (Database.setMemory_spares hset) (Database.setMemory_others hset hd)
    · cases h
      rfl
    · cases h

theorem deleteMemory_others (h : b.deleteMemory c = .ok b') (hd : d ≠ c) :
    b'.holding d = b.holding d := by
  cases b with
  | process versions snapshots memory =>
    cases h
    simp only [holding, Store.delete, Dict.get?_erase, if_neg hd]
  | database db ttl =>
    simp only [deleteMemory] at h
    split at h
    · rename_i hdrop
      cases h
      exact holding_database (Database.dropNamespace_spares hdrop)
        ((Database.dropNamespace_dropped hdrop).others hd)
    · cases h

/-- Putting a snapshot leaves all memory. -/
theorem putSnapshot_holding {x : Snapshot} (h : b.putSnapshot c x = .ok b') (d : String) :
    b'.holding d = if d = c then (b.holding d).withSnapshot (some x) else b.holding d := by
  cases b with
  | process versions snapshots memory =>
    cases h
    by_cases hd : d = c <;> simp [holding, hd, Holding.withSnapshot]
  | database db ttl =>
    simp only [putSnapshot] at h
    split at h
    · rename_i hput
      obtain ⟨_, -, hput⟩ := bind_eq_ok.1 hput
      cases hput
      cases h
      by_cases hd : d = c <;> simp [holding, hd, Holding.withSnapshot, Database.rows]
    · cases h

theorem deleteSnapshot_holding (h : b.deleteSnapshot c = .ok b') (d : String) :
    b'.holding d = if d = c then (b.holding d).withSnapshot none else b.holding d := by
  cases b with
  | process versions snapshots memory =>
    cases h
    by_cases hd : d = c <;> simp [holding, hd, Holding.withSnapshot]
  | database db ttl =>
    simp only [deleteSnapshot] at h
    split at h
    · rename_i hdelete
      obtain ⟨_, -, hdelete⟩ := bind_eq_ok.1 hdelete
      cases hdelete
      cases h
      by_cases hd : d = c <;> simp [holding, hd, Holding.withSnapshot, Database.rows]
    · cases h

theorem deleteSnapshot_opens (h : b.deleteSnapshot c = .ok b') (ho : b.Opens) : b'.Opens := by
  cases b with
  | process versions snapshots memory =>
    cases h
    trivial
  | database db ttl =>
    simp only [deleteSnapshot] at h
    split at h
    · rename_i hdelete
      obtain ⟨_, -, hdelete⟩ := bind_eq_ok.1 hdelete
      cases hdelete
      cases h
      exact ho
    · cases h

/-! ### Memory that is gone -/

theorem deleteMemory_forgets (h : b.deleteMemory c = .ok b') :
    (b'.holding c).Forgotten ∧ b'.Opens := by
  cases b with
  | process versions snapshots memory =>
    cases h
    exact ⟨by simp [holding, Holding.Forgotten, Store.delete], trivial⟩
  | database db ttl =>
    simp only [deleteMemory] at h
    split at h
    · rename_i db' hdrop
      cases h
      have hdropped := Database.dropNamespace_dropped hdrop
      refine ⟨⟨?_, ?_⟩, ?_⟩
      · intro source
        exact (hdropped.rows source c).trans (if_pos rfl)
      · rw [hdropped.expiries, Dict.get?_erase, if_pos rfl]
      · -- what the deletion needed of the tables is still there
        have hspares := Database.dropNamespace_spares hdrop
        obtain ⟨_, -, hdrop⟩ := bind_eq_ok.1 hdrop
        obtain ⟨_, htable, -⟩ := bind_eq_ok.1 hdrop
        simpa only [Opens, Database.needTable, hspares.missing] using htable
    · cases h

/-- A bucket of a conversation without memory reads as empty. -/
theorem getBucket_forgotten (hf : (b.holding c).Forgotten) (ho : b.Opens) (source : Source)
    (now : Instant) :
    b.getBucket c source now = .ok (b, .empty) := by
  cases b with
  | process versions snapshots memory =>
    have hnone : memory.namespaces.get? c = none := hf
    simp [getBucket, memory.evict_of_absent now hnone, Store.getBucket, Store.live?, hnone]
  | database db ttl =>
    have hnone : db.expiries.get? c = none := hf.2
    have htable : db.needTable .namespaces = .ok () := ho
    simp [getBucket, Database.getBucket, Database.checkLive, htable, hnone, bind, Except.bind, pure,
      Except.pure]

end Backend

/-! ### Operations -/

namespace Stores

/-- What is held of other conversations is the same. -/
def OnlyChanges (c : String) (s t : Stores) : Prop :=
  ∀ d, d ≠ c → t.backend.holding d = s.backend.holding d

variable {c : String}

theorem OnlyChanges.refl (s : Stores) : OnlyChanges c s s := fun _ _ => rfl

theorem OnlyChanges.trans {s t u : Stores} (h : OnlyChanges c s t) (h' : OnlyChanges c t u) :
    OnlyChanges c s u :=
  fun d hd => (h' d hd).trans (h d hd)

/-- An operation that fails is only logged. -/
theorem OnlyChanges.relogged (s : Stores) (log : List Operation) :
    OnlyChanges c s (s.relogged log) :=
  .refl s

variable (s : Stores) (c : String)

/-! Each operation is logged; it then fails and changes nothing, or succeeds as the backend does. -/

theorem getMemory_outcome : (∃ e, s.getMemory c = (s.relogged (.getMemory :: s.log), .error e)) ∨
    ∃ r, s.backend.getMemory c s.clock = .ok r ∧
      s.getMemory c = ({ s.relogged (.getMemory :: s.log) with backend := r.1 }, .ok r.2) := by
  unfold getMemory
  cases hfault : s.faults .getMemory with
  | some fault => exact .inl ⟨_, by simp only [attempt, hfault]; rfl⟩
  | none =>
    simp only [attempt, hfault]
    cases s.backend.getMemory c s.clock with
    | ok r => exact .inr ⟨r, rfl, rfl⟩
    | error e => exact .inl ⟨e, rfl⟩

theorem setMemory_outcome (contactId : String) (us : List Update) (writer : Writer) :
    (∃ e, s.setMemory c contactId us writer = (s.relogged (.setMemory :: s.log), .error e)) ∨
      ∃ r, s.backend.setMemory c contactId us writer s.clock = .ok r ∧
        s.setMemory c contactId us writer =
            ({ s.relogged (.setMemory :: s.log) with backend := r.1 }, .ok r.2) := by
  unfold setMemory
  cases hfault : s.faults .setMemory with
  | some fault => exact .inl ⟨_, by simp only [attempt, hfault]; rfl⟩
  | none =>
    simp only [attempt, hfault]
    cases s.backend.setMemory c contactId us writer s.clock with
    | ok r => exact .inr ⟨r, rfl, rfl⟩
    | error e => exact .inl ⟨e, rfl⟩

theorem deleteMemory_outcome :
    (∃ e, s.deleteMemory c = (s.relogged (.deleteMemory :: s.log), .error e)) ∨
    ∃ b, s.backend.deleteMemory c = .ok b ∧
      s.deleteMemory c = ({ s.relogged (.deleteMemory :: s.log) with backend := b }, .ok ()) := by
  unfold deleteMemory
  cases hfault : s.faults .deleteMemory with
  | some fault => exact .inl ⟨_, by simp only [attempt, hfault]; rfl⟩
  | none =>
    simp only [attempt, hfault]
    cases s.backend.deleteMemory c with
    | ok b => exact .inr ⟨b, rfl, rfl⟩
    | error e => exact .inl ⟨e, rfl⟩

theorem putSnapshot_outcome (x : Snapshot) :
    (∃ e, s.putSnapshot c x = (s.relogged (.putSnapshot :: s.log), .error e)) ∨
      ∃ b, s.backend.putSnapshot c x = .ok b ∧
        s.putSnapshot c x = ({ s.relogged (.putSnapshot :: s.log) with backend := b }, .ok ()) := by
  unfold putSnapshot
  cases hfault : s.faults .putSnapshot with
  | some fault => exact .inl ⟨_, by simp only [attempt, hfault]; rfl⟩
  | none =>
    simp only [attempt, hfault]
    cases s.backend.putSnapshot c x with
    | ok b => exact .inr ⟨b, rfl, rfl⟩
    | error e => exact .inl ⟨e, rfl⟩

theorem deleteSnapshot_outcome :
    (∃ e, s.deleteSnapshot c = (s.relogged (.deleteSnapshot :: s.log), .error e)) ∨
    ∃ b, s.backend.deleteSnapshot c = .ok b ∧
      s.deleteSnapshot c = ({ s.relogged (.deleteSnapshot :: s.log) with backend := b },
          .ok ()) := by
  unfold deleteSnapshot
  cases hfault : s.faults .deleteSnapshot with
  | some fault => exact .inl ⟨_, by simp only [attempt, hfault]; rfl⟩
  | none =>
    simp only [attempt, hfault]
    cases s.backend.deleteSnapshot c with
    | ok b => exact .inr ⟨b, rfl, rfl⟩
    | error e => exact .inl ⟨e, rfl⟩

theorem getMemory_onlyChanges : OnlyChanges c s (s.getMemory c).1 := by
  rcases s.getMemory_outcome c with ⟨e, h⟩ | ⟨r, hget, h⟩
  · rw [h]
    exact .relogged s _
  · rw [h]
    exact fun d hd => Backend.getMemory_others hget hd

theorem setMemory_onlyChanges (contactId : String) (us : List Update) (writer : Writer) :
    OnlyChanges c s (s.setMemory c contactId us writer).1 := by
  rcases s.setMemory_outcome c contactId us writer with ⟨e, h⟩ | ⟨r, hset, h⟩
  · rw [h]
    exact .relogged s _
  · rw [h]
    exact fun d hd => Backend.setMemory_others hset hd

theorem deleteMemory_onlyChanges : OnlyChanges c s (s.deleteMemory c).1 := by
  rcases s.deleteMemory_outcome c with ⟨e, h⟩ | ⟨b, hdelete, h⟩
  · rw [h]
    exact .relogged s _
  · rw [h]
    exact fun d hd => Backend.deleteMemory_others hdelete hd

theorem putSnapshot_onlyChanges (x : Snapshot) : OnlyChanges c s (s.putSnapshot c x).1 := by
  rcases s.putSnapshot_outcome c x with ⟨e, h⟩ | ⟨b, hput, h⟩
  · rw [h]
    exact .relogged s _
  · rw [h]
    exact fun d hd => (Backend.putSnapshot_holding hput d).trans (if_neg hd)

theorem deleteSnapshot_onlyChanges : OnlyChanges c s (s.deleteSnapshot c).1 := by
  rcases s.deleteSnapshot_outcome c with ⟨e, h⟩ | ⟨b, hdelete, h⟩
  · rw [h]
    exact .relogged s _
  · rw [h]
    exact fun d hd => (Backend.deleteSnapshot_holding hdelete d).trans (if_neg hd)

/-- Storing a change puts the snapshot of the changed session. -/
theorem commit_stores (before after : Session) (r : Reply) :
    (s.commit before after r).1 = (s.putSnapshot after.conversationId after.snapshot).1 := by
  unfold commit persist
  rcases s.putSnapshot after.conversationId after.snapshot with ⟨t, _ | _⟩ <;> rfl

theorem commit_onlyChanges (before after : Session) (r : Reply) :
    OnlyChanges after.conversationId s (s.commit before after r).1 := by
  rw [commit_stores]
  exact s.putSnapshot_onlyChanges after.conversationId after.snapshot

theorem clear_onlyChanges : OnlyChanges c s (s.clear c).1 :=
  (s.deleteMemory_onlyChanges c).trans ((s.deleteMemory c).1.deleteSnapshot_onlyChanges c)

end Stores

namespace Actor

variable (hooks : Hooks) (s : Stores) (x : Session)

theorem handleRequest_onlyChanges (target : String) :
    Stores.OnlyChanges x.conversationId s (handleRequest s x target).1 := by
  have hread := s.getMemory_onlyChanges x.conversationId
  unfold handleRequest
  split
  · rename_i hget
    rwa [hget] at hread
  · rename_i t facts hget
    rw [hget] at hread
    have hid := x.conversationId_request target facts.facts
    split
    · rename_i after task hrequest
      rw [hrequest] at hid
      exact hread.trans (hid ▸ t.commit_onlyChanges x after _)
    · exact hread

theorem handleUpdate_onlyChanges (contactId : String) (us : List Update) (writer : Writer) :
    Stores.OnlyChanges x.conversationId s (handleUpdate s x contactId us writer).1 := by
  have hwrite := s.setMemory_onlyChanges x.conversationId contactId us writer
  unfold handleUpdate
  split
  · exact .refl s
  · split <;> rename_i hset <;> rwa [hset] at hwrite

theorem handleEnd_onlyChanges (c : ContactEnd) :
    Stores.OnlyChanges x.conversationId s (handleEnd hooks s x c).1 := by
  unfold handleEnd
  split
  · exact .refl s
  · rename_i after outcome hend
    obtain ⟨-, hcontext, -⟩ := Session.endContact_cases hend
    have hid : after.conversationId = x.conversationId := congrArg Context.conversationId hcontext
    cases outcome.decision with
    | keepAlive => exact hid ▸ s.commit_onlyChanges x after _
    | close =>
      have hclear := s.clear_onlyChanges x.conversationId
      simp only
      split <;> rename_i h <;> rwa [h] at hclear

/-- A command changes nothing but what is held of the conversation of the session. -/
theorem handle_onlyChanges (c : Command) :
    Stores.OnlyChanges x.conversationId s (handle hooks s x c).1 := by
  cases c with
  | request target => exact handleRequest_onlyChanges s x target
  | beginContact contactId =>
    exact x.conversationId_beginContact contactId ▸ s.commit_onlyChanges x
      (x.beginContact contactId) _
  | endContact c => exact handleEnd_onlyChanges hooks s x c
  | updateMemory contactId us writer => exact handleUpdate_onlyChanges s x contactId us writer
  | currentTask => exact .refl s
  | snapshot => exact .refl s
  | shutdown => exact .refl s

end Actor

/-! ### Looking a conversation up -/

namespace Manager

variable (w : Manager)

theorem definition_relogged (f v : String) :
    ∃ log, (w.definition f v).1.stores = w.stores.relogged log := by
  rcases w.definition_cases f v with ⟨m, -, h⟩ | ⟨-, -, hok, herror⟩
  · rw [h]
    exact ⟨w.stores.log, rfl⟩
  · obtain ⟨log, hlog⟩ := w.stores.getVersion_relogged f v
    refine ⟨log, ?_⟩
    cases hr : (w.definition f v).2 with
    | error e => rw [herror e hr, ← hlog]
    | ok m => rw [hok m hr, ← hlog]

theorem spawn_stores (x : Session) : (w.spawn x).1.stores = w.stores := by
  simp only [spawn]
  split
  · rfl
  · split <;> rfl

theorem load_relogged (c : String) : ∃ log, (w.load c).1.stores = w.stores.relogged log := by
  obtain ⟨log, hlog⟩ := w.stores.getSnapshot_relogged c
  unfold load
  rcases hget : w.stores.getSnapshot c with ⟨t, e | _ | s⟩
  all_goals
    obtain rfl : t = w.stores.relogged log := by rw [← hlog, hget]
  · exact ⟨log, rfl⟩
  · exact ⟨log, rfl⟩
  · obtain ⟨log', hlog'⟩ := (w.relogged log).definition_relogged s.flowId s.versionId
    refine ⟨log', ?_⟩
    simp only
    split
    · rename_i u e hdef
      rw [show u = _ from congrArg Prod.fst hdef.symm]
      exact hlog'
    · rename_i u m hdef
      have hu : u.stores = w.stores.relogged log' := by
        rw [show u = _ from congrArg Prod.fst hdef.symm]
        exact hlog'
      split
      · exact hu
      · exact (u.spawn_stores _).trans hu

/-- A conversation is looked up without any change to what is held. -/
theorem find_relogged (c : String) : ∃ log, (w.find c).1.stores = w.stores.relogged log := by
  unfold find
  split
  · exact ⟨w.stores.log, rfl⟩
  · exact w.load_relogged c

theorem findOrStart_relogged (n : NewContact) :
    ∃ log, (w.findOrStart n).1.stores = w.stores.relogged log := by
  obtain ⟨log, hlog⟩ := w.find_relogged n.conversationId
  unfold findOrStart
  rcases hfind : w.find n.conversationId with ⟨u, e | _ | key⟩
  all_goals
    have hu : u.stores = w.stores.relogged log := by rw [← hlog, hfind]
  · exact ⟨log, hu⟩
  · obtain ⟨log', hlog'⟩ := u.definition_relogged n.flowId n.versionId
    rw [hu] at hlog'
    refine ⟨log', ?_⟩
    simp only
    rcases hdef : u.definition n.flowId n.versionId with ⟨u', e | m⟩
    all_goals
      rw [hdef] at hlog'
    · exact hlog'
    · exact (u'.spawn_stores _).trans hlog'
  · exact ⟨log, hu⟩

end Manager
end Dialogue.Live
