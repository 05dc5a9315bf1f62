import Dialogue.Proofs.Live.Unloading
import Dialogue.Proofs.Live.Holdings

/-! # Stored conversations are not started again

    A conversation without an actor starts afresh only where the read of its snapshot finds none.
    With a text stored for it, the text is read as a snapshot, a machine is found for it and the
    snapshot fits the machine; then the call goes to an actor in the state that the text tells of.
    Each of these may fail, and the call is refused and changes nothing
    (`stored_conversation_goes_on`). -/

namespace Dialogue.Live

open Time Dialogue.Flow Conversation StateMachine Memory

/-- Why a conversation is not taken up. -/
inductive Refusal (mailboxSize : Nat) : RuntimeError → Prop
  /-- Its snapshot is corrupt, or does not fit the machine. -/
  | resume (e : ResumeError) : Refusal mailboxSize (.resume e)
  | compile (e : CompileError) : Refusal mailboxSize (.compile e)
  | versionNotFound (flowId versionId : String) :
      Refusal mailboxSize (.versionNotFound flowId versionId)
  | flowSource (reason : String) : Refusal mailboxSize (.flowSource reason)
  | snapshot (reason : String) : Refusal mailboxSize (.snapshot reason)
  /-- No mailbox can be made, so no conversation has an actor. -/
  | mailboxTooLarge : largestMailbox < mailboxSize →
      Refusal mailboxSize (.mailboxTooLarge mailboxSize)

/-! ### Refusals -/

theorem Backend.getSnapshot_refusal {b : Backend} {c : String} {e : RuntimeError}
    (h : b.getSnapshot c = .error e) (size : Nat) : Refusal size e := by
  cases b with
  | process versions snapshots memory => cases h
  | database db ttl =>
    obtain ⟨e', -, rfl⟩ := mapError_eq_error.1 h
    split
    · exact .resume _
    · exact .snapshot _

theorem Stores.getSnapshot_refusal {s : Stores} {c : String} {e : RuntimeError}
    (h : (s.getSnapshot c).2 = .error e) (size : Nat) : Refusal size e := by
  unfold getSnapshot at h
  cases hfault : s.faults .getSnapshot with
  | some fault =>
    simp only [attempt, hfault, Except.error.injEq] at h
    subst h
    exact .snapshot _
  | none =>
    simp only [attempt, hfault] at h
    exact Backend.getSnapshot_refusal h size

/-- No snapshot is found where none is stored. -/
theorem Stores.blob?_of_getSnapshot {s : Stores} {c : String} (h : (s.getSnapshot c).2 = .ok none) :
    s.backend.blob? c = none := by
  unfold getSnapshot at h
  cases hfault : s.faults .getSnapshot with
  | some fault => simp [attempt, hfault] at h
  | none =>
    simp only [attempt, hfault] at h
    exact Backend.blob?_of_getSnapshot h

theorem Stores.getVersion_refusal {s : Stores} {f v : String} {e : RuntimeError}
    (h : (s.getVersion f v).2 = .error e) (size : Nat) : Refusal size e := by
  unfold getVersion at h
  cases hfault : s.faults .getVersion with
  | some fault =>
    simp only [attempt, hfault, Except.error.injEq] at h
    subst h
    exact .flowSource _
  | none =>
    simp only [attempt, hfault] at h
    cases hb : s.backend with
    | process versions snapshots memory =>
      rw [hb] at h
      cases h
    | database db ttl =>
      rw [hb] at h
      obtain ⟨e', -, rfl⟩ := mapError_eq_error.1 h
      exact .flowSource _

namespace Manager

variable {w w' : Manager} {c : String}

theorem definition_refusal {f v : String} {e : RuntimeError} (h : (w.definition f v).2 = .error e)
    (size : Nat) :
    Refusal size e := by
  rcases w.definition_cases f v with ⟨m, -, hd⟩ | ⟨-, hread, -, -⟩
  · rw [hd] at h
    cases h
  · rw [hread] at h
    unfold compileRead at h
    split at h
    · rename_i e' hversion
      cases h
      exact Stores.getVersion_refusal hversion size
    · cases h
      exact .versionNotFound _ _
    · obtain ⟨e', -, rfl⟩ := mapError_eq_error.1 h
      exact .compile _

theorem spawn_refusal {x : Session} {e : RuntimeError} (h : (w.spawn x).2 = .error e) :
    Refusal w.mailboxSize e := by
  simp only [spawn] at h
  split at h
  · cases h
  · split at h
    · cases h
    · rename_i hsize
      cases h
      exact .mailboxTooLarge (Nat.lt_of_not_le hsize)

/-- A look-up that finds nothing has reasons: nothing is stored of the conversation, or
    it is refused. -/
def Explained (w : Manager) (c : String) : Except RuntimeError (Option String) → Prop
  | .error e => Refusal w.mailboxSize e
  | .ok none => w.stores.backend.blob? c = none
  | .ok (some _) => True

theorem spawn_explained {u : Manager} (x : Session) (hsize : u.mailboxSize = w.mailboxSize) :
    w.Explained c ((u.spawn x).2.map some) := by
  cases hspawn : (u.spawn x).2 with
  | ok key => trivial
  | error e =>
    have hrefused := spawn_refusal hspawn
    rw [hsize] at hrefused
    exact hrefused

theorem load_explained (w : Manager) (c : String) : w.Explained c (w.load c).2 := by
  unfold load
  rcases hget : w.stores.getSnapshot c with ⟨t, e | _ | s⟩
  · exact Stores.getSnapshot_refusal (by rw [hget]) _
  · exact Stores.blob?_of_getSnapshot (by rw [hget])
  · have hsize :=
      (({ w with stores := t } : Manager).definition_consulted s.flowId s.versionId).mailboxSize
    simp only
    rcases hdef : ({ w with stores := t } : Manager).definition s.flowId s.versionId with ⟨u, e | m⟩
    all_goals
      rw [hdef] at hsize
      simp only
    · exact definition_refusal (congrArg Prod.snd hdef) _
    · cases Session.resume m s with
      | error e => exact .resume e
      | ok x => exact spawn_explained x hsize

theorem find_explained (w : Manager) (c : String) : w.Explained c (w.find c).2 := by
  unfold find
  split
  · trivial
  · exact w.load_explained c

/-! ### Taking a conversation up -/

/-- The conversation has got an actor in the state that its snapshot tells of, and
    nothing is written. -/
structure TakenUp (w : Manager) (c : String) (s : Snapshot) (x : Session) (u : Manager) : Prop where
  state : x.state = s.state
  machine : u.definitions.get? (machineId s.flowId s.versionId) = some x.machine
  fingerprint : s.fingerprint = x.machine.fingerprint
  actors : u.actors = w.actors.insert c (.live x)
  hooks : u.hooks = w.hooks
  stores : ∃ log, u.stores = w.stores.relogged log

/-- A conversation without an actor, of which a text is stored, is taken up, or nothing happens. -/
theorem find_stored {blob : String} (hactor : w.actors.get? c = none)
    (hblob : w.stores.backend.blob? c = some blob)
    (hid : ∀ s, Snapshot.ofBlob blob = .ok s → s.context.conversationId = c) :
    (∃ s x u, Snapshot.ofBlob blob = .ok s ∧ w.TakenUp c s x u ∧ w.find c = (u, .ok (some c))) ∨
      ∃ u e, w.find c = (u, .error e) ∧ Refusal w.mailboxSize e ∧ u.actors = w.actors ∧
        u.stores.backend = w.stores.backend := by
  have hstored : w.stores.stored c = (Snapshot.ofBlob blob).toOption := by
    rw [Stores.stored, Backend.stored_eq, hblob]
    rfl
  -- a snapshot that is stored is the text that was read
  have hread : ∀ s, w.stores.stored c = some s → Snapshot.ofBlob blob = .ok s := by
    intro s hs
    rw [hstored] at hs
    cases hof : Snapshot.ofBlob blob with
    | error e => simp [hof, Except.toOption] at hs
    | ok s' => simpa [hof, Except.toOption] using hs
  obtain ⟨log, hlog⟩ := w.find_relogged c
  have hexplained := w.find_explained c
  have hfound := found_find fun s hs => hid s (hread s hs)
  cases hf : w.find c with
  | mk u r =>
    rw [hf] at hfound hlog hexplained
    cases hfound with
    -- there is no actor yet
    | there hthere =>
      rw [hactor] at hthere
      cases hthere
    | failed _ hc =>
      refine .inr ⟨u, _, rfl, hexplained, hc.actors, ?_⟩
      rw [show u.stores = w.stores.relogged log from hlog]
      rfl
    -- and something is stored
    | unknown _ _ _ =>
      have hnone : w.stores.backend.blob? c = none := hexplained
      rw [hblob] at hnone
      cases hnone
    | @loaded u s m x _ hc hs hm hx =>
      obtain ⟨hfingerprint, -, rfl⟩ := Session.resume_eq_ok.1 hx
      refine .inl ⟨s, ⟨m, s.state⟩, { u with actors := u.actors.insert c (.live ⟨m, s.state⟩) },
        hread s hs, ⟨rfl, hm, hfingerprint, ?_, hc.hooks, log, hlog⟩, rfl⟩
      rw [hc.actors]

/-! ### Calls -/

/-- A call on a conversation that neither begins nor unloads it sends a command. A conversation that
    this closes is taken out of the registry. -/
theorem call_eq_command (w : Manager) {call : Call} {cmd : Command}
    (ht : call.target = some (c, cmd)) (hbegin : ∀ n, call ≠ .begin n)
    (hunload : call ≠ .unload c) :
    w.call call = w.command c cmd ∨ closes (w.command c cmd).2 = true ∧ w.call call =
      ({ (w.command c cmd).1 with actors := (w.command c cmd).1.actors.erase c },
          (w.command c cmd).2) := by
  cases call with
  | begin n => exact absurd rfl (hbegin n)
  | endContact k e =>
    cases ht
    simp only [Manager.call]
    split
    · rename_i hcloses
      exact .inr ⟨hcloses, rfl⟩
    · exact .inl rfl
  | unload k =>
    cases ht
    exact absurd rfl hunload
  | request k target => cases ht; exact .inl rfl
  | update k contactId us writer => cases ht; exact .inl rfl
  | currentTask k => cases ht; exact .inl rfl
  | snapshot k => cases ht; exact .inl rfl
  | definition f v => cases ht
  | runningCount => cases ht

/-- What comes of a call with the command on a conversation without an actor, of which
    the text is stored. -/
inductive GoesOn (w : Manager) (c blob : String) (cmd : Command) : Manager × Answer → Prop
  /-- An actor takes the conversation up where it was left, and handles the command. If that closes
      the conversation, the actor is taken out of the registry. -/
  | takenUp {s : Snapshot} {x : Session} {u w' : Manager} : Snapshot.ofBlob blob = .ok s →
      w.TakenUp c s x u → w'.stores = (u.send c cmd).1.stores →
      (w'.actors.get? c = (u.send c cmd).1.actors.get? c ∨ closes (u.send c cmd).2 = true ∧
        w'.actors.get? c = none) →
      GoesOn w c blob cmd (w', (u.send c cmd).2)
  /-- The call is refused; the text and all else that is held is left. -/
  | refused {w' : Manager} {e : RuntimeError} : Refusal w.mailboxSize e → w'.actors = w.actors →
      w'.stores.backend = w.stores.backend → GoesOn w c blob cmd (w', .error e)

variable {blob : String}

theorem command_goesOn (hactor : w.actors.get? c = none)
    (hblob : w.stores.backend.blob? c = some blob)
    (hid : ∀ s, Snapshot.ofBlob blob = .ok s → s.context.conversationId = c) (cmd : Command) :
    w.GoesOn c blob cmd (w.command c cmd) := by
  unfold command
  rcases find_stored hactor hblob hid with ⟨s, x, u, hs, htaken, hf⟩ | ⟨u, e, hf, he, hactors,
    hbackend⟩
  · rw [hf]
    exact .takenUp hs htaken rfl (.inl rfl)
  · rw [hf]
    exact .refused he hactors hbackend

theorem call_goesOn {call : Call} {cmd : Command} (hactor : w.actors.get? c = none)
    (hblob : w.stores.backend.blob? c = some blob)
    (hid : ∀ s, Snapshot.ofBlob blob = .ok s → s.context.conversationId = c)
    (ht : call.target = some (c, cmd)) (hunload : call ≠ .unload c) :
    w.GoesOn c blob cmd (w.call call) := by
  -- a contact that begins is looked up by itself, all other calls send a command
  by_cases hbegin : ∃ n, call = .begin n
  · obtain ⟨n, rfl⟩ := hbegin
    cases ht
    simp only [Manager.call, findOrStart]
    rcases find_stored hactor hblob hid with ⟨s, x, u, hs, htaken, hf⟩ | ⟨u, e, hf, he, hactors,
      hbackend⟩
    · rw [hf]
      exact .takenUp hs htaken rfl (.inl rfl)
    · rw [hf]
      exact .refused he hactors hbackend
  · have hgoes := command_goesOn hactor hblob hid cmd
    rcases w.call_eq_command ht (fun n hn => hbegin ⟨n, hn⟩) hunload with hcall | ⟨hcloses, hcall⟩
    · rw [hcall]
      exact hgoes
    · rw [hcall]
      cases hr : w.command c cmd with
      | mk w₁ a =>
        rw [hr] at hgoes hcloses
        cases hgoes with
        | takenUp hs htaken hstores _ =>
          exact .takenUp hs htaken hstores (.inr ⟨hcloses, by rw [Dict.get?_erase, if_pos rfl]⟩)
        -- a refusal closes nothing
        | refused he _ _ => cases he <;> cases hcloses

/-- After a contact that was begun the actor differs from the snapshot in its contacts alone. -/
theorem send_begin {s : Snapshot} {x y : Session} {u : Manager} {contactId : String}
    (h : w.TakenUp c s x u)
    (hy : (u.send c (.beginContact contactId)).1.actors.get? c = some (.live y)) :
    y.state = s.state ∨ y.state = s.state.attach contactId := by
  have hx : u.actors.get? c = some (.live x) := by rw [h.actors, Dict.get?_insert, if_pos rfl]
  simp only [send, hx, Actor.handle] at hy
  rcases u.stores.commit_cases x (x.beginContact contactId)
      (.task (x.beginContact contactId).currentTask?) with
    ⟨t, reason, hc, -⟩ | ⟨t, hc, -⟩
  all_goals
    rw [hc] at hy
    simp only [Dict.get?_insert, if_true, Option.some.injEq, Actor.live.injEq] at hy
    subst hy
  · exact .inl h.state
  · exact .inr (congrArg (ConversationState.attach · contactId) h.state)

/-- A conversation of which anything is stored is never started again: a call on it, for
    whatever flow version and channel, goes to an actor in the state that the snapshot tells
    of, or is refused and changes nothing. A contact that begins changes no more than the
    contacts of that state. -/
theorem stored_conversation_goes_on (call : Call) {cmd : Command} (hactor : w.actors.get? c = none)
    (hblob : w.stores.backend.blob? c = some blob)
    (hid : ∀ s, Snapshot.ofBlob blob = .ok s → s.context.conversationId = c)
    (ht : call.target = some (c, cmd)) (hunload : call ≠ .unload c) :
    w.GoesOn c blob cmd (w.call call) ∧
      ∀ n y, call = .begin n → (w.call call).1.actors.get? c = some (.live y) →
        ∃ s contactId ids, Snapshot.ofBlob blob = .ok s ∧
          y.state = { s.state with
              context := { s.context with contactId, previousContactIds := ids } } := by
  have hgoes := call_goesOn hactor hblob hid ht hunload
  refine ⟨hgoes, ?_⟩
  rintro n y rfl hy
  cases ht
  cases hr : w.call (.begin n) with
  | mk w' a =>
    rw [hr] at hgoes hy
    -- the actor after the call is the one after the command, unless that has closed the
    -- conversation
    cases hgoes with
    | @takenUp s x u _ hs htaken _ hactors =>
      have hsent :
          (u.send n.conversationId (.beginContact n.contactId)).1.actors.get? n.conversationId =
          some (.live y) := by
        rcases hactors with hsame | ⟨-, hnone⟩
        · rw [← hsame, hy]
        · rw [hnone] at hy
          cases hy
      rcases send_begin htaken hsent with hkept | hattached
      · exact ⟨s, s.context.contactId, s.context.previousContactIds, hs, hkept⟩
      · exact ⟨s, n.contactId, _, hs, hattached.trans (s.state.attach_eq n.contactId)⟩
    | refused _ hactors _ =>
      rw [hactors, hactor] at hy
      cases hy

/-- A visitor who has been unloaded, and comes back on another channel for another flow. -/
def comingBack : NewContact := ⟨"c1", "k2", "complaint", "v9", .chat⟩

/-- The manager once the visitor has been unloaded. -/
def unloadedManager : Manager := bookingManager.run [.call (.begin visitor), .call (.unload "c1")]

/-- The snapshot of the visitor. -/
def visitSnapshot : Snapshot :=
  (visitor.start .epoch (machineOf (booking [] "") (welcome ""))).snapshot

theorem stored_unloaded : unloadedManager.stores.stored "c1" = some visitSnapshot := rfl

/-- The visitor goes on with the booking; where the snapshot cannot be read, the
    visitor is refused. -/
theorem visitor_goes_on :
    let unread : Manager :=
      { unloadedManager with stores := failing .getSnapshot unloadedManager.stores }
    (unloadedManager.find "c1").2 = .ok (some "c1") ∧
      unloadedManager.GoesOn "c1" visitSnapshot.blob (.beginContact "k2")
        (unloadedManager.call (.begin comingBack)) ∧
      (unread.call (.begin comingBack)).2 = .error (.snapshot "full") ∧
      unread.GoesOn "c1" visitSnapshot.blob (.beginContact "k2")
          (unread.call (.begin comingBack)) := by
  intro unread
  have hid : ∀ s, Snapshot.ofBlob visitSnapshot.blob = .ok s → s.context.conversationId = "c1" := by
    intro s hs
    rw [Snapshot.ofBlob_blob] at hs
    cases hs
    rfl
  have hblob : unloadedManager.stores.backend.blob? "c1" = some visitSnapshot.blob :=
    congrArg (Option.map Snapshot.blob) stored_unloaded
  refine ⟨?_, ?_, rfl, ?_⟩
  -- the visit has left the manager settled, so that the snapshot is taken up
  · have hfresh : bookingManager.Settled := settled_fresh (fun _ => rfl) _ _
    have hsettled : unloadedManager.Settled :=
      (hfresh.call working_booking noneBreaksDown_of_none (.begin visitor)).erasing "c1"
    have hworking : unloadedManager.stores.Working :=
      working_booking.keeps (hfresh.sound.call_keeps (.begin visitor)).1
    obtain ⟨x, hx⟩ := hsettled.kept "c1" visitSnapshot stored_unloaded
    obtain ⟨log, hfind⟩ := find_kept hsettled hworking hx
    rw [hfind]
  · exact (stored_conversation_goes_on (.begin comingBack) rfl hblob hid rfl (by simp)).1
  · exact (stored_conversation_goes_on (w := unread) (.begin comingBack) rfl hblob hid rfl
      (by simp)).1

end Manager
end Dialogue.Live
