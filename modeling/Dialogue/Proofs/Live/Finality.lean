import Dialogue.Proofs.Live.Isolation
import Dialogue.Proofs.Live.TakenUp

/-! # Closing is final

    A conversation that closes loses its memory, its snapshot and its actor (`Manager.Closed`).
    Without a snapshot and an actor it is not found, whatever the other conversations do, until a
    contact starts it again; and it then starts from nothing (`closing_is_final`). -/

namespace Dialogue.Live

open Time Dialogue.Flow Conversation StateMachine Memory

namespace Stores

variable {s : Stores} {c : String}

/-! ### What is deleted -/

/-- The snapshot of the conversation can be deleted, once the deletion of its memory
    has been tried. -/
def SnapshotGoes (s : Stores) (c : String) : Prop :=
  ((s.deleteMemory c).1.deleteSnapshot c).2 = .ok ()

theorem clear_stores (s : Stores) (c : String) :
    (s.clear c).1 = ((s.deleteMemory c).1.deleteSnapshot c).1 :=
  rfl

/-- Both deletions are tried. -/
theorem clear_log (s : Stores) (c : String) :
    (s.clear c).1.log = .deleteSnapshot :: .deleteMemory :: s.log := by
  have hmemory : (s.deleteMemory c).1.log = .deleteMemory :: s.log := by
    rcases s.deleteMemory_outcome c with ⟨e, h⟩ | ⟨b, -, h⟩ <;> rw [h] <;> rfl
  rw [clear_stores, ← hmemory]
  rcases (s.deleteMemory c).1.deleteSnapshot_outcome c with ⟨e, h⟩ | ⟨b, -, h⟩ <;> rw [h] <;> rfl

/-- A deletion that succeeds has been made in the backend. -/
theorem deleteMemory_ok (h : (s.deleteMemory c).2 = .ok ()) :
    s.backend.deleteMemory c = .ok (s.deleteMemory c).1.backend := by
  rcases s.deleteMemory_outcome c with ⟨e, hr⟩ | ⟨b, hb, hr⟩
  · rw [hr] at h
    cases h
  · rw [hr]
    exact hb

theorem deleteSnapshot_ok (h : (s.deleteSnapshot c).2 = .ok ()) :
    s.backend.deleteSnapshot c = .ok (s.deleteSnapshot c).1.backend := by
  rcases s.deleteSnapshot_outcome c with ⟨e, hr⟩ | ⟨b, hb, hr⟩
  · rw [hr] at h
    cases h
  · rw [hr]
    exact hb

theorem clear_removes (h : s.SnapshotGoes c) : (s.clear c).1.backend.blob? c = none := by
  have hdelete := deleteSnapshot_ok h
  rw [Backend.blob?, clear_stores, Backend.deleteSnapshot_holding hdelete, if_pos rfl,
    Holding.blob?_withSnapshot]
  rfl

/-- Without a reason both deletions have succeeded. -/
theorem clear_eq_nil (h : (s.clear c).2 = []) :
    (s.deleteMemory c).2 = .ok () ∧ s.SnapshotGoes c := by
  unfold clear SnapshotGoes at *
  cases hmemory : (s.deleteMemory c).2 with
  | error e => simp [hmemory, Except.mapError] at h
  | ok =>
    cases hsnapshot : ((s.deleteMemory c).1.deleteSnapshot c).2 with
    | error reason => simp [hsnapshot] at h
    | ok => exact ⟨rfl, rfl⟩

theorem clear_forgets (h : (s.clear c).2 = []) :
    ((s.clear c).1.backend.holding c).Forgotten ∧ (s.clear c).1.backend.Opens := by
  obtain ⟨hmemory, hsnapshot⟩ := clear_eq_nil h
  obtain ⟨hforgotten, hopens⟩ := Backend.deleteMemory_forgets (deleteMemory_ok hmemory)
  have hdelete := deleteSnapshot_ok hsnapshot
  rw [clear_stores]
  refine ⟨?_, Backend.deleteSnapshot_opens hdelete hopens⟩
  rw [Backend.deleteSnapshot_holding hdelete, if_pos rfl]
  exact (Holding.forgotten_withSnapshot _ _).2 hforgotten

/-- Putting a snapshot leaves memory. -/
theorem putSnapshot_forgotten (s : Stores) (h : (s.backend.holding c).Forgotten) (k : String)
    (x : Snapshot) :
    ((s.putSnapshot k x).1.backend.holding c).Forgotten := by
  rcases s.putSnapshot_outcome k x with ⟨e, hr⟩ | ⟨b, hput, hr⟩
  · rw [hr]
    exact h
  · rw [hr]
    simp only
    rw [Backend.putSnapshot_holding hput]
    split
    · exact (Holding.forgotten_withSnapshot _ _).2 h
    · exact h

end Stores

namespace Manager

variable {w w' : Manager} {c : String}

/-! ### The end of a contact that closes -/

/-- The conversation has been closed: its memory and its snapshot have been cleared, and the answer
    says whether that succeeded. -/
structure Closed (w : Manager) (c : String) (o : ClosureOutcome) (w' : Manager) (answer : Answer) :
    Prop where
  decision : o.decision = .close
  stores : ∃ log, w'.stores = ((w.stores.relogged log).clear c).1
  answer : (w.stores.clear c).2 = [] ∧ answer = .ok (.closure o) ∨
    (w.stores.clear c).2 ≠ [] ∧ ∃ reason, answer = .error (.cleanupFailed c o reason)

theorem send_closed (hw : w.Sound) {e : ContactEnd}
    (h : closes (w.send c (.endContact e)).2 = true) :
    ∃ o, w.Closed c o (w.send c (.endContact e)).1 (w.send c (.endContact e)).2 := by
  unfold send at *
  split at h
  · rename_i x hx
    have hid : x.conversationId = c := (hw.fits c x hx).id
    simp only [Actor.handle, Actor.handleEnd] at h ⊢
    cases hend : x.endContact w.hooks e w.stores.clock with
    | none => simp [hend, closes] at h
    | some r =>
      obtain ⟨y, o⟩ := r
      simp only [hend] at h ⊢
      cases hd : o.decision with
      -- an end that keeps the conversation is not answered by its closing
      | keepAlive =>
        simp only [hd] at h
        rcases w.stores.commit_cases x y (.closure o) with ⟨t, reason, hc, -⟩ | ⟨t, hc, -⟩
        · simp [hc, closes] at h
        · simp [hc, closes, hd] at h
      | close =>
        simp only [hd, hid] at h ⊢
        refine ⟨o, ?_⟩
        -- the answer tells whether both deletions have succeeded
        cases hclear : w.stores.clear c with
        | mk t reasons =>
          have hstores : t = ((w.stores.relogged w.stores.log).clear c).1 := by
            rw [show w.stores.relogged w.stores.log = w.stores from rfl, hclear]
          cases reasons with
          | nil => exact ⟨hd, ⟨_, hstores⟩, .inl ⟨by rw [hclear], rfl⟩⟩
          | cons reason reasons => exact ⟨hd, ⟨_, hstores⟩, .inr ⟨by simp [hclear], _, rfl⟩⟩
  · simp [closes] at h

theorem Closed.consulted {u : Manager} {o : ClosureOutcome} {a : Answer} {log : List Operation}
    (hu : u.stores = w.stores.relogged log) (h : u.Closed c o w' a) : w.Closed c o w' a where
  decision := h.decision
  stores := by
    obtain ⟨log', hlog⟩ := h.stores
    refine ⟨log', ?_⟩
    rw [hlog, hu]
    rfl
  answer := by
    obtain ⟨log', hlog⟩ := w.stores.clear_agree log c
    have hreasons : (u.stores.clear c).2 = (w.stores.clear c).2 := by rw [hu, hlog]
    rw [← hreasons]
    exact h.answer

/-- Only an actor closes a conversation: nothing that keeps a command from an actor
    says that it has. -/
theorem command_closed (hw : w.Sound) {e : ContactEnd}
    (h : closes (w.command c (.endContact e)).2 = true) :
    ∃ o, w.Closed c o (w.command c (.endContact e)).1 (w.command c (.endContact e)).2 := by
  obtain ⟨log, hlog⟩ := w.find_relogged c
  have hexplained := w.find_explained c
  have hfound := found_find (hw.storedUnder c)
  unfold command at *
  rcases hf : w.find c with ⟨u, e' | _ | key⟩
  all_goals
    rw [hf] at h hlog hexplained hfound
  -- the look-up was refused
  · have hrefusal : Refusal w.mailboxSize e' := hexplained
    cases hrefusal <;> cases h
  -- the conversation is unknown
  · cases h
  -- the command has reached an actor
  · obtain ⟨rfl, -⟩ := found_state hfound
    obtain ⟨o, ho⟩ := send_closed (hw.found hfound) h
    exact ⟨o, ho.consulted hlog⟩

theorem call_closed (hw : w.Sound) {e : ContactEnd}
    (h : closes (w.call (.endContact c e)).2 = true) :
    (w.call (.endContact c e)).1.actors.get? c = none ∧
      ∃ o, w.Closed c o (w.call (.endContact c e)).1 (w.call (.endContact c e)).2 := by
  have hanswer : closes (w.command c (.endContact e)).2 = true := h
  have hcall : w.call (.endContact c e) = ({ (w.command c (.endContact e)).1 with
      actors := (w.command c (.endContact e)).1.actors.erase c },
          (w.command c (.endContact e)).2) := by
    simp only [Manager.call, hanswer, if_true]
  obtain ⟨o, ho⟩ := command_closed hw hanswer
  rw [hcall]
  exact ⟨by rw [Dict.get?_erase, if_pos rfl], o, ho.decision, ho.stores, ho.answer⟩

/-! ### Calls on a conversation that is not there -/

/-- A call on it is refused and only logged, as long as its snapshot can be read. -/
theorem call_absent {call : Call} {cmd : Command} (h : w.Absent c)
    (hread : ∀ e, (w.stores.getSnapshot c).2 ≠ .error e) (ht : call.target = some (c, cmd))
    (hbegin : ∀ n, call ≠ .begin n) (hunload : call ≠ .unload c) :
    ∃ log, w.call call = (w.relogged log, .error (.unknownConversation c)) := by
  obtain ⟨log, hf | ⟨e, he, -⟩⟩ := find_absent h
  · have hcommand : w.command c cmd = (w.relogged log, .error (.unknownConversation c)) := by
      rw [command, hf]
    refine ⟨log, ?_⟩
    rcases w.call_eq_command ht hbegin hunload with hcall | ⟨hcloses, -⟩
    · rw [hcall, hcommand]
    · rw [hcommand] at hcloses
      cases hcloses
  · exact absurd he (hread e)

/-! ### Memory that stays away -/

/-- Nothing is written to memory when a contact begins. -/
theorem send_begin_forgotten {key contactId : String} (h : (w.stores.backend.holding c).Forgotten) :
    ((w.send key (.beginContact contactId)).1.stores.backend.holding c).Forgotten := by
  unfold send
  split
  · rename_i x _
    have hput : ((w.stores.putSnapshot (x.beginContact contactId).conversationId
        (x.beginContact contactId).snapshot).1.backend.holding c).Forgotten :=
          w.stores.putSnapshot_forgotten h _ _
    rw [← w.stores.commit_stores x _ (.task (x.beginContact contactId).currentTask?)] at hput
    rcases hh : Actor.handle w.hooks w.stores x (.beginContact contactId) with ⟨t, _ | _ | _⟩
    all_goals
      rw [show t = _ from congrArg Prod.fst hh.symm]
      exact hput
  · exact h

theorem begin_forgotten (n : NewContact) (h : (w.stores.backend.holding c).Forgotten) :
    ((w.call (.begin n)).1.stores.backend.holding c).Forgotten := by
  obtain ⟨log, hlog⟩ := w.findOrStart_relogged n
  simp only [Manager.call]
  rcases hstart : w.findOrStart n with ⟨u, e | key⟩
  all_goals
    rw [hstart] at hlog
    have hu : (u.stores.backend.holding c).Forgotten := by
      rw [show u.stores = _ from hlog]
      exact h
  · exact hu
  · exact send_begin_forgotten hu

/-- No call brings memory back of a conversation that is not there. -/
theorem call_forgotten (hw : w.Sound) (h : w.Absent c) (hf : (w.stores.backend.holding c).Forgotten)
    (call : Call) :
    ((w.call call).1.stores.backend.holding c).Forgotten := by
  -- a contact writes no memory; a command finds no actor; all else is about others
  by_cases hbegin : ∃ n, call = .begin n
  · obtain ⟨n, rfl⟩ := hbegin
    exact begin_forgotten n hf
  · by_cases ht : ∃ cmd, call.target = some (c, cmd)
    · obtain ⟨cmd, ht⟩ := ht
      by_cases hunload : call = .unload c
      · subst hunload
        exact hf
      · have hcommand : ((w.command c cmd).1.stores.backend.holding c).Forgotten := by
          obtain ⟨log, hfind | ⟨e, -, hfind⟩⟩ := find_absent h
          all_goals
            rw [command, hfind]
            exact hf
        rcases w.call_eq_command ht (fun n hn => hbegin ⟨n, hn⟩) hunload with hcall | ⟨-, hcall⟩
        all_goals
          rw [hcall]
          exact hcommand
    · rw [(call_sameFor hw fun cmd hcmd => ht ⟨cmd, hcmd⟩).holding]
      exact hf

/-- What happens between two calls brings no memory of the conversation back. -/
def Step.StaysForgotten (c : String) : Step → Prop
  | .call _ => True
  | .meanwhile change _ _ => ∀ b, (b.holding c).Forgotten → ((change b).holding c).Forgotten

/-- What happens between the calls leaves the snapshots and the memory that is gone, and no contact
    starts the conversation. -/
structure Uneventful (w : Manager) (c : String) (steps : List Step) : Prop where
  snapshots : ∀ s ∈ steps, s.KeepsSnapshots
  memory : ∀ s ∈ steps, s.StaysForgotten c
  unbegun : w.Unbegun c steps

theorem Uneventful.tail {s : Step} {steps : List Step} (h : w.Uneventful c (s :: steps)) :
    (w.step s).Uneventful c steps where
  snapshots s hs := h.snapshots s (.tail _ hs)
  memory s hs := h.memory s (.tail _ hs)
  unbegun := h.unbegun.tail

theorem run_forgotten {steps : List Step} (hw : w.Sound) (h : w.Absent c)
    (hf : (w.stores.backend.holding c).Forgotten) (hsteps : w.Uneventful c steps) :
    ((w.run steps).stores.backend.holding c).Forgotten := by
  -- the conversation stays away, so that no command of the run reaches an actor of it
  induction steps generalizing w with
  | nil => exact hf
  | cons s steps ih =>
    have hs := hsteps.snapshots s (.head _)
    refine ih (hw.step hs) (h.step hw hs hsteps.unbegun) ?_ hsteps.tail
    cases s with
    | call call => exact call_forgotten hw h hf call
    | meanwhile change clock faults => exact hsteps.memory _ (.head _) _ hf

/-! ### Starting again -/

/-- The conversation has begun on the machine of the version that the contact names,
    with no past. -/
def StartsAnew (n : NewContact) (w' : Manager) : Prop :=
  ∃ x, w'.actors.get? n.conversationId = some (.live x) ∧
    w'.definitions.get? (machineId n.flowId n.versionId) = some x.machine ∧
    x.state.context.currentTask = x.machine.initial ∧ x.state.context.previousContactIds = [] ∧
    x.state.previousContacts = []

theorem begin_absent {n : NewContact} (h : w.Absent n.conversationId) (hs : w.Starts n) :
    StartsAnew n (w.call (.begin n)).1 := by
  have hstart := started_absent h
  obtain ⟨x, hx⟩ := hs
  simp only [Manager.call]
  cases hf : w.findOrStart n with
  | mk u r =>
    rw [hf] at hstart hx
    cases hstart with
    | failed => cases h.actor.symm.trans hx
    | tooLarge hc =>
      rw [hc.actors, h.actor] at hx
      cases hx
    | @registered u m _ hm _ =>
      -- the session is that of the start, whether or not it can be stored
      rcases u.stores.commit_cases (n.start w.stores.clock m) (n.start w.stores.clock m)
        (.task (n.start w.stores.clock m).currentTask?) with ⟨t, reason, hc, -⟩ | ⟨t, hc, -⟩
      all_goals
        simp only [send, Dict.get?_insert, if_true, Actor.handle, beginContact_start, hc]
        exact ⟨n.start w.stores.clock m, by simp, hm, rfl, rfl, rfl⟩

/-! ### Finality -/

/-- The end of a contact has closed its conversation with the outcome. If something could not be
    deleted, it is memory alone. -/
inductive Closing (s : Stores) (c : String) (o : ClosureOutcome) : Answer → Prop
  | whole : o.decision = .close → Closing s c o (.ok (.closure o))
  | butForMemory {id reason : String} :
      s.SnapshotGoes c → Closing s c o (.error (.cleanupFailed id o reason))

/-- The conversation is gone for good. -/
structure Final (c : String) (o : ClosureOutcome) (answer : Answer) (w : Manager) : Prop where
  decision : o.decision = .close
  tried : ∃ log, w.stores.log = .deleteSnapshot :: .deleteMemory :: log
  actor : w.actors.get? c = none
  snapshot : w.stores.backend.blob? c = none
  /-- With no failure reported, both buckets are empty, whatever the time. -/
  memory : answer = .ok (.closure o) → ∀ source now,
    w.stores.backend.getBucket c source now = .ok (w.stores.backend, .empty)
  /-- They stay so until a contact starts the conversation. -/
  forgotten : answer = .ok (.closure o) → ∀ steps, w.Uneventful c steps →
    ((w.run steps).stores.backend.holding c).Forgotten
  /-- Calls on the conversation are refused, and nothing is written. -/
  unknown : ∀ steps, w.Uneventful c steps →
      (∀ e, ((w.run steps).stores.getSnapshot c).2 ≠ .error e) →
    ∀ call cmd, call.target = some (c, cmd) → (∀ n, call ≠ .begin n) → call ≠ .unload c →
      ∃ log, (w.run steps).call call = ((w.run steps).relogged log, .error (.unknownConversation c))
  /-- A contact that starts it starts it from nothing. -/
  again : ∀ steps, w.Uneventful c steps → ∀ n, n.conversationId = c → (w.run steps).Starts n →
    StartsAnew n ((w.run steps).call (.begin n)).1 ∧
      (answer = .ok (.closure o) →
        (((w.run steps).call (.begin n)).1.stores.backend.holding c).Forgotten)

theorem Closing.closes {s : Stores} {o : ClosureOutcome} {a : Answer} (h : Closing s c o a) :
    closes a = true := by
  cases h with
  | whole hd => simp [Live.closes, hd]
  | butForMemory _ => rfl

theorem Closed.agrees {o o' : ClosureOutcome} {a : Answer} (h : w.Closed c o' w' a)
    (hc : Closing w.stores c o a) :
    o' = o ∧ w.stores.SnapshotGoes c := by
  cases hc with
  | whole _ =>
    rcases h.answer with ⟨hnil, ha⟩ | ⟨-, reason, ha⟩
    · cases ha
      exact ⟨rfl, (Stores.clear_eq_nil hnil).2⟩
    · cases ha
  | butForMemory hs =>
    rcases h.answer with ⟨-, ha⟩ | ⟨-, reason, ha⟩
    · cases ha
    · cases ha
      exact ⟨rfl, hs⟩

/-- What is held after closing is what clearing leaves. -/
theorem Closed.backend {o : ClosureOutcome} {a : Answer} (h : w.Closed c o w' a) :
    w'.stores.backend = (w.stores.clear c).1.backend := by
  obtain ⟨log, hlog⟩ := h.stores
  obtain ⟨log', hlog'⟩ := w.stores.clear_agree log c
  rw [hlog, hlog']
  rfl

/-- Of a conversation that has been closed with success there is no memory left. -/
theorem Closed.forgotten {o : ClosureOutcome} (h : w.Closed c o w' (.ok (.closure o))) :
    (w'.stores.backend.holding c).Forgotten ∧ w'.stores.backend.Opens := by
  rw [h.backend]
  rcases h.answer with ⟨hnil, -⟩ | ⟨-, reason, ha⟩
  · exact Stores.clear_forgets hnil
  · cases ha

/-- Without an actor, and with its snapshot deleted, a closed conversation is gone for good. -/
theorem Closed.final {o : ClosureOutcome} {a : Answer} (h : w.Closed c o w' a) (hw : w'.Sound)
    (hactor : w'.actors.get? c = none) (hsnapshot : w.stores.SnapshotGoes c) : Final c o a w' := by
  have hblob : w'.stores.backend.blob? c = none := by
    rw [h.backend]
    exact Stores.clear_removes hsnapshot
  -- without an actor and a snapshot it is unknown, and stays so until a contact starts it
  have habsent : w'.Absent c := ⟨hactor, by rw [Stores.stored, Backend.stored_eq, hblob]; rfl⟩
  have hforgotten : a = .ok (.closure o) → ∀ steps, w'.Uneventful c steps →
      ((w'.run steps).stores.backend.holding c).Forgotten := by
    rintro rfl steps hsteps
    exact run_forgotten hw habsent h.forgotten.1 hsteps
  refine ⟨h.decision, ?_, hactor, hblob, ?_, hforgotten, ?_, ?_⟩
  · obtain ⟨log, hlog⟩ := h.stores
    rw [hlog, Stores.clear_log]
    exact ⟨_, rfl⟩
  · rintro rfl source now
    exact Backend.getBucket_forgotten h.forgotten.1 h.forgotten.2 source now
  · intro steps hsteps hread call cmd ht hbegin hunload
    exact call_absent (habsent.run hw hsteps.snapshots hsteps.unbegun) hread ht hbegin hunload
  · rintro steps hsteps n rfl hs
    have hstill := habsent.run hw hsteps.snapshots hsteps.unbegun
    exact ⟨begin_absent hstill hs, fun ha => begin_forgotten n (hforgotten ha steps hsteps)⟩

/-- The end of a contact that closes its conversation removes it for good: the actor, the snapshot
    and, unless the answer says otherwise, the memory. It is unknown from then on, and nothing of it
    comes back when a contact starts it again. -/
theorem closing_is_final (h : Reachable w) {e : ContactEnd} {o : ClosureOutcome}
    (hclosing : Closing w.stores c o (w.call (.endContact c e)).2) :
    Final c o (w.call (.endContact c e)).2 (w.call (.endContact c e)).1 := by
  obtain ⟨hactor, o', hclosed⟩ := call_closed h.sound hclosing.closes
  obtain ⟨rfl, hsnapshot⟩ := hclosed.agrees hclosing
  exact hclosed.final (h.call _).sound hactor hsnapshot

/-- A visitor with a name in memory. -/
def namedVisit : List Step :=
  [.call (.begin visitor),
    .call (.update "c1" "k1" [{ variableId := "name", value := .string "Ada" }] (.tool "crm"))]

theorem uneventful_nil (w : Manager) (c : String) : w.Uneventful c [] where
  snapshots _ hs := by cases hs
  memory _ hs := by cases hs
  unbegun := by
    rintro (_ | _) n post ⟨⟩

/-- The visitor leaves, and so does the name, unless it cannot be deleted. A visitor who comes
    back starts from nothing. -/
theorem visit_is_over :
    let w := (fresh (stocked [booking ["name"] ""]) (fun _ => none) 1).run namedVisit
    let full : Manager := { w with stores := failing .deleteMemory w.stores }
    let ending : Call := .endContact "c1" { contactId := "k1" }
    let o : ClosureOutcome := ⟨.close, .singleContact, none⟩
    ¬ (w.stores.backend.holding "c1").Forgotten ∧ (w.call ending).2 = .ok (.closure o) ∧
      Final "c1" o (w.call ending).2 (w.call ending).1 ∧
      StartsAnew visitor (((w.call ending).1.call (.begin visitor)).1) ∧
      ¬ ((full.call ending).1.stores.backend.holding "c1").Forgotten ∧
      Final "c1" o (full.call ending).2 (full.call ending).1 := by
  intro w full ending o
  have h : Reachable w := .call _ (.call _ (.fresh fun _ => rfl))
  have hfull : Reachable full := .meanwhile h fun _ => rfl
  have hfinal : Final "c1" o (w.call ending).2 (w.call ending).1 := closing_is_final h (.whole rfl)
  have hstarts : (w.call ending).1.Starts visitor := ⟨_, rfl⟩
  have hanew := (hfinal.again [] (uneventful_nil _ _) visitor rfl hstarts).1
  exact ⟨by rintro ⟨⟩, rfl, hfinal, hanew, by rintro ⟨⟩, closing_is_final hfull (.butForMemory rfl)⟩

end Manager
end Dialogue.Live
