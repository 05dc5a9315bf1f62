import Dialogue.Proofs.Dictionaries
import Dialogue.Proofs.Conversation.RoundTrip
import Dialogue.Proofs.Live.Absent
import Dialogue.Proofs.Live.Definitions

/-! # What the stores know of the actors

    While snapshots can be read and put and no hook breaks down, every actor is live and its
    session is the one that its conversation would be taken up in: the snapshot of the session is
    stored, and its machine is in the cache under its own key (`Manager.Settled`). Calls keep
    this (`Settled.call`). -/

namespace Dialogue.Live

open Time Dialogue.Flow Conversation StateMachine Memory

/-- No hook breaks down. -/
def NoneBreaksDown (hooks : Hooks) : Prop :=
  ∀ name hook, hooks name = some hook → ∀ config s c, (hook config s c).isSome

/-! ### Stores that work -/

/-- Snapshots can be read and put, versions lie under their own ids, and the calendar goes on long
    enough for what is written to memory. -/
structure Stores.Working (s : Stores) : Prop where
  readable : s.faults .getSnapshot = none
  writable : s.faults .putSnapshot = none
  serves : s.backend.Serves
  ownIds : s.OwnIds
  calendar : (s.clock.add? s.backend.ttl).isSome

/-- A write has an expiry as long as the calendar goes on. -/
theorem Backend.setMemory_expires {b b' : Backend} {now : Instant} {c contactId : String}
    {us : List Update} {writer : Writer} (h : (now.add? b.ttl).isSome) :
    b.setMemory c contactId us writer now ≠ .ok (b', none) := by
  obtain ⟨expiresAt, he⟩ := Option.isSome_iff_exists.1 h
  intro hb
  cases b with
  | process versions snapshots memory =>
    rw [Backend.setMemory, Store.set_eq memory now c he] at hb
    cases hb
  | database db ttl =>
    simp only [Backend.setMemory] at hb
    split at hb
    · cases hb
    · rename_i hdb
      obtain ⟨_, -, hdb⟩ := bind_eq_ok.1 hdb
      obtain ⟨_, -, hdb⟩ := bind_eq_ok.1 hdb
      obtain ⟨_, -, hdb⟩ := bind_eq_ok.1 hdb
      rw [show now.add? ttl = some expiresAt from he] at hdb
      obtain ⟨_, -, hdb⟩ := bind_eq_ok.1 hdb
      cases hdb
    · cases hb

namespace Stores

variable {s : Stores}

theorem Working.keeps {t : Stores} (h : s.Working) (hk : s.Keeps t) : t.Working where
  readable := by rw [hk.faults, h.readable]
  writable := by rw [hk.faults, h.writable]
  serves := hk.serves h.serves
  ownIds f v ver hver := h.ownIds f v ver (by rwa [← hk.versions])
  calendar := by rw [hk.clock, hk.ttl, h.calendar]

theorem Working.getSnapshot (h : s.Working) (c : String) :
    ∃ log, s.getSnapshot c = (s.relogged log, .ok (s.stored c)) := by
  obtain ⟨r, hr⟩ := h.serves.reads c
  refine ⟨.getSnapshot :: s.log, ?_⟩
  rw [stored, Backend.getSnapshot_eq hr, ← hr]
  simp [Stores.getSnapshot, attempt, h.readable, relogged]

theorem Working.persist (h : s.Working) (x : Session) : (s.persist x).2 = .ok () := by
  obtain ⟨b, hb⟩ := h.serves.puts x.conversationId x.snapshot
  simp [Stores.persist, putSnapshot, attempt, h.writable, hb]

/-- A change is stored. -/
theorem Working.commit (h : s.Working) (before after : Session) (r : Reply) :
    ∃ t, s.commit before after r = (t, .goOn after (.ok r)) ∧ s.Stored t after := by
  rcases s.commit_cases before after r with ⟨t, reason, hc, -⟩ | hstored
  · have hput := h.persist after
    rw [Stores.commit] at hc
    cases hp : s.persist after with
    | mk u e =>
      rw [hp] at hput hc
      obtain rfl : e = _ := hput
      cases hc
  · exact hstored

/-- What is written to memory has an expiry. -/
theorem Working.setMemory (h : s.Working) (c contactId : String) (us : List Update)
    (writer : Writer) :
    (s.setMemory c contactId us writer).2 ≠ .ok none := by
  unfold Stores.setMemory
  cases hfault : s.faults .setMemory with
  | some fault => simp [attempt, hfault]
  | none =>
    simp only [attempt, hfault]
    split
    · rename_i b n hb
      rintro ⟨⟩
      exact Backend.setMemory_expires h.calendar hb
    · simp

end Stores

namespace Manager

/-! ### The session of a conversation -/

/-- The session that the conversation would be taken up in. -/
structure Kept (w : Manager) (c : String) (x : Session) : Prop where
  id : x.conversationId = c
  located : x.Located
  cached : w.definitions.get? (machineId x.machine.flowId x.machine.versionId) = some x.machine
  stored : w.stores.stored c = some x.snapshot

/-- Every conversation that is stored can be taken up, and its actor, if there is one, is where it
    would be taken up. No other conversation has an actor. -/
structure Settled (w : Manager) : Prop where
  kept : ∀ c s, w.stores.stored c = some s → ∃ x, w.Kept c x
  live : ∀ c a, w.actors.get? c = some a → ∃ x, w.Kept c x ∧ a = .live x
  cached : ∀ k m, w.definitions.get? k = some m → m.Closed ∧ k = machineId m.flowId m.versionId
  mailbox : ∀ c s, w.stores.stored c = some s → w.mailboxSize ≤ largestMailbox

variable {w w' : Manager} {c : String} {x : Session}

/-- A snapshot determines its session, since the machine is the one that is cached. -/
theorem Kept.unique {y : Session} (hx : w.Kept c x) (hy : w.Kept c y) : x = y := by
  have hsnapshot : x.snapshot = y.snapshot := Option.some.inj (hx.stored.symm.trans hy.stored)
  have hmachine : x.machine = y.machine := by
    have hflow : x.machine.flowId = y.machine.flowId := congrArg Snapshot.flowId hsnapshot
    have hversion : x.machine.versionId = y.machine.versionId :=
      congrArg Snapshot.versionId hsnapshot
    have hcached := hx.cached
    rw [hflow, hversion, hy.cached] at hcached
    exact (Option.some.inj hcached).symm
  have hstate : x.state = y.state := congrArg Snapshot.state hsnapshot
  cases x
  cases y
  simp_all

theorem Settled.sound (h : w.Settled) : w.Sound where
  storedUnder c s hs := by
    obtain ⟨x, hx⟩ := h.kept c s hs
    cases hs.symm.trans hx.stored
    exact hx.id
  closed k m hm := (h.cached k m hm).1
  fits c x hx := by
    obtain ⟨y, hy, ⟨⟩⟩ := h.live c _ hx
    refine ⟨hy.id, hy.located.closed, ?_⟩
    intro s hs
    cases hs.symm.trans hy.stored
    exact x.describes_snapshot

theorem settled_fresh {s : Stores} (h : ∀ c, s.stored c = none) (hooks : Hooks) (size : Nat) :
    Settled (.fresh s hooks size) where
  kept c t ht := by cases (h c).symm.trans ht
  live c a ha := by cases ha
  cached k m hm := by cases hm
  mailbox c t ht := by cases (h c).symm.trans ht

/-- A conversation that is not stored has no actor. -/
theorem Settled.absent (h : w.Settled) (hc : w.stores.stored c = none) : w.Absent c := by
  refine ⟨?_, hc⟩
  cases ha : w.actors.get? c with
  | none => rfl
  | some a =>
    obtain ⟨x, hx, -⟩ := h.live c a ha
    cases hc.symm.trans hx.stored

/-! ### What keeps a manager settled -/

/-- Neither the registry nor another conversation's snapshot matters. -/
theorem Kept.restored {s : Stores} {as : Dict Actor} (h : w.Kept c x)
    (hs : s.stored c = w.stores.stored c) :
    Kept { w with stores := s, actors := as } c x :=
  ⟨h.id, h.located, h.cached, hs.trans h.stored⟩

/-- Stores that hold the same snapshots may take the place of the manager's. -/
theorem Settled.restored {s : Stores} (h : w.Settled) (hs : ∀ c, s.stored c = w.stores.stored c) :
    Settled { w with stores := s } where
  kept c t ht := by
    obtain ⟨x, hx⟩ := h.kept c t ((hs c).symm.trans ht)
    exact ⟨x, hx.restored (hs c)⟩
  live c a ha := by
    obtain ⟨x, hx, rfl⟩ := h.live c a ha
    exact ⟨x, hx.restored (hs c), rfl⟩
  cached := h.cached
  mailbox c t ht := h.mailbox c t ((hs c).symm.trans ht)

theorem Kept.consulted (h : w.Kept c x) (hc : w.Consulted w') : w'.Kept c x :=
  ⟨h.id, h.located, hc.kept _ _ h.cached, (hc.stores.stored c).trans h.stored⟩

theorem Settled.consulted (h : w.Settled) (hown : w.stores.OwnIds) (hc : w.Consulted w') :
    w'.Settled where
  kept c s hs := by
    obtain ⟨x, hx⟩ := h.kept c s (by rwa [hc.stores.stored] at hs)
    exact ⟨x, hx.consulted hc⟩
  live c a ha := by
    rw [hc.actors] at ha
    obtain ⟨x, hx, rfl⟩ := h.live c a ha
    exact ⟨x, hx.consulted hc, rfl⟩
  cached k m hm := by
    rcases hc.definitions k m hm with hm | ⟨f, v, ver, rfl, hver, hcompile⟩
    · exact h.cached k m hm
    · -- the version lies under its own ids, and the machine has them
      obtain ⟨hf, hv, -⟩ := compiles_of_getVersion hown hver hcompile
      exact ⟨(compile_eq_ok.1 hcompile).closed, by rw [hf, hv]⟩
  mailbox c s hs := by
    rw [hc.mailboxSize]
    exact h.mailbox c s (by rwa [hc.stores.stored] at hs)

theorem Settled.erasing (h : w.Settled) (c : String) :
    Settled { w with actors := w.actors.erase c } where
  kept k s hs := by
    obtain ⟨x, hx⟩ := h.kept k s hs
    exact ⟨x, hx.restored rfl⟩
  live k a ha := by
    rw [Dict.get?_erase] at ha
    split at ha
    · cases ha
    · obtain ⟨x, hx, rfl⟩ := h.live k a ha
      exact ⟨x, hx.restored rfl, rfl⟩
  cached := h.cached
  mailbox := h.mailbox

/-- The session of one conversation is stored and gets the actor. -/
theorem Settled.storing {t : Stores} (h : w.Settled) (hx : Kept { w with stores := t } c x)
    (hothers : ∀ k, k ≠ c → t.stored k = w.stores.stored k)
    (hsize : w.mailboxSize ≤ largestMailbox) :
    Settled { w with stores := t, actors := w.actors.insert c (.live x) } where
  kept k s hs := by
    by_cases hk : k = c
    · subst hk
      exact ⟨x, hx.restored rfl⟩
    · obtain ⟨y, hy⟩ := h.kept k s ((hothers k hk).symm.trans hs)
      exact ⟨y, hy.restored (hothers k hk)⟩
  live k a ha := by
    rw [Dict.get?_insert] at ha
    split at ha
    · rename_i hk
      subst hk
      cases ha
      exact ⟨x, hx.restored rfl, rfl⟩
    · rename_i hk
      obtain ⟨y, hy, rfl⟩ := h.live k a ha
      exact ⟨y, hy.restored (hothers k hk), rfl⟩
  cached := h.cached
  mailbox _ _ _ := hsize

/-- One conversation loses its actor, and its snapshot at most. -/
theorem Settled.closing {t : Stores} (h : w.Settled)
    (hothers : ∀ k, t.stored k = w.stores.stored k ∨ k = c ∧ t.stored k = none) (a : Actor) :
    Settled { w with stores := t, actors := (w.actors.insert c a).erase c } where
  kept k s hs := by
    rcases hothers k with hk | ⟨-, hk⟩
    · obtain ⟨x, hx⟩ := h.kept k s (hk.symm.trans hs)
      exact ⟨x, hx.restored hk⟩
    · cases hk.symm.trans hs
  live k b hb := by
    simp only [Dict.get?_erase, Dict.get?_insert] at hb
    split at hb
    · cases hb
    · rename_i hne
      obtain ⟨x, hx, rfl⟩ := h.live k b hb
      rcases hothers k with hk | ⟨hk, -⟩
      · exact ⟨x, hx.restored hk, rfl⟩
      · exact absurd hk hne
  cached := h.cached
  mailbox k s hs := by
    rcases hothers k with hk | ⟨-, hk⟩
    · exact h.mailbox k s (hk.symm.trans hs)
    · cases hk.symm.trans hs

/-! ### Taking a conversation up -/

/-- A conversation that is kept is found, with its session for an actor. -/
theorem find_kept (h : w.Settled) (hw : w.stores.Working) (hx : w.Kept c x) :
    ∃ log, w.find c = (w.altered log (w.actors.insert c (.live x)), .ok (some c)) := by
  -- a conversation that is live is found as it is
  cases ha : w.actors.get? c with
  | some a =>
    obtain ⟨y, hy, rfl⟩ := h.live c a ha
    obtain rfl := hx.unique hy
    refine ⟨w.stores.log, ?_⟩
    rw [find, if_pos (by simp [Dict.contains, ha]), Dict.insert_of_get? ha]
    rfl
  | none =>
    -- one that is not is loaded: its machine is in the cache, and resuming its snapshot gives `x`
    obtain ⟨log, hg⟩ := hw.getSnapshot c
    refine ⟨log, ?_⟩
    rw [find, if_neg (by simp [Dict.contains, ha]), load, hg, hx.stored]
    have hmachine : (w.relogged log).definition x.snapshot.flowId x.snapshot.versionId =
        (w.relogged log, .ok x.machine) := by
      rcases (w.relogged log).definition_cases x.snapshot.flowId x.snapshot.versionId with ⟨m, hm,
        hd⟩ | ⟨hnone, -⟩
      · cases hm.symm.trans hx.cached
        exact hd
      · cases hnone.symm.trans hx.cached
    have hspawn :
        (w.relogged log).spawn x = (w.altered log (w.actors.insert c (.live x)), .ok c) := by
      have hsize : (w.relogged log).mailboxSize ≤ largestMailbox := h.mailbox c _ hx.stored
      rw [spawn, if_neg (by simp [Dict.contains, hx.id, relogged, ha]), if_pos hsize, hx.id]
      rfl
    simp only
    rw [show ({ w with stores := w.stores.relogged log } : Manager) = w.relogged log from rfl,
      hmachine]
    simp only
    rw [Session.resume_snapshot hx.located]
    simp only
    rw [hspawn]
    rfl

/-- One that is not stored is not found. -/
theorem find_unstored (h : w.Settled) (hw : w.stores.Working) (hc : w.stores.stored c = none) :
    ∃ log, w.find c = (w.relogged log, .ok none) := by
  obtain ⟨log, hf | ⟨e, he, -⟩⟩ := find_absent (h.absent hc)
  · exact ⟨log, hf⟩
  · obtain ⟨_, hg⟩ := hw.getSnapshot c
    rw [hg] at he
    cases he

theorem Settled.taken (h : w.Settled) (hx : w.Kept c x) (log : List Operation) :
    (w.altered log (w.actors.insert c (.live x))).Settled :=
  h.storing (t := w.stores.relogged log) (hx.restored rfl) (fun _ _ => rfl)
    (h.mailbox c _ hx.stored)

/-! ### Calls -/

/-- A session that has changed is in a task of its machine. -/
theorem located_of_changes {hooks : Hooks} {now : Instant} {y : Session} {cmd : Command} {r : Reply}
    (hx : x.Located) (h : Changes hooks now x cmd y r) : y.Located := by
  cases h with
  | moved htask =>
    obtain ⟨t, ht, -⟩ := Option.map_eq_some_iff.1 htask
    exact ⟨hx.closed, t, ht⟩
  | attached => exact hx.beginContact _
  | ended hend _ => exact hx.endContact hend

/-- A command leaves the manager settled, or the actor stops and is taken out of the
    registry next. -/
theorem Settled.sent {cmd : Command} {a : Answer} (h : w.Settled) (hw : w.stores.Working)
    (hhooks : NoneBreaksDown w.hooks) (hx : w.actors.get? c = some (.live x))
    (hcmd : cmd ≠ .shutdown) (hs : w.Sent c x cmd (w', a)) :
    w'.Settled ∨ ∃ e, cmd = .endContact e ∧ closes a = true ∧ Settled
      { w' with actors := w'.actors.erase c } := by
  obtain ⟨_, hkept, ⟨⟩⟩ := h.live c _ hx
  have hsize := h.mailbox c _ hkept.stored
  cases hs with
  -- an actor that goes on keeps its session, or has stored the new one
  | @goOn t y a hh =>
    left
    cases hh with
    | kept hsame _ _ =>
      exact h.storing (hkept.restored (hsame.stored c)) (fun k _ => hsame.stored k) hsize
    | changed hchange hstored =>
      obtain ⟨hid, hmachine⟩ := changes_keep hchange
      have hc : y.conversationId = c := hid.trans hkept.id
      have hnow : t.stored c = some y.snapshot := by rw [hstored.stored, hc, if_pos rfl]
      refine h.storing ⟨hc, located_of_changes hkept.located hchange, hmachine ▸ hkept.cached,
        hnow⟩ ?_ hsize
      intro k hk
      rw [hstored.stored, hc, if_neg hk]
  -- one that stops has closed its conversation; the manager is settled once it is out
  | @stop t a hh =>
    cases hh with
    | @closed e _ _ o hclose _ hothers hanswer =>
      right
      refine ⟨e, rfl, ?_, h.closing (fun k => hkept.id ▸ hothers k) .dead⟩
      rcases hanswer with ⟨rfl, -⟩ | ⟨reason, rfl⟩
      · simp [closes, hclose]
      · rfl
    | shutDown => exact absurd rfl hcmd
  -- none breaks down: the hooks decide, and the calendar has the expiry
  | breakDown hh =>
    cases hh with
    | brokeDown _ hbreak =>
      cases hbreak with
      | @hook e name hook _ hhook hnone =>
        have hsome := hhooks name hook hhook x.closure x.state e
        rw [hnone] at hsome
        cases hsome
      | expiry hset => exact (hw.setMemory _ _ _ _ hset).elim

theorem Settled.command (h : w.Settled) (hw : w.stores.Working) (hhooks : NoneBreaksDown w.hooks)
    (c : String) {cmd : Command} (hcmd : cmd ≠ .shutdown) :
    (w.command c cmd).1.Settled ∨ ∃ e, cmd = .endContact e ∧
      closes (w.command c cmd).2 = true ∧
      Settled { (w.command c cmd).1 with actors := (w.command c cmd).1.actors.erase c } := by
  unfold Manager.command
  cases hc : w.stores.stored c with
  | none =>
    obtain ⟨log, hf⟩ := find_unstored h hw hc
    rw [hf]
    exact .inl (h.restored fun _ => rfl)
  | some s =>
    obtain ⟨x, hx⟩ := h.kept c s hc
    obtain ⟨log, hf⟩ := find_kept h hw hx
    rw [hf]
    have hlive : (w.altered log (w.actors.insert c (.live x))).actors.get? c = some (.live x) := by
      simp [altered]
    exact (h.taken hx log).sent (hw.keeps (w.stores.same_relogged log).toKeeps) hhooks hlive hcmd
      (sent_live hlive hx.located.closed cmd)

/-- A contact that starts a conversation has it stored. -/
theorem Settled.begin (h : w.Settled) (hw : w.stores.Working) (hhooks : NoneBreaksDown w.hooks)
    (n : NewContact) :
    (w.call (.begin n)).1.Settled := by
  unfold Manager.call
  simp only
  cases hc : w.stores.stored n.conversationId with
  | some s =>
    -- the conversation is there, and the contact is a command to it
    obtain ⟨x, hx⟩ := h.kept _ s hc
    obtain ⟨log, hf⟩ := find_kept h hw hx
    have hnot : Command.beginContact n.contactId ≠ .shutdown := by rintro ⟨⟩
    have hcommand := h.command hw hhooks n.conversationId hnot
    rw [Manager.command, hf] at hcommand
    rw [findOrStart, hf]
    rcases hcommand with hsettled | ⟨e, ⟨⟩, -⟩
    exact hsettled
  | none =>
    -- it starts, and is stored with its first contact
    have hstarted := started_absent (h.absent hc)
    cases hf : w.findOrStart n with
    | mk w₁ r =>
      rw [hf] at hstarted
      cases hstarted with
      | failed => exact h.restored fun _ => rfl
      | tooLarge hcons => exact h.consulted hw.ownIds hcons
      | @registered w₁ m hcons hm hsize =>
        have h₁ := h.consulted hw.ownIds hcons
        obtain ⟨hclosed, hkey⟩ := h₁.cached _ m hm
        obtain ⟨t, ht, hstored⟩ := (hw.keeps hcons.stores.toKeeps).commit (n.start w.stores.clock m)
          ((n.start w.stores.clock m).beginContact n.contactId)
          (.task ((n.start w.stores.clock m).beginContact n.contactId).currentTask?)
        rw [beginContact_start] at ht hstored
        simp only [send, Dict.get?_insert, if_true, Actor.handle, beginContact_start, ht,
          Dict.insert_insert]
        refine h₁.storing ⟨rfl, Session.located_start hclosed _, ?_, ?_⟩ ?_ hsize
        · rw [hkey] at hm
          exact hm
        · rw [hstored.stored]
          exact if_pos rfl
        · intro k hk
          rw [hstored.stored]
          exact if_neg hk

/-- Every call leaves the manager settled. -/
theorem Settled.call (h : w.Settled) (hw : w.stores.Working) (hhooks : NoneBreaksDown w.hooks)
    (call : Call) :
    (w.call call).1.Settled := by
  -- only the end of a contact takes an actor out
  have hcommand (id : String) (cmd : Command) (hcmd : cmd ≠ .shutdown)
      (hend : ∀ e, cmd ≠ .endContact e) :
      (w.command id cmd).1.Settled := by
    rcases h.command hw hhooks id hcmd with hsettled | ⟨e, he, -⟩
    · exact hsettled
    · exact absurd he (hend e)
  cases call with
  | begin n => exact h.begin hw hhooks n
  | request id target => exact hcommand id _ (by rintro ⟨⟩) (by rintro _ ⟨⟩)
  | update id contactId us writer => exact hcommand id _ (by rintro ⟨⟩) (by rintro _ ⟨⟩)
  | currentTask id => exact hcommand id _ (by rintro ⟨⟩) (by rintro _ ⟨⟩)
  | snapshot id => exact hcommand id _ (by rintro ⟨⟩) (by rintro _ ⟨⟩)
  -- the actor that has stopped is taken out by the same call
  | endContact id e =>
    simp only [Manager.call]
    have hnot : Command.endContact e ≠ .shutdown := by rintro ⟨⟩
    rcases h.command hw hhooks id hnot with hsettled | ⟨_, -, hclosed, hgone⟩
    · split
      · exact hsettled.erasing id
      · exact hsettled
    · rw [if_pos hclosed]
      exact hgone
  | unload id => exact h.erasing id
  | definition f v => exact h.consulted hw.ownIds (w.definition_consulted f v)
  | runningCount => exact h

/-- A call keeps what no operation changes, and the hooks. -/
theorem Sound.call_keeps (h : w.Sound) (c : Call) :
    w.stores.Keeps (w.call c).1.stores ∧ (w.call c).1.hooks = w.hooks := by
  -- one case for each kind of step: a look-up, a command, a look at the stores, a removal, a start
  refine (call_preserves (P := fun u => u.Sound ∧ w.stores.Keeps u.stores ∧ u.hooks = w.hooks)
    And.left ?_ ?_ ?_ ?_
    ⟨h, .refl _, rfl⟩ c ?_).2
  · rintro u u' k r ⟨hu, hkeeps, hhooks⟩ hf
    refine ⟨hu.found hf, ?_⟩
    cases hf with
    | there _ => exact ⟨hkeeps, hhooks⟩
    | failed _ hc => exact ⟨hkeeps.trans hc.stores.toKeeps, hc.hooks.trans hhooks⟩
    | unknown _ hc _ => exact ⟨hkeeps.trans hc.stores.toKeeps, hc.hooks.trans hhooks⟩
    | loaded _ hc _ _ _ => exact ⟨hkeeps.trans hc.stores.toKeeps, hc.hooks.trans hhooks⟩
  · rintro u u' key x cmd a ⟨hu, hkeeps, hhooks⟩ hx hs
    refine ⟨hu.sent hx hs, ?_⟩
    obtain ⟨t, actor, rfl, he⟩ := sent_effect (hu.fits key x hx).id hs
    exact ⟨hkeeps.trans he.keeps, hhooks⟩
  · rintro u u' ⟨hu, hkeeps, hhooks⟩ hc
    exact ⟨hu.consulted hc, hkeeps.trans hc.stores.toKeeps, hc.hooks.trans hhooks⟩
  · rintro u k ⟨hu, hkeeps, hhooks⟩
    exact ⟨hu.erasing k, hkeeps, hhooks⟩
  · rintro n u r - hr
    refine ⟨h.reached hr, ?_⟩
    cases hr with
    | found hf =>
      obtain ⟨-, hhooks, hsame, -⟩ := found_state hf
      exact ⟨hsame.toKeeps, hhooks⟩
    | failed _ hc => exact ⟨hc.stores.toKeeps, hc.hooks⟩
    | started _ hc _ _ => exact ⟨hc.stores.toKeeps, hc.hooks⟩

end Manager
end Dialogue.Live
