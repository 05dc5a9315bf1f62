import Dialogue.Simulation
import Dialogue.Proofs.Live.Breakdowns
import Dialogue.Proofs.Live.Opening

/-! # Dry runs and live conversations

    A dry run keeps its facts in a dictionary and runs the machine alone; a live conversation keeps
    them in memory, which a tool writes before each request, and runs behind an actor. Each event
    has the same outcome in both (`Mirrors.stage`), and so has every run of them (`dry_run_agrees`),
    as long as memory does not expire. Only where the calendar ends do they part
    (`apart_at_the_end_of_the_calendar`). -/

namespace Dialogue.Conversation

open Dialogue.Flow StateMachine

/-- Two sessions on one machine in the same task. -/
structure Session.InStep (x y : Session) : Prop where
  machine : y.machine = x.machine
  task : y.state.context.currentTask = x.state.context.currentTask

/-- Requests have the same outcome in both and leave them in the same task. -/
theorem Session.InStep.request {x y : Session} (h : x.InStep y) (target : String) (facts : Facts) :
    (y.request target facts).2 = (x.request target facts).2 ∧
      (x.request target facts).1.InStep (y.request target facts).1 := by
  obtain ⟨houtcome, htask⟩ := x.request_of_task h.task target facts
  rw [← h.machine] at houtcome htask
  exact ⟨houtcome, by rw [machine_request, machine_request, h.machine], htask⟩

/-- The view of a session's task has the name of the task it is in. -/
theorem Session.Located.currentTask?_name {x : Session} (h : x.Located) :
    ∃ task, x.currentTask? = some task ∧ task.name = x.state.context.currentTask := by
  obtain ⟨s, hs⟩ := h.current
  have hname : s.name = x.state.context.currentTask := (h.closed.indexed.state?_eq_some.1 hs).2
  exact ⟨s.task, congrArg (Option.map State.task) hs, hname⟩

end Dialogue.Conversation

namespace Dialogue.Live

open Json Time Dialogue.Flow Conversation StateMachine Memory Simulation

/-- An event taken to a live conversation: a tool writes its facts, and then its task
    is asked for. -/
structure Staged where
  event : Event
  updates : List Update
  contactId : String
  writtenAt : Instant
  askedAt : Instant

/-- The updates write the facts of the event and nothing else. -/
def Staged.Writes (s : Staged) : Prop := ∀ id, lastValue? s.updates id = s.event.facts.get? id

/-- The event with its facts, each written once. -/
def Staged.ofEvent (e : Event) (contactId : String) (writtenAt askedAt : Instant) : Staged where
  event := e
  updates := e.facts.entries.map fun f => { variableId := f.1, value := f.2 }
  contactId := contactId
  writtenAt := writtenAt
  askedAt := askedAt

theorem Staged.writes_ofEvent (e : Event) (contactId : String) (writtenAt askedAt : Instant) :
    (ofEvent e contactId writtenAt askedAt).Writes := by
  intro id
  -- the entries of a dictionary are in order, so that no key comes twice
  have hentries : ∀ {es : List (String × Value)}, Ascending es →
      lastValue? (es.map fun f => { variableId := f.1, value := f.2 }) id = findEntry id es := by
    intro es hes
    induction es with
    | nil => rfl
    | cons f es ih =>
      obtain ⟨k, a⟩ := f
      rw [List.map_cons, lastValue?_cons, ih (List.pairwise_cons.1 hes).2]
      by_cases hk : k = id
      · subst hk
        simp [findEntry, findEntry_above hes]
      · simp [findEntry, hk, Ne.symm hk]
  exact hentries e.facts.ascending

/-- The updates write declared variables only where the facts are declared. -/
theorem Staged.Writes.declared {s : Staged} {m : Machine} (h : s.Writes)
    (hfacts : ∀ id, (s.event.facts.get? id).isSome → m.declares id) :
    ∀ u ∈ s.updates, m.declares u.variableId := by
  intro u hu
  refine hfacts u.variableId ?_
  rw [← h, Option.isSome_iff_ne_none, Ne, lastValue?_eq_none, not_not]
  exact List.mem_map_of_mem hu

/-- What guards see after the write is what the dry run knows after the event. -/
theorem Staged.Writes.cover {s : Staged} (h : s.Writes) (known : Dict Value) :
    Memory.cover s.updates known.get? = (known.overlay s.event.facts).get? := by
  funext id
  rw [Memory.cover, h, Dict.get?_overlay]

/-- The events can be taken to a conversation on the machine: their facts are declared variables,
    the values can be kept, and no write expires before its request and the write after it. -/
structure Backend.Takes (b : Backend) (m : Machine) (ss : List Staged) : Prop where
  writes : ∀ s ∈ ss, s.Writes
  declared : ∀ s ∈ ss, ∀ id, (s.event.facts.get? id).isSome → m.declares id
  values : ∀ s ∈ ss, b.CanKeep s.updates
  kept : ss.IsChain fun s s' => ∀ t, s.writtenAt.add? b.ttl = some t → b.IsBefore s'.writtenAt t
  asked : ∀ s ∈ ss, ∀ t, s.writtenAt.add? b.ttl = some t → b.IsBefore s.askedAt t

/-- A write has a time at which it expires. -/
def Backend.InCalendar (b : Backend) (ss : List Staged) : Prop :=
  ∀ s ∈ ss, (s.writtenAt.add? b.ttl).isSome

namespace Backend

variable {b b' : Backend} {m : Machine} {s : Staged} {ss : List Staged}

theorem Takes.tail (h : b.Takes m (s :: ss)) : b.Takes m ss where
  writes := fun s' hs' => h.writes s' (List.mem_cons_of_mem s hs')
  declared := fun s' hs' => h.declared s' (List.mem_cons_of_mem s hs')
  values := fun s' hs' => h.values s' (List.mem_cons_of_mem s hs')
  kept := (List.isChain_cons.1 h.kept).2
  asked := fun s' hs' => h.asked s' (List.mem_cons_of_mem s hs')

theorem Takes.alike (h : b.Takes m ss) (halike : b.Alike b') : b'.Takes m ss where
  writes := h.writes
  declared := h.declared
  values := by simpa only [halike.canKeep] using h.values
  kept := by simpa only [halike.ttl, halike.isBefore] using h.kept
  asked := by simpa only [halike.ttl, halike.isBefore] using h.asked

theorem InCalendar.alike (h : b.InCalendar ss) (halike : b.Alike b') : b'.InCalendar ss := by
  rwa [InCalendar, halike.ttl]

end Backend

namespace Manager

/-- Takes the event to the conversation, where the tool `name` writes its facts, and
    returns both answers. -/
def stage (w : Manager) (c name : String) (s : Staged) : Manager × Answer × Answer :=
  let (w, written) := (w.atTime s.writtenAt).call (.update c s.contactId s.updates (.tool name))
  let (w, asked) := (w.atTime s.askedAt).call (.request c s.event.target)
  (w, written, asked)

/-- Takes the events there one after the other. -/
def stageAll (c name : String) (w : Manager) : List Staged → Manager × List (Answer × Answer)
  | [] => (w, [])
  | s :: ss =>
    let (w, a) := w.stage c name s
    let (w, rest) := stageAll c name w ss
    (w, a :: rest)

/-- The conversation is live where the dry run is, and guards see until the expiry what
    the dry run knows. -/
structure Mirrors (w : Manager) (c : String) (t : Trial) (expiry : Option Instant) (x : Session) :
    Prop where
  serving : w.Serving c x
  inStep : x.InStep t.session
  located : x.Located
  shows : w.stores.backend.Shows c expiry t.facts.get?

variable {w : Manager} {c name : String} {t : Trial} {expiry : Option Instant} {x : Session}
    {s : Staged}

/-- The request of an event comes after its write. -/
theorem stage_of_update {w₁ : Manager} {written : Answer}
    (h : (w.atTime s.writtenAt).call (.update c s.contactId s.updates (.tool name)) =
        (w₁, written)) :
    w.stage c name s = (((w₁.atTime s.askedAt).call (.request c s.event.target)).1, written,
      ((w₁.atTime s.askedAt).call (.request c s.event.target)).2) := by
  rw [Manager.stage, h]

/-- An event has the outcome it has in the dry run. -/
theorem Mirrors.stage (name : String) (h : w.Mirrors c t expiry x) {expiresAt : Instant}
    (hwrites : s.Writes) (hdeclared : ∀ id, (s.event.facts.get? id).isSome → x.machine.declares id)
    (hkeep : w.stores.backend.CanKeep s.updates)
    (hnow : ∀ t ∈ expiry, w.stores.backend.IsBefore s.writtenAt t)
    (hexpiry : s.writtenAt.add? w.stores.backend.ttl = some expiresAt)
    (hasked : w.stores.backend.IsBefore s.askedAt expiresAt) :
    ∃ w' x', w.stage c name s =
        (w', .ok (.count s.updates.length), .ok (.transition (t.step s.event).2.outcome)) ∧
      w'.Mirrors c (t.step s.event).1 (some expiresAt) x' ∧ x'.machine = x.machine ∧
      w.stores.backend.Alike w'.stores.backend := by
  -- the write: guards see what the dry run knows after the event
  obtain ⟨b, hset, halike, hshows⟩ := h.shows.setMemory s.contactId name hnow hexpiry hkeep
  obtain ⟨w₁, hupdate, hserving, rfl, -⟩ :=
    (h.serving.atTime s.writtenAt).update (hwrites.declared hdeclared) hset
  rw [hwrites.cover] at hshows
  have hbefore : ∀ t ∈ some expiresAt, w₁.stores.backend.IsBefore s.askedAt t := by
    rintro t ⟨⟩
    exact (halike.isBefore _ _).2 hasked
  -- the request: it is judged by the same facts, so it has the same outcome
  obtain ⟨w₂, hrequest, hserving', hshows', halike', -⟩ :=
    (hserving.atTime s.askedAt).request h.located.closed hshows hbefore s.event.target
  obtain ⟨houtcome, hstep⟩ := h.inStep.request s.event.target (t.facts.overlay s.event.facts).get?
  refine ⟨w₂, _, ?_, ⟨hserving', hstep, h.located.request _ _, hshows'⟩, x.machine_request _ _,
    halike.trans halike'⟩
  rw [stage_of_update hupdate, hrequest]
  simp only [Trial.step, houtcome]

/-- So has every event of a run. -/
theorem Mirrors.stageAll (name : String) {ss : List Staged} (h : w.Mirrors c t expiry x)
    (hss : w.stores.backend.Takes x.machine ss) (hcalendar : w.stores.backend.InCalendar ss)
    (hnow : ∀ s ∈ ss.head?, ∀ t ∈ expiry, w.stores.backend.IsBefore s.writtenAt t) :
    ∃ w' expiry' x', w'.Mirrors c (t.run (ss.map (·.event))).1 expiry' x' ∧
      (w.stageAll c name ss).1 = w' ∧
      (w.stageAll c name ss).2.map Prod.fst = ss.map (fun s => .ok (.count s.updates.length)) ∧
      (w.stageAll c name ss).2.map Prod.snd = (t.run (ss.map (·.event))).2.map fun r =>
        .ok (.transition r.outcome) := by
  -- after each event the expiry is that of its write, which the next event does not reach
  induction ss generalizing w t expiry x with
  | nil => exact ⟨w, expiry, x, h, rfl, rfl, rfl⟩
  | cons s ss ih =>
    obtain ⟨expiresAt, hexpiry⟩ := Option.isSome_iff_exists.1 (hcalendar s List.mem_cons_self)
    obtain ⟨w₁, x₁, hstage, hmirrors, hmachine, halike⟩ :=
      h.stage name (hss.writes s List.mem_cons_self)
      (hss.declared s List.mem_cons_self) (hss.values s List.mem_cons_self) (hnow s rfl) hexpiry
      (hss.asked s List.mem_cons_self expiresAt hexpiry)
    have hrest : w₁.stores.backend.Takes x₁.machine ss := by
      rw [hmachine]
      exact hss.tail.alike halike
    have hcalendar' : w₁.stores.backend.InCalendar ss :=
      Backend.InCalendar.alike (fun s' hs' => hcalendar s' (List.mem_cons_of_mem s hs')) halike
    have hnow' :
        ∀ s' ∈ ss.head?, ∀ t ∈ some expiresAt, w₁.stores.backend.IsBefore s'.writtenAt t := by
      rintro s' hs' t ⟨⟩
      exact (halike.isBefore _ _).2 ((List.isChain_cons.1 hss.kept).1 s' hs' expiresAt hexpiry)
    obtain ⟨w', expiry', x', hfinal, hrun, hwritten, hasked⟩ := ih hmirrors hrest hcalendar' hnow'
    refine ⟨w', expiry', x', hfinal, ?_, ?_, ?_⟩
    · rw [Manager.stageAll, hstage]
      exact hrun
    · rw [Manager.stageAll, hstage]
      exact congrArg _ hwritten
    · rw [Manager.stageAll, hstage]
      exact congrArg _ hasked

/-- A dry run agrees with a conversation that is started on the same version without earlier
    memory: the tool's writes are made, each request has the outcome of its event, and both
    end in the same task. -/
theorem dry_run_agrees (name : String) {n : NewContact} {v : Version} {m : Machine}
    {ss : List Staged} (hv : compile v = .ok m) (hw : w.Startable n m)
    (hmemory : w.stores.backend.Vacant n.conversationId) (hss : w.stores.backend.Takes m ss)
    (hcalendar : w.stores.backend.InCalendar ss) (now : Instant) :
    ∃ reports final, simulate v (ss.map (·.event)) now = .ok (reports, final) ∧
      ∃ w₀ task w' answers, w.call (.begin n) = (w₀, .ok (.task (some task))) ∧
        w₀.stageAll n.conversationId name ss = (w', answers) ∧
        answers.map Prod.fst = ss.map (fun s => .ok (.count s.updates.length)) ∧
        answers.map Prod.snd = reports.map (fun r => .ok (.transition r.outcome)) ∧
        ∃ last, (w'.call (.currentTask n.conversationId)).2 = .ok (.task (some last)) ∧
          last.name = final := by
  obtain ⟨w₀, hbegin, hserving, hshows, halike, -⟩ := hw.begin hmemory.shows
  have hlocated : (n.start w.stores.clock m).Located :=
    Session.located_start (compile_eq_ok.1 hv).closed _
  -- both start in the first task, and know nothing
  have hstart : w₀.Mirrors n.conversationId (Trial.start v m now) none (n.start w.stores.clock m) :=
    ⟨hserving, ⟨rfl, rfl⟩, hlocated, hshows⟩
  obtain ⟨w', expiry, x, hfinal, hrun, hwritten, hasked⟩ :=
    hstart.stageAll name (hss.alike halike) (hcalendar.alike halike) (by rintro s - t ⟨⟩)
  obtain ⟨task, htask, -⟩ := hlocated.currentTask?_name
  obtain ⟨last, hlast, hlastName⟩ := hfinal.located.currentTask?_name
  -- the dry run compiles the same version
  have hsimulate :
      simulate v (ss.map (·.event)) now = .ok (((Trial.start v m now).run (ss.map (·.event))).2,
      ((Trial.start v m now).run (ss.map (·.event))).1.currentTask) := bind_eq_ok.2 ⟨m, hv, rfl⟩
  refine ⟨_, _, hsimulate, w₀, task, w', _, by rw [hbegin, htask], Prod.ext hrun rfl, hwritten,
    hasked, last, ?_, ?_⟩
  · rw [call, command_live hfinal.serving.live, send, hfinal.serving.live]
    simp only [Actor.handle, hlast]
  · rw [hlastName]
    exact hfinal.inStep.task.symm

/-- Booking is asked for with a name, and, back at the welcome, again after the name was emptied. -/
def bookedAndBack : List Staged :=
  [.ofEvent { target := "book", facts := Dict.empty.insert "name" (.string "Ada") } "k1"
    ⟨21, 0, by decide⟩ ⟨22, 0, by decide⟩,
   .ofEvent { target := "welcome", facts := Dict.empty.insert "name" (.string "") } "k1"
     ⟨23, 0, by decide⟩ ⟨24, 0, by decide⟩,
   .ofEvent { target := "book" } "k2" ⟨25, 0, by decide⟩ ⟨26, 0, by decide⟩]

theorem declares_name (prompt : String) {a : Value} {id : String}
    (hid : ((Dict.empty.insert "name" a).get? id).isSome) :
    (machineOf (booking ["name"] prompt) (welcome prompt)).declares id := by
  rw [Dict.get?_insert] at hid
  split at hid
  · rename_i h
    rw [h]
    rfl
  · cases hid

theorem bookedAndBack_takes {b : Backend} (hb : b ∈ shelves (booking ["name"] "") (seconds 60)) :
    b.Takes (machineOf (booking ["name"] "") (welcome "")) bookedAndBack ∧
      b.InCalendar bookedAndBack := by
  have httl : b.ttl = seconds 60 := shelves_ttl hb
  refine ⟨⟨?_, ?_, ?_, ?_, ?_⟩, ?_⟩
  · simp only [bookedAndBack, List.forall_mem_cons]
    exact ⟨Staged.writes_ofEvent _ _ _ _, Staged.writes_ofEvent _ _ _ _,
      Staged.writes_ofEvent _ _ _ _, by simp⟩
  · simp only [bookedAndBack, List.forall_mem_cons]
    exact ⟨fun _ => declares_name "", fun _ => declares_name "", by rintro id ⟨⟩, by simp⟩
  · intro s hs
    refine Backend.Plain.canKeep ?_ b
    simp only [bookedAndBack, List.mem_cons, List.not_mem_nil, or_false] at hs
    rcases hs with rfl | rfl | rfl
    · exact List.forall_mem_singleton.2 (.inr ⟨"Ada", rfl⟩)
    · exact List.forall_mem_singleton.2 (.inr ⟨"", rfl⟩)
    · exact List.forall_mem_nil _
  · simp only [bookedAndBack, List.isChain_cons_cons, List.isChain_singleton, and_true]
    exact ⟨shelves_keep hb rfl (by decide) (by decide), shelves_keep hb rfl (by decide) (by decide)⟩
  · simp only [bookedAndBack, List.forall_mem_cons]
    exact ⟨shelves_keep hb rfl (by decide) (by decide), shelves_keep hb rfl (by decide) (by decide),
      shelves_keep hb rfl (by decide) (by decide), by simp⟩
  · rw [Backend.InCalendar, httl]
    decide

/-- Booking is open, and closed once the name is empty, in the dry run and in either backend. -/
theorem booking_agrees : (shelves (booking ["name"] "") (seconds 60)).Forall fun b =>
    let w := ((fresh { backend := b, clock := .epoch } (fun _ => none) 1).call (.begin visitor)).1
    ∃ reports, simulate (booking ["name"] "") (bookedAndBack.map (·.event)) .epoch =
      .ok (reports, "welcome") ∧ reports.map (·.outcome.isAccepted) = [true, true, false] ∧
      ∃ w' answers last, w.stageAll "c1" "crm" bookedAndBack = (w', answers) ∧
        answers.map Prod.snd = reports.map (fun r => .ok (.transition r.outcome)) ∧
        (w'.call (.currentTask "c1")).2 = .ok (.task (some last)) ∧ last.name = "welcome" := by
  rw [List.forall_iff_forall_mem]
  intro b hb w
  have hv := compile_eq_ok.2 (compiled_booking ["name"] "")
  obtain ⟨htakes, hcalendar⟩ := bookedAndBack_takes hb
  obtain ⟨reports, final, hsimulate, w₀, task, w', answers, hbegin, hrun, -, hasked, last, hlast,
      hname⟩ :=
    dry_run_agrees "crm" hv (shelves_startable hb hv rfl rfl .epoch)
      (shelves_vacant hb "c1") htakes hcalendar .epoch
  have hw : w = w₀ := congrArg Prod.fst hbegin
  -- the reports are those of the dry run, which can be computed
  obtain ⟨m, hm, hreports⟩ := bind_eq_ok.1 hsimulate
  cases hv.symm.trans hm
  cases hreports
  exact ⟨_, hsimulate, by decide, w', answers, last, by rw [hw]; exact hrun, hasked, hlast, hname⟩

/-- Booking is asked for with a name, five seconds before the calendar ends. -/
def lateRun : List Staged :=
  [.ofEvent { target := "book", facts := Dict.empty.insert "name" (.string "Ada") } "k1"
    Backend.atTheEnd.startedAt
    Backend.atTheEnd.startedAt]

/-- A write that would expire after the calendar ends breaks the actor down, where the
    dry run books. -/
theorem apart_at_the_end_of_the_calendar :
    (shelves (booking ["name"] "") (seconds 10)).Forall fun b =>
    let v := booking ["name"] ""
    let w := fresh { backend := b, clock := .epoch } (fun _ => none) 1
    ∃ m, compile v = .ok m ∧ w.Startable visitor m ∧ b.Vacant "c1" ∧ b.Takes m lateRun ∧
      ∃ reports, simulate v (lateRun.map (·.event)) .epoch = .ok (reports, "book") ∧
        reports.map (·.outcome.isAccepted) = [true] ∧
        ((w.call (.begin visitor)).1.stageAll "c1" "crm" lateRun).2 =
          [(.error (.conversationClosed "c1"), .error (.conversationClosed "c1"))] := by
  rw [List.forall_iff_forall_mem]
  intro b hb v w
  have hv := compile_eq_ok.2 (compiled_booking ["name"] "")
  have hstart := shelves_startable hb hv rfl rfl .epoch
  have hbeyond : Backend.atTheEnd.startedAt.add? b.ttl = none := by
    rw [shelves_ttl hb]
    decide
  -- every premise but the calendar holds
  have htakes : b.Takes (machineOf v (welcome "")) lateRun := by
    refine ⟨?_, ?_, ?_, .singleton _, ?_⟩
    · exact List.forall_mem_singleton.2 (Staged.writes_ofEvent _ _ _ _)
    · exact List.forall_mem_singleton.2 fun _ => declares_name ""
    · exact List.forall_mem_singleton.2 (nameWrite_canKeep b)
    · refine List.forall_mem_singleton.2 ?_
      intro t ht
      cases hbeyond.symm.trans ht
  refine ⟨_, hv, hstart, shelves_vacant hb "c1", htakes, _, bind_eq_ok.2 ⟨_, hv, rfl⟩, by decide,
    ?_⟩
  -- the write ends the actor, and the request finds it dead
  obtain ⟨w₀, hbegin, hserving, hshows, halike, -⟩ := hstart.begin (shelves_vacant hb "c1").shows
  obtain ⟨buckets, hfinds⟩ := hshows.legible.finds Backend.atTheEnd.startedAt
  obtain ⟨b', hset⟩ :=
    hfinds.setMemory_beyond "k1" nameWrite (.tool "crm") (by rw [halike.ttl]; exact hbeyond)
  obtain ⟨w₁, hupdate, hdead⟩ := (hserving.atTime Backend.atTheEnd.startedAt).update_beyond
    (List.forall_mem_singleton.2 rfl) hset
  have hasked : ((w₁.atTime Backend.atTheEnd.startedAt).call (.request "c1" "book")).2 =
      .error (.conversationClosed "c1") := by
    have hfind : (w₁.atTime Backend.atTheEnd.startedAt).find "c1" =
        (w₁.atTime Backend.atTheEnd.startedAt, .ok (some "c1")) :=
      if_pos (Option.isSome_of_eq_some hdead)
    rw [call, command, hfind]
    exact congrArg Prod.snd (send_dead (w := w₁.atTime Backend.atTheEnd.startedAt) hdead)
  have hstage :=
    stage_of_update (c := "c1")
      (s := .ofEvent { target := "book", facts := Dict.empty.insert "name" (.string "Ada") } "k1"
    Backend.atTheEnd.startedAt Backend.atTheEnd.startedAt) hupdate
  rw [hbegin, lateRun]
  simp only [stageAll]
  rw [hstage]
  exact congrArg (fun a => [(Except.error (RuntimeError.conversationClosed "c1"), a)]) hasked

end Manager
end Dialogue.Live
