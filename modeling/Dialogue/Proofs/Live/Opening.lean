import Dialogue.Proofs.Flow.Storage
import Dialogue.Proofs.Live.Serving

/-! # Every edge can be opened

    What compilation checks, what updates may write, which bucket counts and what a guard reads fit
    together: in every state a conversation can be in, whatever its memory holds, a tool that writes
    the facts a task requires opens each edge to that task (`every_edge_opens`). The write has to be
    one of declared variables and to have an expiry, and the request to come before that
    (`not_every_write_opens`). -/

namespace Dialogue.Live.Manager

open Json Time Dialogue.Flow Conversation StateMachine Memory

/-- The same manager at another time. -/
def atTime (w : Manager) (now : Instant) : Manager :=
  { w with stores := { w.stores with clock := now } }

theorem Serving.atTime {w : Manager} {c : String} {x : Session} (h : w.Serving c x)
    (now : Instant) :
    (w.atTime now).Serving c x :=
  ⟨h.live, h.id, h.stores.readsMemory, h.stores.writesMemory, h.stores.putsSnapshots,
    h.stores.serves⟩

/-- The updates give each of the variables a value that is not empty; of several for
    one the last counts. -/
def Gives (us : List Update) (ids : List String) : Prop :=
  ∀ id ∈ ids, ∃ a, lastValue? us id = some a ∧ a.isPresent

theorem isKnown_cover {us : List Update} {ids : List String} (h : Gives us ids) (facts : Facts) :
    ∀ id ∈ ids, isKnown (cover us facts) id := by
  intro id hid
  obtain ⟨a, ha, hpresent⟩ := h id hid
  simp [isKnown, cover, ha, hpresent]

/-- The conversation is live on the machine of the version, in a state with the edge,
    and the stores work. -/
structure AtEdge (w : Manager) (c : String) (v : Version) (m : Machine) (e : Edge) : Prop where
  compiled : compile v = .ok m
  live : ∃ x s, w.actors.get? c = some (.live x) ∧ x.machine = m ∧ x.currentState? = some s ∧
      e ∈ s.edges
  stores : w.stores.Usable
  memory : w.stores.backend.Legible c

/-- In whatever state a conversation is live and whatever its memory holds, each edge of the state
    leads to a task, and a tool that gives what the task requires opens the edge: the write is made,
    and until it expires a request for the task is accepted. -/
theorem every_edge_opens {w : Manager} {c : String} {v : Version} {m : Machine} {e : Edge}
    (hw : w.Sound) (h : w.AtEdge c v m e) :
    ∃ t, v.taskByName? e.target = some t ∧ ∀ (contactId name : String) (us : List Update)
      (expiresAt : Instant),
      Gives us t.required → (∀ u ∈ us, u.variableId ∈ t.required ∨ m.declares u.variableId) →
      w.stores.backend.CanKeep us → w.stores.clock.add? w.stores.backend.ttl = some expiresAt →
      ∃ w', w.call (.update c contactId us (.tool name)) = (w', .ok (.count us.length)) ∧
        ∀ now, w.stores.backend.IsBefore now expiresAt →
          ((w'.atTime now).call (.request c e.target)).2 =
              .ok (.transition (.accepted (.ofTask t))) := by
  obtain ⟨x, s, hx, rfl, hs, he⟩ := h.live
  have hcompiled := compile_eq_ok.1 h.compiled
  obtain ⟨hedge, t, ht, hlabel⟩ := hcompiled.edge_eq hs he
  refine ⟨t, ht, ?_⟩
  intro contactId name us expiresAt hgives hdeclared hkeep hexpiry
  have hserving : w.Serving c x := ⟨hx, (hw.fits c x hx).id, h.stores⟩
  obtain ⟨b, facts, hset, halike, hshows⟩ := h.memory.setMemory contactId name hexpiry hkeep
  -- what the task requires is declared, since the version compiles
  have hall : ∀ u ∈ us, x.machine.declares u.variableId := by
    intro u hu
    rcases hdeclared u hu with hid | hid
    · exact hcompiled.declares_required (hcompiled.taskByName?_eq_some.1 ht).1 hid
    · exact hid
  obtain ⟨w', hcall, hserving', rfl, -⟩ := hserving.update hall hset
  refine ⟨w', hcall, ?_⟩
  intro now hnow
  have hbefore : ∀ t ∈ some expiresAt, w'.stores.backend.IsBefore now t := by
    rintro t ⟨⟩
    exact (halike.isBefore now expiresAt).2 hnow
  obtain ⟨w'', hrequest, -⟩ :=
    (hserving'.atTime now).request hcompiled.closed hshows hbefore e.target
  -- the edge leads to the task with that description, and all it requires is known
  have hopen :
      x.request e.target (cover us facts) = (x.moveTo e.target, .accepted (.ofTask t)) := by
    rw [hlabel] at hedge ⊢
    refine Session.request_open hs hedge (t := stateWith v.tasks t) ?_ ?_
    · rw [Edge.target_to, hcompiled.state?_task (hcompiled.taskByName?_eq_some.1 ht).1]
    · exact isKnown_cover hgives facts
  rw [hrequest, hopen]

/-! ### A version in either backend -/

/-- Nothing but a version, in the process and in a database. -/
def shelves (v : Version) (ttl : Int) : List Backend :=
  [.process (fileVersion .empty v) .empty { ttl },
   .database { versions := Dict.empty.insert v.flowId (Dict.empty.insert v.id (textOf v)) } ttl]

section

variable {v : Version} {ttl : Int} {b : Backend} (hb : b ∈ shelves v ttl)

include hb

theorem shelves_ttl : b.ttl = ttl := by
  rcases List.mem_pair.1 hb with rfl | rfl <;> rfl

theorem shelves_isBefore {now t : Instant} (hrank : now.rank < t.rank)
    (hmillis : now.millis < t.millis) :
    b.IsBefore now t := by
  rcases List.mem_pair.1 hb with rfl | rfl
  · exact hrank
  · exact hmillis

theorem shelves_keep {writtenAt now t : Instant} (ht : writtenAt.add? ttl = some t)
    (hrank : now.rank < t.rank) (hmillis : now.millis < t.millis) :
    ∀ t, writtenAt.add? b.ttl = some t → b.IsBefore now t := by
  intro t' ht'
  rw [shelves_ttl hb, ht] at ht'
  cases ht'
  exact shelves_isBefore hb hrank hmillis

/-- The version is there, or one that compiles alike. -/
theorem shelves_getVersion : ∃ v', b.getVersion v.flowId v.id = .ok (some v') ∧
    compile v' = compile v := by
  rcases List.mem_pair.1 hb with rfl | rfl
  · exact ⟨v, by simp [Backend.getVersion, fileVersion], rfl⟩
  · refine ⟨v.asRead, ?_, compile_asRead v⟩
    have hput := Database.putVersion_eq (rfl : Database.needInsert {} .versions none = .ok ()) v
    have hread := Database.getVersion_putVersion hput v.flowId v.id
    rw [if_pos ⟨rfl, rfl⟩] at hread
    exact congrArg (Except.mapError _) hread

theorem shelves_vacant (c : String) : b.Vacant c := by
  rcases List.mem_pair.1 hb with rfl | rfl
  · exact rfl
  · refine ⟨⟨rfl, fun _ => rfl⟩, ?_, rfl⟩
    rintro (_ | _) c id text ⟨⟩

theorem shelves_stored (c : String) : b.stored c = none := by
  rcases List.mem_pair.1 hb with rfl | rfl <;> rfl

theorem shelves_usable (now : Instant) : Stores.Usable { backend := b, clock := now } where
  readsMemory := rfl
  writesMemory := rfl
  putsSnapshots := rfl
  serves := by
    rcases List.mem_pair.1 hb with rfl | rfl
    · exact Backend.serves_process ..
    · exact Backend.serves_database.2 ⟨fun c => ⟨none, rfl⟩, rfl⟩

/-- A visitor starts on the version. -/
theorem shelves_startable {m : Machine} (hv : compile v = .ok m) (hf : v.flowId = "booking")
    (hi : v.id = "v1") (now : Instant) :
    (fresh { backend := b, clock := now } (fun _ => none) 1).Startable visitor m := by
  obtain ⟨v', hversion, hcompiles⟩ := shelves_getVersion hb
  rw [hf, hi] at hversion
  rw [← hcompiles] at hv
  exact startable_fresh (s := { backend := b, clock := now }) (n := visitor) hv hversion rfl
    (shelves_stored hb _) rfl
    (shelves_usable hb now) _ (by decide)

end

/-- A visitor of booking, where a name is needed, is welcomed. -/
theorem welcomed {b : Backend} {ttl : Int} (hb : b ∈ shelves (booking ["name"] "") ttl)
    (now : Instant) :
    ∃ w, ((fresh { backend := b, clock := now } (fun _ => none) 1).call (.begin visitor)).1 = w ∧
      Reachable w ∧
      w.AtEdge "c1" (booking ["name"] "") (machineOf (booking ["name"] "") (welcome ""))
          (.to "book" ["name"]) ∧
      w.stores.backend.Shows "c1" none (fun _ => none) ∧ b.Alike w.stores.backend ∧
        w.stores.clock = now := by
  have hv := compile_eq_ok.2 (compiled_booking ["name"] "")
  obtain ⟨w, hw, hserving, hshows, halike, hclock⟩ :=
    (shelves_startable hb hv rfl rfl now).begin (shelves_vacant hb "c1").shows
  refine ⟨w, congrArg Prod.fst hw, ?_, ?_, hshows, halike, hclock⟩
  · have hreachable :
        Reachable ((fresh { backend := b, clock := now } (fun _ => none) 1).call
          (.begin visitor)).1 :=
      .call _ (.fresh (shelves_stored hb))
    rwa [hw] at hreachable
  · refine ⟨hv, ⟨_, stateWith (booking ["name"] "").tasks (welcome ""), hserving.live, rfl, rfl,
      ?_⟩, hserving.stores, hshows.legible⟩
    decide

/-- A name, and one more value under an id that is not declared. -/
def strayWrite : List Update :=
  [{ variableId := "name", value := .string "Ada" },
    { variableId := "stray", value := .string "x" }]

/-- The name that the task of booking asks for. -/
def nameWrite : List Update := [{ variableId := "name", value := .string "Ada" }]

theorem nameWrite_canKeep (b : Backend) : b.CanKeep nameWrite :=
  Backend.Plain.canKeep (List.forall_mem_singleton.2 (.inr ⟨"Ada", rfl⟩)) b

theorem nameWrite_gives : Gives nameWrite ["name"] := by
  intro id hid
  rw [List.mem_singleton.1 hid]
  exact ⟨.string "Ada", by simp [lastValue?, nameWrite], by decide⟩

/-- The name opens the task of booking, until a minute is over. -/
theorem name_opens_booking : (shelves (booking ["name"] "") (seconds 60)).Forall fun b =>
    let w := ((fresh { backend := b, clock := .epoch } (fun _ => none) 1).call (.begin visitor)).1
    ∃ w', w.call (.update "c1" "k1" nameWrite (.tool "crm")) = (w', .ok (.count 1)) ∧
      ∃ task, task.name = "book" ∧
        ((w'.atTime ⟨59, 0, by decide⟩).call (.request "c1" "book")).2 =
            .ok (.transition (.accepted task)) := by
  rw [List.forall_iff_forall_mem]
  intro b hb w
  obtain ⟨w₁, rfl, hreachable, hedge, -, halike, hclock⟩ := welcomed hb .epoch
  have httl : w.stores.backend.ttl = seconds 60 := halike.ttl.trans (shelves_ttl hb)
  have hexpiry : w.stores.clock.add? w.stores.backend.ttl = some ⟨60, 0, by decide⟩ := by
    rw [hclock, httl]
    rfl
  obtain ⟨t, ht, hopens⟩ := every_edge_opens hreachable.sound hedge
  obtain rfl : (booking ["name"] "").tasks.getLast (by decide) = t := Option.some.inj ht
  obtain ⟨w', hupdate, hrequest⟩ :=
    hopens "k1" "crm" nameWrite _ nameWrite_gives (by decide) (nameWrite_canKeep _) hexpiry
  refine ⟨w', hupdate, _, ?_, hrequest _ ((halike.isBefore _ _).2 ?_)⟩
  · rfl
  · exact shelves_isBefore hb (by decide) (by decide)

/-- Three writes of the name that do not open the task of booking: one with a variable that is not
    declared, one that would expire after the calendar ends, and one to a database, where less than
    a second has gone by at the request but the millisecond is that of the expiry. -/
theorem not_every_write_opens :
    let v := booking ["name"] ""
    let e : Edge := .to "book" ["name"]
    Gives strayWrite e.required ∧ Gives nameWrite e.required ∧
    (∃ w m, Reachable w ∧ w.AtEdge "c1" v m e ∧
      (w.call (.update "c1" "k1" strayWrite (.tool "crm"))).2 =
        .error (.memory (.undeclaredVariables ["stray"]))) ∧
    (∃ w m, Reachable w ∧ w.AtEdge "c1" v m e ∧
      (w.call (.update "c1" "k1" nameWrite (.tool "crm"))).2 = .error (.conversationClosed "c1")) ∧
    ∃ w w' m now, Reachable w ∧ w.AtEdge "c1" v m e ∧
      w.call (.update "c1" "k1" nameWrite (.tool "crm")) = (w', .ok (.count 1)) ∧
      now.since w.stores.clock < w.stores.backend.ttl ∧
      ((w'.atTime now).call (.request "c1" "book")).2 =
          .ok (.transition (.rejected (.missingParameter "name"))) := by
  intro v e
  refine ⟨?_, nameWrite_gives, ?_, ?_, ?_⟩
  · intro id hid
    rw [List.mem_singleton.1 hid]
    exact ⟨.string "Ada", by simp [lastValue?, strayWrite], by decide⟩
  -- a variable that nobody has declared
  · obtain ⟨b, hb⟩ : ∃ b, b ∈ shelves v 0 := ⟨_, List.mem_cons_self⟩
    obtain ⟨w, -, hreachable, hedge, -⟩ := welcomed hb .epoch
    refine ⟨w, _, hreachable, hedge, ?_⟩
    obtain ⟨x, s, hx, hm, -⟩ := hedge.live
    have hcall : w.call (.update "c1" "k1" strayWrite (.tool "crm")) = w.send "c1"
        (.updateMemory "k1" strayWrite (.tool "crm")) :=
      command_live hx _
    have hstray : x.machine.undeclared (strayWrite.map (·.variableId)) = ["stray"] := by
      rw [hm]
      decide
    rw [hcall, send, hx]
    simp only [Actor.handle, Actor.handleUpdate, hstray]
  -- an expiry beyond the calendar
  · obtain ⟨b, hb⟩ : ∃ b, b ∈ shelves v (seconds 10) := ⟨_, List.mem_cons_self⟩
    obtain ⟨w, -, hreachable, hedge, hshows, halike, hclock⟩ :=
      welcomed hb Backend.atTheEnd.startedAt
    refine ⟨w, _, hreachable, hedge, ?_⟩
    obtain ⟨x, s, hx, hm, -⟩ := hedge.live
    obtain ⟨buckets, hfinds⟩ := hshows.legible.finds w.stores.clock
    have hbeyond : w.stores.clock.add? w.stores.backend.ttl = none := by
      rw [hclock, halike.ttl.trans (shelves_ttl hb)]
      decide
    obtain ⟨b', hset⟩ := hfinds.setMemory_beyond "k1" nameWrite (.tool "crm") hbeyond
    have hserving : w.Serving "c1" x := ⟨hx, (hreachable.sound.fits _ x hx).id, hedge.stores⟩
    obtain ⟨w', hupdate, -⟩ := hserving.update_beyond (by rw [hm]; decide) hset
    rw [hupdate]
  -- a database, which counts whole milliseconds: 1.0002 s and 1.0005 s are the same to it
  · obtain ⟨b, hb, hdatabase⟩ : ∃ b ∈ shelves v (seconds 1), ∀ now t, b.IsBefore now t ↔
        now.millis < t.millis :=
      ⟨_, List.mem_cons_of_mem _ (List.mem_singleton_self _), fun _ _ => .rfl⟩
    obtain ⟨w, -, hreachable, hedge, hshows, halike, hclock⟩ := welcomed hb ⟨0, 500000, by decide⟩
    have httl : w.stores.backend.ttl = seconds 1 := halike.ttl.trans (shelves_ttl hb)
    have hexpiry : w.stores.clock.add? w.stores.backend.ttl = some ⟨1, 500000, by decide⟩ := by
      rw [hclock, httl]
      rfl
    obtain ⟨x, s, hx, hm, hs, he⟩ := hedge.live
    have hserving : w.Serving "c1" x := ⟨hx, (hreachable.sound.fits _ x hx).id, hedge.stores⟩
    have hcompiled := compile_eq_ok.1 hedge.compiled
    obtain ⟨b', hset, halike', hshows'⟩ :=
      hshows.setMemory "k1" "crm" (by rintro t ⟨⟩) hexpiry (nameWrite_canKeep _)
    obtain ⟨w', hupdate, hserving', rfl, -⟩ := hserving.update (by rw [hm]; decide) hset
    refine ⟨w, w', _, ⟨1, 200000, by decide⟩, hreachable, hedge, hupdate, ?_, ?_⟩
    · rw [hclock, httl]
      decide
    · have hexpired :
          ¬ w'.stores.backend.IsBefore ⟨1, 200000, by decide⟩ ⟨1, 500000, by decide⟩ := by
        rw [halike'.isBefore, halike.isBefore, hdatabase]
        decide
      obtain ⟨b'', hget⟩ := hshows'.getMemory_expired hexpired
      have hclosed : x.machine.Closed := by
        rw [hm]
        exact hcompiled.closed
      obtain ⟨w'', hrequest, -⟩ := (hserving'.atTime _).request_reading hclosed hget "book"
      have hedge' : s.edge? "book" = some e :=
        (hcompiled.edge_eq (by rwa [Session.currentState?, hm] at hs) he).1
      have hmissing : firstMissing? (Bucket.facts .empty) e.required = some "name" := rfl
      rw [hrequest, Session.request_missing hs hedge' hmissing]

end Dialogue.Live.Manager
