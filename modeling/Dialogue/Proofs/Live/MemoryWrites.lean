import Mathlib.Data.List.Basic
import Mathlib.Data.List.Induction
import Dialogue.Proofs.Live.Opening

/-! # A write to memory is made as a whole or not at all

    The actor of a conversation looks at all entries of a write before it turns to the stores. One
    that is not declared refuses them all, and nothing has happened; otherwise the stores take all
    of them or fail, and a failure leaves what they hold (`update_all_or_nothing`). Beyond the end
    of the calendar they do neither, and the actor breaks down (`update_beyond_the_calendar`). -/

namespace Dialogue.StateMachine

open Dialogue.Flow

/-! ### What is not declared -/

/-- Those of the ids with the property, each once, in the order of their first occurrence. -/
structure ListsOnce (p : String → Prop) (ids found : List String) : Prop where
  nodup : found.Nodup
  mem : ∀ id, id ∈ found ↔ id ∈ ids ∧ p id
  ordered : found.Pairwise fun a b => ids.idxOf a < ids.idxOf b

theorem ListsOnce.congr {p q : String → Prop} {ids found : List String} (h : ListsOnce p ids found)
    (hpq : ∀ id, p id ↔ q id) : ListsOnce q ids found :=
  ⟨h.nodup, fun id => (h.mem id).trans (and_congr_right fun _ => hpq id), h.ordered⟩

theorem ListsOnce.eq_nil_iff {p : String → Prop} {ids found : List String}
    (h : ListsOnce p ids found) :
    found = [] ↔ ∀ id ∈ ids, ¬ p id := by
  simp only [List.eq_nil_iff_forall_not_mem, h.mem, not_and]

theorem Machine.undeclared_concat (m : Machine) (ids : List String) (id : String) :
    m.undeclared (ids ++ [id]) =
    if m.declares id || (m.undeclared ids).contains id then m.undeclared ids
      else m.undeclared ids ++ [id] :=
  List.foldl_append ..

theorem Machine.undeclared_lists (m : Machine) (ids : List String) :
    ListsOnce (fun id => m.declares id = false) ids (m.undeclared ids) := by
  induction ids using List.reverseRecOn with
  | nil => exact ⟨.nil, by simp [undeclared], .nil⟩
  | append_singleton ids id ih =>
    -- what has been found keeps its place
    have hplaces :
        (m.undeclared ids).Pairwise fun a b => (ids ++ [id]).idxOf a < (ids ++ [id]).idxOf b := by
      refine ih.ordered.imp_of_mem fun ha hb hlt => ?_
      rwa [List.idxOf_append_of_mem ((ih.mem _).1 ha).1,
        List.idxOf_append_of_mem ((ih.mem _).1 hb).1]
    rw [undeclared_concat]
    split
    next hknown =>
      rw [Bool.or_eq_true, List.contains_iff_mem] at hknown
      have hid : m.declares id = false → id ∈ ids := fun hundeclared =>
        ((ih.mem id).1 (hknown.resolve_left (Bool.eq_false_iff.1 hundeclared))).1
      refine ⟨ih.nodup, fun a => ?_, hplaces⟩
      rw [ih.mem, List.mem_append, List.mem_singleton]
      refine and_congr_left fun ha => ⟨.inl, ?_⟩
      rintro (hmem | rfl)
      · exact hmem
      · exact hid ha
    next hnew =>
      rw [Bool.or_eq_true, List.contains_iff_mem, not_or, Bool.not_eq_true] at hnew
      have hid : id ∉ ids := fun hmem => hnew.2 ((ih.mem id).2 ⟨hmem, hnew.1⟩)
      refine ⟨List.nodup_append.2 ⟨ih.nodup, by simp, ?_⟩, fun a => ?_,
        List.pairwise_append.2 ⟨hplaces, by simp, ?_⟩⟩
      · intro a ha b hb
        rw [List.mem_singleton.1 hb]
        rintro rfl
        exact hnew.2 ha
      · rw [List.mem_append, List.mem_append, List.mem_singleton, ih.mem]
        refine ⟨?_, fun ⟨hmem, ha⟩ => hmem.imp_left fun hmem => ⟨hmem, ha⟩⟩
        rintro (⟨hmem, ha⟩ | rfl)
        · exact ⟨.inl hmem, ha⟩
        · exact ⟨.inr rfl, hnew.1⟩
      · intro a ha b hb
        have hmem := ((ih.mem a).1 ha).1
        rw [List.mem_singleton.1 hb, List.idxOf_append_of_mem hmem, List.idxOf_append_of_notMem hid]
        exact Nat.lt_add_right _ (List.idxOf_lt_length_of_mem hmem)

example : (machineOf (booking ["name"] "") (welcome "")).undeclared ["x", "name", "y", "x"] =
    ["x", "y"] := by decide

end Dialogue.StateMachine

namespace Dialogue.Flow

/-- The version declares a variable with the id. -/
def Version.Declares (v : Version) (id : String) : Prop := ∃ d ∈ v.declarations, d.id = id

end Dialogue.Flow

namespace Dialogue.StateMachine

open Dialogue.Flow

theorem Compiled.declares_iff {v : Version} {m : Machine} (h : Compiled v m) (id : String) :
    m.declares id ↔ v.Declares id := by
  obtain ⟨first, -, rfl⟩ := h.machine
  simp [Machine.declares, machineOf, Version.Declares]

end Dialogue.StateMachine

namespace Dialogue.Memory

open Json Time

/-! ### What is stored of an entry -/

/-- The fact is what the update makes of it, whatever it was. -/
structure Fact.Records (f : Fact) (u : Update) (contactId : String) (writer : Writer)
    (now : Instant) : Prop where
  value : f.value = u.value
  updatedBy : f.updatedBy = some writer.name
  updatedAt : f.updatedAt = some now
  contactId : f.contactId = contactId
  descriptions : ∀ ds, u.descriptions = some ds → f.descriptions = some ds

/-- Of several updates of a variable, the last one is recorded. -/
theorem Bucket.records_writeAll {contactId : String} {writer : Writer} {now : Instant} (b : Bucket)
    {before after : List Update} {u : Update} (hlast : u.variableId ∉ after.map (·.variableId)) :
    ∃ f, (b.writeAll contactId writer now (before ++ u :: after)).get? u.variableId = some f ∧
      f.Records u contactId writer now := by
  rw [writeAll, List.foldl_append, List.foldl_cons]
  refine ⟨_, (get?_writeAll hlast).trans ((Dict.get?_insert ..).trans (if_pos rfl)), rfl, rfl, rfl,
    rfl, ?_⟩
  intro ds hds
  rw [Fact.update, hds]
  rfl

end Dialogue.Memory

namespace Dialogue.Live.Backend

open Json Time Memory

/-- The fact is stored in the bucket; a database holds its text. -/
def HasFact (c : String) (source : Source) (id : String) (f : Fact) : Backend → Prop
  | .process _ _ memory => (memory.bucket c source).get? id = some f
  | .database db _ => (db.rows source c).get? id = some (textOf f)

/-- The memory of the conversation expires then; a database counts milliseconds. -/
def ExpiresAt (c : String) (expiresAt : Instant) : Backend → Prop
  | .process _ _ memory => (memory.namespaces.get? c).map (·.expiresAt) = some expiresAt
  | .database db _ => db.expiries.get? c = some expiresAt.millis

/-- Every entry is stored, or a later one for the same variable. -/
structure Took (b : Backend) (c contactId : String) (us : List Update) (writer : Writer)
    (now expiresAt : Instant) :
    Prop where
  expires : b.ExpiresAt c expiresAt
  entries : ∀ before u after, us = before ++ u :: after → u.variableId ∉ after.map (·.variableId) →
    ∃ f, b.HasFact c writer.source u.variableId f ∧ f.Records u contactId writer now

variable {b b' : Backend} {c contactId : String} {us : List Update} {writer : Writer}
    {now expiresAt : Instant}

/-- What a write leaves are the entries on what it found, of which this is enough. -/
theorem took_of_found (found : Bucket) (hexpires : b.ExpiresAt c expiresAt)
    (hfacts : ∀ id f, id ∈ us.map (·.variableId) →
        (found.writeAll contactId writer now us).get? id = some f →
      b.HasFact c writer.source id f) : b.Took c contactId us writer now expiresAt := by
  refine ⟨hexpires, ?_⟩
  rintro before u after rfl hlast
  obtain ⟨f, hf, hrecords⟩ : ∃ f,
      (found.writeAll contactId writer now (before ++ u :: after)).get? u.variableId = some f ∧
      f.Records u contactId writer now := found.records_writeAll hlast
  exact ⟨f, hfacts _ f (by simp) hf, hrecords⟩

theorem took_of_setMemory {n : Option Nat} (h : b.setMemory c contactId us writer now = .ok (b', n))
    (hexpiry : now.add? b.ttl = some expiresAt) :
    n = some us.length ∧ b'.Took c contactId us writer now expiresAt := by
  cases b with
  -- the process holds the bucket with all updates written to it
  | process versions snapshots memory =>
    obtain ⟨memory', hset, -, hholds⟩ := memory.set_holds c contactId us writer hexpiry
    simp only [Backend.setMemory, hset] at h
    cases h
    refine ⟨rfl,
      took_of_found (memory.getBucket now c writer.source) hholds.expires fun id f _ hf => ?_⟩
    have hbucket := hholds.reads writer.source
    rw [if_pos rfl] at hbucket
    exact (congrArg (Dict.get? · id) hbucket).trans hf
  -- the database has a row for each fact of that bucket
  | database db ttl =>
    have hcounts : (Backend.database db ttl).setMemory c contactId us writer now ≠ .ok (b', none) :=
      setMemory_expires (Option.isSome_of_eq_some hexpiry)
    rw [Backend.setMemory] at h hcounts
    split at h
    next db' count hset =>
      cases h
      obtain ⟨db₁, live, found, expiresAt', -, -, hexpiry', rfl, hwrote⟩ :=
        Database.setMemory_wrote hset
      cases hexpiry'.symm.trans hexpiry
      refine ⟨rfl, took_of_found found ?_ fun id f hid hf => ?_⟩
      · exact (congrArg (Dict.get? · c) hwrote.expiries).trans
          ((Dict.get?_insert ..).trans (if_pos rfl))
      · exact (hwrote.rows writer.source c id).trans
          ((if_pos ⟨rfl, rfl, hid⟩).trans (congrArg _ hf))
    next hset =>
      cases h
      rw [hset] at hcounts
      exact (hcounts rfl).elim
    next => cases h

end Dialogue.Live.Backend

namespace Dialogue.Live

open Memory

/-- No failure of the stores says that variables are not declared. -/
theorem Backend.setMemory_ne_undeclared {b : Backend} {c contactId : String} {us : List Update}
    {writer : Writer} {now : Time.Instant} (ids : List String) :
    b.setMemory c contactId us writer now ≠ .error (.undeclaredVariables ids) := by
  cases b with
  | process versions snapshots memory =>
    rw [setMemory]
    rintro ⟨⟩
  | database db ttl =>
    rw [setMemory]
    split <;> simp [memoryError]

theorem Stores.setMemory_ne_undeclared (s : Stores) (c contactId : String) (us : List Update)
    (writer : Writer) (ids : List String) :
    (s.setMemory c contactId us writer).2 ≠ .error (.undeclaredVariables ids) := by
  unfold setMemory
  cases hfault : s.faults .setMemory with
  | some fault =>
    simp only [attempt, hfault]
    cases fault <;> simp [Fault.storeError]
  | none =>
    have hbackend :
        s.backend.setMemory c contactId us writer s.clock ≠ .error (.undeclaredVariables ids) :=
      Backend.setMemory_ne_undeclared ids
    simp only [attempt, hfault]
    split
    · simp
    next herror =>
      rw [herror] at hbackend
      simpa using hbackend

end Dialogue.Live

namespace Dialogue.Live.Manager

open Json Time Dialogue.Flow Conversation StateMachine Memory

/-- The conversation is live, under its own id, on the machine of the version. -/
structure LiveOn (w : Manager) (c : String) (v : Version) (x : Session) : Prop where
  compiled : compile v = .ok x.machine
  live : w.actors.get? c = some (.live x)
  id : x.conversationId = c

variable {w : Manager} {c : String} {v : Version} {x : Session} {contactId : String}
    {us : List Update} {writer : Writer}

theorem LiveOn.undeclared_lists (h : w.LiveOn c v x) (us : List Update) :
    ListsOnce (¬ v.Declares ·) (us.map (·.variableId))
        (x.machine.undeclared (us.map (·.variableId))) := by
  refine (x.machine.undeclared_lists _).congr fun id => ?_
  rw [← (compile_eq_ok.1 h.compiled).declares_iff, Bool.not_eq_true]

/-- How a write to a live conversation comes out. -/
inductive Updated (w : Manager) (c : String) (v : Version) (contactId : String) (us : List Update)
    (writer : Writer) :
    Manager × Answer → Prop
  | refused {ids : List String} :
      ids ≠ [] → ListsOnce (¬ v.Declares ·) (us.map (·.variableId)) ids →
      Updated w c v contactId us writer (w, .error (.memory (.undeclaredVariables ids)))
  | failed {s : Stores} {e : StoreError} : (∀ u ∈ us, v.Declares u.variableId) →
      w.stores.setMemory c contactId us writer = (s, .error e) →
      (∀ ids, e ≠ .undeclaredVariables ids) →
      s.backend = w.stores.backend →
      Updated w c v contactId us writer ({ w with stores := s }, .error (.memory e))
  | made {s : Stores} {n : Nat} : (∀ u ∈ us, v.Declares u.variableId) →
      w.stores.setMemory c contactId us writer = (s, .ok (some n)) →
      w.stores.backend.setMemory c contactId us writer w.stores.clock = .ok (s.backend, some n) →
      Updated w c v contactId us writer ({ w with stores := s }, .ok (.count n))
  | brokenOff {s : Stores} : (∀ u ∈ us, v.Declares u.variableId) →
      w.stores.setMemory c contactId us writer = (s, .ok none) →
      w.stores.clock.add? w.stores.backend.ttl = none →
      Updated w c v contactId us writer
        ({ w with stores := s, actors := w.actors.insert c .dead }, .error (.conversationClosed c))

/-- What is not declared is found before the stores are asked. -/
theorem LiveOn.updated (h : w.LiveOn c v x) (contactId : String) (us : List Update)
    (writer : Writer) :
    Updated w c v contactId us writer (w.call (.update c contactId us writer)) := by
  have hlists := h.undeclared_lists us
  have hsend :
      w.call (.update c contactId us writer) = w.send c (.updateMemory contactId us writer) :=
    command_live h.live _
  rw [hsend, send, h.live]
  simp only [Actor.handle, Actor.handleUpdate, h.id]
  cases hids : x.machine.undeclared (us.map (·.variableId)) with
  -- variables are missing, and the stores have not been asked
  | cons id ids =>
    simp only [Dict.insert_of_get? h.live]
    exact .refused (List.cons_ne_nil id ids) (hids ▸ hlists)
  -- all are declared, and the stores decide
  | nil =>
    have hall : ∀ u ∈ us, v.Declares u.variableId := by simpa using hlists.eq_nil_iff.1 hids
    have hne := w.stores.setMemory_ne_undeclared c contactId us writer
    rcases w.stores.setMemory_outcome c contactId us writer with ⟨e, hset⟩ | ⟨⟨b, n⟩,
      hbackend, hset⟩
    · rw [hset] at hne
      simp only [hset, Dict.insert_of_get? h.live]
      exact .failed hall hset (fun ids he => hne ids (congrArg _ he)) rfl
    · cases n with
      | some n =>
        simp only [hset, Dict.insert_of_get? h.live]
        exact .made hall hset hbackend
      | none =>
        have hexpiry := mt Backend.setMemory_expires (not_not_intro hbackend)
        simp only [hset]
        exact .brokenOff hall hset (Option.not_isSome_iff_eq_none.1 hexpiry)

/-! ### What that comes to -/

section

variable {r : Manager × Answer} (h : Updated w c v contactId us writer r)

include h

theorem Updated.refused_iff :
    (∃ ids, r.2 = .error (.memory (.undeclaredVariables ids))) ↔
      ∃ u ∈ us, ¬ v.Declares u.variableId := by
  have hsome : (∃ u ∈ us, ¬ v.Declares u.variableId) ↔ ¬ ∀ u ∈ us, v.Declares u.variableId := by
    simp
  rw [hsome]
  cases h with
  | refused hids hlists => exact iff_of_true ⟨_, rfl⟩ (by simpa using mt hlists.eq_nil_iff.2 hids)
  | failed hall _ hne =>
    refine iff_of_false ?_ (not_not_intro hall)
    rintro ⟨ids, ⟨⟩⟩
    exact hne ids rfl
  | made hall => exact iff_of_false (by simp) (not_not_intro hall)
  | brokenOff hall => exact iff_of_false (by simp) (not_not_intro hall)

theorem Updated.of_refused {ids : List String}
    (hr : r.2 = .error (.memory (.undeclaredVariables ids))) :
    r.1 = w ∧ ListsOnce (¬ v.Declares ·) (us.map (·.variableId)) ids := by
  cases h with
  | refused _ hlists =>
    cases hr
    exact ⟨rfl, hlists⟩
  | failed _ _ hne =>
    cases hr
    exact (hne ids rfl).elim
  | made => cases hr
  | brokenOff => cases hr

theorem Updated.stored (k : String) : r.1.stores.stored k = w.stores.stored k := by
  have hsame := (w.stores.setMemory_same c contactId us writer).stored k
  cases h with
  | refused => rfl
  | failed _ hset => rwa [hset] at hsame
  | made _ hset => rwa [hset] at hsame
  | brokenOff _ hset => rwa [hset] at hsame

variable (hall : ∀ u ∈ us, v.Declares u.variableId)

include hall

theorem Updated.of_error {e : StoreError}
    (he : (w.stores.setMemory c contactId us writer).2 = .error e) :
    r.2 = .error (.memory e) ∧ r.1.actors = w.actors ∧ r.1.stores.backend = w.stores.backend := by
  -- only one of the ends is that of stores that fail
  cases h with
  | refused hids hlists => exact (hids (hlists.eq_nil_iff.2 (by simpa using hall))).elim
  | failed _ hset _ hbackend =>
    rw [hset] at he
    cases he
    exact ⟨rfl, rfl, hbackend⟩
  | made _ hset =>
    rw [hset] at he
    cases he
  | brokenOff _ hset =>
    rw [hset] at he
    cases he

theorem Updated.of_ok {n : Option Nat} {expiresAt : Instant}
    (hn : (w.stores.setMemory c contactId us writer).2 = .ok n)
    (hexpiry : w.stores.clock.add? w.stores.backend.ttl = some expiresAt) :
    r.2 = .ok (.count us.length) ∧ r.1.actors = w.actors ∧
      r.1.stores.backend.Took c contactId us writer w.stores.clock expiresAt := by
  cases h with
  | refused hids hlists => exact (hids (hlists.eq_nil_iff.2 (by simpa using hall))).elim
  | failed _ hset =>
    rw [hset] at hn
    cases hn
  | made _ _ hbackend =>
    obtain ⟨hlength, htook⟩ := Backend.took_of_setMemory hbackend hexpiry
    cases hlength
    exact ⟨rfl, rfl, htook⟩
  | brokenOff _ _ hbeyond => cases hbeyond.symm.trans hexpiry

end

/-- A write is refused if and only if an entry is not declared; all the ids that are not are listed
    then, and nothing has happened. Otherwise the stores decide: if they fail they hold what they
    held, and if they do not every entry is stored, as far as the calendar has the expiry; the
    actors stay. What snapshots are stored stays in any case. -/
theorem update_all_or_nothing (h : w.LiveOn c v x) (contactId : String) (us : List Update)
    (writer : Writer) :
    ∃ w' answer, w.call (.update c contactId us writer) = (w', answer) ∧
      (∀ k, w'.stores.stored k = w.stores.stored k) ∧
      ((∃ ids, answer = .error (.memory (.undeclaredVariables ids))) ↔
          ∃ u ∈ us, ¬ v.Declares u.variableId) ∧
      (∀ ids, answer = .error (.memory (.undeclaredVariables ids)) →
        w' = w ∧ ListsOnce (¬ v.Declares ·) (us.map (·.variableId)) ids) ∧
      ((∀ u ∈ us, v.Declares u.variableId) →
        (∀ e, (w.stores.setMemory c contactId us writer).2 = .error e →
          answer = .error (.memory e) ∧ w'.actors = w.actors ∧
            w'.stores.backend = w.stores.backend) ∧
        ∀ n expiresAt, (w.stores.setMemory c contactId us writer).2 = .ok n →
          w.stores.clock.add? w.stores.backend.ttl = some expiresAt →
          answer = .ok (.count us.length) ∧ w'.actors = w.actors ∧
            w'.stores.backend.Took c contactId us writer w.stores.clock expiresAt) := by
  have hout := h.updated contactId us writer
  exact ⟨_, _, rfl, hout.stored, hout.refused_iff, fun _ => hout.of_refused,
    fun hall => ⟨fun _ => hout.of_error hall, fun _ _ => hout.of_ok hall⟩⟩

theorem AtEdge.liveOn {w : Manager} {c : String} {v : Version} {m : Machine} {e : Edge}
    (h : w.AtEdge c v m e) (hw : w.Sound) : ∃ x, w.LiveOn c v x ∧ x.machine = m := by
  obtain ⟨x, -, hx, rfl, -⟩ := h.live
  exact ⟨x, ⟨h.compiled, hx, (hw.fits c x hx).id⟩, rfl⟩

/-- Of the visitor of booking the name is stored, but not with a variable that is not declared. -/
theorem stray_variable_refuses_write : (shelves (booking ["name"] "") (seconds 60)).Forall fun b =>
    let v := booking ["name"] ""
    let w := ((fresh { backend := b, clock := .epoch } (fun _ => none) 1).call (.begin visitor)).1
    (∃ ids, w.call (.update "c1" "k1" strayWrite (.tool "crm")) =
      (w, .error (.memory (.undeclaredVariables ids))) ∧
      ListsOnce (¬ v.Declares ·) ["name", "stray"] ids) ∧
    ∃ w' f, w.call (.update "c1" "k1" nameWrite (.tool "crm")) = (w', .ok (.count 1)) ∧
      w'.stores.backend.HasFact "c1" (Writer.tool "crm").source "name" f ∧
        f.value = .string "Ada" := by
  rw [List.forall_iff_forall_mem]
  intro b hb v w
  obtain ⟨w₁, rfl, hreachable, hedge, hshows, halike, hclock⟩ := welcomed hb .epoch
  obtain ⟨x, hlive, -⟩ := hedge.liveOn hreachable.sound
  have hdeclares := (compile_eq_ok.1 hedge.compiled).declares_iff
  constructor
  -- the stray variable is not declared, so the name is not written either
  · obtain ⟨w', answer, hcall, -, hrefused, heffect, -⟩ :=
      update_all_or_nothing hlive "k1" strayWrite (.tool "crm")
    have hstray : ¬ v.Declares "stray" := fun h => absurd ((hdeclares "stray").2 h) (by decide)
    obtain ⟨ids, rfl⟩ := hrefused.2 ⟨strayWrite.getLast (by decide), List.getLast_mem _, hstray⟩
    obtain ⟨rfl, hlists⟩ := heffect ids rfl
    exact ⟨ids, hcall, hlists⟩
  -- the name alone is
  · have hexpiry : w.stores.clock.add? w.stores.backend.ttl = some ⟨60, 0, by decide⟩ := by
      rw [hclock, halike.ttl.trans (shelves_ttl hb)]
      rfl
    obtain ⟨b', facts, hset, -⟩ := hshows.legible.setMemory "k1" "crm" hexpiry (nameWrite_canKeep _)
    have hstores : (w.stores.setMemory "c1" "k1" nameWrite (.tool "crm")).2 = .ok (some 1) :=
      congrArg Prod.snd (hedge.stores.setMemory hset)
    obtain ⟨w', answer, hcall, -, -, -, hmade⟩ :=
      update_all_or_nothing hlive "k1" nameWrite (.tool "crm")
    have hname : ∀ u ∈ nameWrite, v.Declares u.variableId :=
      List.forall_mem_singleton.2 ((hdeclares "name").1 rfl)
    obtain ⟨rfl, -, htook⟩ := (hmade hname).2 _ _ hstores hexpiry
    obtain ⟨f, hf, hrecords⟩ := htook.entries [] _ [] rfl (by simp)
    exact ⟨w', f, hcall, hf, hrecords.value⟩

/-- A write of the name that would expire after the calendar ends: no variable is missing, and the
    conversation is lost. -/
theorem update_beyond_the_calendar : ∃ w x, Reachable w ∧ w.LiveOn "c1" (booking ["name"] "") x ∧
    (∀ u ∈ nameWrite, (booking ["name"] "").Declares u.variableId) ∧
    ∃ w', w.call (.update "c1" "k1" nameWrite (.tool "crm")) =
        (w', .error (.conversationClosed "c1")) ∧
      w'.actors.get? "c1" = some .dead := by
  obtain ⟨b, hb⟩ : ∃ b, b ∈ shelves (booking ["name"] "") (seconds 10) := ⟨_, List.mem_cons_self⟩
  obtain ⟨w, -, hreachable, hedge, hshows, halike, hclock⟩ := welcomed hb Backend.atTheEnd.startedAt
  obtain ⟨x, hlive, hm⟩ := hedge.liveOn hreachable.sound
  have hdeclares := (compile_eq_ok.1 hedge.compiled).declares_iff
  have hbeyond : w.stores.clock.add? w.stores.backend.ttl = none := by
    rw [hclock, halike.ttl.trans (shelves_ttl hb)]
    decide
  obtain ⟨buckets, hfinds⟩ := hshows.legible.finds w.stores.clock
  obtain ⟨b', hset⟩ := hfinds.setMemory_beyond "k1" nameWrite (.tool "crm") hbeyond
  have hserving : w.Serving "c1" x := ⟨hlive.live, hlive.id, hedge.stores⟩
  obtain ⟨w', hupdate, hdead⟩ := hserving.update_beyond (by rw [hm]; decide) hset
  exact ⟨w, x, hreachable, hlive, List.forall_mem_singleton.2 ((hdeclares "name").1 rfl), w',
    hupdate, hdead⟩

end Dialogue.Live.Manager
