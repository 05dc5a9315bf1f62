import Mathlib.Data.List.Chain
import Dialogue.Proofs.Live.Stored
import Dialogue.Proofs.Memory.Contents

/-! # The last write wins

    Writes to one conversation, each made before what the one before it filed expires, lose nothing:
    a bucket holds for each variable the last value that a writer of the bucket gave it
    (`lastFact`). Both stores are followed write by write: their buckets are those of the writes so
    far (`Store.Written`, `Database.Written`), whatever else they hold, so each write answers how
    many updates it had, and a read finds the last values (`last_write_wins`). Only the calendar
    ends this: a write whose expiry lies beyond it has no answer
    (`no_count_beyond_the_calendar`). -/

namespace Dialogue.Memory

open Json Time

/-! ### What writes leave -/

/-- The updates of the writes that go to the bucket, in order. -/
def updatesTo (source : Source) (ws : List Write) : List (Write × Update) :=
  (ws.filter (·.writer.source = source)).flatMap fun w => w.updates.map (w, ·)

/-- The last value that a writer of the bucket gives the variable. -/
def lastFact (source : Source) (ws : List Write) (id : String) : Option Fact :=
  lastOf (updatesTo source ws) id

/-- The bucket once the writes have been made. -/
def bucketAfter (source : Source) (ws : List Write) : Bucket :=
  .recordAll .empty (updatesTo source ws)

/-- When what the last write filed expires. -/
def expiry? (ttl : Int) (ws : List Write) : Option Instant :=
  ws.getLast?.bind (·.startedAt.add? ttl)

variable {source : Source} {ws : List Write} {w : Write} {ttl : Int} {now expiresAt : Instant}
    {c : String}

theorem bucketAfter_concat : bucketAfter source (ws ++ [w]) =
    if source = w.writer.source
      then (bucketAfter w.writer.source ws).writeAll w.contactId w.writer w.startedAt w.updates
    else bucketAfter source ws := by
  by_cases hsource : source = w.writer.source
  · subst hsource
    simp [bucketAfter, updatesTo, Bucket.recordAll, Bucket.writeAll, List.filter_append,
      List.foldl_append, List.foldl_map, Bucket.record]
  · simp [bucketAfter, updatesTo, List.filter_append, hsource, Ne.symm hsource]

theorem expiry?_concat : expiry? ttl (ws ++ [w]) = w.startedAt.add? ttl := by simp [expiry?]

/-! ### In the process -/

namespace Store

variable {s : Store}

/-- The conversation has what the writes filed. -/
structure Written (s : Store) (c : String) (ws : List Write) : Prop where
  expiry : (s.namespaces.get? c).map (·.expiresAt) = expiry? s.ttl ws
  buckets : ∀ source, s.bucket c source = bucketAfter source ws

theorem written_nothing (h : s.namespaces.get? c = none) : s.Written c [] where
  expiry := by rw [h]; rfl
  buckets source := by rw [bucket, h]; rfl

namespace Written

theorem holds (h : s.Written c ws) : s.Holds c (expiry? s.ttl ws) (bucketAfter · ws) :=
  ⟨h.expiry, h.buckets⟩

theorem set (h : s.Written c ws) (hnow : ∀ t, expiry? s.ttl ws = some t → w.startedAt.rank < t.rank)
    (hw : w.startedAt.add? s.ttl = some expiresAt) :
    ∃ s', s.set w.startedAt c w.contactId w.updates w.writer = (s', some w.updates.length) ∧
      s'.ttl = s.ttl ∧ s'.Written c (ws ++ [w]) := by
  obtain ⟨s', hset, httl, hholds⟩ := s.set_holds c w.contactId w.updates w.writer hw
  refine ⟨s', hset, httl, ?_, ?_⟩
  · rw [hholds.expires, expiry?_concat, httl, hw]
  · intro source
    rw [hholds.reads, bucketAfter_concat, h.holds.getBucket hnow]
    split
    · rename_i hsource
      rw [hsource]
    · rfl

end Written
end Store
end Dialogue.Memory

namespace Dialogue.Database

open Json Time Memory StateMachine

/-! ### In the database -/

variable {db : Database} {source : Source} {ws : List Write} {w : Write} {ttl : Int}
    {now expiresAt : Instant} {c : String}

/-- The conversation has what the writes filed. -/
structure Written (db : Database) (ttl : Int) (c : String) (ws : List Write) : Prop where
  takesRows : db.MemoryOpen
  expiry : db.expiries.get? c = (expiry? ttl ws).map (·.millis)
  rows : ∀ source, db.rows source c = (bucketAfter source ws).map textOf
  survive : ∀ source, (bucketAfter source ws).Survives
  started : ws = [] ∨ (expiry? ttl ws).isSome

theorem written_nothing (hopen : db.MemoryOpen) (h : db.NoOrphans)
    (hc : db.expiries.get? c = none) :
    db.Written ttl c [] where
  takesRows := hopen
  expiry := hc
  rows source := h.no_rows hc source
  survive _ := Bucket.survives_empty
  started := .inl rfl

namespace Written

theorem holds (h : db.Written ttl c ws) : db.Holds c (expiry? ttl ws) (bucketAfter · ws) where
  takesRows := h.takesRows
  expires := h.expiry
  reads source := loadBucket_eq h.takesRows (h.rows source) (h.survive source)
  vacant hnone source := by
    rcases h.started with rfl | hsome
    · rfl
    · rw [hnone] at hsome
      cases hsome

/-- The rows of a write can be put, and the bucket of the writer is then the one after it. -/
theorem putRows (h : db.Written ttl c ws) (w : Write) :
    ∃ db', (w.updates.map (·.variableId)).foldlM (putRow w.writer.source c
        ((bucketAfter w.writer.source ws).writeAll w.contactId w.writer w.startedAt w.updates)) db =
            .ok db' ∧
      RowsPut db db' w.writer.source c
        ((bucketAfter w.writer.source ws).writeAll w.contactId w.writer w.startedAt w.updates)
        (w.updates.map (·.variableId)) :=
  Database.putRows h.takesRows w.writer.source c _ fun _ hid => Bucket.isSome_writeAll hid

theorem setMemory_beyond (h : db.Written ttl c ws)
    (hnow : ∀ t, expiry? ttl ws = some t → w.startedAt.millis < t.millis)
    (hw : w.startedAt.add? ttl = none) :
    db.setMemory c w.contactId w.updates w.writer w.startedAt ttl = .ok none :=
  (h.holds.finds hnow).setMemory_beyond w.contactId w.updates w.writer hw

theorem setMemory (h : db.Written ttl c ws)
    (hnow : ∀ t, expiry? ttl ws = some t → w.startedAt.millis < t.millis)
    (hw : w.startedAt.add? ttl = some expiresAt) (hvalues : ∀ u ∈ w.updates, u.value.Survives 1) :
    ∃ db', db.setMemory c w.contactId w.updates w.writer w.startedAt ttl =
        .ok (some (db', w.updates.length)) ∧
      db'.Written ttl c (ws ++ [w]) := by
  obtain ⟨db', hput, hrows⟩ := h.putRows w
  refine ⟨{ db' with expiries := db'.expiries.insert c expiresAt.millis }, ?_,
    ⟨hrows.takesRows.namespaces, hrows.takesRows.facts⟩, ?_, ?_, ?_, ?_⟩
  · refine bind_eq_ok.2
      ⟨_, h.holds.checkLive hnow, bind_eq_ok.2 ⟨_, h.holds.reads w.writer.source, ?_⟩⟩
    refine bind_eq_ok.2 ⟨db', hput, ?_⟩
    rw [hw]
    exact bind_eq_ok.2 ⟨(), hrows.takesRows.namespaces, rfl⟩
  · rw [expiry?_concat, hw, Dict.get?_insert, if_pos rfl]
    rfl
  -- the rows of the writer are those of its bucket after the write, the others are as they were
  · intro source
    rw [bucketAfter_concat]
    by_cases hsource : source = w.writer.source
    · subst hsource
      rw [if_pos rfl]
      exact hrows.rows_eq (h.rows _)
    · rw [if_neg hsource, ← h.rows source]
      exact hrows.others source c fun hsame => hsource hsame.1
  · intro source
    rw [bucketAfter_concat]
    split
    · exact Bucket.survives_writeAll (h.survive _) hvalues
    · exact h.survive source
  · rw [expiry?_concat, hw]
    exact .inr rfl

end Written
end Dialogue.Database

namespace Dialogue.Live.Backend

open Json Time Memory StateMachine

/-! ### In either -/

/-- The backend reads the instant as before the expiry. -/
def IsBefore (now expiresAt : Instant) : Backend → Prop
  | .process .. => now.rank < expiresAt.rank
  | .database .. => now.millis < expiresAt.millis

/-- There is no memory of the conversation. -/
def Vacant (c : String) : Backend → Prop
  | .process _ _ memory => memory.namespaces.get? c = none
  | .database db _ => db.MemoryOpen ∧ db.NoOrphans ∧ db.expiries.get? c = none

/-- The values can be kept. -/
def CanKeep (us : List Update) : Backend → Prop
  | .process .. => True
  | .database .. => ∀ u ∈ us, u.value.Survives 1

/-- What the write filed has not expired. -/
def Keeps (b : Backend) (w : Write) (now : Instant) : Prop :=
  ∀ t, w.startedAt.add? b.ttl = some t → b.IsBefore now t

/-- Makes the writes, one after the other. -/
def setAll (c : String) (b : Backend) : List Write → Except StoreError (Backend × List (Option Nat))
  | [] => .ok (b, [])
  | w :: ws => do
    let (b, n) ← b.setMemory c w.contactId w.updates w.writer w.startedAt
    let (b, ns) ← b.setAll c ws
    return (b, n :: ns)

/-- The conversation has what the writes filed. -/
def Written (c : String) (ws : List Write) : Backend → Prop
  | .process _ _ memory => memory.Written c ws
  | .database db ttl => db.Written ttl c ws

/-- Both keep memory alike. -/
structure Alike (b b' : Backend) : Prop where
  ttl : b'.ttl = b.ttl
  isBefore : ∀ now t, b'.IsBefore now t ↔ b.IsBefore now t
  canKeep : ∀ us, b'.CanKeep us ↔ b.CanKeep us

variable {b : Backend} {c : String} {ws : List Write} {w : Write} {now : Instant}

theorem Vacant.written (h : b.Vacant c) : b.Written c [] := by
  cases b with
  | process versions snapshots memory => exact Store.written_nothing h
  | database db ttl => exact Database.written_nothing h.1 h.2.1 h.2.2

theorem Alike.refl (b : Backend) : b.Alike b := ⟨rfl, fun _ _ => .rfl, fun _ => .rfl⟩

theorem Alike.trans {b₁ b₂ b₃ : Backend} (h : b₁.Alike b₂) (h' : b₂.Alike b₃) : b₁.Alike b₃ :=
  ⟨h'.ttl.trans h.ttl, fun now t => (h'.isBefore now t).trans (h.isBefore now t),
    fun us => (h'.canKeep us).trans (h.canKeep us)⟩

theorem Alike.keeps {b' : Backend} (h : b.Alike b') : b'.Keeps w now ↔ b.Keeps w now := by
  simp only [Keeps, h.ttl, h.isBefore]

namespace Written

theorem getBucket (h : b.Written c ws) (hnow : ∀ t, expiry? b.ttl ws = some t → b.IsBefore now t)
    (source : Source) :
    b.getBucket c source now = .ok (b, bucketAfter source ws) := by
  cases b with
  | process versions snapshots memory =>
    simp only [Backend.getBucket, (Store.Written.holds h).getBucket hnow,
      ((Store.Written.holds h).live hnow).2]
  | database db ttl => simp only [Backend.getBucket, (Database.Written.holds h).getBucket hnow]

theorem getMemory (h : b.Written c ws) (hnow : ∀ t, expiry? b.ttl ws = some t → b.IsBefore now t) :
    b.getMemory c now = .ok (b, merge (bucketAfter .tools ws) (bucketAfter .extraction ws)) := by
  cases b with
  | process versions snapshots memory =>
    simp only [Backend.getMemory, (Store.Written.holds h).get hnow,
      ((Store.Written.holds h).live hnow).2]
  | database db ttl => simp only [Backend.getMemory, (Database.Written.holds h).getMemory hnow]

/-- A write before the expiry answers its count, and is the last one then. -/
theorem setMemory (h : b.Written c ws)
    (hnow : ∀ t, expiry? b.ttl ws = some t → b.IsBefore w.startedAt t)
    (hcalendar : (w.startedAt.add? b.ttl).isSome) (hvalues : b.CanKeep w.updates) :
    ∃ b', b.setMemory c w.contactId w.updates w.writer w.startedAt =
        .ok (b', some w.updates.length) ∧ b.Alike b' ∧
      b'.Written c (ws ++ [w]) := by
  obtain ⟨expiresAt, hw⟩ := Option.isSome_iff_exists.1 hcalendar
  cases b with
  | process versions snapshots memory =>
    obtain ⟨memory', hset, httl, hwritten⟩ := Store.Written.set h hnow hw
    refine ⟨.process versions snapshots memory', ?_, ⟨httl, fun _ _ => .rfl, fun _ => .rfl⟩,
      hwritten⟩
    simp only [Backend.setMemory, hset]
  | database db ttl =>
    obtain ⟨db', hset, hwritten⟩ := Database.Written.setMemory h hnow hw hvalues
    refine ⟨.database db' ttl, ?_, ⟨rfl, fun _ _ => .rfl, fun _ => .rfl⟩, hwritten⟩
    simp only [Backend.setMemory, hset]

/-- A write whose expiry lies beyond the calendar has no count. -/
theorem setMemory_beyond (h : b.Written c ws)
    (hnow : ∀ t, expiry? b.ttl ws = some t → b.IsBefore w.startedAt t)
    (hw : w.startedAt.add? b.ttl = none) :
    ∃ b', b.setMemory c w.contactId w.updates w.writer w.startedAt = .ok (b', none) := by
  cases b with
  | process versions snapshots memory =>
    have hnone : (memory.set w.startedAt c w.contactId w.updates w.writer).2 = none :=
      Store.set_beyond memory c hw
    refine ⟨.process versions snapshots (memory.set w.startedAt c w.contactId w.updates w.writer).1,
      ?_⟩
    rw [← hnone]
    rfl
  | database db ttl =>
    refine ⟨.database db ttl, ?_⟩
    simp only [Backend.setMemory, Database.Written.setMemory_beyond h hnow hw]

end Written

/-- Each write is made while what was there is kept, ends in the calendar and writes
    what can be kept. -/
structure InTime (b : Backend) (ws : List Write) : Prop where
  kept : ws.IsChain fun w w' => b.Keeps w w'.startedAt
  calendar : ∀ w ∈ ws, (w.startedAt.add? b.ttl).isSome
  values : ∀ w ∈ ws, b.CanKeep w.updates

theorem Written.setAll {done : List Write} (h : b.Written c done) (hws : b.InTime (done ++ ws)) :
    ∃ b', b.setAll c ws = .ok (b', ws.map fun w => some w.updates.length) ∧ b.Alike b' ∧
      b'.Written c (done ++ ws) := by
  induction ws generalizing b done with
  | nil => exact ⟨b, rfl, .refl b, by simpa using h⟩
  | cons w ws ih =>
    have hnow : ∀ t, expiry? b.ttl done = some t → b.IsBefore w.startedAt t := by
      intro t ht
      obtain ⟨last, hlast, hexpiry⟩ := Option.bind_eq_some_iff.1 ht
      obtain ⟨-, -, hkept⟩ := List.isChain_append.1 hws.kept
      exact hkept last hlast w rfl t hexpiry
    obtain ⟨b₁, hset, halike, hwritten⟩ :=
      h.setMemory hnow (hws.calendar w (by simp)) (hws.values w (by simp))
    have hlater : b₁.InTime ((done ++ [w]) ++ ws) := by
      rw [List.append_assoc, List.singleton_append]
      refine ⟨?_, ?_, ?_⟩
      · simpa only [halike.keeps] using hws.kept
      · simpa only [halike.ttl] using hws.calendar
      · simpa only [halike.canKeep] using hws.values
    obtain ⟨b', hrest, halike', hwritten'⟩ := ih hwritten hlater
    exact ⟨b', bind_eq_ok.2 ⟨_, hset, bind_eq_ok.2 ⟨_, hrest, rfl⟩⟩,
      halike.trans halike', by simpa using hwritten'⟩

/-- Writes in time to a conversation without memory each answer how many updates they had. Until the
    last of them expires, a bucket holds the last value of each variable that was written to it, and
    both together hold those of both, the tools' where they have one. -/
theorem last_write_wins (hb : b.Vacant c) (hws : b.InTime ws) :
    ∃ b', b.setAll c ws = .ok (b', ws.map fun w => some w.updates.length) ∧
      ∀ now, (∀ w ∈ ws.getLast?, b.Keeps w now) →
        (∀ source, ∃ facts, b'.getBucket c source now = .ok (b', facts) ∧
          ∀ id, facts.get? id = lastFact source ws id) ∧
        ∃ facts, b'.getMemory c now = .ok (b', facts) ∧
          ∀ id, facts.get? id = (lastFact .tools ws id).or (lastFact .extraction ws id) := by
  obtain ⟨b', hset, halike, hwritten⟩ := hb.written.setAll hws
  rw [List.nil_append] at hwritten
  refine ⟨b', hset, ?_⟩
  intro now hkept
  have hnow : ∀ t, expiry? b'.ttl ws = some t → b'.IsBefore now t := by
    intro t ht
    obtain ⟨last, hlast, hexpiry⟩ := Option.bind_eq_some_iff.1 ht
    rw [halike.ttl] at hexpiry
    exact (halike.isBefore now t).2 (hkept last hlast t hexpiry)
  refine ⟨fun source => ⟨_, hwritten.getBucket hnow source, get?_recordAll _⟩, _,
    hwritten.getMemory hnow, ?_⟩
  intro id
  rw [get?_merge]
  exact congrArg₂ Option.or (get?_recordAll _ id) (get?_recordAll _ id)

/-- A name is written twice at once, then extracted with a date, and at last cleared
    for another contact. -/
def writesOfName : List Write :=
  [{ startedAt := ⟨10, 0, by decide⟩, contactId := "k1", writer := .tool "crm"
     updates :=
       [{ variableId := "name", value := .string "Ada" },
         { variableId := "name", value := .string "Grace" }] },
   { startedAt := ⟨11, 0, by decide⟩, contactId := "k1", writer := .extraction
     updates :=
       [{ variableId := "name", value := .string "Alan" },
         { variableId := "date", value := .string "today" }] },
   { startedAt := ⟨12, 0, by decide⟩, contactId := "k2", writer := .tool "web"
     updates := [{ variableId := "name", value := .null }] }]

/-- Both memories, empty. -/
def emptyMemories (ttl : Int) : List Backend := [.process .empty .empty { ttl }, .database {} ttl]

/-- The values are texts or cleared. -/
def Plain (us : List Update) : Prop := ∀ u ∈ us, u.value = .null ∨ ∃ s, u.value = .string s

theorem Plain.canKeep {us : List Update} (hus : Plain us) (b : Backend) : b.CanKeep us := by
  cases b with
  | process versions snapshots memory => trivial
  | database db ttl =>
    intro u hu
    rcases hus u hu with hnull | ⟨s, hs⟩
    · rw [hnull]
      exact ⟨trivial, by decide, rfl⟩
    · rw [hs]
      exact ⟨trivial, Nat.le_of_ble_eq_true rfl, rfl⟩

section

variable {ttl : Int} (hb : b ∈ emptyMemories ttl)

include hb

theorem empty_ttl : b.ttl = ttl := by
  rcases List.mem_pair.1 hb with rfl | rfl <;> rfl

theorem empty_vacant : b.Vacant "c1" := by
  rcases List.mem_pair.1 hb with rfl | rfl
  · exact rfl
  · refine ⟨⟨rfl, fun _ => rfl⟩, ?_, rfl⟩
    rintro (_ | _) c id text ⟨⟩

theorem empty_keeps {t : Instant} (ht : w.startedAt.add? ttl = some t) (hrank : now.rank < t.rank)
    (hmillis : now.millis < t.millis) : b.Keeps w now := by
  intro t' ht'
  rw [empty_ttl hb, ht] at ht'
  cases ht'
  rcases List.mem_pair.1 hb with rfl | rfl
  · exact hrank
  · exact hmillis

end

/-- The cleared name of the tools counts, and the date is that of the extraction. -/
theorem last_name_wins : (emptyMemories (seconds 5)).Forall fun b => b.Vacant "c1" ∧
    b.InTime writesOfName ∧ ∃ b', b.setAll "c1" writesOfName = .ok (b', [some 2, some 2, some 1]) ∧
      ∃ facts, b'.getMemory "c1" ⟨13, 0, by decide⟩ = .ok (b', facts) ∧
        facts.get? "name" = some (.new .null "web" "k2" ⟨12, 0, by decide⟩) ∧
        facts.get? "date" = some (.new (.string "today") "convMiner" "k1" ⟨11, 0, by decide⟩) := by
  rw [List.forall_iff_forall_mem]
  intro b hb
  have hin : b.InTime writesOfName := by
    refine ⟨?_, ?_, ?_⟩
    · refine .cons_cons (empty_keeps hb (t := ⟨15, 0, by decide⟩) rfl (by decide) (by decide)) ?_
      exact .cons_cons (empty_keeps hb (t := ⟨16, 0, by decide⟩) rfl (by decide) (by decide))
        (.singleton _)
    · rw [empty_ttl hb]
      decide
    · intro w hw
      refine Plain.canKeep ?_ b
      simp only [writesOfName, List.mem_cons, List.not_mem_nil, or_false] at hw
      rcases hw with rfl | rfl | rfl <;> simp [Plain]
  have hlast : ∀ w ∈ writesOfName.getLast?, b.Keeps w ⟨13, 0, by decide⟩ := by
    rintro w ⟨⟩
    exact empty_keeps hb (t := ⟨17, 0, by decide⟩) rfl (by decide) (by decide)
  have hvacant := empty_vacant hb
  obtain ⟨b', hset, hread⟩ := last_write_wins hvacant hin
  obtain ⟨-, facts, hget, hfacts⟩ := hread _ hlast
  exact ⟨hvacant, hin, b', hset, facts, hget, hfacts "name", hfacts "date"⟩

/-- Ten seconds before the calendar ends. -/
def nearTheEnd : Write where
  startedAt := ⟨8210266876789, 0, by decide⟩
  contactId := "k1"
  updates := [{ variableId := "name", value := .string "Ada" }]
  writer := .tool "crm"

/-- Five seconds before the calendar ends. -/
def atTheEnd : Write where
  startedAt := ⟨8210266876794, 0, by decide⟩
  contactId := "k1"
  updates := [{ variableId := "name", value := .string "Grace" }]
  writer := .tool "crm"

/-- The second write is made while the first is kept, but would expire after the calendar ends. -/
theorem no_count_beyond_the_calendar : (emptyMemories (seconds 10)).Forall fun b => b.Vacant "c1" ∧
    [nearTheEnd, atTheEnd].IsChain (fun w w' => b.Keeps w w'.startedAt) ∧
    (∀ w ∈ [nearTheEnd, atTheEnd], b.CanKeep w.updates) ∧
    ∃ b', b.setAll "c1" [nearTheEnd, atTheEnd] = .ok (b', [some 1, none]) := by
  rw [List.forall_iff_forall_mem]
  intro b hb
  have hkept : ∀ t, nearTheEnd.startedAt.add? b.ttl = some t → b.IsBefore atTheEnd.startedAt t :=
    empty_keeps hb (t := ⟨8210266876799, 0, by decide⟩) rfl (by decide) (by decide)
  have hvalues : ∀ w ∈ [nearTheEnd, atTheEnd], b.CanKeep w.updates := by
    intro w hw
    refine Plain.canKeep ?_ b
    rcases List.mem_pair.1 hw with rfl | rfl <;> simp [nearTheEnd, atTheEnd, Plain]
  refine ⟨empty_vacant hb, .cons_cons hkept (.singleton _), hvalues, ?_⟩
  obtain ⟨b₁, hfirst, halike, hwritten⟩ :=
    (empty_vacant hb).written.setMemory (w := nearTheEnd) (by rintro t ⟨⟩)
    (by rw [empty_ttl hb]; decide) (hvalues _ (by simp))
  obtain ⟨b₂, hsecond⟩ := hwritten.setMemory_beyond (w := atTheEnd)
    (fun t ht => (halike.isBefore _ t).2 (hkept t (by rwa [halike.ttl] at ht)))
    (by rw [halike.ttl, empty_ttl hb]; decide)
  exact ⟨b₂, bind_eq_ok.2 ⟨_, hfirst, bind_eq_ok.2 ⟨_, bind_eq_ok.2 ⟨_, hsecond, rfl⟩, rfl⟩⟩⟩

end Dialogue.Live.Backend
