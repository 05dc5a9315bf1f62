import Dialogue.Proofs.Memory.GuardFacts
import Dialogue.Proofs.Memory.Purged

/-! # When memory expires

    What a write files is found until its deadline, the time of the write and the time to live, and
    not from then on. Requests that do not write to the conversation leave it what it has, or
    nothing if one of them looks at it too late (`Holds.asked`, `Holds.lookedAt`). So a read finds
    what was filed exactly if it and every look since the write come before the deadline
    (`found_until_the_deadline`). The store in the process compares instants, a database whole
    milliseconds, which may be early or late (`found_apart_from_the_deadline`). -/

namespace Dialogue.Live.MemoryRequest

/-- The conversation is not written to and not deleted. -/
def Leaves (c : String) : MemoryRequest → Prop
  | .set k _ _ _ | .delete k => k ≠ c
  | .get _ | .bucket _ _ | .purge => True

/-- What there is of the conversation is dropped if it has expired. -/
def LooksAt (c : String) : MemoryRequest → Prop
  | .get k | .bucket k _ => k = c
  | .purge => True
  | .set _ _ _ _ | .delete _ => False

end Dialogue.Live.MemoryRequest

namespace Dialogue.Memory.Store

open Time Live

/-! ### In the process -/

variable {s s' : Store} {c : String} {now t : Instant} {expiry : Option Instant}
    {buckets : Source → Bucket} {r : MemoryRequest}

theorem Holds.congr (h : s.Holds c expiry buckets)
    (hsame : s'.namespaces.get? c = s.namespaces.get? c) :
    s'.Holds c expiry buckets where
  expires := by rw [hsame, h.expires]
  reads source := by rw [← h.reads, bucket, bucket, hsame]

theorem holds_nothing (h : s.namespaces.get? c = none) : s.Holds c none fun _ => .empty where
  expires := by rw [h]; rfl
  reads source := by rw [bucket, h]; rfl

theorem Holds.asked (h : s.Holds c expiry buckets) (hr : r.Leaves c)
    (hnow : r.LooksAt c → ∀ t ∈ expiry, now.rank < t.rank) :
    (s.ask now r).1.Holds c expiry buckets := by
  refine h.congr ?_
  cases r with
  | set k contactId us writer => exact s.get?_set_of_ne now (Ne.symm hr) contactId us writer
  | get k
  | bucket k _ =>
    by_cases hk : k = c
    · subst hk
      exact congrArg (·.namespaces.get? k) (h.live (hnow rfl)).2
    · exact s.get?_evict_of_ne now (Ne.symm hk)
  | delete k => exact (Dict.get?_erase ..).trans (if_neg (Ne.symm hr))
  | purge => exact (s.get?_purged now c).trans (h.live (hnow trivial)).1

theorem Holds.lookedAt (h : s.Holds c (some t) buckets) (hr : r.LooksAt c)
    (hnow : ¬ now.rank < t.rank) :
    (s.ask now r).1.Holds c none fun _ => .empty := by
  have hgone := h.live_expired hnow
  have hevict : (s.evict now c).namespaces.get? c = none := by rw [get?_evict, if_pos rfl, hgone]
  refine holds_nothing ?_
  cases r with
  | set _ _ _ _ => cases hr
  | delete _ => cases hr
  | get k
  | bucket k _ =>
    obtain rfl : k = c := hr
    exact hevict
  | purge => exact (s.get?_purged now c).trans hgone

end Dialogue.Memory.Store

namespace Dialogue.Database

open Json Time Memory StateMachine Live

/-! ### In the database -/

variable {db db' : Database} {c : String} {now t : Instant} {ttl : Int} {expiry : Option Instant}
    {buckets : Source → Bucket}
  {r : MemoryRequest}

theorem Spares.memoryOpen (h : db.Spares db') (hopen : db.MemoryOpen) : db'.MemoryOpen where
  namespaces := by rw [h.needInsert, hopen.namespaces]
  facts variableId := by rw [h.needInsert, hopen.facts]

theorem Holds.congr (h : db.Holds c expiry buckets) (hspares : db.Spares db')
    (hsame : db.SameMemory db' c) :
    db'.Holds c expiry buckets where
  takesRows := hspares.memoryOpen h.takesRows
  expires := by rw [hsame.expiry, h.expires]
  reads source := by
    obtain ⟨-, hrows⟩ := loadBucket_eq_ok.1 (h.reads source)
    exact loadBucket_eq_ok.2
      ⟨(hspares.memoryOpen h.takesRows).factsTable, by rw [hsame.rows, hrows]⟩
  vacant := h.vacant

theorem Bare.holds_nothing (h : db.Bare c) (hopen : db.MemoryOpen) :
    db.Holds c none fun _ => .empty where
  takesRows := hopen
  expires := h.expiry
  reads source := loadBucket_eq_ok.2 ⟨hopen.factsTable, by rw [h.rows]; rfl⟩
  vacant _ _ := rfl

/-- What has not expired is not dropped when a conversation is checked. -/
theorem Holds.checked {k : String} {live : Bool} (h : db.Holds c expiry buckets)
    (hnow : k = c → ∀ t ∈ expiry, now.millis < t.millis) (hchecked : db.Checked k now (db', live)) :
    db.SameMemory db' c := by
  by_cases hk : k = c
  · subst hk
    cases hchecked with
    | live _ => exact .refl db k
    | absent _ => exact .refl db k
    | expired hthere hdead _ =>
      rw [h.expires, Option.isSome_map] at hthere
      obtain ⟨t, ht⟩ := Option.isSome_iff_exists.1 hthere
      exact absurd ⟨t.millis, by rw [h.expires, ht]; rfl, hnow rfl t ht⟩ hdead
  · exact hchecked.others (Ne.symm hk)

theorem Holds.isDue_eq_false (h : db.Holds c expiry buckets)
    (hnow : ∀ t ∈ expiry, now.millis < t.millis) :
    db.isDue now c = false := by
  rw [isDue_eq, h.expires]
  cases expiry with
  | none => rfl
  | some t => simpa using hnow t rfl

theorem Holds.asked (h : db.Holds c expiry buckets) (hr : r.Leaves c)
    (hnow : r.LooksAt c → ∀ t ∈ expiry, now.millis < t.millis) :
    (db.ask now ttl r).1.Holds c expiry buckets := by
  refine h.congr (db.asked_spares now ttl r) ?_
  unfold ask
  cases hperform : db.perform now ttl r with
  | error e => exact .refl db c
  | ok done =>
    obtain ⟨db', a⟩ := done
    cases perform_performed hperform with
    | unwritten => exact .refl _ c
    | wrote hchecked _ hwrote =>
      exact (hchecked.others (Ne.symm hr)).trans (hwrote.others (Ne.symm hr))
    | got hchecked
    | gotBucket hchecked => exact h.checked hnow hchecked
    | deleted hdropped => exact hdropped.others (Ne.symm hr)
    | purged =>
      have hlive := h.isDue_eq_false (hnow trivial)
      refine ⟨?_, rows_of_not_due hlive⟩
      exact (Dict.get?_filter_not db.expiries (db.isDue now) c).trans (by rw [hlive]; rfl)

/-- Who looks from the expiry on, leaves nothing. -/
theorem Holds.lookedAt (h : db.Holds c (some t) buckets) (hr : r.LooksAt c)
    (hnow : ¬ now.millis < t.millis) :
    (db.ask now ttl r).1.Holds c none fun _ => .empty := by
  have hopen := (db.asked_spares now ttl r).memoryOpen h.takesRows
  cases r with
  | set _ _ _ _ => cases hr
  | delete _ => cases hr
  | get k =>
    obtain rfl : k = c := hr
    obtain ⟨db', hget, hdrop⟩ := h.getMemory_expired hnow
    have hperform : db.perform now ttl (.get k) = .ok (db', .facts .empty) :=
      bind_eq_ok.2 ⟨_, hget, rfl⟩
    rw [ask, hperform] at hopen ⊢
    exact (dropNamespace_dropped hdrop).bare.holds_nothing hopen
  | bucket k source =>
    obtain rfl : k = c := hr
    obtain ⟨db', hget, hdrop⟩ := h.getBucket_expired hnow source
    have hperform : db.perform now ttl (.bucket k source) = .ok (db', .facts .empty) :=
      bind_eq_ok.2 ⟨_, hget, rfl⟩
    rw [ask, hperform] at hopen ⊢
    exact (dropNamespace_dropped hdrop).bare.holds_nothing hopen
  | purge =>
    have hdue : db.isDue now c = true := by
      rw [isDue_eq, h.expires]
      simpa using hnow
    have hperform : db.perform now ttl .purge = .ok (db.purged now, .count (db.due now).size) :=
      bind_eq_ok.2 ⟨_, purge_eq ⟨h.takesRows.factsTable, h.takesRows.namespacesTable⟩ now, rfl⟩
    rw [ask, hperform] at hopen ⊢
    refine Bare.holds_nothing ⟨?_, ?_⟩ hopen
    · exact (Dict.get?_filter_not db.expiries (db.isDue now) c).trans (if_pos hdue)
    · intro source
      rw [rows_purged]
      exact if_pos hdue

end Dialogue.Database

namespace Dialogue.Live.Backend

open Json Time Memory StateMachine

/-! ### In either -/

variable {b : Backend} {c : String} {now t : Instant} {expiry : Option Instant}
    {buckets : Source → Bucket}
  {r : MemoryRequest} {rs : List (Instant × MemoryRequest)}

theorem Holds.asked (h : b.Holds c expiry buckets) (hr : r.Leaves c)
    (hnow : r.LooksAt c → ∀ t ∈ expiry, b.IsBefore now t) :
    (b.ask now r).1.Holds c expiry buckets := by
  cases b with
  | process versions snapshots memory =>
    rw [ask_process]
    exact Store.Holds.asked h hr hnow
  | database db ttl =>
    rw [ask_database]
    exact Database.Holds.asked h hr hnow

theorem Holds.lookedAt (h : b.Holds c (some t) buckets) (hr : r.LooksAt c)
    (hnow : ¬ b.IsBefore now t) :
    (b.ask now r).1.Holds c none fun _ => .empty := by
  cases b with
  | process versions snapshots memory =>
    rw [ask_process]
    exact Store.Holds.lookedAt h hr hnow
  | database db ttl =>
    rw [ask_database]
    exact Database.Holds.lookedAt h hr hnow

/-- Every look at the conversation comes before its deadline. -/
def InTimeFor (c : String) (deadline : Instant) (rs : List (Instant × MemoryRequest))
    (b : Backend) : Prop :=
  ∀ r ∈ rs, r.2.LooksAt c → b.IsBefore r.1 deadline

theorem Holds.after_in_time (h : b.Holds c expiry buckets) (hrs : ∀ r ∈ rs, r.2.Leaves c)
    (htime : ∀ t ∈ expiry, b.InTimeFor c t rs) : (b.after rs).Holds c expiry buckets := by
  induction rs generalizing b with
  | nil => exact h
  | cons r rs ih =>
    have hfirst : (b.ask r.1 r.2).1.Holds c expiry buckets :=
      h.asked (hrs r List.mem_cons_self) fun hlook t ht => htime t ht r List.mem_cons_self hlook
    refine ih hfirst (fun r' hr' => hrs r' (List.mem_cons_of_mem r hr')) ?_
    intro t ht r' hr' hlook
    exact (b.isBefore_asked r.1 r.2 r'.1 t).2 (htime t ht r' (List.mem_cons_of_mem r hr') hlook)

theorem Holds.after_too_late (h : b.Holds c (some t) buckets) (hrs : ∀ r ∈ rs, r.2.Leaves c)
    (hlate : ¬ b.InTimeFor c t rs) :
    (b.after rs).Holds c none fun _ => .empty := by
  induction rs generalizing b with
  | nil => exact absurd (by rintro _ ⟨⟩) hlate
  | cons r rs ih =>
    have hleaves := hrs r List.mem_cons_self
    have hrest : ∀ r' ∈ rs, r'.2.Leaves c := fun r' hr' => hrs r' (List.mem_cons_of_mem r hr')
    by_cases hfirst : r.2.LooksAt c → b.IsBefore r.1 t
    · refine ih (h.asked hleaves fun hlook t' ht' => ?_) hrest ?_
      · cases ht'
        exact hfirst hlook
      · intro htime
        refine hlate ?_
        rintro r' (_ | ⟨_, hr'⟩) hlook
        · exact hfirst hlook
        · exact (b.isBefore_asked r.1 r.2 r'.1 t).1 (htime r' hr' hlook)
    · -- what this look leaves is nothing, and stays so
      rw [Classical.not_imp] at hfirst
      exact (h.lookedAt hfirst.1 hfirst.2).after_in_time hrest (by rintro t ⟨⟩)

/-- Readings that come before the deadline come so if they are not later than one that does. -/
theorem inTimeFor_of_forward (hforward : ∀ r ∈ rs, ¬ b.IsBefore now r.1) (hnow : b.IsBefore now t) :
    b.InTimeFor c t rs := by
  intro r hr _
  have hle := hforward r hr
  cases b with
  | process versions snapshots memory => exact lt_of_le_of_lt (Int.not_lt.1 hle) hnow
  | database db ttl => exact lt_of_le_of_lt (Int.not_lt.1 hle) hnow

/-! ### Reads -/

/-- A read of the conversation finds these buckets. -/
structure Reads (b : Backend) (c : String) (now : Instant) (buckets : Source → Bucket) : Prop where
  both : (b.ask now (.get c)).2 = .ok (.facts (merge (buckets .tools) (buckets .extraction)))
  one : ∀ source, (b.ask now (.bucket c source)).2 = .ok (.facts (buckets source))

theorem Holds.found (h : b.Holds c expiry buckets) (hnow : ∀ t ∈ expiry, b.IsBefore now t) :
    b.Reads c now buckets where
  both := by rw [asked_get (h.getMemory hnow)]
  one source := by rw [asked_bucket (h.getBucket hnow source)]

theorem Holds.gone (h : b.Holds c (some t) buckets) (hnow : ¬ b.IsBefore now t) :
    b.Reads c now fun _ => .empty where
  both := by
    obtain ⟨_, hget⟩ := h.getMemory_expired hnow
    rw [asked_get hget]
    rfl
  one source := by
    obtain ⟨_, hget⟩ := h.getBucket_expired hnow source
    rw [asked_bucket hget]

/-- What the write leaves of the buckets it found. -/
def filed (w : Write) (found : Source → Bucket) (source : Source) : Bucket :=
  if source = w.writer.source
    then (found source).writeAll w.contactId w.writer w.startedAt w.updates else found source

/-- A write files its values with what it found. Whatever is asked then that does not write to the
    conversation, a read finds them exactly if it comes before the deadline, and no read of the
    conversation and no purge that came first was too late. -/
theorem found_until_the_deadline {w : Write} {deadline : Instant} (hb : b.Legible c)
    (hdeadline : w.startedAt.add? b.ttl = some deadline) (hvalues : b.CanKeep w.updates) :
    ∃ found b', b.Finds c w.startedAt found ∧
      b.setMemory c w.contactId w.updates w.writer w.startedAt = .ok (b', some w.updates.length) ∧
      (∀ id a, lastValue? w.updates id = some a →
        ∃ f, (filed w found w.writer.source).get? id = some f ∧ f.value = a ∧
          f.updatedAt = some w.startedAt) ∧
      ∀ rs, (∀ r ∈ rs, r.2.Leaves c) → ∀ now,
        (b.InTimeFor c deadline rs ∧ b.IsBefore now deadline →
            (b'.after rs).Reads c now (filed w found)) ∧
        (¬ (b.InTimeFor c deadline rs ∧ b.IsBefore now deadline) →
            (b'.after rs).Reads c now fun _ => .empty) := by
  obtain ⟨found, hfound⟩ := hb.finds w.startedAt
  obtain ⟨b', hset, halike, hholds⟩ := hfound.setMemory w.contactId w.writer hdeadline hvalues
  -- neither the write nor what is asked later changes how the clock is read
  have hkind (rs : List (Instant × MemoryRequest)) (now : Instant) :
      (b'.after rs).IsBefore now deadline ↔ b.IsBefore now deadline :=
    (b'.isBefore_after rs now deadline).trans (halike.isBefore now deadline)
  have htime (rs : List (Instant × MemoryRequest)) : b'.InTimeFor c deadline rs ↔
      b.InTimeFor c deadline rs := by
    simp only [InTimeFor, halike.isBefore]
  refine ⟨found, b', hfound, hset, ?_, ?_⟩
  · intro id a ha
    rw [filed, if_pos rfl]
    exact Bucket.get?_writeAll_of_lastValue w.contactId w.writer w.startedAt ha
  · intro rs hrs now
    refine ⟨?_, ?_⟩
    -- nobody was too late, so the buckets are as the write left them
    · rintro ⟨hin, hnow⟩
      have hthere := hholds.after_in_time hrs (by rintro t ⟨⟩; exact (htime rs).2 hin)
      exact hthere.found (by rintro t ⟨⟩; exact (hkind rs now).2 hnow)
    -- the read itself comes too late, or one before it was
    · intro hlate
      by_cases hin : b.InTimeFor c deadline rs
      · have hthere := hholds.after_in_time hrs (by rintro t ⟨⟩; exact (htime rs).2 hin)
        exact hthere.gone fun hnow => hlate ⟨hin, (hkind rs now).1 hnow⟩
      · have hnothing := hholds.after_too_late hrs fun h => hin ((htime rs).1 h)
        exact hnothing.found (by rintro t ⟨⟩)

/-- The name, half a millisecond after the start of 1970. -/
def earlyName : Write where
  startedAt := ⟨0, 500000, by decide⟩
  contactId := "k1"
  updates := [{ variableId := "name", value := .string "Ada" }]
  writer := .tool "crm"

/-- The request that writes the name early. -/
def earlyNameSet : MemoryRequest := .set "c1" earlyName.contactId earlyName.updates earlyName.writer

/-- A read, a write to another conversation, and a purge, before the name expires. -/
def askedMeanwhile : List (Instant × MemoryRequest) :=
  [(⟨0, 600000000, by decide⟩, .get "c1"),
   (⟨0, 700000000, by decide⟩, .set "c2" "k2" [Database.dateOfContact] .extraction),
   (⟨0, 900000000, by decide⟩, .purge)]

theorem name_found_until_the_deadline : (emptyMemories (seconds 1)).Forall fun b => b.Legible "c1" ∧
    earlyName.startedAt.add? b.ttl = some ⟨1, 500000, by decide⟩ ∧ b.CanKeep earlyName.updates ∧
    (∀ r ∈ askedMeanwhile, r.2.Leaves "c1") ∧ ∃ found b',
      b.setMemory "c1" earlyName.contactId earlyName.updates earlyName.writer earlyName.startedAt =
          .ok (b', some 1) ∧
      (b'.after askedMeanwhile).Reads "c1" ⟨0, 999000000, by decide⟩ (filed earlyName found) ∧
      (b'.after askedMeanwhile).Reads "c1" ⟨1, 1000000, by decide⟩ fun _ => .empty := by
  rw [List.forall_iff_forall_mem]
  intro b hb
  have hlegible : b.Legible "c1" := (empty_vacant hb).shows.legible
  have hdeadline : earlyName.startedAt.add? b.ttl = some ⟨1, 500000, by decide⟩ := by
    rw [empty_ttl hb]
    decide
  have hvalues : b.CanKeep earlyName.updates := Plain.canKeep (by simp [Plain, earlyName]) b
  have hleaves : ∀ r ∈ askedMeanwhile, r.2.Leaves "c1" := by
    simp [askedMeanwhile, MemoryRequest.Leaves]
  have hforward : ∀ r ∈ askedMeanwhile, ¬ b.IsBefore ⟨0, 999000000, by decide⟩ r.1 := by
    rcases List.mem_pair.1 hb with rfl | rfl
    · exact (by decide : ∀ r ∈ askedMeanwhile, ¬ (999000000 : Int) < r.1.rank)
    · exact (by decide : ∀ r ∈ askedMeanwhile, ¬ (999 : Int) < r.1.millis)
  have hnow : b.IsBefore ⟨0, 999000000, by decide⟩ ⟨1, 500000, by decide⟩ := by
    rcases List.mem_pair.1 hb with rfl | rfl
    · exact (by decide : (999000000 : Int) < 2000500000)
    · exact (by decide : (999 : Int) < 1000)
  have hlate : ¬ b.IsBefore ⟨1, 1000000, by decide⟩ ⟨1, 500000, by decide⟩ := by
    rcases List.mem_pair.1 hb with rfl | rfl
    · exact (by decide : ¬ (2001000000 : Int) < 2000500000)
    · exact (by decide : ¬ (1001 : Int) < 1000)
  obtain ⟨found, b', -, hset, -, hreads⟩ := found_until_the_deadline hlegible hdeadline hvalues
  refine ⟨hlegible, hdeadline, hvalues, hleaves, found, b', hset, ?_, ?_⟩
  · exact (hreads _ hleaves _).1 ⟨inTimeFor_of_forward hforward hnow, hnow⟩
  · exact (hreads _ hleaves _).2 fun h => hlate h.2

/-- The name, in the leap second at the end of 2016, kept for half a second. -/
def leapName : Write := { earlyName with startedAt := ⟨1483228799, 1300000000, by decide⟩ }

/-- The request that writes the name in the leap second. -/
def leapNameSet : MemoryRequest := .set "c1" leapName.contactId leapName.updates leapName.writer

/-- For a database the name is gone 0.3 milliseconds before it expires, and there 0.3 seconds after
    it expired in a leap second. In the process it is gone when the clock goes back after a read. -/
theorem found_apart_from_the_deadline :
    (earlyName.startedAt.add? (seconds 1) = some ⟨1, 500000, by decide⟩ ∧
      (⟨1, 200000, by decide⟩ : Instant).rank < (⟨1, 500000, by decide⟩ : Instant).rank ∧
      (Backend.database {} (seconds 1)).askAll [(earlyName.startedAt, earlyNameSet),
          (⟨1, 200000, by decide⟩, .get "c1")] =
        [.ok (.count 1), .ok (.facts .empty)]) ∧
    (leapName.startedAt.add? (millis 500) = some ⟨1483228799, 1800000000, by decide⟩ ∧
      (⟨1483228799, 1800000000, by decide⟩ : Instant).rank <
          (⟨1483228800, 100000000, by decide⟩ : Instant).rank ∧
      (Backend.database {} (millis 500)).askAll
          [(leapName.startedAt, leapNameSet), (⟨1483228800, 100000000, by decide⟩, .get "c1")] =
        [.ok (.count 1), .ok (.facts (nameWritten leapName.startedAt))]) ∧
    (Backend.process .empty .empty { ttl := seconds 1 }).askAll
        [(earlyName.startedAt, earlyNameSet), (⟨2, 0, by decide⟩, .get "c1"),
            (⟨0, 900000000, by decide⟩, .get "c1")] =
      [.ok (.count 1), .ok (.facts .empty), .ok (.facts .empty)] := by
  refine ⟨⟨by decide, by decide, rfl⟩, ⟨by decide, by decide, ?_⟩, rfl⟩
  have hb : Backend.database {} (millis 500) ∈ emptyMemories (millis 500) := by simp [emptyMemories]
  have hkept :
      (Backend.database {} (millis 500)).Keeps leapName ⟨1483228800, 100000000, by decide⟩ := by
    intro t ht
    cases ht
    exact (by decide : (1483228800100 : Int) < 1483228800800)
  exact (empty_vacant hb).read_back (by decide)
    (Plain.canKeep (by simp [Plain, leapName, earlyName]) _) hkept

end Dialogue.Live.Backend
