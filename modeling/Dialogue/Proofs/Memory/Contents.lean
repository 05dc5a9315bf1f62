import Mathlib.Tactic.Choose
import Dialogue.Proofs.Memory.Orphans

/-! # What a write finds and leaves

    A write finds the buckets of its conversation, or none that have not expired, and leaves them
    with the updates in the bucket of its writer, until they expire (`Store.set_holds`,
    `Database.Finds.setMemory`). Nothing is asked of what was there but that it can be read
    (`Database.Legible`). -/

namespace Dialogue.Memory

open Json Time

/-- The last value that the updates give the variable. -/
def lastValue? (us : List Update) (id : String) : Option Value :=
  (us.reverse.find? (·.variableId = id)).map (·.value)

variable {us : List Update} {id : String} {contactId : String} {writer : Writer} {now : Instant}

theorem lastValue?_cons (u : Update) (us : List Update) (id : String) :
    lastValue?
      (u :: us) id = (lastValue? us id).or (if u.variableId = id then some u.value else none) := by
  unfold lastValue?
  rw [List.reverse_cons, List.find?_append, Option.map_or]
  by_cases hid : u.variableId = id <;> simp [hid]

theorem lastValue?_eq_none : lastValue? us id = none ↔ id ∉ us.map (·.variableId) := by
  simp [lastValue?]

theorem lastValue?_mem {a : Value} (h : lastValue? us id = some a) : ∃ u ∈ us, u.value = a := by
  obtain ⟨u, hu, ha⟩ := Option.map_eq_some_iff.1 h
  exact ⟨u, List.mem_reverse.1 (List.mem_of_find?_eq_some hu), ha⟩

/-! ### Buckets -/

namespace Bucket

/-- A fact that is named has the last value it was given, and was written then. -/
theorem get?_writeAll_of_lastValue (contactId : String) (writer : Writer) (now : Instant)
    {b : Bucket} {a : Value} (h : lastValue? us id = some a) :
    ∃ f, (b.writeAll contactId writer now us).get? id = some f ∧ f.value = a ∧
      f.updatedAt = some now := by
  -- the bucket grows on the way, so it is generalized
  induction us generalizing b with
  | nil => cases h
  | cons u us ih =>
    have hstep : b.writeAll contactId writer now (u :: us) =
      (b.write contactId writer now u).writeAll contactId writer now us := rfl
    rw [hstep]
    rw [lastValue?_cons] at h
    cases hlater : lastValue? us id with
    -- the value comes later still
    | some a' =>
      rw [hlater] at h
      cases h
      exact ih hlater
    | none =>
      rw [hlater, Option.none_or] at h
      split at h
      · rename_i hid
        cases h
        rw [get?_writeAll (lastValue?_eq_none.1 hlater), write, Dict.get?_insert, if_pos hid.symm]
        exact ⟨_, rfl, rfl, rfl⟩
      · cases h

end Bucket
/-! ### In the process -/

namespace Store

/-- The buckets of the conversation, and when they expire. -/
structure Holds (s : Store) (c : String) (expiry : Option Instant) (buckets : Source → Bucket) :
    Prop where
  expires : (s.namespaces.get? c).map (·.expiresAt) = expiry
  reads : ∀ source, s.bucket c source = buckets source

variable {s : Store} {c : String} {expiry : Option Instant} {expiresAt : Instant}
    {buckets : Source → Bucket}

/-- Before the expiry all of it is live. -/
theorem Holds.live (h : s.Holds c expiry buckets) (hnow : ∀ t ∈ expiry, now.rank < t.rank) :
    s.live? now c = s.namespaces.get? c ∧ s.evict now c = s := by
  rcases s.evict_cases now c with ⟨hevict, hlive⟩ | ⟨-, -, n, hn, hexpired⟩
  · exact ⟨hlive, hevict⟩
  · have hexpires := h.expires
    rw [hn] at hexpires
    have hlater : now.rank < n.expiresAt.rank := hnow _ hexpires.symm
    rw [Namespace.isExpired, decide_eq_true_iff] at hexpired
    omega

theorem Holds.getBucket (h : s.Holds c expiry buckets) (hnow : ∀ t ∈ expiry, now.rank < t.rank)
    (source : Source) :
    s.getBucket now c source = buckets source := by
  rw [← h.reads, Store.getBucket, (h.live hnow).1, bucket]

theorem Holds.get (h : s.Holds c expiry buckets) (hnow : ∀ t ∈ expiry, now.rank < t.rank) :
    s.get now c = merge (buckets .tools) (buckets .extraction) := by
  rw [Store.get, (h.live hnow).1, ← h.reads, ← h.reads]
  unfold bucket
  cases s.namespaces.get? c <;> rfl

/-- From the expiry on nothing is found. -/
theorem Holds.live_expired (h : s.Holds c (some expiresAt) buckets)
    (hnow : ¬ now.rank < expiresAt.rank) :
    s.live? now c = none := by
  obtain ⟨n, hn, rfl⟩ := Option.map_eq_some_iff.1 h.expires
  have hexpired : n.isExpired now = true := decide_eq_true (Int.not_lt.1 hnow)
  rw [live?, hn, Option.filter_some, hexpired]
  rfl

theorem Holds.get_expired (h : s.Holds c (some expiresAt) buckets)
    (hnow : ¬ now.rank < expiresAt.rank) :
    s.get now c = .empty := by
  rw [Store.get, h.live_expired hnow]
  rfl

theorem Holds.getBucket_expired (h : s.Holds c (some expiresAt) buckets)
    (hnow : ¬ now.rank < expiresAt.rank) (source : Source) : s.getBucket now c source = .empty := by
  rw [Store.getBucket, h.live_expired hnow]
  rfl

/-- A write that ends in the calendar is made, to the buckets that it finds. -/
theorem set_holds (s : Store) (c contactId : String) (us : List Update) (writer : Writer)
    (hexpiry : now.add? s.ttl = some expiresAt) :
    ∃ s', s.set now c contactId us writer = (s', some us.length) ∧ s'.ttl = s.ttl ∧
      s'.Holds c (some expiresAt) fun source =>
        if source = writer.source then (s.getBucket now c source).writeAll contactId writer now us
        else s.getBucket now c source := by
  refine ⟨_, set_eq s now c hexpiry, evict_ttl .., ?_, ?_⟩
  · simp [writtenTo]
  · intro source
    rw [bucket, Dict.get?_insert, if_pos rfl, Option.map_some, Option.getD_some, bucket_writtenTo]
    split
    · rename_i hsource
      rw [hsource]
    · rfl

/-- One whose expiry lies beyond the calendar has no count. -/
theorem set_beyond (s : Store) (c : String) (hexpiry : now.add? s.ttl = none) :
    (s.set now c contactId us writer).2 = none := by
  unfold set
  cases s.live? now c <;> simp [hexpiry]

end Store
end Dialogue.Memory

namespace Dialogue.Database

open Json Time Memory StateMachine

/-! ### In the database -/

variable {db db' : Database} {source : Source} {c : String} {b : Bucket}

/-- Rows are read into entries when each is read into its own. -/
theorem map_readRow {es : List (String × String)} {fs : List (String × Fact)} :
    es.map readRow = fs.map .ok ↔ es.map (fun e => (e.1, Fact.ofText? e.2)) = fs.map fun f =>
      (f.1, some f.2) := by
  induction es generalizing fs with
  | nil => cases fs <;> simp
  | cons e es ih =>
    cases fs with
    | nil => simp
    | cons f fs =>
      have hrow : readRow e = .ok f ↔ (e.1, Fact.ofText? e.2) = (f.1, some f.2) := by
        unfold readRow
        cases Fact.ofText? e.2 <;> simp [Prod.ext_iff]
      rw [List.map_cons, List.map_cons, List.map_cons, List.map_cons, List.cons.injEq,
        List.cons.injEq, hrow, ih]

/-- A bucket is read from its rows, fact by fact. -/
theorem loadBucket_eq_ok : db.loadBucket c source = .ok b ↔
    db.needTable .facts = .ok () ∧ (db.rows source c).map Fact.ofText? = b.map some := by
  constructor
  · intro h
    obtain ⟨_, htable, h⟩ := bind_eq_ok.1 h
    obtain ⟨fs, hread, h⟩ := bind_eq_ok.1 h
    cases h
    have hrows := map_readRow.1 (mapM_eq_ok.1 hread)
    have hascending : Ascending fs := by
      have hsorted : Ascending (fs.map fun f => (f.1, some f.2)) :=
        hrows ▸ ((db.rows source c).map Fact.ofText?).ascending
      rwa [Ascending, List.pairwise_map] at hsorted
    have hfs : Dict.ofList fs = ⟨fs, hascending⟩ := Dict.ofList_entries ⟨fs, hascending⟩
    rw [hfs]
    exact ⟨htable, Dict.ext_get? fun id => congrArg (findEntry id) hrows⟩
  · rintro ⟨htable, hrows⟩
    have hread : (db.rows source c).entries.map readRow = b.entries.map .ok :=
      map_readRow.2 (congrArg Dict.entries hrows)
    refine bind_eq_ok.2 ⟨(), htable, bind_eq_ok.2 ⟨_, mapM_eq_ok.2 hread, ?_⟩⟩
    rw [Dict.ofList_entries]
    rfl

/-- Rows can be put, and what is there of the conversation can be read. -/
structure Legible (db : Database) (c : String) : Prop where
  takesRows : db.MemoryOpen
  reads : ∀ source, ∃ b, db.loadBucket c source = .ok b

/-- The buckets of the conversation, and when they expire. -/
structure Holds (db : Database) (c : String) (expiry : Option Instant) (buckets : Source → Bucket) :
    Prop where
  takesRows : db.MemoryOpen
  expires : db.expiries.get? c = expiry.map (·.millis)
  reads : ∀ source, db.loadBucket c source = .ok (buckets source)
  vacant : expiry = none → ∀ source, buckets source = .empty

/-- What a write finds, once it has dropped what has expired. -/
structure Finds (db : Database) (c : String) (now : Instant) (db' : Database)
    (buckets : Source → Bucket) : Prop where
  checked : ∃ live, db.checkLive c now = .ok (db', live)
  takesRows : db'.MemoryOpen
  reads : ∀ source, db'.loadBucket c source = .ok (buckets source)

variable {now expiresAt : Instant} {expiry : Option Instant} {buckets : Source → Bucket}

theorem Holds.checkLive (h : db.Holds c expiry buckets)
    (hnow : ∀ t ∈ expiry, now.millis < t.millis) :
    db.checkLive c now = .ok (db, expiry.isSome) := by
  refine bind_eq_ok.2 ⟨(), h.takesRows.namespacesTable, ?_⟩
  rw [h.expires]
  cases expiry with
  | none => rfl
  | some t =>
    simp only [Option.map_some, if_pos (hnow t rfl)]
    rfl

theorem Holds.finds (h : db.Holds c expiry buckets) (hnow : ∀ t ∈ expiry, now.millis < t.millis) :
    db.Finds c now db buckets :=
  ⟨⟨_, h.checkLive hnow⟩, h.takesRows, h.reads⟩

theorem Holds.getMemory (h : db.Holds c expiry buckets)
    (hnow : ∀ t ∈ expiry, now.millis < t.millis) :
    db.getMemory c now = .ok (db, merge (buckets .tools) (buckets .extraction)) := by
  refine bind_eq_ok.2 ⟨_, h.checkLive hnow, ?_⟩
  cases expiry with
  | none =>
    rw [h.vacant rfl, h.vacant rfl]
    rfl
  | some t => exact bind_eq_ok.2 ⟨_, h.reads .tools, bind_eq_ok.2 ⟨_, h.reads .extraction, rfl⟩⟩

theorem Holds.getBucket (h : db.Holds c expiry buckets) (hnow : ∀ t ∈ expiry, now.millis < t.millis)
    (source : Source) :
    db.getBucket c source now = .ok (db, buckets source) := by
  refine bind_eq_ok.2 ⟨_, h.checkLive hnow, ?_⟩
  cases expiry with
  | none =>
    rw [h.vacant rfl]
    rfl
  | some t => exact bind_eq_ok.2 ⟨_, h.reads source, rfl⟩

/-- From the expiry on all of it is dropped. -/
theorem Holds.checkLive_expired {t : Instant} (h : db.Holds c (some t) buckets)
    (hnow : ¬ now.millis < t.millis) :
    ∃ db', db.checkLive c now = .ok (db', false) ∧ db.dropNamespace c = .ok db' := by
  obtain ⟨db', hdrop⟩ : ∃ db', db.dropNamespace c = .ok db' :=
    ⟨_, bind_eq_ok.2
      ⟨(), h.takesRows.factsTable, bind_eq_ok.2 ⟨(), h.takesRows.namespacesTable, rfl⟩⟩⟩
  refine ⟨db', bind_eq_ok.2 ⟨(), h.takesRows.namespacesTable, ?_⟩, hdrop⟩
  simp only [h.expires, Option.map_some, if_neg hnow]
  exact bind_eq_ok.2 ⟨_, hdrop, rfl⟩

theorem Holds.getMemory_expired {t : Instant} (h : db.Holds c (some t) buckets)
    (hnow : ¬ now.millis < t.millis) :
    ∃ db', db.getMemory c now = .ok (db', .empty) ∧ db.dropNamespace c = .ok db' := by
  obtain ⟨db', hlive, hdrop⟩ := h.checkLive_expired hnow
  exact ⟨db', bind_eq_ok.2 ⟨(db', false), hlive, rfl⟩, hdrop⟩

theorem Holds.getBucket_expired {t : Instant} (h : db.Holds c (some t) buckets)
    (hnow : ¬ now.millis < t.millis) (source : Source) :
    ∃ db', db.getBucket c source now = .ok (db', .empty) ∧ db.dropNamespace c = .ok db' := by
  obtain ⟨db', hlive, hdrop⟩ := h.checkLive_expired hnow
  exact ⟨db', bind_eq_ok.2 ⟨(db', false), hlive, rfl⟩, hdrop⟩

theorem Legible.finds (h : db.Legible c) (now : Instant) :
    ∃ db' buckets, db.Finds c now db' buckets := by
  choose buckets hbuckets using h.reads
  cases he : db.expiries.get? c with
  | none =>
    refine ⟨db, buckets, ⟨false, bind_eq_ok.2 ⟨(), h.takesRows.namespacesTable, ?_⟩⟩, h.takesRows,
      hbuckets⟩
    rw [he]
    rfl
  | some t =>
    by_cases hlive : now.millis < t
    · refine ⟨db, buckets, ⟨true, bind_eq_ok.2 ⟨(), h.takesRows.namespacesTable, ?_⟩⟩, h.takesRows,
        hbuckets⟩
      simp only [he, if_pos hlive]
      rfl
    · obtain ⟨db', hdrop, hopen⟩ : ∃ db', db.dropNamespace c = .ok db' ∧ db'.MemoryOpen :=
        ⟨_, bind_eq_ok.2
          ⟨(), h.takesRows.factsTable, bind_eq_ok.2 ⟨(), h.takesRows.namespacesTable, rfl⟩⟩,
          h.takesRows.namespaces, h.takesRows.facts⟩
      refine ⟨db', fun _ => .empty, ⟨false, bind_eq_ok.2 ⟨(), h.takesRows.namespacesTable, ?_⟩⟩,
        hopen, ?_⟩
      · simp only [he, if_neg hlive]
        exact bind_eq_ok.2 ⟨_, hdrop, rfl⟩
      · intro source
        refine loadBucket_eq_ok.2 ⟨hopen.factsTable, ?_⟩
        rw [(dropNamespace_dropped hdrop).rows, if_pos rfl]
        rfl

/-- A write that ends in the calendar is made, to the buckets that it finds. -/
theorem Finds.setMemory {us : List Update} {ttl : Int} (h : db.Finds c now db' buckets)
    (contactId : String) (writer : Writer) (hexpiry : now.add? ttl = some expiresAt)
    (hus : ∀ u ∈ us, u.value.Survives 1) :
    ∃ db₁, db.setMemory c contactId us writer now ttl = .ok (some (db₁, us.length)) ∧
      db₁.Holds c (some expiresAt) fun source =>
        if source = writer.source then (buckets source).writeAll contactId writer now us
          else buckets source := by
  obtain ⟨live, hchecked⟩ := h.checked
  obtain ⟨db₁, hput, hrows⟩ := putRows h.takesRows writer.source c
    ((buckets writer.source).writeAll contactId writer now us) fun _ hid =>
    Bucket.isSome_writeAll hid
  refine ⟨{ db₁ with expiries := db₁.expiries.insert c expiresAt.millis }, ?_,
    ⟨hrows.takesRows.namespaces, hrows.takesRows.facts⟩, ?_, ?_, by rintro ⟨⟩⟩
  -- the request goes through: the check, the bucket, its rows, the expiry
  · refine bind_eq_ok.2
      ⟨_, hchecked, bind_eq_ok.2 ⟨_, h.reads writer.source, bind_eq_ok.2 ⟨db₁, hput, ?_⟩⟩⟩
    rw [hexpiry]
    exact bind_eq_ok.2 ⟨(), hrows.takesRows.namespaces, rfl⟩
  · rw [Dict.get?_insert, if_pos rfl]
    rfl
  -- what is read afterwards: the bucket of the writer from its new rows, the other from the old
  · intro source
    obtain ⟨-, hold⟩ := loadBucket_eq_ok.1 (h.reads source)
    refine loadBucket_eq_ok.2 ⟨hrows.takesRows.factsTable, ?_⟩
    by_cases hsource : source = writer.source
    · subst hsource
      rw [if_pos rfl]
      ext1 id
      have hrow := hrows.rows id
      change Dict.get? ((db₁.rows writer.source c).map _) id = _
      rw [Dict.get?_map, Dict.get?_map, hrow]
      by_cases hid : id ∈ us.map (·.variableId)
      · obtain ⟨a, ha⟩ : ∃ a, lastValue? us id = some a := by
          rw [← Option.isSome_iff_exists, Option.isSome_iff_ne_none, Ne, lastValue?_eq_none,
            not_not]
          exact hid
        obtain ⟨u, hu, rfl⟩ := lastValue?_mem ha
        obtain ⟨f, hf, hvalue, -⟩ := Bucket.get?_writeAll_of_lastValue contactId writer now ha
        have hsurvives : f.Survives := by
          rw [Fact.Survives, hvalue]
          exact hus u hu
        rw [if_pos hid, hf]
        simp only [Option.map_some, Fact.ofText?_textOf hsurvives]
      · rw [if_neg hid, Bucket.get?_writeAll hid]
        have hsame := congrArg (Dict.get? · id) hold
        simpa only [Dict.get?_map] using hsame
    · rw [if_neg hsource, ← hold]
      exact congrArg (Dict.map · Fact.ofText?) (hrows.others source c fun hsame => hsource hsame.1)

/-- One whose expiry lies beyond the calendar has no count. -/
theorem Finds.setMemory_beyond {ttl : Int} (h : db.Finds c now db' buckets) (contactId : String)
    (us : List Update) (writer : Writer) (hexpiry : now.add? ttl = none) :
    db.setMemory c contactId us writer now ttl = .ok none := by
  obtain ⟨live, hchecked⟩ := h.checked
  obtain ⟨db₁, hput, -⟩ := putRows h.takesRows writer.source c
    ((buckets writer.source).writeAll contactId writer now us) fun _ hid =>
    Bucket.isSome_writeAll hid
  refine bind_eq_ok.2
    ⟨_, hchecked, bind_eq_ok.2 ⟨_, h.reads writer.source, bind_eq_ok.2 ⟨db₁, hput, ?_⟩⟩⟩
  rw [hexpiry]
  rfl

end Dialogue.Database
