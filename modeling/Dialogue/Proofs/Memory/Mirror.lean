import Dialogue.Database
import Dialogue.Proofs.Memory.Facts
import Dialogue.Proofs.Memory.Store
import Dialogue.Proofs.StateMachine.Compiled
import Dialogue.Proofs.Time.Milliseconds

/-! # The database mirrors the store in the process

    The tables of memory hold the namespaces of a store: the milliseconds of their expiries and the
    texts of their facts (`Database.Mirrors`). Every operation on the tables does what the operation
    on the store does, and keeps them so, at instants of whole milliseconds. -/

namespace Dialogue.Database

open Json Time Memory StateMachine

/-! ### Tables of memory -/

/-- The tables of memory are there and take every row. -/
structure MemoryOpen (db : Database) : Prop where
  namespaces : db.needInsert .namespaces none = .ok ()
  facts : ∀ variableId, db.needInsert .facts variableId = .ok ()

variable {db : Database} {s : Store} {now : Instant} {c : String}

theorem MemoryOpen.namespacesTable (h : db.MemoryOpen) : db.needTable .namespaces = .ok () := by
  obtain ⟨_, htable, -⟩ := bind_eq_ok.1 h.namespaces
  exact htable

theorem MemoryOpen.factsTable (h : db.MemoryOpen) : db.needTable .facts = .ok () := by
  obtain ⟨_, htable, -⟩ := bind_eq_ok.1 (h.facts none)
  exact htable

theorem rows_setRows (db : Database) (source source' : Source) (c k : String) (r : Dict String) :
    (db.setRows source c r).rows source' k = if source' = source ∧ k = c then r
      else db.rows source' k := by
  by_cases hk : k = c <;> cases source <;> cases source' <;> simp [setRows, rows, hk]

/-- The rows of a bucket are read back as its facts. -/
theorem loadBucket_eq (hopen : db.MemoryOpen) {source : Source} {b : Bucket}
    (hrows : db.rows source c = b.map textOf) (hb : b.Survives) :
    db.loadBucket c source = .ok b := by
  have hread : ((db.rows source c).entries.mapM readRow) = .ok b.entries := by
    rw [mapM_eq_ok, hrows]
    simp only [Dict.map, List.map_map]
    refine List.map_congr_left ?_
    intro e he
    have hsurvives := hb e.1 e.2 (Dict.get?_of_mem he)
    simp [readRow, Fact.ofText?_textOf hsurvives]
  refine bind_eq_ok.2 ⟨(), hopen.factsTable, bind_eq_ok.2 ⟨_, hread, ?_⟩⟩
  rw [Dict.ofList_entries]
  rfl

theorem putRow_eq (hopen : db.MemoryOpen) (source : Source) (c : String) {b : Bucket} {id : String}
    {f : Fact} (hf : b.get? id = some f) :
    putRow source c b db id =
        .ok (db.setRows source c ((db.rows source c).insert id (textOf f))) := by
  simp only [putRow, hf]
  exact bind_eq_ok.2 ⟨(), hopen.facts _, rfl⟩

/-- The rows of the facts have been put, and nothing else has changed. -/
structure RowsPut (db db' : Database) (source : Source) (c : String) (b : Bucket)
    (ids : List String) : Prop where
  takesRows : db'.MemoryOpen
  expiries : db'.expiries = db.expiries
  others : ∀ source' k, ¬(source' = source ∧ k = c) → db'.rows source' k = db.rows source' k
  rows : ∀ id, (db'.rows source c).get? id =
    if id ∈ ids then (b.get? id).map textOf else (db.rows source c).get? id

theorem putRows (hopen : db.MemoryOpen) (source : Source) (c : String) (b : Bucket)
    {ids : List String} (hids : ∀ id ∈ ids, (b.get? id).isSome) :
    ∃ db', ids.foldlM (putRow source c b) db = .ok db' ∧ RowsPut db db' source c b ids := by
  -- a later row for the same variable is the same, since both are taken from the bucket
  induction ids generalizing db with
  | nil => exact ⟨db, rfl, hopen, rfl, fun _ _ _ => rfl, fun _ => (if_neg List.not_mem_nil).symm⟩
  | cons id ids ih =>
    obtain ⟨f, hf⟩ := Option.isSome_iff_exists.1 (hids id List.mem_cons_self)
    have hput := putRow_eq hopen source c hf
    obtain ⟨mid, hmid⟩ :
      ∃ mid, mid = db.setRows source c ((db.rows source c).insert id (textOf f)) := ⟨_, rfl⟩
    rw [← hmid] at hput
    have hmidOpen : mid.MemoryOpen := by
      rw [hmid]
      cases source <;> exact ⟨hopen.namespaces, hopen.facts⟩
    obtain ⟨db', hrest, h⟩ := ih hmidOpen fun id' hid' => hids id' (List.mem_cons_of_mem id hid')
    refine ⟨db', ?_, h.takesRows, ?_, ?_, ?_⟩
    · rw [List.foldlM_cons]
      exact bind_eq_ok.2 ⟨mid, hput, hrest⟩
    · rw [h.expiries, hmid]
      cases source <;> rfl
    · intro source' k hk
      rw [h.others source' k hk, hmid, rows_setRows, if_neg hk]
    · intro id'
      have hthere : (mid.rows source c).get? id' = if id' = id then some (textOf f)
          else (db.rows source c).get? id' := by
        rw [hmid, rows_setRows, if_pos ⟨rfl, rfl⟩, Dict.get?_insert]
      rw [h.rows, hthere]
      by_cases hlater : id' ∈ ids
      · simp [hlater]
      · by_cases hfirst : id' = id
        · simp [hfirst, hf]
        · simp [hlater, hfirst]

/-- Facts that are not mentioned have their rows already. -/
theorem RowsPut.rows_eq {db' : Database} {source : Source} {b : Bucket} {contactId : String}
    {us : List Update} {writer : Writer}
    (h : RowsPut db db' source c (b.writeAll contactId writer now us) (us.map (·.variableId)))
    (hrows : db.rows source c = b.map textOf) :
    db'.rows source c = (b.writeAll contactId writer now us).map textOf := by
  ext1 id
  rw [h.rows, Dict.get?_map]
  split
  · rfl
  · rename_i hid
    rw [hrows, Dict.get?_map, Bucket.get?_writeAll hid]

/-- The tables hold the namespaces of the store. -/
structure Mirrors (db : Database) (s : Store) : Prop where
  takesRows : db.MemoryOpen
  expiries : db.expiries = s.namespaces.map (·.expiresAt.millis)
  rows : ∀ source c, db.rows source c = (s.bucket c source).map textOf
  whole : ∀ c n, s.namespaces.get? c = some n → n.expiresAt.Whole
  survives : ∀ c source, (s.bucket c source).Survives

/-- Tables without namespaces and rows. -/
theorem mirrors_vacant (h : db.MemoryOpen) (hexpiries : db.expiries = .empty)
    (htools : db.tools = .empty) (hextraction : db.extraction = .empty) (ttl : Int) :
    db.Mirrors { ttl } where
  takesRows := h
  expiries := hexpiries
  rows source c := by
    cases source
    · rw [Database.rows, htools]
      rfl
    · rw [Database.rows, hextraction]
      rfl
  whole c n hn := by cases hn
  survives c source := Bucket.survives_empty

namespace Mirrors

/-! ### Deleting and evicting -/

theorem dropNamespace (h : db.Mirrors s) (c : String) :
    ∃ db', db.dropNamespace c = .ok db' ∧ db'.Mirrors (s.delete c) := by
  refine ⟨_,
    bind_eq_ok.2 ⟨(), h.takesRows.factsTable, bind_eq_ok.2 ⟨(), h.takesRows.namespacesTable, rfl⟩⟩,
    ?_⟩
  -- the store loses both buckets, the tables their rows and the expiry
  have hbucket (k : String) (source : Source) :
      (s.delete c).bucket k source = if k = c then .empty else s.bucket k source := by
    simp only [Store.bucket, Store.delete, Dict.get?_erase]
    split <;> rfl
  refine ⟨⟨h.takesRows.namespaces, h.takesRows.facts⟩, ?_, ?_, ?_, ?_⟩
  · simp only [h.expiries]
    exact (Dict.map_erase ..).symm
  · intro source k
    have hrows := h.rows source k
    rw [hbucket]
    by_cases hk : k = c
    · have hnone : (Dict.empty : Bucket).map textOf = .empty := rfl
      cases source <;> simp [Database.rows, hk, hnone]
    · rw [if_neg hk, ← hrows]
      cases source <;> simp [Database.rows, hk]
  · intro k n hn
    simp only [Store.delete, Dict.get?_erase] at hn
    split at hn
    · cases hn
    · exact h.whole k n hn
  · intro k source
    rw [hbucket]
    split
    · exact Bucket.survives_empty
    · exact h.survives k source

/-- The milliseconds tell what has expired. -/
theorem isExpired_iff (h : db.Mirrors s) (hnow : now.Whole) {n : Namespace}
    (hn : s.namespaces.get? c = some n) :
    n.isExpired now ↔ n.expiresAt.millis ≤ now.millis := by
  rw [Instant.millis_le_iff (h.whole c n hn) hnow, Namespace.isExpired, decide_eq_true_iff]

theorem checkLive (h : db.Mirrors s) (hnow : now.Whole) (c : String) :
    ∃ db', db.checkLive c now = .ok (db', (s.live? now c).isSome) ∧
      db'.Mirrors (s.evict now c) := by
  have hexpiry : db.expiries.get? c = (s.namespaces.get? c).map (·.expiresAt.millis) := by
    rw [h.expiries, Dict.get?_map]
  rcases s.evict_cases now c with ⟨he, hl⟩ | ⟨he, hl, n, hn, hexpired⟩
  -- the namespace is not there, or is live
  · rw [he]
    refine ⟨db, bind_eq_ok.2 ⟨(), h.takesRows.namespacesTable, ?_⟩, h⟩
    rw [hexpiry, hl]
    cases hn : s.namespaces.get? c with
    | none => rfl
    | some n =>
      have hlive : ¬ n.isExpired now := by
        intro hexpired
        rw [Store.live?, hn] at hl
        simp [Option.filter, hexpired] at hl
      rw [h.isExpired_iff hnow hn, not_le] at hlive
      simp only [Option.map_some, if_pos hlive]
      rfl
  -- it has expired, and both drop it
  · obtain ⟨db', hdrop, hmirrors⟩ := h.dropNamespace c
    rw [he]
    refine ⟨db', bind_eq_ok.2 ⟨(), h.takesRows.namespacesTable, ?_⟩, hmirrors⟩
    rw [h.isExpired_iff hnow hn, ← not_lt] at hexpired
    rw [hexpiry, hn, hl]
    simp only [Option.map_some, if_neg hexpired]
    exact bind_eq_ok.2 ⟨db', hdrop, rfl⟩

/-! ### Reading -/

theorem loadBucket (h : db.Mirrors s) (c : String) (source : Source) :
    db.loadBucket c source = .ok (s.bucket c source) :=
  loadBucket_eq h.takesRows (h.rows source c) (h.survives c source)

theorem getMemory (h : db.Mirrors s) (hnow : now.Whole) (c : String) :
    ∃ db', db.getMemory c now = .ok (db', s.get now c) ∧ db'.Mirrors (s.evict now c) := by
  obtain ⟨db', hlive, hmirrors⟩ := h.checkLive hnow c
  refine ⟨db', bind_eq_ok.2 ⟨_, hlive, ?_⟩, hmirrors⟩
  have htools := hmirrors.loadBucket c .tools
  have hextraction := hmirrors.loadBucket c .extraction
  rw [Store.bucket_evict, Store.getBucket] at htools hextraction
  cases hl : s.live? now c with
  | none =>
    simp only [Store.get, hl]
    rfl
  | some n =>
    rw [hl] at htools hextraction
    simp only [Store.get, hl]
    exact bind_eq_ok.2 ⟨_, htools, bind_eq_ok.2 ⟨_, hextraction, rfl⟩⟩

theorem getBucket (h : db.Mirrors s) (hnow : now.Whole) (c : String) (source : Source) :
    ∃ db', db.getBucket c source now = .ok (db', s.getBucket now c source) ∧
      db'.Mirrors (s.evict now c) := by
  obtain ⟨db', hlive, hmirrors⟩ := h.checkLive hnow c
  refine ⟨db', bind_eq_ok.2 ⟨_, hlive, ?_⟩, hmirrors⟩
  have hbucket := hmirrors.loadBucket c source
  rw [Store.bucket_evict] at hbucket
  cases hl : s.live? now c with
  | none =>
    simp only [Store.getBucket, hl]
    rfl
  | some n => exact bind_eq_ok.2 ⟨_, hbucket, rfl⟩

/-! ### Writing -/

/-- The namespace of one conversation is replaced in both. -/
theorem replaced {db' : Database} {n : Namespace} (h : db.Mirrors s) (hopen : db'.MemoryOpen)
    (hexpiries : db'.expiries = db.expiries.insert c n.expiresAt.millis)
    (hothers : ∀ source k, k ≠ c → db'.rows source k = db.rows source k)
    (hrows : ∀ source, db'.rows source c = (n.bucket source).map textOf)
    (hwhole : n.expiresAt.Whole) (hsurvives : ∀ source, (n.bucket source).Survives) :
    db'.Mirrors { s with namespaces := s.namespaces.insert c n } := by
  have hbucket (k : String) (source : Source) :
      Store.bucket { s with namespaces := s.namespaces.insert c n } k source =
        if k = c then n.bucket source else s.bucket k source := by
    simp only [Store.bucket, Dict.get?_insert]
    split <;> rfl
  refine ⟨hopen, ?_, ?_, ?_, ?_⟩
  · rw [hexpiries, h.expiries, Dict.map_insert]
  · intro source k
    rw [hbucket]
    split
    · rename_i hk
      rw [hk, hrows]
    · rename_i hk
      rw [hothers source k hk, h.rows]
  · intro k m hm
    rw [Dict.get?_insert] at hm
    split at hm
    · cases hm
      exact hwhole
    · exact h.whole k m hm
  · intro k source
    rw [hbucket]
    split
    · exact hsurvives source
    · exact h.survives k source

/-- A namespace is filed whose rows have been put for the updates of one writer. -/
theorem written {db' : Database} {n : Namespace} {contactId : String} {us : List Update}
    {writer : Writer}
    (h : db.Mirrors s) (hn : ∀ source, n.bucket source =
      if source = writer.source then (s.bucket c writer.source).writeAll contactId writer now us
        else s.bucket c source)
    (hput : RowsPut db db' writer.source c (n.bucket writer.source) (us.map (·.variableId)))
    (hwhole : n.expiresAt.Whole) (hus : ∀ u ∈ us, u.value.Survives 1) :
    Mirrors { db' with expiries := db'.expiries.insert c n.expiresAt.millis }
      { s with namespaces := s.namespaces.insert c n } := by
  refine h.replaced ⟨hput.takesRows.namespaces, hput.takesRows.facts⟩ ?_ ?_ ?_ hwhole ?_
  · simp only [hput.expiries]
  · intro source k hk
    exact hput.others source k fun hsame => hk hsame.2
  · intro source
    by_cases hsource : source = writer.source
    · subst hsource
      rw [hn, if_pos rfl] at hput ⊢
      exact hput.rows_eq (h.rows ..)
    · rw [hn, if_neg hsource, ← h.rows]
      exact hput.others source c fun hsame => hsource hsame.1
  · intro source
    rw [hn]
    split
    · exact Bucket.survives_writeAll (h.survives c _) hus
    · exact h.survives c source

theorem setMemory (h : db.Mirrors s) (hnow : now.Whole) (c contactId : String) {us : List Update}
    (writer : Writer) (hus : ∀ u ∈ us, u.value.Survives 1) (httl : s.ttl % nanosPerMilli = 0)
    {expiresAt : Instant} (hexpiry : now.add? s.ttl = some expiresAt) :
    ∃ db', db.setMemory c contactId us writer now s.ttl = .ok (some (db', us.length)) ∧
      db'.Mirrors (s.set now c contactId us writer).1 := by
  obtain ⟨db₁, hlive, h₁⟩ := h.checkLive hnow c
  have hn := s.bucket_writtenTo now c contactId us writer expiresAt
  simp only [← Store.bucket_evict] at hn
  -- the namespace after the write is named, as both buckets and the expiry are about it
  obtain ⟨n, hwritten⟩ : ∃ n, n = s.writtenTo now c contactId us writer expiresAt := ⟨_, rfl⟩
  rw [← hwritten] at hn
  have hwriter := hn writer.source
  rw [if_pos rfl] at hwriter
  have hids : ∀ id ∈ us.map (·.variableId), ((n.bucket writer.source).get? id).isSome := by
    intro id hid
    rw [hwriter]
    exact Bucket.isSome_writeAll hid
  obtain ⟨db₂, hput, hrows⟩ := putRows h₁.takesRows writer.source c (n.bucket writer.source) hids
  have hexpiresAt : n.expiresAt = expiresAt := by rw [hwritten, Store.writtenTo]
  refine ⟨{ db₂ with expiries := db₂.expiries.insert c n.expiresAt.millis }, ?_, ?_⟩
  · refine bind_eq_ok.2 ⟨_, hlive, bind_eq_ok.2 ⟨_, h₁.loadBucket c writer.source, ?_⟩⟩
    rw [hwriter] at hput
    refine bind_eq_ok.2 ⟨db₂, hput, ?_⟩
    rw [hexpiry, hexpiresAt]
    exact bind_eq_ok.2 ⟨(), hrows.takesRows.namespaces, rfl⟩
  · rw [Store.set_eq s now c hexpiry, ← hwritten]
    exact h₁.written hn hrows (hexpiresAt ▸ hnow.add httl hexpiry) hus

end Mirrors

/-! ### Purging -/

/-- The namespaces that a purge of the tables takes away. -/
def due (db : Database) (now : Instant) : Dict Int :=
  db.expiries.filter fun _ expiry => expiry ≤ now.millis

/-- The tables without them. -/
def purged (db : Database) (now : Instant) : Database :=
  { db with
    expiries := db.expiries.filter fun k _ => !(db.due now).contains k
    tools := db.tools.filter fun k _ => !(db.due now).contains k
    extraction := db.extraction.filter fun k _ => !(db.due now).contains k }

theorem rows_purged (db : Database) (now : Instant) (source : Source) (k : String) :
    (db.purged now).rows source k = if (db.due now).contains k then .empty
      else db.rows source k := by
  cases source <;> simp only [purged, rows, Dict.get?_filter]
  · cases db.tools.get? k <;> cases (db.due now).contains k <;> rfl
  · cases db.extraction.get? k <;> cases (db.due now).contains k <;> rfl

namespace Mirrors

/-- What is due in the tables has expired in the store. -/
theorem contains_due (h : db.Mirrors s) (hnow : now.Whole) (k : String) :
    (db.due now).contains k = (s.namespaces.get? k).any fun n => n.isExpired now := by
  rw [due, h.expiries, Dict.contains, Dict.get?_filter, Dict.get?_map]
  cases hn : s.namespaces.get? k with
  | none => rfl
  | some n =>
    have hexpired := h.isExpired_iff hnow hn
    by_cases hdue : n.expiresAt.millis ≤ now.millis
    · simp [Option.filter, hdue, hexpired.2 hdue]
    · have hlive : n.isExpired now = false := Bool.eq_false_iff.2 fun he => hdue (hexpired.1 he)
      simp [Option.filter, hdue, hlive]

/-- As many namespaces are purged of both. -/
theorem size_due (h : db.Mirrors s) (hnow : now.Whole) : (db.due now).size = (s.purge now).2 := by
  have hdue : (s.namespaces.filter fun _ n => decide (n.expiresAt.millis ≤ now.millis)) =
      s.namespaces.filter fun _ n => !!n.isExpired now := by
    refine Dict.filter_congr ?_
    intro k n hn
    rw [Bool.not_not, Bool.eq_iff_iff, decide_eq_true_iff]
    exact (h.isExpired_iff hnow hn).symm
  -- the store counts what it loses, the tables what is due
  have hadd := Dict.size_filter_add s.namespaces fun _ n => !n.isExpired now
  rw [due, h.expiries, Dict.size_filter_map, hdue]
  simp only [Store.purge]
  omega

theorem purge (h : db.Mirrors s) (hnow : now.Whole) :
    ∃ db', db.purge now = .ok (db', (s.purge now).2) ∧ db'.Mirrors (s.purge now).1 := by
  have hcontains := h.contains_due hnow
  have hleft (k : String) : (s.purge now).1.namespaces.get? k =
      (s.namespaces.get? k).filter fun n => !n.isExpired now := by
    simp only [Store.purge, Dict.get?_filter]
  -- a bucket is empty after the purge where its expiry is due
  have hbucket (k : String) (source : Source) :
      (s.purge now).1.bucket k source = if (db.due now).contains k then .empty
        else s.bucket k source := by
    rw [hcontains, Store.bucket, Store.bucket, hleft]
    cases s.namespaces.get? k with
    | none => rfl
    | some n => cases hn : n.isExpired now <;> simp [Option.filter, hn]
  refine ⟨db.purged now, ?_, ⟨h.takesRows.namespaces, h.takesRows.facts⟩, ?_, ?_, ?_, ?_⟩
  · rw [← h.size_due hnow]
    exact bind_eq_ok.2
      ⟨(), h.takesRows.factsTable, bind_eq_ok.2 ⟨(), h.takesRows.namespacesTable, rfl⟩⟩
  · ext1 k
    rw [Dict.get?_map, hleft]
    simp only [purged, Dict.get?_filter, hcontains, h.expiries, Dict.get?_map]
    cases s.namespaces.get? k with
    | none => rfl
    | some n => cases hn : n.isExpired now <;> simp [Option.filter, hn]
  · intro source k
    rw [rows_purged, hbucket, h.rows]
    split <;> rfl
  · intro k n hn
    rw [hleft, Option.filter_eq_some_iff] at hn
    exact h.whole k n hn.1
  · intro k source
    rw [hbucket]
    split
    · exact Bucket.survives_empty
    · exact h.survives k source

end Mirrors
end Dialogue.Database
