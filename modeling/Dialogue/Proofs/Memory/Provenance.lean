import Dialogue.Proofs.Memory.Requests

/-! # Who wrote a fact

    A write signs its facts with the name of its writer and files them in the bucket of its kind, so
    each fact in memory is signed by a writer whose bucket it is in (`Backend.everyFact_after`). The
    name tells that bucket, unless a tool writes under the name of the extraction process: then its
    facts look extracted and yet are among those of the tools, which count first
    (`signed_as_extracted`). That is the only way to be mistaken (`name_tells_bucket_iff`). -/

namespace Dialogue.Memory

open Json Time Live

/-! ### Signatures -/

/-- A writer of the kind signed the fact. -/
def Signed (W : Writer → Prop) (source : Source) (f : Fact) : Prop :=
  ∃ w, W w ∧ w.source = source ∧ f.updatedBy = some w.name

/-- Who signs with the name writes to the bucket. -/
def TellsBucket (source : Source) (f : Fact) : Prop :=
  ∃ name, f.updatedBy = some name ∧ (Writer.ofName name).source = source

/-- A name tells the bucket of its writer, except that of the extraction process for a tool. -/
theorem source_ofName_name {w : Writer} :
    (Writer.ofName w.name).source = w.source ↔ w ≠ .tool extractionName := by
  cases w with
  | tool name =>
    by_cases hname : name = extractionName
    · simp [Writer.name, Writer.ofName, Writer.source, hname]
    · simp [Writer.name, Writer.ofName, Writer.source, hname]
  | extraction => simp [Writer.name, Writer.ofName, Writer.source]

namespace Bucket

variable {b : Bucket} {contactId : String} {writer : Writer} {now : Instant} {us : List Update}
    {id : String} {f : Fact}

/-- A fact that is there after updates was there before, or the writer signed it. -/
theorem signed_writeAll (h : (b.writeAll contactId writer now us).get? id = some f) :
    b.get? id = some f ∧ id ∉ us.map (·.variableId) ∨ id ∈ us.map (·.variableId) ∧
      f.updatedBy = some writer.name := by
  induction us generalizing b with
  | nil => exact .inl ⟨h, by simp⟩
  | cons u us ih =>
    rcases ih (b := b.write contactId writer now u) h with ⟨hfirst, hlater⟩ | ⟨hlater, hsigned⟩
    · rw [write, Dict.get?_insert] at hfirst
      split at hfirst
      · rename_i hid
        cases hfirst
        exact .inr ⟨by simp [hid], rfl⟩
      · rename_i hid
        exact .inl ⟨hfirst, by simpa [hid] using hlater⟩
    · exact .inr ⟨List.mem_cons_of_mem _ hlater, hsigned⟩

end Bucket

end Dialogue.Memory

namespace Dialogue.Live.MemoryRequest

open Memory

/-- The request writes to the bucket, and signs the fact. -/
def Signs (source : Source) (f : Fact) : MemoryRequest → Prop
  | .set _ _ _ writer => writer.source = source ∧ f.updatedBy = some writer.name
  | _ => False

/-- If the request writes, the writer is of the kind. -/
def WrittenBy (W : Writer → Prop) : MemoryRequest → Prop
  | .set _ _ _ writer => W writer
  | _ => True

theorem WrittenBy.signed {W : Writer → Prop} {source : Source} {f : Fact} {r : MemoryRequest}
    (hr : r.WrittenBy W) (h : r.Signs source f) : Signed W source f := by
  cases r with
  | set c contactId us writer => exact ⟨writer, hr, h⟩
  | get _ => cases h
  | bucket _ _ => cases h
  | delete _ => cases h
  | purge => cases h

end Dialogue.Live.MemoryRequest

namespace Dialogue.Memory

open Json Time Live

/-! ### In the process -/

namespace Store

variable {s : Store} {now : Instant} {c k : String} {source : Source} {id : String} {f : Fact}

/-- What a read finds is there. -/
theorem get?_of_getBucket (h : (s.getBucket now c source).get? id = some f) :
    (s.bucket c source).get? id = some f := by
  rcases s.evict_cases now c with ⟨-, hlive⟩ | ⟨-, hlive, -⟩
  · rwa [getBucket, hlive] at h
  · rw [getBucket, hlive] at h
    cases h

/-- A namespace with what a read finds is written to. -/
theorem signed_write {n : Namespace} {contactId : String} {writer : Writer} {us : List Update}
    (hn : ∀ source, n.bucket source = s.getBucket now c source)
    (h : ((n.write contactId writer now us).bucket source).get? id = some f) :
    (s.bucket c source).get? id = some f ∨ writer.source = source ∧
      f.updatedBy = some writer.name := by
  rw [Namespace.write, Namespace.bucket_setBucket] at h
  split at h
  · rename_i hsource
    rw [hn] at h
    rcases Bucket.signed_writeAll h with ⟨hold, -⟩ | ⟨-, hsigned⟩
    · rw [hsource]
      exact .inl (get?_of_getBucket hold)
    · exact .inr ⟨hsource.symm, hsigned⟩
  · rw [hn] at h
    exact .inl (get?_of_getBucket h)

theorem bucket_file (s : Store) (c : String) (n : Namespace) (k : String) (source : Source) :
    ({ s with namespaces := s.namespaces.insert c n } : Store).bucket k source =
      if k = c then n.bucket source else s.bucket k source := by
  simp only [bucket, Dict.get?_insert]
  split <;> rfl

theorem signed_set {contactId : String} {writer : Writer} {us : List Update}
    (h : ((s.set now c contactId us writer).1.bucket k source).get? id = some f) :
    (s.bucket k source).get? id = some f ∨ writer.source = source ∧
      f.updatedBy = some writer.name := by
  have hlive (n : Namespace) (hn : s.live? now c = some n) (source : Source) :
      n.bucket source = s.getBucket now c source := by
    rw [getBucket, hn]
    rfl
  have hfresh (hn : s.live? now c = none) (expiresAt : Instant) (source : Source) :
      ({ expiresAt } : Namespace).bucket source = s.getBucket now c source := by
    rw [getBucket, hn]
    cases source <;> rfl
  have hmoved (n : Namespace) (expiresAt : Instant) :
      ({ n with expiresAt } : Namespace).bucket source = n.bucket source := by
    cases source <;> rfl
  simp only [set] at h
  -- a live namespace, none, and either of them without an expiry in the calendar
  split at h
  · rename_i n expiresAt hn _
    rw [bucket_file, hmoved] at h
    split at h
    · rename_i hk
      rw [hk]
      exact signed_write (hlive n hn) h
    · exact .inl h
  · rename_i expiresAt hn _
    rw [bucket_file] at h
    split at h
    · rename_i hk
      rw [hk]
      exact signed_write (hfresh hn expiresAt) h
    · exact .inl h
  · rename_i n hn _
    rw [bucket_file] at h
    split at h
    · rename_i hk
      rw [hk]
      exact signed_write (hlive n hn) h
    · exact .inl h
  · exact .inl h

/-- A fact that is there after a request was there before, or the request signed it. -/
theorem signed_asked {r : MemoryRequest} (h : ((s.ask now r).1.bucket k source).get? id = some f) :
    (s.bucket k source).get? id = some f ∨ r.Signs source f := by
  have hevict (c : String) (h : ((s.evict now c).bucket k source).get? id = some f) :
      (s.bucket k source).get? id = some f := by
    by_cases hk : k = c
    · subst hk
      rw [bucket_evict] at h
      exact get?_of_getBucket h
    · rwa [bucket, s.get?_evict_of_ne now hk] at h
  cases r with
  | set c contactId us writer => exact signed_set h
  | get c => exact .inl (hevict c h)
  | bucket c _ => exact .inl (hevict c h)
  | delete c =>
    simp only [ask, delete, bucket, Dict.get?_erase] at h
    split at h
    · cases h
    · exact .inl h
  | purge =>
    simp only [ask, purge, bucket, Dict.get?_filter] at h
    exact .inl (get?_of_getBucket h)

end Store
end Dialogue.Memory

namespace Dialogue.Database

open Json Time Memory StateMachine Live

/-! ### In the database -/

variable {db db' : Database} {now : Instant} {c k : String} {source : Source} {id text : String}

/-- A check adds no row. -/
theorem Checked.get?_row {live : Bool} (hchecked : db.Checked c now (db', live))
    (h : (db'.rows source k).get? id = some text) : (db.rows source k).get? id = some text := by
  cases hchecked with
  | live _ => exact h
  | absent _ => exact h
  | expired _ _ hdropped =>
    rw [hdropped.rows] at h
    split at h
    · cases h
    · exact h

/-- A row that is there after a request was there before, or is that of a fact the
    request signed. -/
theorem signed_asked {ttl : Int} {r : MemoryRequest}
    (h : ((db.ask now ttl r).1.rows source k).get? id = some text) :
    (db.rows source k).get? id = some text ∨ ∃ f, text = textOf f ∧ r.Signs source f := by
  unfold ask at h
  cases hperform : db.perform now ttl r with
  | error e =>
    rw [hperform] at h
    exact .inl h
  | ok done =>
    rw [hperform] at h
    obtain ⟨db', a⟩ := done
    cases perform_performed hperform with
    | unwritten => exact .inl h
    | wrote hchecked _ hwrote =>
      rw [hwrote.rows] at h
      split at h
      · rename_i hplace
        obtain ⟨f, hf, rfl⟩ := Option.map_eq_some_iff.1 h
        rcases Bucket.signed_writeAll hf with ⟨-, hother⟩ | ⟨-, hsigned⟩
        · exact absurd hplace.2.2 hother
        · exact .inr ⟨f, rfl, hplace.1.symm, hsigned⟩
      · exact .inl (hchecked.get?_row h)
    | got hchecked
    | gotBucket hchecked => exact .inl (hchecked.get?_row h)
    | deleted hdropped =>
      rw [hdropped.rows] at h
      split at h
      · cases h
      · exact .inl h
    | purged =>
      rw [rows_purged] at h
      split at h
      · cases h
      · exact .inl h

end Dialogue.Database

namespace Dialogue.Live.Backend

open Json Time Memory StateMachine

/-! ### In either -/

/-- Each fact in memory is as it should be in its bucket. A database has the text of the fact. -/
def EveryFact (P : Source → Fact → Prop) : Backend → Prop
  | .process _ _ memory => ∀ source c id f, (memory.bucket c source).get? id = some f → P source f
  | .database db _ =>
    ∀ source c id text, (db.rows source c).get? id = some text → ∃ f, text = textOf f ∧ P source f

/-- The bucket of the conversation has the fact. -/
def Files (source : Source) (c id : String) (f : Fact) : Backend → Prop
  | .process _ _ memory => (memory.bucket c source).get? id = some f
  | .database db _ => (db.rows source c).get? id = some (textOf f)

/-- There is no fact in memory. -/
def Blank (b : Backend) : Prop := b.EveryFact fun _ _ => False

variable {b : Backend} {W : Writer → Prop} {P Q : Source → Fact → Prop}
    {rs : List (Instant × MemoryRequest)}

theorem EveryFact.imp (h : b.EveryFact P) (hPQ : ∀ source f, P source f → Q source f) :
    b.EveryFact Q := by
  cases b with
  | process versions snapshots memory =>
    exact fun source c id f hf => hPQ source f (h source c id f hf)
  | database db ttl =>
    intro source c id text htext
    obtain ⟨f, rfl, hf⟩ := h source c id text htext
    exact ⟨f, rfl, hPQ source f hf⟩

theorem everyFact_asked (h : b.EveryFact (Signed W)) (now : Instant) {r : MemoryRequest}
    (hr : r.WrittenBy W) :
    (b.ask now r).1.EveryFact (Signed W) := by
  cases b with
  | process versions snapshots memory =>
    rw [ask_process]
    intro source c id f hf
    rcases Store.signed_asked hf with hold | hsigns
    · exact h source c id f hold
    · exact hr.signed hsigns
  | database db ttl =>
    rw [ask_database]
    intro source c id text htext
    rcases Database.signed_asked htext with hold | ⟨f, rfl, hsigns⟩
    · exact h source c id text hold
    · exact ⟨f, rfl, hr.signed hsigns⟩

theorem everyFact_after (h : b.EveryFact (Signed W)) (hrs : ∀ r ∈ rs, r.2.WrittenBy W) :
    (b.after rs).EveryFact (Signed W) := by
  induction rs generalizing b with
  | nil => exact h
  | cons r rs ih =>
    exact ih (everyFact_asked h r.1 (hrs r List.mem_cons_self)) fun r' hr' =>
      hrs r' (List.mem_cons_of_mem r hr')

/-! ### Names and buckets -/

/-- The name of a contact, from a tool that writes under the name of the extraction process. -/
def nameSignedAsExtracted : MemoryRequest :=
  .set "c1" "k1" [{ variableId := "name", value := .string "Ada" }] (.tool extractionName)

/-- The fact that it leaves. -/
def nameFact : Fact := .new (.string "Ada") extractionName "k1" .epoch

theorem not_tellsBucket_nameFact : ¬ TellsBucket .tools nameFact := by
  rintro ⟨name, ⟨⟩, hsource⟩
  exact absurd hsource (by decide)

theorem blank_process (ttl : Int) : (process .empty .empty { ttl }).Blank := by
  rintro (_ | _) c id f ⟨⟩

theorem blank_database (ttl : Int) : (database {} ttl).Blank := by
  rintro (_ | _) c id text ⟨⟩

/-- Both memories have it among what tools wrote. -/
theorem signed_as_extracted : (emptyMemories (seconds 1)).Forall fun b => b.Blank ∧
    (b.after [(.epoch, nameSignedAsExtracted)]).Files .tools "c1" "name" nameFact ∧
      nameFact.updatedBy = some extractionName ∧ ¬ TellsBucket .tools nameFact := by
  rw [List.forall_iff_forall_mem]
  intro b hb
  rcases List.mem_pair.1 hb with rfl | rfl
  · exact ⟨blank_process _, rfl, rfl, not_tellsBucket_nameFact⟩
  · exact ⟨blank_database _, rfl, rfl, not_tellsBucket_nameFact⟩

/-- In every memory that began empty, after any requests, each fact is signed by a writer whose
    bucket it is in. The names tell the buckets, in all such memories, exactly if no tool writes
    under the name of the extraction process. -/
theorem name_tells_bucket_iff (W : Writer → Prop) :
    (∀ b : Backend, b.Blank → ∀ rs : List (Instant × MemoryRequest), (∀ r ∈ rs, r.2.WrittenBy W) →
      (b.after rs).EveryFact (Signed W)) ∧
    ((∀ b : Backend, b.Blank → ∀ rs : List (Instant × MemoryRequest), (∀ r ∈ rs, r.2.WrittenBy W) →
      (b.after rs).EveryFact TellsBucket) ↔ ¬ W (.tool extractionName)) := by
  have hsigned (b : Backend) (hb : b.Blank) (rs : List (Instant × MemoryRequest))
      (hrs : ∀ r ∈ rs, r.2.WrittenBy W) :
      (b.after rs).EveryFact (Signed W) :=
        everyFact_after (EveryFact.imp hb fun _ _ h => h.elim) hrs
  refine ⟨hsigned, ?_, ?_⟩
  · intro hall hforged
    have hwritten : ∀ r ∈ [(Instant.epoch, nameSignedAsExtracted)], r.2.WrittenBy W := by
      simpa [nameSignedAsExtracted, MemoryRequest.WrittenBy] using hforged
    exact not_tellsBucket_nameFact
      (hall _ (blank_process (seconds 1)) _ hwritten .tools "c1" "name" nameFact rfl)
  · intro hhonest b hb rs hrs
    refine (hsigned b hb rs hrs).imp ?_
    rintro source f ⟨w, hw, hsource, hname⟩
    refine ⟨w.name, hname, ?_⟩
    rw [← hsource, source_ofName_name]
    rintro rfl
    exact hhonest hw

end Dialogue.Live.Backend
