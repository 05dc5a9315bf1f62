import Dialogue.Memory.Store

/-! # Buckets of the store in the process

    What a read drops and what a write leaves, bucket by bucket (`bucket_evict`,
    `bucket_writtenTo`). -/

namespace Dialogue.Memory

open Time

namespace Namespace

theorem bucket_setBucket (n : Namespace) (source source' : Source) (b : Bucket) :
    (n.setBucket source b).bucket source' = if source' = source then b else n.bucket source' := by
  cases source <;> cases source' <;> rfl

end Namespace

namespace Store

variable (s : Store) (now : Instant) (c : String)

/-! ### The time to live -/

theorem evict_ttl : (s.evict now c).ttl = s.ttl := by
  unfold evict
  split
  · split <;> rfl
  · rfl

theorem set_ttl (contactId : String) (us : List Update) (writer : Writer) :
    (s.set now c contactId us writer).1.ttl = s.ttl := by
  simp only [set]
  split <;> rfl

/-! ### Buckets -/

/-- A bucket of a conversation, expired or not. -/
def bucket (source : Source) : Bucket := ((s.namespaces.get? c).map (·.bucket source)).getD .empty

/-- An eviction deletes what has expired. -/
theorem evict_cases : s.evict now c = s ∧ s.live? now c = s.namespaces.get? c ∨
    s.evict now c = s.delete c ∧ s.live? now c = none ∧ ∃ n, s.namespaces.get? c = some n ∧
      n.isExpired now := by
  unfold evict live?
  cases hn : s.namespaces.get? c with
  | none => exact .inl ⟨rfl, rfl⟩
  | some n =>
    cases he : n.isExpired now with
    | false => simp [Option.filter, he]
    | true => exact .inr ⟨by simp [delete, he], by simp [Option.filter, he], n, rfl, he⟩

theorem get?_evict (k : String) :
    (s.evict now c).namespaces.get? k = if k = c then s.live? now c else s.namespaces.get? k := by
  rcases s.evict_cases now c with ⟨he, hl⟩ | ⟨he, hl, -⟩
  · rw [he, hl]
    split
    · rename_i hk
      rw [hk]
    · rfl
  · rw [he, hl]
    exact Dict.get?_erase ..

theorem get?_evict_of_ne {c k : String} (h : k ≠ c) :
    (s.evict now c).namespaces.get? k = s.namespaces.get? k := by
  rw [get?_evict, if_neg h]

theorem get?_set_of_ne {c k : String} (h : k ≠ c) (contactId : String) (us : List Update)
    (writer : Writer) :
    (s.set now c contactId us writer).1.namespaces.get? k = s.namespaces.get? k := by
  simp only [set]
  split <;> simp [h]

theorem evict_of_absent {c : String} (h : s.namespaces.get? c = none) : s.evict now c = s := by
  simp only [evict, h]

theorem bucket_evict (source : Source) :
    (s.evict now c).bucket c source = s.getBucket now c source := by
  rw [bucket, get?_evict, if_pos rfl, getBucket]

/-- What a write files, once what has expired is dropped. -/
def writtenTo (contactId : String) (us : List Update) (writer : Writer) (expiresAt : Instant) :
    Namespace :=
  { ((s.live? now c).getD { expiresAt }).write contactId writer now us with expiresAt }

theorem set_eq {contactId : String} {us : List Update} {writer : Writer} {expiresAt : Instant}
    (h : now.add? s.ttl = some expiresAt) :
    s.set now c contactId us writer =
      ({ s.evict now c with
          namespaces := (s.evict now c).namespaces.insert c
            (s.writtenTo now c contactId us writer expiresAt) },
        some us.length) := by
  -- dropping what has expired makes no difference once its place is taken
  have hput (n : Namespace) :
    ({ s.evict now c with namespaces := (s.evict now c).namespaces.insert c n } : Store) =
      { s with namespaces := s.namespaces.insert c n } := by
    have hinsert : (s.evict now c).namespaces.insert c n = s.namespaces.insert c n := by
      ext1 k
      simp only [Dict.get?_insert, get?_evict]
      split <;> rfl
    simp only [hinsert, evict_ttl]
  rw [hput]
  unfold set writtenTo
  cases hl : s.live? now c with
  | some n => simp [h]
  | none =>
    have hsame :
        ({ ({ expiresAt } : Namespace).write contactId writer now us with expiresAt } : Namespace) =
        ({ expiresAt } : Namespace).write contactId writer now us := by
      cases writer <;> rfl
    simp only [h, Option.getD_none, hsame]

/-- The bucket of the writer has been written to, the other is as it was. -/
theorem bucket_writtenTo (contactId : String) (us : List Update) (writer : Writer)
    (expiresAt : Instant) (source : Source) :
    (s.writtenTo now c contactId us writer expiresAt).bucket source =
      if source = writer.source
        then (s.getBucket now c writer.source).writeAll contactId writer now us
      else s.getBucket now c source := by
  have hgetD (source : Source) :
      ((s.live? now c).getD { expiresAt }).bucket source = s.getBucket now c source := by
    unfold getBucket
    cases s.live? now c with
    | none => cases source <;> rfl
    | some n => rfl
  have hexpiry (n : Namespace) :
      ({ n with expiresAt } : Namespace).bucket source = n.bucket source := by
    cases source <;> rfl
  rw [writtenTo, hexpiry, Namespace.write, Namespace.bucket_setBucket, hgetD, hgetD]

end Store
end Dialogue.Memory
