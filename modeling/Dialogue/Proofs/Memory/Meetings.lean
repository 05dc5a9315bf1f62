import Dialogue.Proofs.Memory.LastWrites

/-! # Calls on one conversation that meet

    Any number of reads, writes and purges are under way at once, each at its own stage, and take
    turns at the locks of the store in any order, while the clock goes on (`Desk.take`). Writes and
    purges read the clock as they start, a read at any time between its look-up and its judgement.
    What a step can do to the namespaces is summed up once (`Shelf.Effect`). Every state of every
    run is sound (`Desk.Sound.after`): each bucket holds what has been written to its namespace, in
    the order of the turns, and each call has written to the one namespace it got. -/

namespace Dialogue.Memory

open Time

/-! ### Turns -/

/-- A call that has been started. -/
structure InFlight where
  call : Call
  stage : Stage := .begun
  /-- The clock as the call has read it, when it looked its namespace up or since. -/
  lookedAt : Instant
  /-- The namespace it has written to. -/
  wrote : Option Nat := none

/-- The call has written its updates to the namespace. -/
structure Entry where
  call : Nat
  space : Nat
  write : Write

/-- How the store and the calls on a conversation stand. -/
structure Desk where
  shelf : Shelf
  clock : Instant
  /-- Every call there has been, by number. -/
  calls : List InFlight := []
  /-- What has been written, in order. -/
  log : List Entry := []

/-- What can be asked, apart from dropping the namespace on purpose. -/
inductive Ask where
  | read (access : Access)
  | set (contactId : String) (updates : List Update) (writer : Writer)
  | purge

/-- Writes and purges read the clock as they start. -/
def Ask.call (now : Instant) : Ask → Call
  | .read access => .read access
  | .set contactId updates writer => .set { startedAt := now, contactId, updates, writer }
  | .purge => .purge now

/-- What happens next: a call begins, one of the calls goes on, or the clock moves. -/
inductive Turn where
  | start (ask : Ask)
  /-- A call takes its next step. -/
  | step (i : Nat)
  /-- A read that has found a namespace reads the clock, to judge it by. -/
  | look (i : Nat)
  | tick (now : Instant)

/-- The call has not done anything yet. -/
def Stage.isBegun : Stage → Bool
  | .begun => true
  | _ => false

/-- The call has looked its namespace up, and has not judged it. -/
def Stage.isFound : Stage → Bool
  | .found _ => true
  | _ => false

namespace InFlight

/-- What the next step of the call number `i` writes. -/
def writes (x : InFlight) (i : Nat) : List Entry :=
  match x.call, x.stage with
  | .set w, .acquired n => [⟨i, n, w⟩]
  | _, _ => []

/-- The call after a step to the stage. -/
def moved (x : InFlight) (stage : Stage) (now : Instant) : InFlight :=
  { x with
    stage
    lookedAt := if x.stage.isBegun then now else x.lookedAt
    wrote := ((x.writes 0).head?.map (·.space)).or x.wrote }

/-- The call notes when it looked at the clock. -/
def looked (x : InFlight) (now : Instant) : InFlight :=
  if x.stage.isFound then { x with lookedAt := now } else x

end InFlight

namespace Desk

variable (c : String)

/-- The call has moved to the stage and has left the shelf so. -/
def moved (d : Desk) (i : Nat) (x : InFlight) (shelf : Shelf) (stage : Stage) : Desk :=
  { d with shelf, calls := d.calls.set i (x.moved stage d.clock), log := d.log ++ x.writes i }

/-- The call with the number goes on. -/
def stepAt (d : Desk) (i : Nat) (x : InFlight) : Desk :=
  d.moved i x (d.shelf.step c x.lookedAt x.call x.stage).1
    (d.shelf.step c x.lookedAt x.call x.stage).2

/-- The clock never goes back. -/
def take (d : Desk) : Turn → Desk
  | .start ask => { d with calls := d.calls ++ [{ call := ask.call d.clock, lookedAt := d.clock }] }
  | .step i => (d.calls[i]?.map (d.stepAt c i)).getD d
  | .look i => { d with calls := d.calls.modify i (·.looked d.clock) }
  | .tick now => if d.clock.rank ≤ now.rank then { d with clock := now } else d

/-- The desk after the turns. -/
def after (d : Desk) (ts : List Turn) : Desk := ts.foldl (·.take c) d

/-- No call has been started yet. -/
def opened (ttl : Int) (now : Instant) : Desk := { shelf := { ttl }, clock := now }

/-- The state after the turns, from a store without namespaces. -/
def run (ttl : Int) (now : Instant) (ts : List Turn) : Desk := (opened ttl now).after c ts

theorem after_append (d : Desk) (ts ts' : List Turn) :
    d.after c (ts ++ ts') = (d.after c ts).after c ts' := by
  simp [after]

theorem after_concat (d : Desk) (ts : List Turn) (turn : Turn) :
    d.after c (ts ++ [turn]) = (d.after c ts).take c turn := by
  simp [after]

end Desk

/-! ### What a step can do -/

theorem getElem?_concat {α : Type} {l : List α} {a b : α} {n : Nat} (h : (l ++ [a])[n]? = some b) :
    l[n]? = some b ∨ n = l.length ∧ b = a := by
  rw [List.getElem?_append] at h
  split at h
  · exact .inl h
  · rw [List.getElem?_singleton, Option.ite_none_right_eq_some] at h
    exact .inr ⟨by omega, (Option.some.inj h.2).symm⟩

namespace Stage

/-- The namespace that a call at the stage holds. -/
def space? : Stage → Option Nat
  | .begun | .answered _ => none
  | .found n | .live n | .half n _ | .expired n | .acquired n | .written n => some n

/-- A read can be at the stage. -/
def OfRead : Stage → Prop
  | .acquired _ | .written _ => False
  | _ => True

end Stage

namespace Shelf

/-- All that a step of a call that holds a namespace of the shelf can do. -/
inductive Effect (s : Shelf) (c : String) (now : Instant) : Call → Stage → Shelf → Stage → Prop
  | reads {access : Access} {stage stage' : Stage}
      (hspared : ∀ n, stage = .expired n → s.table.get? c ≠ some n)
      (hread : stage'.OfRead) (hspace : ∀ n ∈ stage'.space?, n < s.spaces.length)
      (hexpired : ∀ n, stage' = .expired n → ∃ x, s.spaces[n]? = some x ∧ x.isExpired now) :
      Effect s c now (.read access) stage s stage'
  | evicts {access : Access} {n : Nat} (hn : s.table.get? c = some n) :
      Effect s c now (.read access) (.expired n)
      { s with table := s.table.erase c } (.answered access.absent)
  | reuses {w : Write} {n : Nat} {x : Namespace} (hn : s.table.get? c = some n)
      (hx : s.spaces[n]? = some x)
      (hlive : x.isExpired w.startedAt = false) : Effect s c now (.set w) .begun s (.acquired n)
  | creates {w : Write} {expiresAt : Instant}
      (hexpired : ∀ n x, s.table.get? c = some n → s.spaces[n]? = some x → x.isExpired w.startedAt)
      (hw : w.startedAt.add? s.ttl = some expiresAt) : Effect s c now (.set w) .begun
        { s with spaces := s.spaces ++ [{ expiresAt }], table := s.table.insert c s.spaces.length }
        (.acquired s.spaces.length)
  | writes {w : Write} {n : Nat} {x : Namespace} (hx : s.spaces[n]? = some x) :
      Effect s c now (.set w) (.acquired n)
      (s.putSpace n (x.write w.contactId w.writer w.startedAt w.updates)) (.written n)
  | refreshes {w : Write} {n : Nat} {x : Namespace} {expiresAt : Instant}
      (hx : s.spaces[n]? = some x)
      (hw : w.startedAt.add? s.ttl = some expiresAt) : Effect s c now (.set w) (.written n)
        (s.putSpace n { x with expiresAt }) (.answered (.count w.updates.length))
  | fails {w : Write} {stage : Stage} (hstage : stage = .begun ∨ ∃ n, stage = .written n)
      (hw : w.startedAt.add? s.ttl = none) :
      Effect s c now (.set w) stage s (.answered .beyondCalendar)
  | purges {startedAt : Instant} : Effect s c now (.purge startedAt) .begun (s.purge startedAt).1
      (.answered (.count (s.purge startedAt).2))
  | idle {call : Call} {stage : Stage} (hread : ∀ access, call ≠ .read access)
      (hset : ∀ w n, call = .set w → stage ≠ .acquired n)
      (hend : ∀ w n, call = .set w → stage ≠ .written n) :
      Effect s c now call stage s stage

variable {s : Shelf} {c : String} {now : Instant} {call : Call} {stage : Stage}

/-- A read that answers and does not evict leaves everything as it is. -/
theorem effect_answer {access : Access} {a : Answer}
    (hspared : ∀ n, stage = .expired n → s.table.get? c ≠ some n) :
    Effect s c now (.read access) stage s (.answered a) :=
  .reads hspared trivial (by rintro _ ⟨⟩) (by rintro _ ⟨⟩)

theorem effect_read {access : Access} (htable : ∀ n, s.table.get? c = some n → n < s.spaces.length)
    (hspace : ∀ n ∈ stage.space?, n < s.spaces.length) (hread : stage.OfRead) :
    Effect s c now (.read access) stage (s.stepRead c now access stage).1
        (s.stepRead c now access stage).2 := by
  cases stage with
  -- the steps of a read in their order: looking up, judging, evicting, reading one bucket or both
  | begun =>
    simp only [stepRead]
    split
    · rename_i n hn
      exact .reads (by simp) trivial (by rintro _ ⟨⟩; exact htable n hn) (by simp)
    · exact effect_answer (by simp)
  | found n =>
    simp only [stepRead]
    split
    · rename_i x hx
      split
      · rename_i hexpired
        exact .reads (by simp) trivial hspace (by rintro _ ⟨⟩; exact ⟨x, hx, hexpired⟩)
      · split
        · exact effect_answer (by simp)
        · exact .reads (by simp) trivial hspace (by simp)
    · exact effect_answer (by simp)
  | expired n =>
    simp only [stepRead]
    split
    · rename_i hn
      exact .evicts hn
    · rename_i hn
      exact effect_answer (by rintro _ ⟨⟩; exact hn)
  | live n =>
    simp only [stepRead]
    split
    · exact effect_answer (by simp)
    · exact .reads (by simp) trivial hspace (by simp)
    · exact effect_answer (by simp)
  | half n tools => exact effect_answer (by simp)
  | answered a => exact effect_answer (by simp)
  -- writes have these stages, reads never
  | acquired n => exact hread.elim
  | written n => exact hread.elim

theorem effect_set {w : Write} (htable : ∀ n, s.table.get? c = some n → n < s.spaces.length)
    (hspace : ∀ n ∈ stage.space?, n < s.spaces.length) :
    Effect s c now (.set w) stage (s.stepSet c w stage).1 (s.stepSet c w stage).2 := by
  cases stage with
  | begun =>
    simp only [stepSet, acquire]
    split
    -- the namespace that is in use is live
    · rename_i n hn
      obtain ⟨hget, hlive⟩ := Option.filter_eq_some_iff.1 hn
      have hx := List.getElem?_eq_getElem (htable n hget)
      simp only [space?, hx, Option.any_some, Bool.not_eq_true'] at hlive
      exact .reuses hget hx hlive
    -- there is none, or it has expired: a new one needs an expiry
    · rename_i hnone
      split
      · rename_i hw
        exact .fails (.inl rfl) hw
      · rename_i expiresAt hw
        refine .creates ?_ hw
        intro n x hn hx
        simpa [space?, hn, hx, Option.filter] using hnone
  | acquired n =>
    have hx := List.getElem?_eq_getElem (hspace n rfl)
    simp only [stepSet, space?, hx]
    exact .writes hx
  | written n =>
    have hx := List.getElem?_eq_getElem (hspace n rfl)
    simp only [stepSet, space?, hx]
    cases hw : w.startedAt.add? s.ttl with
    | some expiresAt => exact .refreshes hx hw
    | none => exact .fails (.inr ⟨n, rfl⟩) hw
  | found n => exact .idle (by simp) (by simp) (by simp)
  | live n => exact .idle (by simp) (by simp) (by simp)
  | half n tools => exact .idle (by simp) (by simp) (by simp)
  | expired n => exact .idle (by simp) (by simp) (by simp)
  | answered a => exact .idle (by simp) (by simp) (by simp)

theorem effect_step (htable : ∀ n, s.table.get? c = some n → n < s.spaces.length)
    (hspace : ∀ n ∈ stage.space?, n < s.spaces.length)
    (hread : ∀ access, call = .read access → stage.OfRead) (hdelete : call ≠ .delete) :
    Effect s c now call stage (s.step c now call stage).1 (s.step c now call stage).2 := by
  cases call with
  | read access => exact effect_read htable hspace (hread access rfl)
  | set w => exact effect_set htable hspace
  | delete => exact (hdelete rfl).elim
  | purge startedAt =>
    cases stage with
    | begun => exact .purges
    | _ => exact .idle (by simp) (by simp) (by simp)

theorem spaces_putSpace {m : Nat} {x : Namespace} (hm : s.spaces[m]? = some x) (y : Namespace)
    (n : Nat) :
    (s.putSpace m y).spaces[n]? = if m = n then some y else s.spaces[n]? := by
  rw [putSpace, List.getElem?_set, if_pos (List.getElem?_eq_some_iff.1 hm).1]

variable {s' : Shelf} {stage' : Stage}

namespace Effect

theorem ttl (h : Effect s c now call stage s' stage') : s'.ttl = s.ttl := by cases h <;> rfl

theorem spaces_le (h : Effect s c now call stage s' stage') :
    s.spaces.length ≤ s'.spaces.length := by
  cases h <;> simp [putSpace, purge]

theorem table (h : Effect s c now call stage s' stage')
    (htable : ∀ n, s.table.get? c = some n → n < s.spaces.length) :
    ∀ n, s'.table.get? c = some n → n < s'.spaces.length := by
  cases h with
  | creates =>
    intro n hn
    rw [Dict.get?_insert, if_pos rfl, Option.some.injEq] at hn
    rw [List.length_append, ← hn]
    exact Nat.lt_succ_self _
  | evicts =>
    intro n hn
    rw [Dict.get?_erase, if_pos rfl] at hn
    cases hn
  | purges =>
    intro n hn
    rw [purge, Dict.get?_filter] at hn
    exact htable n (Option.filter_eq_some_iff.1 hn).1
  | writes => simpa [putSpace] using htable
  | refreshes => simpa [putSpace] using htable
  | _ => exact htable

/-- The namespace that a call holds afterwards is one of the shelf. -/
theorem space (h : Effect s c now call stage s' stage')
    (htable : ∀ n, s.table.get? c = some n → n < s.spaces.length)
    (hspace : ∀ n ∈ stage.space?, n < s.spaces.length) :
    ∀ n ∈ stage'.space?, n < s'.spaces.length := by
  cases h with
  | reads _ _ hspace' _ => exact hspace'
  | reuses hn =>
    rintro _ ⟨⟩
    exact htable _ hn
  | creates => simp [Stage.space?]
  | writes => simpa [putSpace, Stage.space?] using hspace
  | idle => exact hspace
  | _ => simp [Stage.space?]

end Effect
end Shelf

/-! ### Sound states -/

/-- What has been written to the namespace, in order. -/
def writesTo (n : Nat) (log : List Entry) : List Write := (log.filter (·.space = n)).map (·.write)

/-- The stage of the call number `i` agrees with what it has written. -/
structure InFlight.Fits (x : InFlight) (i : Nat) (d : Desk) : Prop where
  asked : x.call ≠ .delete
  looked : x.lookedAt.rank ≤ d.clock.rank
  written : ∀ w, x.call = .set w → w.startedAt.rank ≤ d.clock.rank
  purged : ∀ t, x.call = .purge t → t.rank ≤ d.clock.rank
  space : ∀ n ∈ x.stage.space?, n < d.shelf.spaces.length
  reads : ∀ access, x.call = .read access → x.stage.OfRead
  wrote : ∀ n ∈ x.wrote, n < d.shelf.spaces.length ∧
    (∃ w, x.call = .set w ∧ ⟨i, n, w⟩ ∈ d.log) ∧ (x.stage = .written n ∨ ∃ a, x.stage = .answered a)
  atWritten : ∀ n, x.stage = .written n → x.wrote = some n
  acknowledged : ∀ w k, x.call = .set w → x.stage = .answered (.count k) → x.wrote ≠ none

namespace Desk

/-- What every desk keeps to, whichever calls have met on it. -/
structure Sound (c : String) (d : Desk) : Prop where
  table : ∀ n, d.shelf.table.get? c = some n → n < d.shelf.spaces.length
  fits : ∀ (i : Nat) (x : InFlight), d.calls[i]? = some x → x.Fits i d
  logged : ∀ e ∈ d.log, ∃ x, d.calls[e.call]? = some x ∧ x.call = .set e.write ∧
      x.wrote = some e.space
  buckets : ∀ (n : Nat) (x : Namespace), d.shelf.spaces[n]? = some x →
    ∀ source, x.bucket source = bucketAfter source (writesTo n d.log)

end Desk

namespace InFlight

variable {c : String} {d d' : Desk} {i : Nat} {x : InFlight} {shelf : Shelf} {stage : Stage}

/-- What a call has written stays written as the desk goes on. -/
theorem Fits.still_written (h : x.Fits i d)
    (hspaces : d.shelf.spaces.length ≤ d'.shelf.spaces.length) (hlog : ∀ e ∈ d.log, e ∈ d'.log)
    {n : Nat} (hn : n ∈ x.wrote) :
    n < d'.shelf.spaces.length ∧ ∃ w, x.call = .set w ∧ ⟨i, n, w⟩ ∈ d'.log := by
  obtain ⟨hlt, ⟨w, hw, hmem⟩, -⟩ := h.wrote n hn
  exact ⟨hlt.trans_le hspaces, w, hw, hlog _ hmem⟩

theorem Fits.mono (h : x.Fits i d) (hclock : d.clock.rank ≤ d'.clock.rank)
    (hspaces : d.shelf.spaces.length ≤ d'.shelf.spaces.length) (hlog : ∀ e ∈ d.log, e ∈ d'.log) :
    x.Fits i d' where
  asked := h.asked
  looked := h.looked.trans hclock
  written w hw := (h.written w hw).trans hclock
  purged t ht := (h.purged t ht).trans hclock
  space n hn := (h.space n hn).trans_le hspaces
  reads := h.reads
  wrote n hn := by
    obtain ⟨hlt, hmem⟩ := h.still_written hspaces hlog hn
    exact ⟨hlt, hmem, (h.wrote n hn).2.2⟩
  atWritten := h.atWritten
  acknowledged := h.acknowledged

theorem looked_cases (x : InFlight) (now : Instant) :
    x.looked now = x ∨ x.stage.isFound ∧ x.looked now = { x with lookedAt := now } := by
  unfold looked
  split
  · rename_i hfound
    exact .inr ⟨hfound, rfl⟩
  · exact .inl rfl

theorem looked_call (x : InFlight) (now : Instant) : (x.looked now).call = x.call := by
  rcases x.looked_cases now with h | ⟨-, h⟩ <;> rw [h]

theorem looked_stage (x : InFlight) (now : Instant) : (x.looked now).stage = x.stage := by
  rcases x.looked_cases now with h | ⟨-, h⟩ <;> rw [h]

theorem looked_wrote (x : InFlight) (now : Instant) : (x.looked now).wrote = x.wrote := by
  rcases x.looked_cases now with h | ⟨-, h⟩ <;> rw [h]

theorem Fits.looking (h : x.Fits i d) : Fits { x with lookedAt := d.clock } i d :=
  ⟨h.asked, le_rfl, h.written, h.purged, h.space, h.reads, h.wrote, h.atWritten, h.acknowledged⟩

/-- A call that is not about to write keeps the namespace it has written to. -/
theorem writes_eq_nil (h : ∀ w n, x.call = .set w → x.stage ≠ .acquired n) (i : Nat) :
    x.writes i = [] := by
  unfold writes
  split
  · rename_i w n hcall hstage
    exact (h w n hcall hstage).elim
  · rfl

theorem moved_wrote (h : ∀ w n, x.call = .set w → x.stage ≠ .acquired n) (stage : Stage)
    (now : Instant) :
    (x.moved stage now).wrote = x.wrote := by
  simp [moved, writes_eq_nil h]

theorem moved_looked (h : x.Fits i d) (stage : Stage) :
    (x.moved stage d.clock).lookedAt.rank ≤ d.clock.rank := by
  simp only [moved]
  split
  · exact le_rfl
  · exact h.looked

/-- Only a write that has come so far has written. -/
theorem Fits.wrote_eq_none (h : x.Fits i d)
    (hx : (∀ w, x.call ≠ .set w) ∨ ∀ n, x.stage ≠ .written n ∧ ∀ a, x.stage ≠ .answered a) :
    x.wrote = none := by
  refine Option.eq_none_iff_forall_not_mem.2 ?_
  intro n hn
  obtain ⟨-, ⟨w, hw, -⟩, hstage⟩ := h.wrote n hn
  rcases hx with hcall | hearly
  · exact hcall w hw
  · rcases hstage with hwritten | ⟨a, ha⟩
    · exact (hearly n).1 hwritten
    · exact (hearly n).2 a ha

/-- A call that has written nothing so far, and has not been acknowledged as a write, fits. -/
theorem Fits.unwritten (hasked : x.call ≠ .delete) (hlooked : x.lookedAt.rank ≤ d.clock.rank)
    (hwritten : ∀ w, x.call = .set w → w.startedAt.rank ≤ d.clock.rank)
    (hpurged : ∀ t, x.call = .purge t → t.rank ≤ d.clock.rank)
    (hspace : ∀ n ∈ x.stage.space?, n < d.shelf.spaces.length)
    (hreads : ∀ access, x.call = .read access → x.stage.OfRead) (hnone : x.wrote = none)
    (hstage : ∀ n, x.stage ≠ .written n)
    (hcount : ∀ w k, x.call = .set w → x.stage ≠ .answered (.count k)) :
    x.Fits i d :=
  ⟨hasked, hlooked, hwritten, hpurged, hspace, hreads, by simp [hnone],
    fun n hn => (hstage n hn).elim,
    fun w k hw hk => (hcount w k hw hk).elim⟩

theorem Fits.started (ask : Ask) (now : Instant) (hnow : now.rank ≤ d.clock.rank) :
    Fits { call := ask.call now, lookedAt := now } i d := by
  have hasked : ask.call now ≠ .delete := by cases ask <;> simp [Ask.call]
  refine .unwritten hasked hnow ?_ ?_ (by simp [Stage.space?]) (fun _ _ => trivial) rfl (by simp)
    (by simp)
  · intro w hw
    cases ask <;> cases hw
    exact hnow
  · intro t ht
    cases ask <;> cases ht
    exact hnow

theorem Fits.moved (h : x.Fits i d)
    (htable : ∀ n, d.shelf.table.get? c = some n → n < d.shelf.spaces.length)
    (he : d.shelf.Effect c x.lookedAt x.call x.stage shelf stage) :
    (x.moved stage d.clock).Fits i (d.moved i x shelf stage) := by
  have hspace := he.space htable h.space
  have hle := he.spaces_le
  have hnone := h.wrote_eq_none
  have hlooked := moved_looked h stage
  have hstays {n : Nat} (hn : n ∈ x.wrote) : n < (d.moved i x shelf stage).shelf.spaces.length ∧
      ∃ w, x.call = .set w ∧ ⟨i, n, w⟩ ∈ (d.moved i x shelf stage).log :=
    h.still_written hle (fun _ => List.mem_append_left _) hn
  obtain ⟨hasked, -, hwritten, hpurged, -, hreads, hwrote, hatWritten, hacknowledged⟩ := id h
  obtain ⟨call, before, lookedAt, wrote⟩ := x
  -- up to the step that writes nothing has been written, and from then on nothing else is
  cases he with
  | reads _ hread =>
    refine .unwritten hasked hlooked hwritten hpurged hspace (fun _ _ => hread)
      (hnone (.inl (by simp))) ?_
      (by simp [InFlight.moved])
    rintro n rfl
    exact hread
  | evicts | purges =>
    exact .unwritten hasked hlooked hwritten hpurged hspace (fun _ _ => trivial)
      (hnone (.inl (by simp)))
      (by simp [InFlight.moved]) (by simp [InFlight.moved])
  | reuses | creates =>
    exact .unwritten hasked hlooked hwritten hpurged hspace (by simp [InFlight.moved])
      (hnone (.inr (by simp)))
      (by simp [InFlight.moved]) (by simp [InFlight.moved])
  | @writes w m =>
    refine ⟨hasked, hlooked, hwritten, hpurged, hspace, by simp [InFlight.moved], ?_, ?_, ?_⟩
    · rintro n ⟨⟩
      refine ⟨hspace m rfl, ⟨w, rfl, ?_⟩, .inl rfl⟩
      simp [Desk.moved, InFlight.writes]
    · rintro n ⟨⟩
      rfl
    · rintro _ k - ⟨⟩
  | @refreshes w m =>
    refine ⟨hasked, hlooked, hwritten, hpurged, hspace, by simp [InFlight.moved],
      ?_, by simp [InFlight.moved], ?_⟩
    · intro n hn
      obtain ⟨hlt, hmem⟩ := hstays hn
      exact ⟨hlt, hmem, .inr ⟨_, rfl⟩⟩
    · intro w' k _ _
      simp [InFlight.moved, InFlight.writes, hatWritten m rfl]
  | @fails w before hbefore =>
    have hwrote' :=
      moved_wrote (x := ⟨.set w, before, lookedAt, wrote⟩) (by rintro _ n - rfl; simp at hbefore)
      (.answered .beyondCalendar) d.clock
    refine ⟨hasked, hlooked, hwritten, hpurged, hspace, by simp [InFlight.moved],
      ?_, by simp [InFlight.moved], by simp [InFlight.moved]⟩
    intro n hn
    rw [hwrote'] at hn
    obtain ⟨hlt, hmem⟩ := hstays hn
    exact ⟨hlt, hmem, .inr ⟨_, rfl⟩⟩
  | idle _ hset =>
    have hwrote' := moved_wrote (x := ⟨call, before, lookedAt, wrote⟩) hset before d.clock
    refine ⟨hasked, hlooked, hwritten, hpurged, hspace, hreads, ?_, ?_, ?_⟩
    · rw [hwrote']
      intro n hn
      obtain ⟨hlt, hmem⟩ := hstays hn
      exact ⟨hlt, hmem, (hwrote n hn).2.2⟩
    · rw [hwrote']
      exact hatWritten
    · rw [hwrote']
      exact hacknowledged

theorem mem_writes {e : Entry} :
    e ∈ x.writes i ↔ ∃ w n, x.call = .set w ∧ x.stage = .acquired n ∧ e = ⟨i, n, w⟩ := by
  unfold writes
  split
  · rename_i w n hcall hstage
    simp [hcall, hstage]
  · rename_i hnone
    constructor
    · rintro ⟨⟩
    · rintro ⟨w, n, hcall, hstage, -⟩
      exact (hnone w n hcall hstage).elim

/-- What a call has written to it has acquired before. -/
theorem of_moved_wrote {n : Nat} {now : Instant} (h : (x.moved stage now).wrote = some n) :
    x.stage = .acquired n ∨ x.wrote = some n := by
  simp only [moved, writes] at h
  split at h
  · rename_i w m hcall hstage
    cases h
    exact .inl hstage
  · exact .inr h

/-- No call writes twice. -/
theorem Fits.moved_wrote (h : x.Fits i d) {n : Nat} (hn : x.wrote = some n) (stage : Stage)
    (now : Instant) :
    (x.moved stage now).wrote = some n := by
  rw [InFlight.moved_wrote ?_, hn]
  intro w m hcall hstage
  have hnone := h.wrote_eq_none (.inr (by simp [hstage]))
  rw [hn] at hnone
  cases hnone

end InFlight

/-! ### Every state is sound -/

theorem writesTo_append (n : Nat) (log log' : List Entry) :
    writesTo n (log ++ log') = writesTo n log ++ writesTo n log' := by
  simp [writesTo, List.filter_append]

theorem Namespace.bucket_write (x : Namespace) (w : Write) (source : Source) :
    (x.write w.contactId w.writer w.startedAt w.updates).bucket source =
      if source = w.writer.source
        then (x.bucket w.writer.source).writeAll w.contactId w.writer w.startedAt w.updates
      else x.bucket source := by
  rw [Namespace.write, Namespace.bucket_setBucket]

namespace Desk

variable {c : String} {d : Desk} {i : Nat} {x : InFlight} {shelf : Shelf} {stage : Stage}

theorem sound_opened (c : String) (ttl : Int) (now : Instant) : (opened ttl now).Sound c where
  table := by rintro n ⟨⟩
  fits := by rintro i x ⟨⟩
  logged := by rintro e ⟨⟩
  buckets := by rintro n x ⟨⟩

theorem calls_moved (hx : d.calls[i]? = some x) (shelf : Shelf) (stage : Stage) (j : Nat) :
    (d.moved i x shelf stage).calls[j]? = if i = j then some (x.moved stage d.clock)
      else d.calls[j]? := by
  rw [moved, List.getElem?_set, if_pos (List.getElem?_eq_some_iff.1 hx).1]

/-- A call that has been started is the last one, and has not taken a step. -/
theorem calls_start {ask : Ask} (hx : (d.take c (.start ask)).calls[i]? = some x) :
    d.calls[i]? = some x ∨ x = { call := ask.call d.clock, lookedAt := d.clock } := by
  rcases getElem?_concat hx with hold | ⟨-, hnew⟩
  · exact .inl hold
  · exact .inr hnew

theorem calls_before_start (hx : d.calls[i]? = some x) (ask : Ask) :
    (d.take c (.start ask)).calls[i]? = some x := by
  rw [take, List.getElem?_append_left (List.getElem?_eq_some_iff.1 hx).1, hx]

/-- Where a call reads the clock, nothing else changes. -/
theorem calls_look {j : Nat} (hx : (d.take c (.look i)).calls[j]? = some x) :
    ∃ y, d.calls[j]? = some y ∧ (x = y ∨ y.stage.isFound ∧ x = { y with lookedAt := d.clock }) := by
  rw [take, List.getElem?_modify] at hx
  obtain ⟨y, hy, rfl⟩ := Option.map_eq_some_iff.1 hx
  refine ⟨y, hy, ?_⟩
  split
  · exact InFlight.looked_cases y d.clock
  · exact .inl rfl

theorem calls_after_look {j : Nat} (hx : (d.take c (.look i)).calls[j]? = some x) :
    ∃ y, d.calls[j]? = some y ∧ y.call = x.call ∧ y.stage = x.stage ∧ y.wrote = x.wrote := by
  obtain ⟨y, hy, rfl | ⟨-, rfl⟩⟩ := calls_look hx <;> exact ⟨_, hy, rfl, rfl, rfl⟩

theorem calls_before_look {j : Nat} (hx : d.calls[j]? = some x) (i : Nat) :
    ∃ y, (d.take c (.look i)).calls[j]? = some y ∧ y.call = x.call ∧ y.stage = x.stage ∧
      y.wrote = x.wrote := by
  rw [take, List.getElem?_modify, hx]
  refine ⟨_, rfl, ?_⟩
  split
  · exact ⟨x.looked_call d.clock, x.looked_stage d.clock, x.looked_wrote d.clock⟩
  · exact ⟨rfl, rfl, rfl⟩

/-- A call that is there takes a step. -/
theorem take_stepAt (hx : d.calls[i]? = some x) : d.take c (.step i) = d.stepAt c i x := by
  rw [take, hx]
  rfl

namespace Sound

theorem effect (h : d.Sound c) (hx : d.calls[i]? = some x) :
    d.shelf.Effect c x.lookedAt x.call x.stage
    (d.shelf.step c x.lookedAt x.call x.stage).1 (d.shelf.step c x.lookedAt x.call x.stage).2 :=
  have hfits := h.fits i x hx
  Shelf.effect_step h.table hfits.space hfits.reads hfits.asked

/-- Nothing has been written to a namespace that is not there yet. -/
theorem writesTo_new (h : d.Sound c) {n : Nat} (hn : d.shelf.spaces.length ≤ n) :
    writesTo n d.log = [] := by
  rw [writesTo, List.map_eq_nil_iff, List.filter_eq_nil_iff]
  intro e he heq
  obtain ⟨x, hx, -, hwrote⟩ := h.logged e he
  have hlt := ((h.fits _ x hx).wrote _ hwrote).1
  have hspace : e.space = n := by simpa using heq
  omega

theorem buckets_moved (h : d.Sound c) (hx : d.calls[i]? = some x)
    (he : d.shelf.Effect c x.lookedAt x.call x.stage shelf stage) {n : Nat} {y : Namespace}
    (hy : shelf.spaces[n]? = some y) (source : Source) : y.bucket source =
      bucketAfter source (writesTo n (d.log ++ x.writes i)) := by
  have hbuckets := h.buckets
  -- nothing is logged but by a write that has its namespace
  have hunread (hset : ∀ w m, x.call = .set w → x.stage ≠ .acquired m) :
      d.log ++ x.writes i = d.log := by
    rw [InFlight.writes_eq_nil hset, List.append_nil]
  obtain ⟨call, before, lookedAt, wrote⟩ := x
  cases he with
  | creates =>
    rw [hunread (by simp)]
    rcases getElem?_concat hy with hold | ⟨rfl, rfl⟩
    · exact hbuckets n y hold source
    -- the new namespace is empty, and no entry is about it
    · rw [h.writesTo_new le_rfl]
      cases source <;> rfl
  -- the bucket and the log get the same write
  | @writes w m ns hm =>
    have hlog : writesTo n (d.log ++ InFlight.writes ⟨.set w, .acquired m, lookedAt, wrote⟩ i) =
        writesTo n d.log ++ if m = n then [w] else [] := by
      rw [writesTo_append]
      by_cases hmn : m = n <;> simp [writesTo, InFlight.writes, hmn]
    rw [hlog]
    rw [Shelf.spaces_putSpace hm] at hy
    split at hy
    · rename_i hmn
      subst hmn
      cases hy
      rw [if_pos rfl, bucketAfter_concat, Namespace.bucket_write, hbuckets m ns hm,
        hbuckets m ns hm]
    · rename_i hmn
      rw [if_neg hmn, List.append_nil]
      exact hbuckets n y hy source
  -- only the expiry moves
  | @refreshes w m ns expiresAt hm =>
    rw [hunread (by simp)]
    rw [Shelf.spaces_putSpace hm] at hy
    split at hy
    · rename_i hmn
      subst hmn
      cases hy
      rw [← hbuckets m ns hm source]
      cases source <;> rfl
    · exact hbuckets n y hy source
  | idle _ hset => rw [hunread hset]; exact hbuckets n y hy source
  | fails hbefore =>
    rw [hunread (by rintro _ m - rfl; simp at hbefore)]
    exact hbuckets n y hy source
  | _ => rw [hunread (by simp)]; exact hbuckets n y hy source

theorem moved (h : d.Sound c) (hx : d.calls[i]? = some x)
    (he : d.shelf.Effect c x.lookedAt x.call x.stage shelf stage) :
    (d.moved i x shelf stage).Sound c where
  table := he.table h.table
  fits j y hy := by
    rw [calls_moved hx] at hy
    split at hy
    · rename_i hij
      cases hy
      exact hij ▸ (h.fits i x hx).moved h.table he
    · exact (h.fits j y hy).mono le_rfl he.spaces_le fun e he => List.mem_append_left _ he
  logged e hmem := by
    simp only [calls_moved hx]
    rcases List.mem_append.1 hmem with hold | hnew
    · obtain ⟨y, hy, hcall, hwrote⟩ := h.logged e hold
      split
      · rename_i hij
        subst hij
        rw [hx] at hy
        cases hy
        exact ⟨_, rfl, hcall, (h.fits _ x hx).moved_wrote hwrote stage d.clock⟩
      · exact ⟨y, hy, hcall, hwrote⟩
    -- the new entry is that of the call that has moved
    · obtain ⟨w, n, hcall, hstage, rfl⟩ := InFlight.mem_writes.1 hnew
      refine ⟨x.moved stage d.clock, if_pos rfl, hcall, ?_⟩
      simp [InFlight.moved, InFlight.writes, hcall, hstage]
  buckets n y hy source := h.buckets_moved hx he hy source

theorem take_step (h : d.Sound c) (hx : d.calls[i]? = some x) :
    ∃ shelf stage,
    d.shelf.Effect c x.lookedAt x.call x.stage shelf stage ∧
      d.take c (.step i) = d.moved i x shelf stage :=
  ⟨_, _, h.effect hx, take_stepAt hx⟩

theorem take (h : d.Sound c) (turn : Turn) : (d.take c turn).Sound c := by
  cases turn with
  -- a new call has done nothing yet
  | start ask =>
    refine ⟨h.table, ?_, ?_, h.buckets⟩
    · intro i x hx
      rcases calls_start hx with hold | rfl
      · exact (h.fits i x hold).mono le_rfl le_rfl fun _ he => he
      · exact .started ask d.clock le_rfl
    · intro e he
      obtain ⟨x, hx, hcall, hwrote⟩ := h.logged e he
      exact ⟨x, calls_before_start hx ask, hcall, hwrote⟩
  | step i =>
    cases hx : d.calls[i]? with
    | none =>
      rw [Desk.take, hx]
      exact h
    | some x =>
      obtain ⟨shelf, stage, he, htake⟩ := h.take_step hx
      exact htake ▸ h.moved hx he
  | look i =>
    refine ⟨h.table, ?_, ?_, h.buckets⟩
    · intro j x hx
      obtain ⟨y, hy, rfl | ⟨-, rfl⟩⟩ := calls_look hx
      · exact (h.fits j _ hy).mono le_rfl le_rfl fun _ he => he
      · exact (h.fits j y hy).looking.mono le_rfl le_rfl fun _ he => he
    · intro e he
      obtain ⟨x, hx, hcall, hwrote⟩ := h.logged e he
      obtain ⟨y, hy, hcall', -, hwrote'⟩ := calls_before_look (c := c) hx i
      exact ⟨y, hy, hcall'.trans hcall, hwrote'.trans hwrote⟩
  -- the clock goes on, so what calls have read stays in the past
  | tick now =>
    rw [Desk.take]
    split
    · rename_i hle
      exact ⟨h.table, fun i x hx => (h.fits i x hx).mono hle le_rfl fun _ he => he, h.logged,
        h.buckets⟩
    · exact h

theorem after (h : d.Sound c) (ts : List Turn) : (d.after c ts).Sound c := by
  -- the turns are added at the end, as the desk comes to them
  induction ts using List.reverseRecOn with
  | nil => exact h
  | append_singleton ts turn ih =>
    rw [after_concat]
    exact ih.take turn

theorem run (c : String) (ttl : Int) (now : Instant) (ts : List Turn) :
    (Desk.run c ttl now ts).Sound c :=
  (sound_opened c ttl now).after ts

theorem ttl_take (h : d.Sound c) (turn : Turn) : (d.take c turn).shelf.ttl = d.shelf.ttl := by
  cases turn with
  | start ask => rfl
  | step i =>
    cases hx : d.calls[i]? with
    | none => rw [Desk.take, hx]; rfl
    | some x =>
      obtain ⟨shelf, stage, he, htake⟩ := h.take_step hx
      rw [htake, Desk.moved, he.ttl]
  | look i => rfl
  | tick now =>
    rw [Desk.take]
    split <;> rfl

theorem ttl_after (h : d.Sound c) (ts : List Turn) : (d.after c ts).shelf.ttl = d.shelf.ttl := by
  induction ts using List.reverseRecOn with
  | nil => rfl
  | append_singleton ts turn ih => rw [after_concat, (h.after ts).ttl_take, ih]

end Sound
end Desk
end Dialogue.Memory
