import Dialogue.Proofs.Memory.Kept
import Dialogue.Proofs.Memory.Newest

/-! # Acknowledged writes are read

    A read that is started after a write has been acknowledged, and reads the clock before the write
    expires, finds the namespace of the write in use and unexpired as long as no turn slips; from
    then on it reads that namespace, whatever else happens (`Stage.Serves`). It is answered after
    four steps at most (`answered_after`). Where a turn slips, acknowledged writes are lost
    (`acknowledged_but_gone`). -/

namespace Dialogue.Memory

open Time

/-! ### What reads answer -/

/-- A read of both buckets that is at the stage will show the entry, or has shown it. -/
def Stage.Serves (log : List Entry) (own : Entry) : Stage → Prop
  | .begun => True
  | .found n | .live n => n = own.space
  | .half n tools =>
    n = own.space ∧ ∃ seen, seen <+: log ∧ own ∈ seen ∧ tools = bucketAfter .tools (writesTo n seen)
  | .answered a => ∃ facts, a = .facts facts ∧ Shows facts log own
  | _ => False

theorem Stage.Serves.mono {log log' : List Entry} {own : Entry} {stage : Stage}
    (h : stage.Serves log own) (hlog : log <+: log') : stage.Serves log' own := by
  cases stage with
  | half n tools =>
    obtain ⟨hn, seen, hseen, hown, htools⟩ := h
    exact ⟨hn, seen, hseen.trans hlog, hown, htools⟩
  | answered a =>
    obtain ⟨facts, ha, hshows⟩ := h
    exact ⟨facts, ha, hshows.mono hlog⟩
  | _ => exact h

namespace Desk

variable {c : String} {d : Desk} {i first : Nat} {x : InFlight} {w : Write} {own : Entry}
    {now t : Instant}
  {stage : Stage} {ts : List Turn}

/-- One step of such a read; as it begins, the namespace must be in use, and when it is
    judged, not expired. -/
theorem Sound.serves_step (h : d.Sound c) (hown : own ∈ d.log) (hstage : stage.Serves d.log own)
    (hbegun : stage.isBegun → d.shelf.table.get? c = some own.space)
    (hfound : stage.isFound → ∃ expiresAt, d.shelf.Expires own.space expiresAt ∧
        now.rank < expiresAt.rank) :
    (d.shelf.stepRead c now .merged stage).2.Serves d.log own := by
  obtain ⟨y, hy, -, hwrote⟩ := h.logged own hown
  obtain ⟨x, hx⟩ : ∃ x, d.shelf.spaces[own.space]? = some x :=
    ⟨_, List.getElem?_eq_getElem ((h.fits _ y hy).wrote _ hwrote).1⟩
  cases stage with
  | begun => simp [Shelf.stepRead, hbegun rfl, Stage.Serves]
  | found n =>
    cases hstage
    obtain ⟨expiresAt, ⟨x', hx', rfl⟩, hlive⟩ := hfound rfl
    rw [hx, Option.some.injEq] at hx'
    have hlive' : x.isExpired now = false := by
      simpa [Namespace.isExpired, hx'] using hlive
    simp [Shelf.stepRead, Shelf.space?, hx, hlive', Stage.Serves]
  -- the first bucket is copied as it is now
  | live n =>
    cases hstage
    have htools : x.tools = _ := h.buckets _ x hx .tools
    simp only [Shelf.stepRead, Shelf.space?, hx]
    exact ⟨rfl, d.log, List.prefix_rfl, hown, htools⟩
  -- the second is copied later, and the log has only grown meanwhile
  | half n tools =>
    obtain ⟨rfl, seen, hseen, hmem, rfl⟩ := hstage
    have hextraction : x.extraction = _ := h.buckets _ x hx .extraction
    simp only [Shelf.stepRead, Shelf.space?, hx, Option.map_some, Option.getD_some, hextraction]
    exact ⟨_, rfl, shows_merge hmem hseen⟩
  | answered a => exact hstage
  | expired n => exact hstage.elim
  | acquired n => exact hstage.elim
  | written n => exact hstage.elim

/-- The entry has been acknowledged and expires at `t`; reads that are started from the number
    `first` on and read the clock before `t` serve it. -/
structure Serving (d : Desk) (own : Entry) (t : Instant) (first : Nat) : Prop where
  acknowledged : d.Acknowledged own.call own.write
  due : own.write.startedAt.add? d.shelf.ttl = some t
  logged : own ∈ d.log
  reads : ∀ (j : Nat) (x : InFlight), first ≤ j → d.calls[j]? = some x → x.call = .read .merged →
    x.lookedAt.rank < t.rank → x.stage.Serves d.log own

namespace Serving

theorem start (h : d.Sound c) (hack : d.Acknowledged i w)
    (hw : w.startedAt.add? d.shelf.ttl = some t) :
    ∃ own, own.call = i ∧ own.write = w ∧ d.Serving own t d.calls.length := by
  obtain ⟨x, k, hx, hcall, hstage⟩ := id hack
  have hfits := h.fits i x hx
  obtain ⟨n, hn⟩ := Option.ne_none_iff_exists'.1 (hfits.acknowledged w k hcall hstage)
  obtain ⟨-, ⟨w', hcall', hmem⟩, -⟩ := hfits.wrote n hn
  rw [hcall, Call.set.injEq] at hcall'
  subst hcall'
  refine ⟨⟨i, n, w⟩, rfl, rfl, hack, hw, hmem, ?_⟩
  intro j x hj hx
  rw [List.getElem?_eq_none hj] at hx
  cases hx

theorem kept (hs : d.Serving own t first) (h : d.Sound c) (hall : d.KeepsAll c) :
    (∃ expiresAt, d.shelf.Expires own.space expiresAt ∧ t.rank ≤ expiresAt.rank) ∧
      (d.clock.rank < t.rank → d.shelf.table.get? c = some own.space) := by
  obtain ⟨n, expiresAt, hwrote, hexpires, hle, hin⟩ :=
    hall own.call t ⟨own.write, hs.acknowledged, hs.due⟩
  obtain ⟨x, hx, -, hspace⟩ := h.logged own hs.logged
  obtain rfl := WroteTo.unique ⟨x, hx, hspace⟩ hwrote
  exact ⟨⟨expiresAt, hexpires, hle⟩, hin⟩

theorem moved (hs : d.Serving own t first) (h : d.Sound c) (hall : d.KeepsAll c)
    (hx : d.calls[i]? = some x) :
    (d.stepAt c i x).Serving own t first where
  acknowledged := hs.acknowledged.moved hx (h.effect hx)
  due := by rw [stepAt, Desk.moved, (h.effect hx).ttl, hs.due]
  logged := List.mem_append_left _ hs.logged
  reads j y hj hy hcall hlooked := by
    obtain ⟨⟨expiresAt, hexpires, hle⟩, hin⟩ := hs.kept h hall
    rw [stepAt, calls_moved hx] at hy
    refine Stage.Serves.mono ?_ (List.prefix_append d.log (x.writes i))
    split at hy
    · rename_i hij
      subst hij
      cases hy
      have hread : x.call = .read .merged := hcall
      have hbefore := (h.fits i x hx).looked
      -- the clock it reads as it begins is the one of now
      have hbegun : x.stage.isBegun → d.clock.rank < t.rank := by
        intro hbegun
        simpa [InFlight.moved, hbegun] using hlooked
      have hearlier : x.lookedAt.rank < t.rank := by
        cases hstage : x.stage.isBegun with
        | true => exact hbefore.trans_lt (hbegun hstage)
        | false => simpa [InFlight.moved, hstage] using hlooked
      have hstep :=
        h.serves_step hs.logged (hs.reads i x hj hx hread hearlier) (fun hb => hin (hbegun hb))
        fun _ => ⟨expiresAt, hexpires, hearlier.trans_le hle⟩
      simpa only [InFlight.moved, hread, Shelf.step] using hstep
    · exact hs.reads j y hj hy hcall hlooked

theorem take (hs : d.Serving own t first) (h : d.Sound c) (hall : d.KeepsAll c) (turn : Turn) :
    (d.take c turn).Serving own t first := by
  cases turn with
  | start ask =>
    obtain ⟨x, k, hx, hcall, hstage⟩ := hs.acknowledged
    refine ⟨⟨x, k, calls_before_start hx ask, hcall, hstage⟩, hs.due, hs.logged, ?_⟩
    intro j y hj hy hread hlooked
    rcases calls_start hy with hold | rfl
    · exact hs.reads j y hj hold hread hlooked
    · trivial
  | step i =>
    cases hx : d.calls[i]? with
    | none =>
      rw [Desk.take, hx]
      exact hs
    | some x => exact take_stepAt hx ▸ hs.moved h hall hx
  | look i =>
    obtain ⟨x, k, hx, hcall, hstage⟩ := hs.acknowledged
    obtain ⟨x', hx', hcall', hstage', -⟩ := calls_before_look (c := c) hx i
    refine ⟨⟨x', k, hx', hcall'.trans hcall, hstage'.trans hstage⟩, hs.due, hs.logged, ?_⟩
    intro j y hj hy hread hlooked
    obtain ⟨z, hz, rfl | ⟨-, rfl⟩⟩ := calls_look hy
    · exact hs.reads j _ hj hz hread hlooked
    · -- what it has read before was no later
      exact hs.reads j z hj hz hread ((h.fits j z hz).looked.trans_lt hlooked)
  | tick now =>
    rw [Desk.take]
    split
    · exact ⟨hs.acknowledged, hs.due, hs.logged, hs.reads⟩
    · exact hs

theorem after (hs : d.Serving own t first) (h : d.Sound c)
    (hall : ∀ done rest, ts = done ++ rest → (d.after c done).KeepsAll c) :
    (d.after c ts).Serving own t first := by
  induction ts using List.reverseRecOn with
  | nil => exact hs
  | append_singleton ts turn ih =>
    have hbefore (done rest) (hts : ts = done ++ rest) : (d.after c done).KeepsAll c :=
      hall done (rest ++ [turn]) (by rw [hts, List.append_assoc])
    rw [after_concat]
    exact (ih hbefore).take (h.after ts) (hbefore ts [] (by simp)) turn

end Serving
end Desk

/-! ### Reads come to an end -/

/-- So many steps at most are left of a read. -/
def Stage.left : Stage → Nat
  | .begun => 4
  | .found _ => 3
  | .live _ => 2
  | .half _ _ | .expired _ => 1
  | _ => 0

/-- The turn is a step of the call. -/
def Turn.isStepOf (j : Nat) : Turn → Bool
  | .step i => i = j
  | _ => false

theorem Shelf.left_stepRead (s : Shelf) (c : String) (now : Instant) (access : Access)
    (stage : Stage) :
    (s.stepRead c now access stage).2.left ≤ stage.left - 1 := by
  cases stage with
  | begun =>
    rw [stepRead]
    split <;> simp [Stage.left]
  | found n =>
    rw [stepRead]
    split
    · split
      · simp [Stage.left]
      · split <;> simp [Stage.left]
    · simp [Stage.left]
  | live n =>
    simp only [stepRead]
    split <;> simp [Stage.left]
  | _ => simp [stepRead, Stage.left]

namespace Desk

variable {c : String} {d : Desk} {j : Nat} {x : InFlight} {access : Access}

theorem left_take (hx : d.calls[j]? = some x) (hcall : x.call = .read access) (turn : Turn) :
    ∃ y, (d.take c turn).calls[j]? = some y ∧ y.call = .read access ∧
      y.stage.left ≤ x.stage.left - [turn].countP (·.isStepOf j) := by
  cases turn with
  | start ask =>
    exact ⟨x, calls_before_start hx ask, hcall, by simp [Turn.isStepOf]⟩
  | step i =>
    by_cases hij : i = j
    · subst hij
      refine ⟨x.moved _ d.clock, by rw [take_stepAt hx, stepAt, calls_moved hx, if_pos rfl],
        hcall, ?_⟩
      have hleft := d.shelf.left_stepRead c x.lookedAt access x.stage
      simpa [InFlight.moved, hcall, Shelf.step, Turn.isStepOf] using hleft
    · refine ⟨x, ?_, hcall, by simp [Turn.isStepOf, hij]⟩
      cases hi : d.calls[i]? with
      | none => rw [take, hi]; exact hx
      | some y => rw [take_stepAt hi, stepAt, calls_moved hi, if_neg hij, hx]
  | look i =>
    obtain ⟨y, hy, hcall', hstage', -⟩ := calls_before_look (c := c) hx i
    exact ⟨y, hy, hcall'.trans hcall, by simp [hstage', Turn.isStepOf]⟩
  | tick now =>
    refine ⟨x, ?_, hcall, by simp [Turn.isStepOf]⟩
    rw [take]
    split <;> exact hx

theorem left_after (hx : d.calls[j]? = some x) (hcall : x.call = .read access) (ts : List Turn) :
    ∃ y, (d.after c ts).calls[j]? = some y ∧ y.call = .read access ∧
      y.stage.left ≤ x.stage.left - ts.countP (·.isStepOf j) := by
  -- no turn of another adds to what is left, and each of its own takes one away
  induction ts using List.reverseRecOn with
  | nil => exact ⟨x, hx, hcall, le_rfl⟩
  | append_singleton ts turn ih =>
    obtain ⟨y, hy, hread, hleft⟩ := ih
    obtain ⟨z, hz, hread', hleft'⟩ := left_take (c := c) hy hread turn
    refine ⟨z, by rw [after_concat, hz], hread', ?_⟩
    rw [List.countP_append]
    omega

/-- A read that has taken four steps is answered. -/
theorem answered_after (h : d.Sound c) (hx : d.calls[j]? = some x) (hcall : x.call = .read access)
    {ts : List Turn} (hts : 4 ≤ ts.countP (·.isStepOf j)) :
    ∃ y a, (d.after c ts).calls[j]? = some y ∧ y.call = .read access ∧ y.stage = .answered a := by
  obtain ⟨y, hy, hread, hleft⟩ := left_after (c := c) hx hcall ts
  have hfits := ((h.after ts).fits j y hy).reads access hread
  have hmost : x.stage.left ≤ 4 := by cases x.stage <;> simp [Stage.left]
  have hnone : y.stage.left = 0 := by omega
  -- nothing is left, so the read is at its end
  cases hstage : y.stage with
  | answered a => exact ⟨y, a, hy, hread, hstage⟩
  | acquired n => simp [hstage, Stage.OfRead] at hfits
  | written n => simp [hstage, Stage.OfRead] at hfits
  | _ => simp [hstage, Stage.left] at hnone

/-- Calls on a conversation meet in any order. Every write that has been acknowledged is kept
    throughout if and only if no turn slips. And then every read that is started after the
    acknowledgement, and reads the clock before the write expires, answers facts that show it. A
    read is answered after four steps at most. -/
theorem acknowledged_writes_kept_iff (c : String) (ttl : Int) (now : Instant) (ts : List Turn) :
    ((∀ done rest, ts = done ++ rest → (run c ttl now done).KeepsAll c) ↔
        (opened ttl now).NoSlip c ts) ∧
    ((opened ttl now).NoSlip c ts → ∀ done rest, ts = done ++ rest →
      ∀ i w t, (run c ttl now done).Acknowledged i w → w.startedAt.add? ttl = some t →
      ∀ j x, (run c ttl now done).calls.length ≤ j → (run c ttl now ts).calls[j]? = some x →
        x.call = .read .merged → x.lookedAt.rank < t.rank → ∀ a, x.stage = .answered a →
        ∃ facts own, a = .facts facts ∧ own.call = i ∧ own.write = w ∧
          Shows facts (run c ttl now ts).log own) ∧
    ∀ done rest, ts = done ++ rest → ∀ j x access, (run c ttl now done).calls[j]? = some x →
      x.call = .read access → 4 ≤ rest.countP (·.isStepOf j) →
      ∃ y a, (run c ttl now ts).calls[j]? = some y ∧ y.call = .read access ∧
        y.stage = .answered a := by
  have hsound := sound_opened c ttl now
  have hnothing : (opened ttl now).KeepsAll c := by
    rintro i t ⟨w, ⟨x, k, ⟨⟩, -⟩, -⟩
  have hiff := keepsAll_iff_noSlip hsound hnothing ts
  refine ⟨hiff, ?_, ?_⟩
  · rintro hslip done rest rfl i w t hack hw j x hj hx hread hlooked a ha
    have hkept := hiff.2 hslip
    have hdue : w.startedAt.add? (run c ttl now done).shelf.ttl = some t := by
      rw [run, hsound.ttl_after]
      exact hw
    -- the write is in the log when it is acknowledged, and served from then on
    obtain ⟨own, hcall, hwrite, hserving⟩ := Serving.start (Sound.run c ttl now done) hack hdue
    have hlater : ∀ more left, rest = more ++ left →
        ((run c ttl now done).after c more).KeepsAll c := by
      rintro more left rfl
      rw [run, ← after_append]
      exact hkept (done ++ more) left (by simp)
    have hafter := hserving.after (Sound.run c ttl now done) hlater
    rw [run, ← after_append] at hafter
    have hserved := hafter.reads j x hj hx hread hlooked
    rw [ha] at hserved
    obtain ⟨facts, hfacts, hshows⟩ := hserved
    exact ⟨facts, own, hfacts, hcall, hwrite, hshows⟩
  · rintro done rest rfl j x access hx hread hcount
    rw [run, after_append]
    exact answered_after (Sound.run c ttl now done) hx hread hcount

/-! ### Acknowledged writes that are lost -/

/-- After the turns the write number `i` has been acknowledged and has not expired, but a read that
    is started then finds no facts. -/
def Lost (ttl : Int) (now : Instant) (i : Nat) (ts : List Turn) : Prop :=
  ∃ w t, (run "c1" ttl now ts).Acknowledged i w ∧ w.updates ≠ [] ∧ w.startedAt.add? ttl = some t ∧
    (run "c1" ttl now ts).clock.rank < t.rank ∧ ∃ x, (run "c1" ttl now
      (ts ++ .start (.read .merged) :: List.replicate 4 (.step (run "c1" ttl now ts).calls.length))
      ).calls[(run "c1" ttl now ts).calls.length]? = some x ∧ x.stage = .answered (.facts .empty) ∧
      x.lookedAt = (run "c1" ttl now ts).clock

/-- A tool gives the variable a value. -/
def gives (id value : String) : Turn :=
  .start (.set "k1" [{ variableId := id, value := .string value }] (.tool "crm"))

/-- When the first write is started. -/
def atFirst : Instant := ⟨640, 0, by decide⟩

/-- Shortly before what was written at first expires. -/
def shortlyBefore : Instant := ⟨640, 900000000, by decide⟩

/-- What was written at first expires. -/
def whenItExpires : Instant := ⟨641, 0, by decide⟩

/-- A write that was started shortly before the expiry ends while a read is about to
    evict the namespace. -/
def evictedAfterwards : List Turn :=
  [gives "name" "Ada", .step 0, .step 0, .step 0, .tick shortlyBefore, gives "date" "today",
    .step 1,
    .tick whenItExpires, .start (.read .presence), .step 2, .step 2, .step 1, .step 1, .step 2]

/-- A write that was started shortly before the expiry ends in a namespace that has been purged. -/
def purgedMeanwhile : List Turn :=
  [gives "name" "Ada", .step 0, .step 0, .step 0, .tick shortlyBefore, gives "date" "today",
    .step 1,
    .tick whenItExpires, .start .purge, .step 2, .step 1, .step 1]

/-- The first write ends after the second one, and sets the expiry back to its own. -/
def endedAfterwards : List Turn :=
  [gives "name" "Ada", .tick shortlyBefore, gives "date" "today", .step 1, .step 1, .step 1,
    .step 0, .step 0, .step 0,
    .tick whenItExpires]

/-- A tenth of a second before a leap second. -/
def beforeLeapSecond : Instant := ⟨1483228799, 900000000, by decide⟩

/-- One write after the other, the second one in a leap second: its time to live ends earlier. -/
def inLeapSecond : List Turn :=
  [gives "name" "Ada", .step 0, .step 0, .step 0, .tick ⟨1483228799, 1600000000, by decide⟩,
    gives "date" "today",
    .step 1, .step 1, .step 1, .tick ⟨1483228800, 700000000, by decide⟩]

/-- In each of these runs an acknowledged write is gone before its time to live of a
    second is over. -/
theorem acknowledged_but_gone :
    Lost (seconds 1) atFirst 1 evictedAfterwards ∧ Lost (seconds 1) atFirst 1 purgedMeanwhile ∧
    Lost (seconds 1) atFirst 1 endedAfterwards ∧
      Lost (seconds 1) beforeLeapSecond 0 inLeapSecond := by
  refine ⟨?_, ?_, ?_, ?_⟩ <;>
    exact ⟨_, _, ⟨_, _, rfl, rfl, rfl⟩, by simp, rfl, by decide +kernel, _, rfl, rfl, rfl⟩

end Desk
end Dialogue.Memory
