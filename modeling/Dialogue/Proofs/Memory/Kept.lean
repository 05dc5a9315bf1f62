import Dialogue.Proofs.Memory.Meetings

/-! # Acknowledged writes are kept, unless a turn slips

    The namespace of a write that has been acknowledged is to expire no earlier than the write does,
    and to be in use until then (`Desk.Keeps`). Three turns break this (`Desk.Slip`). A read that
    has judged the namespace expired evicts it after a write has refreshed it; a write ends in a
    namespace that has been dropped meanwhile; and a write sets the expiry back, for it was started
    before another that has ended, or lies in a leap second. No other turn does, so every
    acknowledged write is kept throughout exactly where no turn slips (`keepsAll_iff_noSlip`); and
    none does while the clock stands still (`noSlip_of_still`). -/

namespace Dialogue.Memory

open Time

/-! ### The namespace in use -/

theorem Namespace.expiresAt_write (x : Namespace) (contactId : String) (writer : Writer)
    (now : Instant) (us : List Update) :
    (x.write contactId writer now us).expiresAt = x.expiresAt := by
  cases writer <;> rfl

namespace Shelf

/-- The namespace is there, and expires at the instant. -/
def Expires (s : Shelf) (n : Nat) (t : Instant) : Prop :=
  ∃ x, s.spaces[n]? = some x ∧ x.expiresAt = t

variable {s s' : Shelf} {c : String} {now t : Instant} {call : Call} {stage stage' : Stage}
    {n : Nat}

theorem expires_putSpace {m : Nat} {x : Namespace} (h : s.Expires n t) (hm : s.spaces[m]? = some x)
    (y : Namespace) :
    (s.putSpace m y).Expires n (if m = n then y.expiresAt else t) := by
  obtain ⟨z, hz, rfl⟩ := h
  rw [Expires, spaces_putSpace hm]
  split
  · exact ⟨y, rfl, rfl⟩
  · exact ⟨z, hz, rfl⟩

/-- Only a write that ends moves an expiry. -/
theorem Effect.expires (he : s.Effect c now call stage s' stage') (h : s.Expires n t) :
    s'.Expires n t ∨ ∃ w t', call = .set w ∧ stage = .written n ∧ w.startedAt.add? s.ttl = some t' ∧
      s'.Expires n t' := by
  obtain ⟨x, hx, hexpiry⟩ := id h
  cases he with
  -- a new namespace comes after those that are there
  | creates =>
    exact .inl ⟨x, by rw [List.getElem?_append_left (List.getElem?_eq_some_iff.1 hx).1, hx],
      hexpiry⟩
  | @writes w m y hm =>
    left
    have hput := expires_putSpace h hm (y.write w.contactId w.writer w.startedAt w.updates)
    split at hput
    · rename_i hmn
      rw [hmn, hx, Option.some.injEq] at hm
      rwa [Namespace.expiresAt_write, ← hm, hexpiry, hm] at hput
    · exact hput
  -- the one that moves an expiry, of the namespace that was written to
  | @refreshes w m y t' hm hw =>
    have hput := expires_putSpace h hm { y with expiresAt := t' }
    split at hput
    · rename_i hmn
      exact .inr ⟨w, t', rfl, by rw [hmn], hw, hput⟩
    · exact .inl hput
  | _ => exact .inl h

/-- A namespace in use that no write and no purge takes for expired stays in use, but
    for an eviction. -/
theorem Effect.stays (he : s.Effect c now call stage s' stage') (hn : s.table.get? c = some n)
    (h : s.Expires n t) (hset : ∀ w, call = .set w → w.startedAt.rank < t.rank)
    (hpurge : ∀ now, call = .purge now → now.rank < t.rank) :
    s'.table.get? c = some n ∨ (∃ access, call = .read access) ∧ stage = .expired n := by
  obtain ⟨x, hx, hexpiry⟩ := h
  cases he with
  -- an eviction compares the namespace, not its expiry
  | evicts hm =>
    rw [hn] at hm
    cases hm
    exact .inr ⟨⟨_, rfl⟩, rfl⟩
  -- a write replaces a namespace that has expired, and this one has not
  | creates hexpired =>
    have hlate := hexpired n x hn hx
    have hearly := hset _ rfl
    simp only [Namespace.isExpired, decide_eq_true_eq, hexpiry] at hlate
    omega
  | purges =>
    have hearly := hpurge _ rfl
    left
    rw [purge, Dict.get?_filter, hn]
    simpa [Option.filter, space?, hx, Namespace.isExpired, hexpiry] using hearly
  | _ => exact .inl hn

/-- A write that ends moves the expiry of the namespace it has written to. -/
theorem Effect.refreshed {w : Write} (he : s.Effect c now (.set w) (.written n) s' stage')
    (hw : w.startedAt.add? s.ttl = some t) :
    stage' = .answered (.count w.updates.length) ∧ s'.table = s.table ∧ s'.Expires n t := by
  cases he with
  | refreshes hx hw' =>
    rw [hw, Option.some.injEq] at hw'
    refine ⟨rfl, rfl, ?_⟩
    rw [Expires, spaces_putSpace hx, if_pos rfl]
    exact ⟨_, rfl, hw'.symm⟩
  | fails _ hnone =>
    rw [hw] at hnone
    cases hnone
  | idle _ _ hend => exact (hend w n rfl rfl).elim

/-- Only a write that ends is acknowledged. -/
theorem Effect.acknowledges {w : Write} {k : Nat}
    (he : s.Effect c now (.set w) stage s' (.answered (.count k))) :
    stage = .answered (.count k) ∨ ∃ n t, stage = .written n ∧ w.startedAt.add? s.ttl = some t := by
  cases he with
  | refreshes hx hw => exact .inr ⟨_, _, rfl, hw⟩
  | idle => exact .inl rfl

theorem Effect.answered {w : Write} {a : Answer}
    (he : s.Effect c now (.set w) (.answered a) s' stage') :
    stage' = .answered a := by
  cases he with
  | fails hstage => simp at hstage
  | idle => rfl

/-- A write acquires the namespace in use. -/
theorem Effect.acquires (he : s.Effect c now call stage s' (.acquired n)) :
    s'.table.get? c = some n ∨ stage = .acquired n := by
  cases he with
  | reads _ hread => exact hread.elim
  | reuses hn => exact .inl hn
  | creates => exact .inl (by simp)
  | idle => exact .inr rfl

theorem Effect.judges (he : s.Effect c now call stage s' (.expired n)) :
    (∃ x, s.spaces[n]? = some x ∧ x.isExpired now) ∨ stage = .expired n := by
  cases he with
  | reads _ _ _ hexpired => exact .inl (hexpired n rfl)
  | idle => exact .inr rfl

end Shelf

/-! ### What is kept -/

namespace Desk

/-- The call number `i` is a write that has been acknowledged. -/
def Acknowledged (d : Desk) (i : Nat) (w : Write) : Prop :=
  ∃ x k, d.calls[i]? = some x ∧ x.call = .set w ∧ x.stage = .answered (.count k)

/-- The call is a write that has been acknowledged and expires at `t`. -/
def Due (d : Desk) (i : Nat) (t : Instant) : Prop :=
  ∃ w, d.Acknowledged i w ∧ w.startedAt.add? d.shelf.ttl = some t

/-- The call has written to the namespace. -/
def WroteTo (d : Desk) (i n : Nat) : Prop := ∃ x, d.calls[i]? = some x ∧ x.wrote = some n

/-- The namespace that the call has written to expires at `t` or later, and is in use before `t`. -/
def Keeps (c : String) (d : Desk) (i : Nat) (t : Instant) : Prop :=
  ∃ n expiresAt, d.WroteTo i n ∧ d.shelf.Expires n expiresAt ∧ t.rank ≤ expiresAt.rank ∧
    (d.clock.rank < t.rank → d.shelf.table.get? c = some n)

/-- Every write that has been acknowledged is kept. -/
def KeepsAll (c : String) (d : Desk) : Prop := ∀ i t, d.Due i t → d.Keeps c i t

/-- The turns that break this. -/
inductive Slip (c : String) (d : Desk) : Turn → Prop
  /-- A read evicts the namespace that it has seen expired, and with it a write that
      has not expired. -/
  | evicts {i j n : Nat} {access : Access} {x : InFlight} {t : Instant} (hx : d.calls[j]? = some x)
      (hcall : x.call = .read access) (hstage : x.stage = .expired n)
      (hn : d.shelf.table.get? c = some n)
      (hdue : d.Due i t) (hahead : d.clock.rank < t.rank) (hwrote : d.WroteTo i n) :
      Slip c d (.step j)
  /-- A write ends, before it expires, in a namespace that is not in use any more. -/
  | overtaken {j n : Nat} {w : Write} {x : InFlight} {t : Instant} (hx : d.calls[j]? = some x)
      (hcall : x.call = .set w)
      (hstage : x.stage = .written n) (hw : w.startedAt.add? d.shelf.ttl = some t)
      (hahead : d.clock.rank < t.rank)
      (hn : d.shelf.table.get? c ≠ some n) : Slip c d (.step j)
  /-- A write ends with an earlier expiry than another that has been acknowledged in
      the namespace. -/
  | movesBack {i j n : Nat} {w : Write} {x : InFlight} {t t' : Instant} (hx : d.calls[j]? = some x)
      (hcall : x.call = .set w) (hstage : x.stage = .written n)
      (hw : w.startedAt.add? d.shelf.ttl = some t)
      (hdue : d.Due i t') (hwrote : d.WroteTo i n) (hback : t.rank < t'.rank) : Slip c d (.step j)

/-- No turn slips. -/
def NoSlip (c : String) (d : Desk) (ts : List Turn) : Prop :=
  ∀ done turn rest, ts = done ++ turn :: rest → ¬ (d.after c done).Slip c turn

variable {c : String} {d : Desk} {i j n : Nat} {x : InFlight} {w : Write} {t : Instant}
    {shelf : Shelf} {stage : Stage}
  {turn : Turn}

/-! ### One turn -/

theorem Acknowledged.moved (h : d.Acknowledged i w) (hx : d.calls[j]? = some x)
    (he : d.shelf.Effect c x.lookedAt x.call x.stage shelf stage) :
    (d.moved j x shelf stage).Acknowledged i w := by
  obtain ⟨y, k, hy, hcall, hstage⟩ := h
  by_cases hij : j = i
  · subst hij
    rw [hx, Option.some.injEq] at hy
    subst hy
    rw [hcall, hstage] at he
    exact ⟨x.moved stage d.clock, k, by rw [calls_moved hx, if_pos rfl], hcall, he.answered⟩
  · exact ⟨y, k, by rw [calls_moved hx, if_neg hij, hy], hcall, hstage⟩

theorem WroteTo.moved (h : d.Sound c) (hn : d.WroteTo i n) (hx : d.calls[j]? = some x)
    (shelf : Shelf) (stage : Stage) :
    (d.moved j x shelf stage).WroteTo i n := by
  obtain ⟨y, hy, hwrote⟩ := hn
  rw [WroteTo, calls_moved hx]
  split
  · rename_i hij
    subst hij
    rw [hx, Option.some.injEq] at hy
    exact ⟨_, rfl, (h.fits _ x hx).moved_wrote (hy ▸ hwrote) stage d.clock⟩
  · exact ⟨y, hy, hwrote⟩

/-- What is due after a step was due before, unless the step has acknowledged it. -/
theorem Due.of_moved (hdue : (d.moved j x shelf stage).Due i t) (hx : d.calls[j]? = some x)
    (he : d.shelf.Effect c x.lookedAt x.call x.stage shelf stage) :
    d.Due i t ∨ i = j ∧ ∃ w n, x.call = .set w ∧ x.stage = .written n ∧
      w.startedAt.add? d.shelf.ttl = some t := by
  obtain ⟨w, ⟨y, k, hy, hcall, hstage⟩, hw⟩ := hdue
  rw [moved, he.ttl] at hw
  rw [calls_moved hx] at hy
  split at hy
  · rename_i hij
    cases hy
    have hset : x.call = .set w := hcall
    have hanswered : stage = .answered (.count k) := hstage
    have heffect := he
    rw [hset, hanswered] at heffect
    rcases heffect.acknowledges with hsame | ⟨n, -, hwritten, -⟩
    · exact .inl ⟨w, ⟨x, k, hij ▸ hx, hset, hsame⟩, hw⟩
    · exact .inr ⟨hij.symm, w, n, hset, hwritten, hw⟩
  · exact .inl ⟨w, ⟨y, k, hy, hcall, hstage⟩, hw⟩

theorem KeepsAll.moved (h : d.Sound c) (hall : d.KeepsAll c) (hx : d.calls[j]? = some x)
    (he : d.shelf.Effect c x.lookedAt x.call x.stage shelf stage) (hslip : ¬ d.Slip c (.step j)) :
    (d.moved j x shelf stage).KeepsAll c := by
  intro i t hdue
  rcases hdue.of_moved hx he with hbefore | ⟨rfl, w, n, hcall, hstage, hw⟩
  · obtain ⟨n, expiresAt, hwrote, hexpires, hle, hin⟩ := hall i t hbefore
    have hwrote' := hwrote.moved h hx shelf stage
    have hfits := h.fits j x hx
    -- calls that were started before the deadline do not take the namespace for expired
    have hstays : d.clock.rank < t.rank → shelf.table.get? c = some n := by
      intro hahead
      have hset : ∀ w, x.call = .set w → w.startedAt.rank < expiresAt.rank := fun w hw =>
        (hfits.written w hw).trans_lt (hahead.trans_le hle)
      have hpurge : ∀ now, x.call = .purge now → now.rank < expiresAt.rank := fun now hnow =>
        (hfits.purged now hnow).trans_lt (hahead.trans_le hle)
      rcases he.stays (hin hahead) hexpires hset hpurge with hstays | ⟨⟨access, hcall⟩, hstage⟩
      · exact hstays
      · exact (hslip (.evicts hx hcall hstage (hin hahead) hbefore hahead hwrote)).elim
    rcases he.expires hexpires with hsame | ⟨w, t', hcall, hstage, hw, hexpires'⟩
    · exact ⟨n, expiresAt, hwrote', hsame, hle, hstays⟩
    · refine ⟨n, t', hwrote', hexpires', Int.not_lt.1 fun hback => ?_, hstays⟩
      exact hslip (.movesBack hx hcall hstage hw hbefore hwrote hback)
  · have hwrote : d.WroteTo i n := ⟨x, hx, (h.fits i x hx).atWritten n hstage⟩
    have heffect := he
    rw [hcall, hstage] at heffect
    obtain ⟨-, htable, hexpires⟩ := heffect.refreshed hw
    refine ⟨n, t, hwrote.moved h hx shelf stage, hexpires, le_rfl, ?_⟩
    intro hahead
    rw [Desk.moved, htable]
    by_contra hn
    exact hslip (.overtaken hx hcall hstage hw hahead hn)

theorem KeepsAll.take (h : d.Sound c) (hall : d.KeepsAll c) (hslip : ¬ d.Slip c turn) :
    (d.take c turn).KeepsAll c := by
  cases turn with
  -- a call that begins has acknowledged nothing
  | start ask =>
    rintro i t ⟨w, ⟨y, k, hy, hcall, hstage⟩, hw⟩
    rcases calls_start hy with hold | rfl
    · obtain ⟨n, expiresAt, ⟨x, hx, hwrote⟩, hkept⟩ := hall i t ⟨w, ⟨y, k, hold, hcall, hstage⟩, hw⟩
      exact ⟨n, expiresAt, ⟨x, calls_before_start hx ask, hwrote⟩, hkept⟩
    · cases hstage
  | step j =>
    cases hx : d.calls[j]? with
    | none =>
      rw [Desk.take, hx]
      exact hall
    | some x =>
      obtain ⟨shelf, stage, he, htake⟩ := h.take_step hx
      exact htake ▸ hall.moved h hx he hslip
  | look j =>
    rintro i t ⟨w, ⟨y, k, hy, hcall, hstage⟩, hw⟩
    obtain ⟨z, hz, hcall', hstage', -⟩ := calls_after_look hy
    have hdue : d.Due i t := ⟨w, ⟨z, k, hz, hcall'.trans hcall, hstage'.trans hstage⟩, hw⟩
    obtain ⟨n, expiresAt, ⟨x, hx, hwrote⟩, hkept⟩ := hall i t hdue
    obtain ⟨x', hx', -, -, hwrote'⟩ := calls_before_look (c := c) hx j
    exact ⟨n, expiresAt, ⟨x', hx', hwrote'.trans hwrote⟩, hkept⟩
  -- what is ahead of the later clock was ahead of the earlier
  | tick now =>
    rw [Desk.take]
    split
    · rename_i hle
      rintro i t ⟨w, hack, hw⟩
      obtain ⟨n, expiresAt, hwrote, hexpires, hlate, hin⟩ := hall i t ⟨w, hack, hw⟩
      exact ⟨n, expiresAt, hwrote, hexpires, hlate, fun hahead => hin (hle.trans_lt hahead)⟩
    · exact hall

theorem WroteTo.unique {m : Nat} (hn : d.WroteTo i n) (hm : d.WroteTo i m) : n = m := by
  obtain ⟨x, hx, hn⟩ := hn
  obtain ⟨y, hy, hm⟩ := hm
  rw [hx, Option.some.injEq] at hy
  rw [hy, hm, Option.some.injEq] at hn
  exact hn.symm

theorem Due.moved (hdue : d.Due i t) (hx : d.calls[j]? = some x)
    (he : d.shelf.Effect c x.lookedAt x.call x.stage shelf stage) :
    (d.moved j x shelf stage).Due i t := by
  obtain ⟨w, hack, hw⟩ := hdue
  exact ⟨w, hack.moved hx he, by rwa [Desk.moved, he.ttl]⟩

/-- A turn that slips leaves a write that has been acknowledged and is not kept. -/
theorem Slip.loses (h : d.Sound c) (hslip : d.Slip c turn) : ¬ (d.take c turn).KeepsAll c := by
  intro hall
  cases hslip with
  -- the namespace is out of use, and the write that is due was in it
  | @evicts i j n access x t hx hcall hstage hn hdue hahead =>
    obtain ⟨shelf, stage, he, htake⟩ := h.take_step hx
    rw [htake] at hall
    obtain ⟨m, expiresAt, -, -, -, hin⟩ := hall i t (hdue.moved hx he)
    have hm : shelf.table.get? c = some m := hin hahead
    rw [hcall, hstage] at he
    cases he with
    | reads hspared => exact hspared n rfl hn
    | evicts => simp at hm
    | idle hread => exact hread access rfl
  -- the write is acknowledged in a namespace that is in use no more
  | @overtaken j n w x t hx hcall hstage hw hahead hn =>
    obtain ⟨shelf, stage, he, htake⟩ := h.take_step hx
    rw [htake] at hall
    have hwrote : d.WroteTo j n := ⟨x, hx, (h.fits j x hx).atWritten n hstage⟩
    have hwrote' := hwrote.moved h hx shelf stage
    rw [hcall, hstage] at he
    obtain ⟨hanswered, htable, -⟩ := he.refreshed hw
    have hdue : (d.moved j x shelf stage).Due j t :=
      ⟨w, ⟨x.moved stage d.clock, w.updates.length, by rw [calls_moved hx, if_pos rfl], hcall,
        hanswered⟩, by rwa [moved, he.ttl]⟩
    obtain ⟨m, expiresAt, hm, -, -, hin⟩ := hall j t hdue
    have huses : shelf.table.get? c = some m := hin hahead
    rw [← hwrote'.unique hm, htable] at huses
    exact hn huses
  -- the expiry is now before that of the write
  | @movesBack i j n w x t t' hx hcall hstage hw hdue hwrote hback =>
    obtain ⟨shelf, stage, he, htake⟩ := h.take_step hx
    rw [htake] at hall
    have hwrote' := hwrote.moved h hx shelf stage
    obtain ⟨m, expiresAt, hm, ⟨y', hy', hexpiry'⟩, hle, -⟩ := hall i t' (hdue.moved hx he)
    rw [hcall, hstage] at he
    obtain ⟨-, -, y, hy, hexpiry⟩ := he.refreshed hw
    rw [← hwrote'.unique hm, moved, hy, Option.some.injEq] at hy'
    rw [← hexpiry', ← hy', hexpiry] at hle
    omega

theorem keepsAll_iff_noSlip (h : d.Sound c) (hall : d.KeepsAll c) (ts : List Turn) :
    (∀ done rest, ts = done ++ rest → (d.after c done).KeepsAll c) ↔ d.NoSlip c ts := by
  constructor
  · rintro hkept done turn rest rfl hslip
    refine hslip.loses (h.after done) ?_
    rw [← after_concat]
    exact hkept (done ++ [turn]) rest (by simp)
  · intro hnone done
    induction done using List.reverseRecOn with
    | nil => exact fun _ _ => hall
    | append_singleton done turn ih =>
      rintro rest rfl
      rw [after_concat]
      exact (ih ([turn] ++ rest) (by simp)).take (h.after done) (hnone done turn rest (by simp))

end Desk

/-! ### While the clock stands still -/

/-- The turn sets the clock. -/
def Turn.isTick : Turn → Bool
  | .tick _ => true
  | _ => false

namespace Desk

variable {c : String} {d : Desk} {i j n : Nat} {x : InFlight} {t : Instant} {shelf : Shelf}
    {stage : Stage}
  {turn : Turn}

/-- All was started at one instant, and what was written then expires at a later one. So no
    namespace is seen expired, and every write is made to the one in use. -/
structure Still (c : String) (d : Desk) (t : Instant) : Prop where
  due : d.clock.add? d.shelf.ttl = some t
  ahead : d.clock.rank < t.rank
  expiry : ∀ (n : Nat) (y : Namespace), d.shelf.spaces[n]? = some y → y.expiresAt = t
  started : ∀ (i : Nat) (x : InFlight), d.calls[i]? = some x → ∀ w, x.call = .set w →
      w.startedAt = d.clock
  inUse : ∀ (i : Nat) (x : InFlight), d.calls[i]? = some x → ∀ n, x.stage = .acquired n ∨
      x.wrote = some n →
    d.shelf.table.get? c = some n
  unexpired : ∀ (i : Nat) (x : InFlight), d.calls[i]? = some x → ∀ n, x.stage ≠ .expired n

namespace Still

theorem opened {ttl : Int} {now : Instant} (ht : now.add? ttl = some t)
    (hahead : now.rank < t.rank) :
    (Desk.opened ttl now).Still c t where
  due := ht
  ahead := hahead
  expiry := by rintro n y ⟨⟩
  started := by rintro i x ⟨⟩
  inUse := by rintro i x ⟨⟩
  unexpired := by rintro i x ⟨⟩

theorem keepsAll (hs : d.Still c t) (h : d.Sound c) : d.KeepsAll c := by
  rintro i t' ⟨w, ⟨x, k, hx, hcall, hstage⟩, hw⟩
  have hfits := h.fits i x hx
  obtain ⟨n, hn⟩ := Option.ne_none_iff_exists'.1 (hfits.acknowledged w k hcall hstage)
  have hy := List.getElem?_eq_getElem (hfits.wrote n hn).1
  rw [hs.started i x hx w hcall, hs.due, Option.some.injEq] at hw
  exact ⟨n, t, ⟨x, hx, hn⟩, ⟨_, hy, hs.expiry n _ hy⟩, hw ▸ le_rfl,
    fun _ => hs.inUse i x hx n (.inr hn)⟩

/-- The namespace in use stays so. -/
theorem table_moved (hs : d.Still c t) (h : d.Sound c) (hx : d.calls[j]? = some x)
    (he : d.shelf.Effect c x.lookedAt x.call x.stage shelf stage)
    (hn : d.shelf.table.get? c = some n) :
    shelf.table.get? c = some n := by
  have hy := List.getElem?_eq_getElem (h.table n hn)
  have hset : ∀ w, x.call = .set w → w.startedAt.rank < t.rank := by
    intro w hw
    rw [hs.started j x hx w hw]
    exact hs.ahead
  have hpurge : ∀ now, x.call = .purge now → now.rank < t.rank := fun now hnow =>
    ((h.fits j x hx).purged now hnow).trans_lt hs.ahead
  rcases he.stays hn ⟨_, hy, hs.expiry n _ hy⟩ hset hpurge with hstays | ⟨-, hexpired⟩
  · exact hstays
  · exact (hs.unexpired j x hx n hexpired).elim

theorem expiry_moved (hs : d.Still c t) (hx : d.calls[j]? = some x)
    (he : d.shelf.Effect c x.lookedAt x.call x.stage shelf stage) {y : Namespace}
    (hy : shelf.spaces[n]? = some y) :
    y.expiresAt = t := by
  -- all writes start at the one reading of the clock, so they expire at the same time
  have hdue : ∀ w t', x.call = .set w → w.startedAt.add? d.shelf.ttl = some t' → t' = t := by
    intro w t' hcall hw
    rw [hs.started j x hx w hcall, hs.due, Option.some.injEq] at hw
    exact hw.symm
  obtain ⟨call, before, lookedAt, wrote⟩ := x
  cases he with
  | creates _ hw =>
    rcases getElem?_concat hy with hold | ⟨-, rfl⟩
    · exact hs.expiry n y hold
    · exact hdue _ _ rfl hw
  | writes hm =>
    rw [Shelf.spaces_putSpace hm] at hy
    split at hy
    · cases hy
      rw [Namespace.expiresAt_write]
      exact hs.expiry _ _ hm
    · exact hs.expiry n y hy
  | refreshes hm hw =>
    rw [Shelf.spaces_putSpace hm] at hy
    split at hy
    · cases hy
      exact hdue _ _ rfl hw
    · exact hs.expiry n y hy
  | _ => exact hs.expiry n y hy

theorem moved (hs : d.Still c t) (h : d.Sound c) (hx : d.calls[j]? = some x)
    (he : d.shelf.Effect c x.lookedAt x.call x.stage shelf stage) :
    (d.moved j x shelf stage).Still c t where
  due := by rw [Desk.moved, he.ttl, hs.due]
  ahead := hs.ahead
  expiry n y hy := hs.expiry_moved hx he hy
  started i y hy := by
    rw [calls_moved hx] at hy
    split at hy
    · cases hy
      exact hs.started j x hx
    · exact hs.started i y hy
  inUse i y hy n hn := by
    rw [calls_moved hx] at hy
    split at hy
    · cases hy
      rcases hn with hstage | hwrote
      -- a call comes to its namespace by looking it up, or had it before
      · have hacquired : stage = .acquired n := hstage
        subst hacquired
        rcases he.acquires with htable | hbefore
        · exact htable
        · exact hs.table_moved h hx he (hs.inUse j x hx n (.inl hbefore))
      · exact hs.table_moved h hx he (hs.inUse j x hx n (InFlight.of_moved_wrote hwrote))
    · exact hs.table_moved h hx he (hs.inUse i y hy n hn)
  unexpired i y hy n hn := by
    rw [calls_moved hx] at hy
    split at hy
    · cases hy
      have hexpired : stage = .expired n := hn
      subst hexpired
      rcases he.judges with ⟨y, hy, hlate⟩ | hbefore
      · have hahead := (h.fits j x hx).looked.trans_lt hs.ahead
        simp only [Namespace.isExpired, hs.expiry n y hy, decide_eq_true_eq] at hlate
        omega
      · exact hs.unexpired j x hx n hbefore
    · exact hs.unexpired i y hy n hn

theorem take (hs : d.Still c t) (h : d.Sound c) (hturn : turn.isTick = false) :
    (d.take c turn).Still c t := by
  cases turn with
  | tick now => cases hturn
  | step i =>
    cases hx : d.calls[i]? with
    | none =>
      rw [Desk.take, hx]
      exact hs
    | some x =>
      obtain ⟨shelf, stage, he, htake⟩ := h.take_step hx
      exact htake ▸ hs.moved h hx he
  | look i =>
    refine ⟨hs.due, hs.ahead, hs.expiry, ?_, ?_, ?_⟩
    · intro j x hx w hw
      obtain ⟨y, hy, hcall, -, -⟩ := calls_after_look hx
      exact hs.started j y hy w (hcall.trans hw)
    · intro j x hx n hn
      obtain ⟨y, hy, -, hstage, hwrote⟩ := calls_after_look hx
      exact hs.inUse j y hy n (by rwa [hstage, hwrote])
    · intro j x hx n hn
      obtain ⟨y, hy, -, hstage, -⟩ := calls_after_look hx
      exact hs.unexpired j y hy n (hstage.trans hn)
  | start ask =>
    refine ⟨hs.due, hs.ahead, hs.expiry, ?_, ?_, ?_⟩
    · intro i x hx w hw
      rcases calls_start hx with hold | rfl
      · exact hs.started i x hold w hw
      · cases ask <;> cases hw
        rfl
    · intro i x hx n hn
      rcases calls_start hx with hold | rfl
      · exact hs.inUse i x hold n hn
      · simp at hn
    · intro i x hx n hn
      rcases calls_start hx with hold | rfl
      · exact hs.unexpired i x hold n hn
      · cases hn

theorem after (hs : d.Still c t) (h : d.Sound c) {ts : List Turn}
    (hts : ∀ turn ∈ ts, turn.isTick = false) :
    (d.after c ts).Still c t := by
  induction ts using List.reverseRecOn with
  | nil => exact hs
  | append_singleton ts turn ih =>
    rw [after_concat]
    exact (ih fun u hu => hts u (List.mem_append_left _ hu)).take (h.after ts) (hts turn (by simp))

end Still

/-- While the clock stands still, before what is written then expires, calls may meet in any
    order and no turn slips. -/
theorem noSlip_of_still {ttl : Int} {now t : Instant} {ts : List Turn} (ht : now.add? ttl = some t)
    (hahead : now.rank < t.rank) (hts : ∀ turn ∈ ts, turn.isTick = false) :
    (opened ttl now).NoSlip c ts := by
  have hsound := sound_opened c ttl now
  have hstill : (opened ttl now).Still c t := .opened ht hahead
  -- a turn that slips would lose a write, and none is lost before any of the turns
  refine (keepsAll_iff_noSlip hsound (hstill.keepsAll hsound) ts).1 ?_
  rintro done rest rfl
  exact (hstill.after hsound fun turn hmem => hts turn (List.mem_append_left _ hmem)).keepsAll
    (hsound.after done)

end Desk
end Dialogue.Memory
