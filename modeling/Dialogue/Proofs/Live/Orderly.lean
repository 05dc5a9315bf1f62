import Dialogue.Proofs.Live.Turns

/-! # Calls that meet stay in order

    The permits of the registry are accounted for, and every queue (for the registry, for a place in
    a mailbox, for an answer) holds calls that are at this very point (`Orderly`). Every turn keeps
    this, whatever the calls are (`Floor.InOrder.stepCall`, `Floor.InOrder.stepActor`). So an unload
    that holds the registry holds it alone (`Orderly.alone`). -/

namespace Dialogue.Live

open Time Conversation StateMachine

/-! ### Where a call can be -/

/-- Where a call can be that has been served. -/
def InFlight.mayBeServed (c : InFlight) : Bool :=
  c.atRegistry || match c.stage with
    | .sending _ | .answered _ => true
    | .replied a => !closes a
    | _ => false

/-- Where an unload can be. -/
def Stage.ofUnload : Stage → Bool
  | .begun | .sending _ | .waiting _ | .replied _ | .answered _ => true
  | _ => false

/-- The call can be where it is. -/
structure InFlight.Sensible (c : InFlight) : Prop where
  served : c.served = true → c.mayBeServed = true
  unload : ∀ k, c.call = .unload k → c.stage.ofUnload = true

/-- Between the registry and the answer, a call holds all permits or none. -/
def betweenTurns : Stage → Bool
  | .sending _ | .waiting _ | .replied _ => true
  | _ => false

theorem permits_between {c d : InFlight} (hcall : d.call = c.call)
    (hd : betweenTurns d.stage = true) (hc : betweenTurns c.stage = true) :
    d.permits = c.permits := by
  have hregistry {e : InFlight} (he : betweenTurns e.stage = true) : e.atRegistry = false := by
    unfold betweenTurns at he
    split at he <;> simp_all [InFlight.atRegistry]
  have hunloads : d.unloads = c.unloads := by
    unfold betweenTurns at hd hc
    unfold InFlight.unloads
    rw [hcall]
    -- only an unload holds permits past the registry, and it does so in all three stages
    cases c.call <;> (split at hd <;> split at hc <;> simp_all)
  simp [InFlight.permits, hunloads, hregistry hd, hregistry hc]

/-! ### The queues of an actor -/

/-- The queues of an actor hold calls that are at this point, with the commands of these calls. -/
structure Box.InOrder (calls : List InFlight) (n : Nat) (b : Box) : Prop where
  places : Queued calls (b.places.waiting.map Prod.fst) fun c => c.stage = .sending n ∧
      c.served = false
  mailbox : Queued calls (b.mailbox.map Prod.fst) fun c => c.stage = .waiting n
  commands : ∀ e ∈ b.mailbox, ∀ c, calls[e.1]? = some c → ∃ k, c.call.target = some (k, e.2)

namespace Box.InOrder

variable {calls : List InFlight} {n i : Nat} {b : Box} {c : InFlight}

/-- A call that is in neither queue may be elsewhere. -/
theorem modify (h : b.InOrder calls n) (hplaces : i ∉ b.places.waiting.map Prod.fst)
    (hmailbox : i ∉ b.mailbox.map Prod.fst) (g : InFlight → InFlight) :
    b.InOrder (calls.modify i g) n where
  places := h.places.modify hplaces g
  mailbox := h.mailbox.modify hmailbox g
  commands e he d hd := by
    have hei : e.1 ≠ i := by
      rintro rfl
      exact hmailbox (List.mem_map_of_mem he)
    rw [getElem?_modify_ne hei] at hd
    exact h.commands e he d hd

/-- Calls that have been served elsewhere. -/
theorem afterServing {ids : List Nat} (h : b.InOrder calls n)
    (hids : ∀ i ∈ ids, i ∉ b.places.waiting.map Prod.fst) :
    b.InOrder (servedAll calls ids) n where
  places := h.places.afterServing hids
  mailbox := by
    refine ⟨h.mailbox.nodup, ?_⟩
    intro j hj
    obtain ⟨d, hd, hstage⟩ := h.mailbox.placed j hj
    exact ⟨{ d with served := d.served || decide (j ∈ ids) },
      by rw [getElem?_servedAll, hd, Option.map_some], hstage⟩
  commands e he d hd := by
    rw [getElem?_servedAll, Option.map_eq_some_iff] at hd
    obtain ⟨d', hd', rfl⟩ := hd
    exact h.commands e he d' hd'

end Box.InOrder

/-! ### The order -/

/-- Calls, actors and the lock of the registry fit together. The call that has its turn has `inHand`
    permits of its own. -/
structure Orderly (lock : Permits) (boxes : List Box) (calls : List InFlight) (inHand : Nat) :
    Prop where
  account : account lock calls + inHand ≤ registryReaders
  queue : Queued calls (lock.waiting.map Prod.fst) fun c => c.atRegistry = true ∧ c.served = false
  boxes : ∀ (n : Nat) (b : Box), boxes[n]? = some b → b.session.isSome → b.InOrder calls n
  sensible : ∀ (i : Nat) (c : InFlight), calls[i]? = some c → c.Sensible

/-- The call is in no queue. -/
structure Unqueued (lock : Permits) (boxes : List Box) (i : Nat) : Prop where
  queue : i ∉ lock.waiting.map Prod.fst
  boxes : ∀ (n : Nat) (b : Box), boxes[n]? = some b → b.session.isSome →
    i ∉ b.places.waiting.map Prod.fst ∧ i ∉ b.mailbox.map Prod.fst

namespace Orderly

variable {lock : Permits} {boxes : List Box} {calls : List InFlight} {inHand i n : Nat}
    {c : InFlight} {b : Box}

theorem unqueued (h : Orderly lock boxes calls inHand) (hc : calls[i]? = some c)
    (hregistry : ¬ (c.atRegistry = true ∧ c.served = false))
    (hsending : ∀ n, ¬ (c.stage = .sending n ∧ c.served = false))
    (hwaiting : ∀ n, c.stage ≠ .waiting n) : Unqueued lock boxes i where
  queue := h.queue.not_mem hc hregistry
  boxes n _ hb hlive := by
    have hbox := h.boxes n _ hb hlive
    exact ⟨hbox.places.not_mem hc (hsending n), hbox.mailbox.not_mem hc (hwaiting n)⟩

/-- A call that is in no queue may be elsewhere, if it can be there and has the permits
    that it holds there. -/
theorem modify {inHand' : Nat} {g : InFlight → InFlight} (h : Orderly lock boxes calls inHand)
    (hi : Unqueued lock boxes i) (hc : calls[i]? = some c) (hg : (g c).Sensible)
    (hhand : inHand' + (g c).permits ≤ inHand + c.permits) :
    Orderly lock boxes (calls.modify i g) inHand' where
  account := by
    have hheld := held_modify (g := g) hc
    have hkept : kept (calls.modify i g) lock.waiting = kept calls lock.waiting :=
      kept_modify hi.queue
    have haccount := h.account
    unfold Live.account at haccount ⊢
    omega
  queue := h.queue.modify hi.queue g
  boxes n b hb hlive :=
    (h.boxes n b hb hlive).modify (hi.boxes n b hb hlive).1 (hi.boxes n b hb hlive).2 g
  sensible j d hd := by
    by_cases hj : j = i
    · rw [hj, getElem?_modify_self hc] at hd
      cases hd
      exact hg
    · rw [getElem?_modify_ne hj] at hd
      exact h.sensible j d hd

/-- An actor may change, if its queues are in order. -/
theorem setBox (h : Orderly lock boxes calls inHand) (hb : b.session.isSome → b.InOrder calls n) :
    Orderly lock (boxes.set n b) calls inHand where
  account := h.account
  queue := h.queue
  boxes m d hd hlive := by
    rw [List.getElem?_set] at hd
    split at hd
    · rename_i hm
      split at hd
      · cases hd
        exact hm ▸ hb hlive
      · cases hd
    · exact h.boxes m d hd hlive
  sensible := h.sensible

/-- A new actor has nobody in its queues. -/
theorem append (h : Orderly lock boxes calls inHand) (hplaces : b.places.waiting = [])
    (hmailbox : b.mailbox = []) :
    Orderly lock (boxes ++ [b]) calls inHand where
  account := h.account
  queue := h.queue
  boxes m d hd hlive := by
    by_cases hm : m < boxes.length
    · rw [List.getElem?_append_left hm] at hd
      exact h.boxes m d hd hlive
    · rw [List.getElem?_append_right (Nat.le_of_not_lt hm)] at hd
      obtain ⟨-, rfl⟩ : _ ∧ b = d := by simpa [List.getElem?_singleton] using hd
      -- the new actor itself: all three queues are empty
      refine ⟨?_, ?_, ?_⟩
      · rw [hplaces]
        exact .nil ..
      · rw [hmailbox]
        exact .nil ..
      · rw [hmailbox]
        simp
  sensible := h.sensible

/-- Permits that are put back serve those who wait. -/
theorem release (h : Orderly lock boxes calls n) :
    Orderly (lock.release n).1 boxes (servedAll calls (lock.release n).2) 0 where
  account := by
    have hhand := account_hand (n := lock.free + n) h.queue
    have haccount := h.account
    unfold Live.account at haccount
    unfold Permits.release
    omega
  queue := h.queue.handed
  boxes m b hb hlive := by
    refine (h.boxes m b hb hlive).afterServing ?_
    intro i hi
    -- who is served waited for the registry
    obtain ⟨d, hd, hregistry, -⟩ := h.queue.served hi
    refine (h.boxes m b hb hlive).places.not_mem hd ?_
    rintro ⟨hstage, -⟩
    simp [InFlight.atRegistry, hstage] at hregistry
  sensible i d hd := by
    rw [getElem?_servedAll, Option.map_eq_some_iff] at hd
    obtain ⟨c, hc, rfl⟩ := hd
    refine ⟨?_, (h.sensible i c hc).unload⟩
    intro hserved
    rcases Bool.or_eq_true_iff.1 hserved with hserved | hserved
    · exact (h.sensible i c hc).served hserved
    · obtain ⟨d, hd, hregistry, -⟩ := h.queue.served (of_decide_eq_true hserved)
      cases hc.symm.trans hd
      simp only [InFlight.mayBeServed, Bool.or_eq_true_iff]
      exact .inl hregistry

/-- Who finds too few permits free waits for the rest, and keeps what there was. -/
theorem enqueue (h : Orderly lock boxes calls 0) (hc : calls[i]? = some c)
    (hregistry : c.atRegistry = true) (hserved : c.served = false)
    (hi : i ∉ lock.waiting.map Prod.fst) (hfree : lock.free < c.share) :
    Orderly { free := 0, waiting := lock.waiting ++ [(i, c.share - lock.free)] } boxes calls 0 where
  account := by
    have hkept : kept calls (lock.waiting ++ [(i, c.share - lock.free)]) = kept calls lock.waiting +
        lock.free := by
      -- all that was free is kept for it from now on
      have hneed : need calls i = c.share := by simp [need, hc]
      rw [kept_concat, hneed]
      omega
    have haccount := h.account
    simp only [Live.account, hkept] at haccount ⊢
    omega
  queue := by
    rw [List.map_append]
    exact h.queue.append hi hc ⟨hregistry, hserved⟩
  boxes := h.boxes
  sensible := h.sensible

/-- When a command leaves a mailbox, who waited for its place is served. -/
theorem leave {key : String} {x : Session} {e : Nat × Command} {left : List (Nat × Command)}
    {places : Permits} (h : Orderly lock boxes calls 0)
    (hb : boxes[n]? = some ⟨key, some x, e :: left, places⟩)
    (hleft : b.session.isSome → b.mailbox = left ∧ b.places = (places.release 1).1) :
    Orderly lock (boxes.set n b) (servedAll calls (places.release 1).2) 0 := by
  have hbox := h.boxes n _ hb rfl
  have hserved {j : Nat} (hj : j ∈ (places.release 1).2) : ∃ c, calls[j]? = some c ∧
      c.stage = .sending n ∧ c.served = false :=
    hbox.places.served hj
  -- who is served here waited for a place, so it holds nothing of the registry
  have hregistry : ∀ j ∈ (places.release 1).2, ∀ c, calls[j]? = some c → c.atRegistry = false := by
    intro j hj c hc
    obtain ⟨c', hc', hstage, -⟩ := hserved hj
    cases hc.symm.trans hc'
    simp [InFlight.atRegistry, hstage]
  refine ⟨?_, ?_, ?_, ?_⟩
  -- the account: serving places moves no permits
  · have hkept :
        kept (servedAll calls (places.release 1).2) lock.waiting = kept calls lock.waiting :=
      kept_congr fun w _ => need_servedAll _ w.1
    have haccount := h.account
    simp only [Live.account, held_servedAll hregistry, hkept] at haccount ⊢
    exact haccount
  -- the queue of the registry
  · refine h.queue.afterServing ?_
    intro j hj
    obtain ⟨c, hc, -, -⟩ := hserved hj
    exact h.queue.not_mem hc (by simp [hregistry j hj c hc])
  -- the actors: the one whose mailbox has moved up, and the others
  · intro m d hd hlive
    rw [List.getElem?_set] at hd
    split at hd
    -- this actor
    · rename_i hm
      split at hd
      · cases hd
        subst hm
        obtain ⟨hmailbox, hplaces⟩ := hleft hlive
        refine ⟨?_, ?_, ?_⟩
        · rw [hplaces]
          exact hbox.places.handed
        · rw [hmailbox]
          refine hbox.mailbox.tail.2.afterServing ?_
          intro j hj
          obtain ⟨c, hc, hstage, -⟩ := hserved hj
          exact hbox.mailbox.tail.2.not_mem hc (by simp [hstage])
        · rw [hmailbox]
          intro e' he' c hc
          rw [getElem?_servedAll, Option.map_eq_some_iff] at hc
          obtain ⟨c', hc', rfl⟩ := hc
          exact hbox.commands e' (List.mem_cons_of_mem e he') c' hc'
      · cases hd
    -- another actor, for which nobody waits who is served here
    · rename_i hm
      refine (h.boxes m d hd hlive).afterServing ?_
      intro j hj
      obtain ⟨c, hc, hstage, -⟩ := hserved hj
      refine (h.boxes m d hd hlive).places.not_mem hc ?_
      rintro ⟨hsame, -⟩
      exact hm (by simpa [hstage] using hsame)
  -- each call is still where it can be
  · intro j d hd
    rw [getElem?_servedAll, Option.map_eq_some_iff] at hd
    obtain ⟨c, hc, rfl⟩ := hd
    refine ⟨?_, (h.sensible j c hc).unload⟩
    intro hnow
    rcases Bool.or_eq_true_iff.1 hnow with hbefore | hmem
    · exact (h.sensible j c hc).served hbefore
    · obtain ⟨c', hc', hstage, -⟩ := hserved (of_decide_eq_true hmem)
      cases hc.symm.trans hc'
      simp [InFlight.mayBeServed, hstage]

/-- A call that waits for an answer, and is in no queue any more, gets one. -/
theorem reply {a : Answer} (h : Orderly lock boxes calls 0) (hi : Unqueued lock boxes i)
    (hc : calls[i]? = some c) (hstage : c.stage = .waiting n) :
    Orderly lock boxes (calls.modify i (·.to (.replied a))) 0 := by
  refine h.modify hi hc ⟨?_, fun _ _ => rfl⟩ ?_
  · intro hserved
    have hmay := (h.sensible i c hc).served hserved
    simp [InFlight.mayBeServed, InFlight.atRegistry, hstage] at hmay
  · have hpermits : (c.to (.replied a)).permits = c.permits :=
      permits_between rfl rfl (by rw [hstage]; rfl)
    omega

/-- So do all whose commands are left when an actor stops. -/
theorem refuseAll {key : String} {left : List (Nat × Command)} (h : Orderly lock boxes calls 0)
    (hleft : Queued calls (left.map Prod.fst) fun c => c.stage = .waiting n)
    (hunqueued : ∀ i ∈ left.map Prod.fst, Unqueued lock boxes i) :
    Orderly lock boxes (refusedAll key calls left) 0 := by
  -- each reply leaves the rest of the commands queued, with one fewer
  induction left generalizing calls with
  | nil => exact h
  | cons e left ih =>
    obtain ⟨hnot, htail⟩ := hleft.tail
    obtain ⟨c, hc, hstage⟩ := hleft.placed e.1 (by simp)
    have hreplied :=
      h.reply (a := .error (.conversationClosed key)) (hunqueued e.1 (by simp)) hc hstage
    exact ih hreplied (htail.modify hnot _) fun i hi => hunqueued i (List.mem_cons_of_mem e.1 hi)

/-- A call that waits for an answer of an actor is in no queue but the mailbox of this actor. -/
theorem unqueued_waiting (h : Orderly lock boxes calls inHand) (hc : calls[i]? = some c)
    (hstage : c.stage = .waiting n)
    (hn : ∀ b, boxes[n]? = some b → b.session.isSome → i ∉ b.mailbox.map Prod.fst) :
    Unqueued lock boxes i where
  queue := h.queue.not_mem hc (by simp [InFlight.atRegistry, hstage])
  boxes m d hd hlive := by
    refine ⟨(h.boxes m d hd hlive).places.not_mem hc (by simp [hstage]), ?_⟩
    by_cases hm : m = n
    · subst hm
      exact hn d hd hlive
    · exact (h.boxes m d hd hlive).mailbox.not_mem hc (by simpa [hstage] using Ne.symm hm)

/-- Who is about to put a command in a mailbox is in no queue, if it does not wait for a place. -/
theorem unqueued_sending (h : Orderly lock boxes calls inHand) (hc : calls[i]? = some c)
    (hstage : c.stage = .sending n)
    (hn : ∀ b, boxes[n]? = some b → b.session.isSome →
      c.served = true ∨ i ∉ b.places.waiting.map Prod.fst) :
    Unqueued lock boxes i where
  queue := h.queue.not_mem hc (by simp [InFlight.atRegistry, hstage])
  boxes m d hd hlive := by
    refine ⟨?_, (h.boxes m d hd hlive).mailbox.not_mem hc (by simp [hstage])⟩
    intro hmem
    -- who waits for a place waits for one of its own actor, and has not been served
    obtain ⟨c', hc', hsending, hserved⟩ := (h.boxes m d hd hlive).places.placed i hmem
    cases hc.symm.trans hc'
    obtain rfl : n = m := by simpa [hstage] using hsending
    rcases hn d hd hlive with hnow | hout
    · simp [hserved] at hnow
    · exact hout hmem

/-- A call that has a place puts its command in the mailbox, and waits for the answer. -/
theorem mail {k : String} {command : Command} {places : Permits}
    (h : Orderly lock boxes calls 0) (hi : Unqueued lock boxes i) (hc : calls[i]? = some c)
    (hstage : c.stage = .sending n) (hb : boxes[n]? = some b) (hlive : b.session.isSome)
    (htarget : c.call.target = some (k, command)) (hplaces : places.waiting = b.places.waiting) :
    Orderly lock (boxes.set n { b with places, mailbox := b.mailbox ++ [(i, command)] })
      (calls.modify i fun c => { c with served := false, stage := .waiting n, paused := false })
      0 := by
  have hpermits :
      InFlight.permits { c with served := false, stage := .waiting n, paused := false } =
      c.permits :=
    permits_between rfl rfl (by rw [hstage]; rfl)
  -- first the call moves on, then its command is put in the mailbox
  have hmoved :
      Orderly lock boxes (calls.modify i fun c =>
        { c with served := false, stage := .waiting n, paused := false }) 0 :=
    h.modify hi hc ⟨by rintro ⟨⟩, fun _ _ => rfl⟩ (by rw [hpermits])
  have hbox := hmoved.boxes n b hb hlive
  refine hmoved.setBox fun _ => ⟨?_, ?_, ?_⟩
  · rw [hplaces]
    exact hbox.places
  · rw [List.map_append]
    exact hbox.mailbox.append (hi.boxes n b hb hlive).2 (getElem?_modify_self hc) rfl
  · intro e he d hd
    rcases List.mem_append.1 he with he | he
    · exact hbox.commands e he d hd
    · obtain rfl := List.mem_singleton.1 he
      rw [getElem?_modify_self hc] at hd
      cases hd
      exact ⟨k, htarget⟩

/-! ### Who unloads is alone -/

/-- While a call unloads a conversation, nobody else has permits. -/
theorem alone (h : Orderly lock boxes calls inHand) (hc : calls[i]? = some c)
    (hunloads : c.unloads = true) :
    inHand = 0 ∧ ∀ j d, j ≠ i → calls[j]? = some d → d.unloads = false := by
  have hpermits {d : InFlight} (hd : d.unloads = true) : d.permits = registryReaders := by
    simp [InFlight.permits, hd]
  have hreaders : 0 < registryReaders := by decide
  have haccount := h.account
  unfold Live.account at haccount
  refine ⟨?_, ?_⟩
  -- the permits of an unload are all there are, so none are left in hand
  · have hheld := permits_le_held hc
    rw [hpermits hunloads] at hheld
    omega
  -- two unloads would hold twice as many
  · intro j d hj hd
    cases hother : d.unloads with
    | false => rfl
    | true =>
      have hheld := permits_add_le_held hj hc hd
      rw [hpermits hunloads, hpermits hother] at hheld
      omega

end Orderly

namespace Floor

variable {f f' g : Floor} {i n : Nat} {c : InFlight}

/-! ### Steps of calls -/

/-- What goes on by itself is in no queue, and has not been served unless it is answered. -/
theorem Leads.alone {s : Stage} {definitions : Dict Machine} (h : f.Leads c s definitions)
    (hc : c.Sensible) (hunloads : c.unloads = false) :
    c.atRegistry = false ∧ (∀ n, c.stage ≠ .sending n ∧ c.stage ≠ .waiting n) ∧
      (∀ k, c.call ≠ .unload k) ∧ (c.served = false ∨ ∃ a, s = .answered a) := by
  have hserved (hm : c.mayBeServed = false) : c.served = false := by
    cases hs : c.served with
    | false => rfl
    | true => exact absurd (hc.served hs) (by simp [hm])
  have hunload (hs : c.stage.ofUnload = false) (k : String) : c.call ≠ .unload k := by
    intro hk
    simp [hc.unload k hk] at hs
  -- no stage a call leaves by itself is a queue; only the last one may have been served
  cases h with
  | shown hcall hstage =>
    refine ⟨by simp [InFlight.atRegistry, hstage, hcall], by simp [hstage], by simp [hcall],
      .inl (hserved ?_)⟩
    simp [InFlight.mayBeServed, InFlight.atRegistry, hstage, hcall]
  | loaded hstage _ | cached hstage _ | missed hstage | fetched hstage _ | refused hstage
  | late hstage _ | kept hstage =>
    refine ⟨by simp [InFlight.atRegistry, hstage], by simp [hstage],
      hunload (by simp [hstage, Stage.ofUnload]), .inl (hserved ?_)⟩
    simp [InFlight.mayBeServed, InFlight.atRegistry, hstage]
  | closing hcall hstage hcloses =>
    refine ⟨by simp [InFlight.atRegistry, hstage], by simp [hstage], by simp [hcall],
      .inl (hserved ?_)⟩
    simp [InFlight.mayBeServed, InFlight.atRegistry, hstage, hcloses]
  | received hstage =>
    refine ⟨by simp [InFlight.atRegistry, hstage], by simp [hstage], ?_, .inr ⟨_, rfl⟩⟩
    intro k hk
    simp [InFlight.unloads, hk, hstage] at hunloads

theorem unloads_answered (c : InFlight) (a : Answer) : (c.to (.answered a)).unloads = false := by
  unfold InFlight.unloads
  split <;> simp_all [InFlight.to]

/-- A call that has been answered holds no permits, and neither does one that has not been
    served and does not unload. -/
theorem permits_to {s : Stage}
    (h : (∃ a, s = .answered a) ∨ (∀ k, c.call ≠ .unload k) ∧ c.served = false) :
    (c.to s).permits = 0 := by
  rcases h with ⟨a, rfl⟩ | ⟨hcall, hserved⟩
  · have hregistry : (c.to (.answered a)).atRegistry = false := rfl
    simp [InFlight.permits, unloads_answered, hregistry]
  · have hunloads : (c.to s).unloads = false := InFlight.unloads_of_call hcall
    have hserved : (c.to s).served = false := hserved
    simp [InFlight.permits, hunloads, hserved]

theorem Granted.orderly (h : Orderly f.lock f.boxes f.calls 0) (hc : f.calls[i]? = some c)
    (hregistry : c.atRegistry = true) (hg : f.Granted i c g) :
    Orderly g.lock g.boxes g.calls c.share ∧ Unqueued g.lock g.boxes i ∧
      g.calls[i]? = some { c with served := false } := by
  have hsending (n : Nat) : c.stage ≠ .sending n := by
    intro hn
    simp [InFlight.atRegistry, hn] at hregistry
  have hwaiting (n : Nat) : c.stage ≠ .waiting n := by
    intro hn
    simp [InFlight.atRegistry, hn] at hregistry
  cases hg with
  -- the permits were handed over in the queue: they pass from the call to its hand
  | served hserved =>
    have hunqueued := h.unqueued hc (by simp [hserved]) (fun n hn => hsending n hn.1) hwaiting
    refine ⟨h.modify hunqueued hc ⟨by simp, (h.sensible i c hc).unload⟩ ?_, hunqueued,
      getElem?_modify_self hc⟩
    rw [InFlight.permits_served hregistry hserved,
      InFlight.permits_unserved (c := { c with served := false }) hregistry rfl]
    omega
  -- the permits were free: they pass from the lock to its hand
  | taken hserved hi hfree =>
    refine ⟨⟨?_, h.queue, h.boxes, h.sensible⟩, ⟨hi, ?_⟩, ?_⟩
    · have haccount := h.account
      simp only [account] at haccount ⊢
      omega
    · intro m b hb hlive
      exact ⟨(h.boxes m b hb hlive).places.not_mem hc fun hn => hsending m hn.1,
        (h.boxes m b hb hlive).mailbox.not_mem hc (hwaiting m)⟩
    · rw [hc]
      obtain ⟨call, stage, served, paused⟩ := c
      cases hserved
      rfl

/-- Where a call has its share of the registry, nobody unloads a conversation. -/
theorem Granted.nobody_unloads (h : Orderly f.lock f.boxes f.calls 0) (hc : f.calls[i]? = some c)
    (hregistry : c.atRegistry = true) (hg : f.Granted i c g) {j : Nat} {d : InFlight}
    (hd : g.calls[j]? = some d) :
    d.unloads = false := by
  cases hunloads : d.unloads with
  | false => rfl
  | true =>
    have hshare := ((hg.orderly h hc hregistry).1.alone hd hunloads).1
    exact absurd hshare (Nat.ne_of_gt c.share_pos)

/-- The share is put back when the call holds none where it goes. -/
theorem released_orderly {s : Stage} (ready : List Turn)
    (h : Orderly g.lock g.boxes g.calls c.share) (hi : Unqueued g.lock g.boxes i)
    (hc : g.calls[i]? = some { c with served := false })
    (hcall : (∀ k, c.call ≠ .unload k) ∨ ∃ a, s = .answered a) :
    Orderly (g.released i c s ready).lock g.boxes (g.released i c s ready).calls 0 := by
  have hmoved : Orderly g.lock g.boxes (g.calls.modify i (·.to s)) c.share := by
    refine h.modify hi hc ⟨by rintro ⟨⟩, ?_⟩ ?_
    · intro k hk
      rcases hcall with hcall | ⟨a, rfl⟩
      · exact absurd hk (hcall k)
      · rfl
    · rw [permits_to (c := { c with served := false })
        (hcall.symm.imp_right fun hcall => ⟨hcall, rfl⟩)]
      omega
  exact hmoved.release

theorem Entered.orderly (h : Orderly g.lock g.boxes g.calls c.share)
    (hi : Unqueued g.lock g.boxes i) (hc : g.calls[i]? = some { c with served := false })
    (hsensible : c.Sensible) (he : g.Entered i c f') :
    Orderly f'.lock f'.boxes f'.calls 0 := by
  have hnotUnload (hs : c.stage.ofUnload = false) (k : String) : c.call ≠ .unload k := by
    intro hk
    simp [hsensible.unload k hk] at hs
  cases he with
  -- an unload keeps its share until the actor has stopped
  | @unloading k n hcall hstage hn =>
    have hshare : c.share = registryReaders := by rw [InFlight.share, hcall, hstage]; rfl
    refine h.modify hi hc ⟨by rintro ⟨⟩, fun k hk => rfl⟩ ?_
    have hpermits :
        (InFlight.to { c with served := false } (.sending n)).permits = registryReaders := by
      simp [InFlight.permits, InFlight.unloads, InFlight.to, hcall]
    omega
  -- all others put it back before they leave
  | passing hpass =>
    refine released_orderly _ h hi hc ?_
    cases hpass with
    | absent | counted | tooLarge => exact .inr ⟨_, rfl⟩
    | found hcall | missing hcall => exact .inl hcall
    | there hstage => exact .inl (hnotUnload (by simp [hstage, Stage.ofUnload]))
  | @registering x places ready hstage hnone hplaces =>
    have hreleased := released_orderly (s := .sending g.boxes.length) ready h hi hc
      (.inl (hnotUnload (by simp [hstage, Stage.ofUnload])))
    exact hreleased.append hplaces rfl
  | @leaving a ready hstage => exact released_orderly ready h hi hc (.inr ⟨a, rfl⟩)

theorem Stepped.orderly (h : Orderly f.lock f.boxes f.calls 0) (hc : f.calls[i]? = some c)
    (hs : f.Stepped i c f') :
    Orderly f'.lock f'.boxes f'.calls 0 := by
  have hsensible := h.sensible i c hc
  cases hs with
  | resting => exact h
  | @moving s _ _ hunloads _ hleads =>
    obtain ⟨hregistry, hstage, hcall, hserved⟩ := hleads.alone hsensible hunloads
    have hunqueued :=
      h.unqueued hc (by simp [hregistry]) (fun n hn => (hstage n).1 hn.1) (fun n => (hstage n).2)
    -- only an answer is reached with the mark of having been served
    refine h.modify hunqueued hc ⟨?_, fun k hk => absurd hk (hcall k)⟩ ?_
    · intro hs
      rcases hserved with hserved | ⟨a, rfl⟩
      · have hfalse : c.served = true := hs
        simp [hserved] at hfalse
      · rfl
    · rw [permits_to (hserved.symm.imp_right fun hserved => ⟨hcall, hserved⟩)]
      omega
  | queueing hregistry hserved hi hfree => exact h.enqueue hc hregistry hserved hi hfree
  | entering hregistry hgranted hentered =>
    obtain ⟨hg, hi, hcg⟩ := hgranted.orderly h hc hregistry
    exact hentered.orderly hg hi hcg hsensible
  -- the mailbox was closed while the call waited for a place
  | @refused n b hstage hb hnone =>
    have hunqueued : Unqueued f.lock f.boxes i := by
      refine h.unqueued_sending hc hstage ?_
      intro d hd hlive
      cases hb.symm.trans hd
      simp [hnone] at hlive
    refine h.modify hunqueued hc ⟨fun _ => by rfl, fun _ _ => rfl⟩ ?_
    have hpermits : (c.to (.replied (.error (.conversationClosed b.key)))).permits = c.permits :=
      permits_between rfl rfl (by rw [hstage]; rfl)
    omega
  -- the place is the next one free, or was kept for the call
  | @sending n b k command places ready hstage hb hlive htarget hplace hplaces =>
    have hunqueued : Unqueued f.lock f.boxes i := by
      refine h.unqueued_sending hc hstage ?_
      intro d hd _
      cases hb.symm.trans hd
      exact hplace
    exact h.mail hunqueued hc hstage hb hlive htarget hplaces
  | @waiting n b lacked hstage hb hlive hserved hi =>
    refine h.setBox fun _ => ⟨?_, (h.boxes n b hb hlive).mailbox, (h.boxes n b hb hlive).commands⟩
    rw [List.map_append]
    exact (h.boxes n b hb hlive).places.append hi hc ⟨hstage, hserved⟩
  | @unlocking k a ready hcall hstage =>
    have hunqueued :=
      h.unqueued hc (by simp [InFlight.atRegistry, hstage]) (by simp [hstage]) (by simp [hstage])
    refine (h.modify hunqueued hc ⟨fun _ => rfl, fun _ _ => rfl⟩ ?_).release
    have hpermits : c.permits = registryReaders := by
      simp [InFlight.permits, InFlight.unloads, hcall, hstage]
    rw [permits_to (.inl ⟨_, rfl⟩)]
    omega

/-! ### Steps of actors -/

/-- Whose command is in the mailbox waits for the answer, also when others have been served. -/
theorem waits_servedAll {key : String} {x : Session} {mailbox : List (Nat × Command)}
    {places : Permits} (h : Orderly f.lock f.boxes f.calls 0)
    (hb : f.boxes[n]? = some ⟨key, some x, mailbox, places⟩) :
    ∀ i ∈ mailbox.map Prod.fst, ∃ c, (servedAll f.calls (places.release 1).2)[i]? = some c ∧
      c.stage = .waiting n := by
  intro i hi
  obtain ⟨c, hc, hstage⟩ := (h.boxes n _ hb rfl).mailbox.placed i hi
  exact ⟨{ c with served := c.served || decide (i ∈ (places.release 1).2) },
    by rw [getElem?_servedAll, hc]; rfl, hstage⟩

/-- Whose command is left when another has been answered still waits. -/
theorem left_waiting {key : String} {x : Session} {command : Command} {left : List (Nat × Command)}
    {places : Permits} {a : Answer} (h : Orderly f.lock f.boxes f.calls 0)
    (hb : f.boxes[n]? = some ⟨key, some x, (i, command) :: left, places⟩) :
    Queued (answeredOne f.calls i places a) (left.map Prod.fst) fun c => c.stage = .waiting n := by
  obtain ⟨hnot, htail⟩ := (h.boxes n _ hb rfl).mailbox.tail
  refine Queued.modify ⟨htail.nodup, ?_⟩ hnot _
  intro j hj
  exact waits_servedAll h hb j (List.mem_cons_of_mem i hj)

theorem getElem?_set_box {b b' : Box} (hb : f.boxes[n]? = some b) :
    (f.boxes.set n b')[n]? = some b' :=
  List.getElem?_set_self (List.getElem?_eq_some_iff.1 hb).1

theorem Worked.orderly (h : Orderly f.lock f.boxes f.calls 0) (hw : f.Worked n f') :
    Orderly f'.lock f'.boxes f'.calls 0 := by
  cases hw with
  | resting => exact h
  | @goingOn key x y i command left places stores a ready hb hhandle =>
    have hleft := h.leave (b := ⟨key, some y, left, (places.release 1).1⟩) hb fun _ => ⟨rfl, rfl⟩
    obtain ⟨c, hc, hstage⟩ := waits_servedAll h hb i List.mem_cons_self
    -- it stood first in the mailbox, and stands nowhere else
    have hunqueued :
        Unqueued f.lock (f.boxes.set n ⟨key, some y, left, (places.release 1).1⟩) i := by
      refine hleft.unqueued_waiting hc hstage ?_
      intro b hset _
      rw [getElem?_set_box hb] at hset
      cases hset
      exact (h.boxes n _ hb rfl).mailbox.tail.1
    exact hleft.reply hunqueued hc hstage
  | @ending key x i command left places stores r a ready hb hhandle hr =>
    have hleft := h.leave (b := ⟨key, none, [], { free := 0 }⟩) hb (by simp)
    -- an actor that has stopped has no queues
    have hunqueued {calls : List InFlight} {j : Nat} {c : InFlight}
        (h : Orderly f.lock (f.boxes.set n ⟨key, none, [], { free := 0 }⟩) calls 0)
        (hc : calls[j]? = some c) (hstage : c.stage = .waiting n) :
        Unqueued f.lock (f.boxes.set n ⟨key, none, [], { free := 0 }⟩) j := by
      refine h.unqueued_waiting hc hstage ?_
      intro b hset hlive
      rw [getElem?_set_box hb] at hset
      cases hset
      cases hlive
    obtain ⟨c, hc, hstage⟩ := waits_servedAll h hb i List.mem_cons_self
    have hreplied := hleft.reply (a := a) (hunqueued hleft hc hstage) hc hstage
    have hwaiting : Queued (answeredOne f.calls i places a) (left.map Prod.fst) fun c =>
        c.stage = .waiting n :=
      left_waiting h hb
    -- the caller has its answer; the rest learn that the conversation is closed
    refine hreplied.refuseAll hwaiting ?_
    intro j hj
    obtain ⟨c', hc', hstage'⟩ := hwaiting.placed j hj
    exact hunqueued hreplied hc' hstage'

/-- The state of the floor is in order. -/
def InOrder (f : Floor) : Prop := Orderly f.lock f.boxes f.calls 0

theorem stepCall_of_none (hc : f.calls[i]? = none) : f.stepCall i = f := by rw [Floor.stepCall, hc]

theorem InOrder.stepCall (h : f.InOrder) (i : Nat) : (f.stepCall i).InOrder := by
  cases hc : f.calls[i]? with
  | some c => exact (stepCall_stepped hc).orderly h hc
  | none =>
    rw [stepCall_of_none hc]
    exact h

theorem InOrder.stepActor (h : f.InOrder) (n : Nat) : (f.stepActor n).InOrder :=
  (stepActor_worked n).orderly h

end Floor
end Dialogue.Live
