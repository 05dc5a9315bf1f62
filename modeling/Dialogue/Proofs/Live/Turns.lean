import Dialogue.Proofs.Live.Calls
import Dialogue.Proofs.Live.Permits

/-! # What one turn can do

    `Floor.Stepped` lists all that a step of a call comes to, and `Floor.Worked` all that an actor's
    does, each with the guards under which it happens. Invariants of calls that meet are proved from
    these, not from the steps. -/

namespace Dialogue.Live

open Time Dialogue.Flow Conversation StateMachine Memory

/-- The call in another stage. -/
def InFlight.to (c : InFlight) (s : Stage) : InFlight := { c with stage := s, paused := false }

/-- The calls when those of a mailbox have learned that the conversation is closed. -/
def refusedAll (key : String) (calls : List InFlight) (left : List (Nat × Command)) :
    List InFlight :=
  left.foldl (fun calls e => calls.modify e.1 (·.to (.replied (.error (.conversationClosed key)))))
    calls

namespace Floor

variable (f : Floor)

/-! ### What the parts of a step change -/

theorem wake_eq (t : Turn) : ∃ ready, f.wake t = { f with ready } := by
  unfold wake
  split
  · exact ⟨f.ready, rfl⟩
  · exact ⟨_, rfl⟩

theorem serve_eq (ids : List Nat) :
    ∃ ready, f.serve ids = { f with calls := servedAll f.calls ids, ready } := by
  -- the floor changes on the way, so it is generalized
  induction ids generalizing f with
  | nil => exact ⟨f.ready, rfl⟩
  | cons i ids ih =>
    obtain ⟨ready, hwake⟩ := (f.setServed i true).wake_eq (.call i)
    obtain ⟨ready', hserve⟩ := ih ((f.setServed i true).wake (.call i))
    have hstep : f.serve (i :: ids) = ((f.setServed i true).wake (.call i)).serve ids := rfl
    refine ⟨ready', ?_⟩
    rw [hstep, hserve, hwake]
    rfl

theorem release_eq (n : Nat) :
    ∃ ready, f.release n =
    { f with lock := (f.lock.release n).1, calls := servedAll f.calls (f.lock.release n).2,
             ready } := by
  obtain ⟨ready, h⟩ :=
    ({ f with lock := (f.lock.release n).1 } : Floor).serve_eq (f.lock.release n).2
  exact ⟨ready, h⟩

theorem reply_eq (i : Nat) (a : Answer) :
    ∃ ready, f.reply i a = { f with calls := f.calls.modify i (·.to (.replied a)), ready } :=
  (f.setStage i (.replied a)).wake_eq (.call i)

theorem put_eq (i n : Nat) (b : Box) (command : Command) : ∃ ready, f.put i n b command =
    { f with boxes := f.boxes.set n { b with mailbox := b.mailbox ++ [(i, command)] }
             calls := f.calls.modify i (·.to (.waiting n)), ready } :=
  ((f.setBox n { b with mailbox := b.mailbox ++ [(i, command)] }).setStage i (.waiting n)).wake_eq
    (.actor n)

theorem close_eq (n : Nat) (b : Box) (left : List (Nat × Command)) :
    ∃ ready, f.close n b left =
    { f with boxes := f.boxes.set n { b with session := none, mailbox := [],
                                             places := { free := 0 } }
             calls := refusedAll b.key f.calls left, ready } := by
  -- waking changes nothing but whose turn it is
  have hwoken : ∀ (ws : List (Nat × Nat)) (g : Floor), ∃ ready,
      ws.foldl (fun f w => f.wake (.call w.1)) g = { g with ready } := by
    intro ws
    induction ws with
    | nil => exact fun g => ⟨g.ready, rfl⟩
    | cons w ws ih =>
      intro g
      obtain ⟨ready, hwake⟩ := g.wake_eq (.call w.1)
      obtain ⟨ready', hrest⟩ := ih (g.wake (.call w.1))
      refine ⟨ready', ?_⟩
      rw [List.foldl_cons, hrest, hwake]
  -- and each reply one call
  have hreplied : ∀ (left : List (Nat × Command)) (g : Floor), ∃ ready,
      left.foldl (fun f c => f.reply c.1 (.error (.conversationClosed b.key))) g =
        { g with calls := refusedAll b.key g.calls left, ready } := by
    intro left
    induction left with
    | nil => exact fun g => ⟨g.ready, rfl⟩
    | cons e left ih =>
      intro g
      obtain ⟨ready, hreply⟩ := g.reply_eq e.1 (.error (.conversationClosed b.key))
      obtain ⟨ready', hrest⟩ := ih (g.reply e.1 (.error (.conversationClosed b.key)))
      refine ⟨ready', ?_⟩
      rw [List.foldl_cons, hrest, hreply]
      rfl
  unfold close
  obtain ⟨ready, hwake⟩ :=
    hwoken b.places.waiting
      (f.setBox n { b with session := none, mailbox := [], places := { free := 0 } })
  obtain ⟨ready', hreply⟩ := hreplied left (b.places.waiting.foldl (fun f w => f.wake (.call w.1))
    (f.setBox n { b with session := none, mailbox := [], places := { free := 0 } }))
  refine ⟨ready', ?_⟩
  rw [hreply, hwake]
  rfl

/-! ### What a step of a call does -/

/-- What a call goes on to by itself, and the machines that are in the cache then. -/
inductive Leads (c : InFlight) : Stage → Dict Machine → Prop
  | shown {flowId versionId : String} : c.call = .definition flowId versionId → c.stage = .begun →
      Leads c (.defining flowId versionId .display) f.definitions
  | loaded {r : Except RuntimeError (Option Snapshot)} : c.stage = .loading →
      (∀ s, r = .ok s → f.stores.stored c.call.conversationId = s) →
      Leads c (afterLoad c.call r) f.definitions
  | cached {flowId versionId : String} {p : Purpose} {m : Machine} :
      c.stage = .defining flowId versionId p →
      f.definitions.get? (machineId flowId versionId) = some m →
      Leads c (f.withMachine m p) f.definitions
  | missed {flowId versionId : String} {p : Purpose} : c.stage = .defining flowId versionId p →
      Leads c (.fetching flowId versionId p) f.definitions
  | fetched {flowId versionId : String} {p : Purpose} {v : Version} {m : Machine} :
      c.stage = .fetching flowId versionId p →
      compile v = .ok m → Leads c (.keeping flowId versionId m p) f.definitions
  | refused {flowId versionId : String} {p : Purpose} {e : RuntimeError} :
      c.stage = .fetching flowId versionId p →
      Leads c (.answered (.error e)) f.definitions
  | late {flowId versionId : String} {p : Purpose} {m m' : Machine} :
      c.stage = .keeping flowId versionId m p →
      f.definitions.get? (machineId flowId versionId) = some m' →
      Leads c (f.withMachine m' p) f.definitions
  | kept {flowId versionId : String} {p : Purpose} {m : Machine} :
      c.stage = .keeping flowId versionId m p →
      Leads c (f.withMachine m p) (f.definitions.insert (machineId flowId versionId) m)
  | closing {id : String} {contact : ContactEnd} {a : Answer} : c.call = .endContact id contact →
      c.stage = .replied a → closes a = true → Leads c (.leaving a) f.definitions
  | received {a : Answer} : c.stage = .replied a → Leads c (.answered a) f.definitions

/-- How a call comes by its share of the registry. -/
inductive Granted (i : Nat) (c : InFlight) : Floor → Prop
  | served : c.served = true → Granted i c
      { f with calls := f.calls.modify i fun c => { c with served := false } }
  | taken : c.served = false → i ∉ f.lock.waiting.map Prod.fst → c.share ≤ f.lock.free →
      Granted i c { f with lock := { f.lock with free := f.lock.free - c.share } }

/-- What a call goes on to that leaves the registry as it is. -/
inductive Passes (c : InFlight) : Stage → Prop
  | absent {k : String} : c.call = .unload k → c.stage = .begun → f.registry.get? k = none →
      Passes c (.answered (.ok (.unloaded false)))
  | counted : c.call = .runningCount → c.stage = .begun →
      Passes c (.answered (.ok (.count f.registry.size)))
  | found {n : Nat} : (∀ k, c.call ≠ .unload k) → c.stage = .begun →
      f.registry.get? c.call.conversationId = some n →
      Passes c (.sending n)
  | missing : (∀ k, c.call ≠ .unload k) → c.stage = .begun →
      f.registry.get? c.call.conversationId = none → Passes c .loading
  | there {x : Session} {n : Nat} : c.stage = .spawning x →
      f.registry.get? x.conversationId = some n → Passes c (.sending n)
  | tooLarge {x : Session} {e : RuntimeError} : c.stage = .spawning x →
      Passes c (.answered (.error e))

/-- The call is in another stage, and its share is put back. -/
def released (i : Nat) (c : InFlight) (s : Stage) (ready : List Turn) : Floor :=
  { f with lock := (f.lock.release c.share).1
           calls := servedAll (f.calls.modify i (·.to s)) (f.lock.release c.share).2, ready }

/-- What a call with its share of the registry does there. -/
inductive Entered (i : Nat) (c : InFlight) : Floor → Prop
  | unloading {k : String} {n : Nat} : c.call = .unload k → c.stage = .begun →
      f.registry.get? k = some n →
      Entered i c
      { f with registry := f.registry.erase k, calls := f.calls.modify i (·.to (.sending n)) }
  | passing {s : Stage} {ready : List Turn} : f.Passes c s → Entered i c (f.released i c s ready)
  | registering {x : Session} {places : Permits} {ready : List Turn} : c.stage = .spawning x →
      f.registry.get? x.conversationId = none → places.waiting = [] →
      Entered i c { f.released i c (.sending f.boxes.length) ready with
        registry := f.registry.insert x.conversationId f.boxes.length
        boxes := f.boxes ++ [{ key := x.conversationId, session := some x, places }] }
  | leaving {a : Answer} {ready : List Turn} : c.stage = .leaving a →
      Entered i c
        { f.released i c (.answered a) ready with
        registry := f.registry.erase c.call.conversationId }

/-- All that a step of a call comes to. -/
inductive Stepped (i : Nat) (c : InFlight) : Floor → Prop
  | resting : Stepped i c f
  | moving {s : Stage} {stores : Stores} {definitions : Dict Machine} :
      c.unloads = false → f.stores.Same stores →
      f.Leads c s definitions →
      Stepped i c { f with stores, definitions, calls := f.calls.modify i (·.to s) }
  | queueing : c.atRegistry = true → c.served = false → i ∉ f.lock.waiting.map Prod.fst →
      f.lock.free < c.share → Stepped i c
      { f with lock := { free := 0, waiting := f.lock.waiting ++ [(i, c.share - f.lock.free)] } }
  | entering {g f' : Floor} : c.atRegistry = true → f.Granted i c g → g.Entered i c f' →
      Stepped i c f'
  | refused {n : Nat} {b : Box} : c.stage = .sending n → f.boxes[n]? = some b → b.session = none →
      Stepped i c
      { f with calls := f.calls.modify i (·.to (.replied (.error (.conversationClosed b.key)))) }
  | sending {n : Nat} {b : Box} {k : String} {command : Command} {places : Permits}
      {ready : List Turn} :
      c.stage = .sending n → f.boxes[n]? = some b → b.session.isSome →
      c.call.target = some (k, command) →
      (c.served = true ∨ i ∉ b.places.waiting.map Prod.fst) → places.waiting = b.places.waiting →
      Stepped i c { f with
        boxes := f.boxes.set n { b with places, mailbox := b.mailbox ++ [(i, command)] }
        calls := f.calls.modify i fun c =>
        { c with served := false, stage := .waiting n, paused := false }, ready }
  | waiting {n : Nat} {b : Box} {lacked : Nat} : c.stage = .sending n → f.boxes[n]? = some b →
      b.session.isSome → c.served = false → i ∉ b.places.waiting.map Prod.fst →
      Stepped i c
      { f with boxes := f.boxes.set n
                 { b with places := { free := 0, waiting := b.places.waiting ++ [(i, lacked)] } } }
  | unlocking {k : String} {a : Answer} {ready : List Turn} :
      c.call = .unload k → c.stage = .replied a →
      Stepped i c { f with
        lock := (f.lock.release registryReaders).1
        calls := servedAll (f.calls.modify i (·.to (.answered (.ok (.unloaded true)))))
          (f.lock.release registryReaders).2, ready }

variable {f}

theorem passing_entered {i : Nat} {c : InFlight} {s : Stage} (h : f.Passes c s) :
    f.Entered i c ((f.setStage i s).release c.share) := by
  obtain ⟨ready, hrelease⟩ := (f.setStage i s).release_eq c.share
  rw [hrelease]
  change f.Entered i c (f.released i c s ready)
  exact .passing h

theorem begun_entered {i : Nat} {c : InFlight} (hcall : ∀ k, c.call ≠ .unload k)
    (hstage : c.stage = .begun)
    (h : f.stepRegistry i c.call c.stage =
      match f.registry.get? c.call.conversationId with
      | some n => (f.setStage i (.sending n)).release c.share
      | none =>
        (f.setStage i .loading).release c.share) :
            f.Entered i c (f.stepRegistry i c.call c.stage) := by
  rw [h]
  split
  · rename_i n hn
    exact passing_entered (.found hcall hstage hn)
  · rename_i hn
    exact passing_entered (.missing hcall hstage hn)

/-- A call with its share does one of these things at the registry. -/
theorem stepRegistry_entered {c : InFlight} (h : c.atRegistry = true) (i : Nat) :
    f.Entered i c (f.stepRegistry i c.call c.stage) := by
  obtain ⟨call, stage, served, paused⟩ := c
  -- only at three stages is a call at the registry
  cases stage with
  | begun =>
    cases call with
    | unload k =>
      simp only [stepRegistry, unload]
      split
      · rename_i n hn
        exact .unloading rfl rfl hn
      · rename_i hn
        exact passing_entered (c := ⟨.unload k, .begun, served, paused⟩) (.absent rfl rfl hn)
    | runningCount =>
      exact passing_entered (c := ⟨.runningCount, .begun, served, paused⟩) (.counted rfl rfl)
    -- a definition is shown without the registry
    | definition _ _ => cases h
    | begin n => exact begun_entered (by simp) rfl rfl
    | request _ _ => exact begun_entered (by simp) rfl rfl
    | update _ _ _ _ => exact begun_entered (by simp) rfl rfl
    | currentTask _ => exact begun_entered (by simp) rfl rfl
    | snapshot _ => exact begun_entered (by simp) rfl rfl
    | endContact _ _ => exact begun_entered (by simp) rfl rfl
  | spawning x =>
    simp only [stepRegistry, spawn]
    cases hn : f.registry.get? x.conversationId with
    | some n => exact passing_entered (c := ⟨call, .spawning x, served, paused⟩) (.there rfl hn)
    | none =>
      simp only
      -- the mailbox may be too large for an actor
      split
      · obtain ⟨woken, hwake⟩ := wake_eq { f with
          registry := f.registry.insert x.conversationId f.boxes.length
          boxes := f.boxes ++
            [{ key := x.conversationId, session := some x, places := { free := f.mailboxSize } }] }
          (.actor f.boxes.length)
        simp only [hwake]
        obtain ⟨ready, hrelease⟩ := release_eq (setStage { f with
          registry := f.registry.insert x.conversationId f.boxes.length
          boxes := f.boxes ++
            [{ key := x.conversationId, session := some x, places := { free := f.mailboxSize } }]
          ready := woken } i (.sending f.boxes.length)) registryReaders
        have hshare : share call (.spawning x) = registryReaders := rfl
        rw [hshare, hrelease]
        exact @Entered.registering f i ⟨call, .spawning x, served, paused⟩ x
          { free := f.mailboxSize } ready rfl hn rfl
      · exact passing_entered (c := ⟨call, .spawning x, served, paused⟩) (.tooLarge rfl)
  | leaving a =>
    obtain ⟨ready, hrelease⟩ := release_eq
      (setStage { f with registry := f.registry.erase call.conversationId } i (.answered a))
        registryReaders
    have hshare : share call (.leaving a) = registryReaders := rfl
    simp only [stepRegistry]
    rw [hshare, hrelease]
    exact @Entered.leaving f i ⟨call, .leaving a, served, paused⟩ a ready rfl
  | _ => cases h

theorem enterRegistry_stepped {i : Nat} {c : InFlight} (h : c.atRegistry = true) :
    f.Stepped i c (f.enterRegistry i c) := by
  unfold enterRegistry
  split
  -- its share has been handed to it
  · rename_i hserved
    exact .entering h (.served hserved) (stepRegistry_entered h i)
  · rename_i hserved
    have hserved : c.served = false := by simpa using hserved
    split
    -- it waits already
    · exact .resting
    · rename_i hawaited
      have hqueue : i ∉ f.lock.waiting.map Prod.fst := by simpa [Permits.awaited] using hawaited
      have hshare : share c.call c.stage = c.share := rfl
      rw [hshare]
      unfold Permits.acquire
      -- it asks for the first time
      by_cases hfree : c.share ≤ f.lock.free
      · simp only [if_pos hfree]
        exact .entering h (.taken hserved hqueue hfree) (stepRegistry_entered h i)
      · simp only [if_neg hfree]
        exact .queueing h hserved hqueue (Nat.lt_of_not_le hfree)

theorem modify_congr {calls : List InFlight} {i : Nat} {c : InFlight} {g g' : InFlight → InFlight}
    (hc : calls[i]? = some c) (hg : g c = g' c) : calls.modify i g = calls.modify i g' := by
  refine List.ext_getElem? ?_
  intro j
  by_cases hj : j = i
  · subst hj
    rw [getElem?_modify_self hc, getElem?_modify_self hc, hg]
  · rw [getElem?_modify_ne hj, getElem?_modify_ne hj]

theorem post_stepped {i n : Nat} {c : InFlight} (hc : f.calls[i]? = some c)
    (hstage : c.stage = .sending n) :
    f.Stepped i c (f.post i c n) := by
  unfold post
  split
  · rename_i b k command hb htarget
    split
    -- the actor has stopped
    · rename_i hnone
      exact .refused hstage hb (Option.isNone_iff_eq_none.1 hnone)
    · rename_i hlive
      have hlive : b.session.isSome := by simpa [Option.isSome_iff_ne_none] using hlive
      split
      -- a place was kept for it
      · rename_i hserved
        obtain ⟨ready, hput⟩ := (f.setServed i false).put_eq i n b command
        have hcalls : (f.setServed i false).calls.modify i (·.to (.waiting n)) =
            f.calls.modify i fun c =>
              { c with served := false, stage := .waiting n, paused := false } :=
          List.modify_modify_eq ..
        rw [hput, hcalls]
        exact .sending hstage hb hlive htarget (.inl hserved) rfl
      · rename_i hserved
        have hserved : c.served = false := by simpa using hserved
        split
        -- it waits for a place already
        · exact .resting
        · rename_i hawaited
          have hqueue : i ∉ b.places.waiting.map Prod.fst := by
            simpa [Permits.awaited] using hawaited
          unfold Permits.acquire
          -- it asks for a place for the first time
          by_cases hfree : 1 ≤ b.places.free
          · simp only [if_pos hfree]
            obtain ⟨ready, hput⟩ :=
              f.put_eq i n { b with places := { b.places with free := b.places.free - 1 } } command
            have hcalls : f.calls.modify i (·.to (.waiting n)) =
                f.calls.modify i fun c =>
                  { c with served := false, stage := .waiting n, paused := false } :=
              modify_congr hc (by rw [InFlight.to, hserved])
            rw [hput, hcalls]
            exact .sending (b := b) hstage hb hlive htarget (.inr hqueue) rfl
          · simp only [if_neg hfree]
            exact .waiting hstage hb hlive hserved hqueue
  · exact .resting

theorem moved_stepped {i : Nat} {c : InFlight} {s : Stage} (hunloads : c.unloads = false)
    (h : f.Leads c s f.definitions) :
    f.Stepped i c (f.setStage i s) := .moving hunloads (.refl f.stores) h

theorem receive_stepped {i : Nat} {c : InFlight} {a : Answer} (hstage : c.stage = .replied a) :
    f.Stepped i c (f.receive i c.call a) := by
  obtain ⟨call, stage, served, paused⟩ := c
  obtain rfl : stage = .replied a := hstage
  cases call with
  | unload k =>
    obtain ⟨ready, hrelease⟩ :=
      (f.setStage i (.answered (.ok (.unloaded true)))).release_eq registryReaders
    simp only [receive, hrelease]
    exact .unlocking (c := ⟨.unload k, .replied a, served, paused⟩) rfl rfl
  | endContact id contact =>
    simp only [receive]
    split
    · rename_i hcloses
      exact moved_stepped rfl (.closing rfl rfl hcloses)
    · exact moved_stepped rfl (.received rfl)
  | _ => exact moved_stepped rfl (.received rfl)

/-- A step of a call comes to one of these. -/
theorem stepCall_stepped {i : Nat} {c : InFlight} (hc : f.calls[i]? = some c) :
    f.Stepped i c (f.stepCall i) := by
  -- an unload that holds the registry is at one of three stages, none of them here
  have hlast (h : ∀ n a, c.stage ≠ .sending n ∧ c.stage ≠ .waiting n ∧ c.stage ≠ .replied a) :
      c.unloads = false := by
    unfold InFlight.unloads
    split
    · rename_i n _ hstage
      exact absurd hstage (h n (.ok (.task none))).1
    · rename_i n _ hstage
      exact absurd hstage (h n (.ok (.task none))).2.1
    · rename_i a _ hstage
      exact absurd hstage (h 0 a).2.2
    · rfl
  -- one case for each stage
  unfold stepCall
  rw [hc]
  simp only
  split
  · rename_i hstage
    split
    · rename_i flowId versionId hcall
      exact moved_stepped (hlast (by simp [hstage])) (.shown hcall hstage)
    · rename_i hcall
      refine enterRegistry_stepped ?_
      unfold InFlight.atRegistry
      rw [hstage]
      split <;> simp_all
  · rename_i hstage
    exact .moving (hlast (by simp [hstage])) (f.stores.getSnapshot_same _)
      (.loaded hstage fun s hs => Stores.getSnapshot_eq hs)
  · rename_i flowId versionId p hstage
    split
    · rename_i m hm
      exact moved_stepped (hlast (by simp [hstage])) (.cached hstage hm)
    · exact moved_stepped (hlast (by simp [hstage])) (.missed hstage)
  · rename_i flowId versionId p hstage
    have hsame := f.stores.getVersion_same flowId versionId
    split
    · rename_i m hm
      obtain ⟨v, -, hv⟩ := Manager.compileRead_eq_ok hm
      exact .moving (hlast (by simp [hstage])) hsame (.fetched hstage hv)
    · exact .moving (hlast (by simp [hstage])) hsame (.refused hstage)
  · rename_i flowId versionId m p hstage
    split
    · rename_i m' hm'
      exact moved_stepped (hlast (by simp [hstage])) (.late hstage hm')
    · exact .moving (hlast (by simp [hstage])) (.refl f.stores) (.kept hstage)
  · rename_i x hstage
    exact enterRegistry_stepped (by simp [InFlight.atRegistry, hstage])
  · rename_i a hstage
    exact enterRegistry_stepped (by simp [InFlight.atRegistry, hstage])
  · rename_i n hstage
    exact post_stepped hc hstage
  · rename_i a hstage
    exact receive_stepped hstage
  · exact .resting
  · exact .resting

/-! ### What a step of an actor does -/

/-- The calls when a place of the mailbox has become free and its command has been answered. -/
def answeredOne (calls : List InFlight) (i : Nat) (places : Permits) (a : Answer) : List InFlight :=
  (servedAll calls (places.release 1).2).modify i (·.to (.replied a))

/-- All that a step of an actor comes to. -/
inductive Worked (f : Floor) (n : Nat) : Floor → Prop
  | resting : Worked f n f
  | goingOn {key : String} {x y : Session} {i : Nat} {command : Command}
      {left : List (Nat × Command)} {places : Permits}
      {stores : Stores} {a : Answer} {ready : List Turn} :
      f.boxes[n]? = some ⟨key, some x, (i, command) :: left, places⟩ →
      Actor.handle f.hooks f.stores x command = (stores, .goOn y a) →
      Worked f n { f with
        stores, boxes := f.boxes.set n ⟨key, some y, left, (places.release 1).1⟩
        calls := answeredOne f.calls i places a, ready }
  | ending {key : String} {x : Session} {i : Nat} {command : Command} {left : List (Nat × Command)}
      {places : Permits}
      {stores : Stores} {r : Reaction} {a : Answer} {ready : List Turn} :
      f.boxes[n]? = some ⟨key, some x, (i, command) :: left, places⟩ →
      Actor.handle f.hooks f.stores x command = (stores, r) → (∀ y a, r ≠ .goOn y a) →
      Worked f n { f with
        stores, boxes := f.boxes.set n ⟨key, none, [], { free := 0 }⟩
        calls := refusedAll key (answeredOne f.calls i places a) left, ready }

/-- A step of an actor comes to one of these. -/
theorem stepActor_worked (n : Nat) : f.Worked n (f.stepActor n) := by
  unfold stepActor
  split
  · rename_i key x i command left places hb
    -- the place of the command goes to who waits first, before the command is handled
    obtain ⟨woken, hserve⟩ := f.serve_eq (places.release 1).2
    simp only [hserve]
    split
    -- it goes on
    · rename_i stores y a hhandle
      obtain ⟨ready, hreply⟩ :=
        (setBox { f with stores, calls := servedAll f.calls (places.release 1).2, ready := woken } n
        ⟨key, some y, left, (places.release 1).1⟩).reply_eq i a
      rw [hreply]
      exact .goingOn hb hhandle
    -- it stops with an answer
    · rename_i stores a hhandle
      obtain ⟨told, hreply⟩ :=
        reply_eq { f with stores, calls := servedAll f.calls (places.release 1).2,
                          ready := woken } i a
      rw [hreply]
      obtain ⟨ready, hclose⟩ := close_eq { f with
        stores, calls := (servedAll f.calls (places.release 1).2).modify i (·.to (.replied a)),
          ready := told } n
        ⟨key, some x, left, (places.release 1).1⟩ left
      rw [hclose]
      exact .ending hb hhandle (by simp)
    -- it breaks down, and the caller learns that the conversation is closed
    · rename_i stores hhandle
      obtain ⟨told, hreply⟩ :=
        reply_eq { f with stores, calls := servedAll f.calls (places.release 1).2,
                          ready := woken } i
        (.error (.conversationClosed key))
      rw [hreply]
      obtain ⟨ready, hclose⟩ := close_eq { f with
        stores, calls := (servedAll f.calls (places.release 1).2).modify i
          (·.to (.replied (.error (.conversationClosed key))))
        ready := told } n ⟨key, some x, left, (places.release 1).1⟩ left
      rw [hclose]
      exact .ending hb hhandle (by simp)
  · exact .resting

end Floor
end Dialogue.Live
