import Dialogue.Conversation.Closure

/-! # What becomes of a conversation when a contact ends

    Four rules decide, and the first that applies counts: a conversation of a single contact closes;
    one whose time is up closes; the hook that is named decides; else the conversation goes on
    (`Decides`). They always lead to one outcome (`decides_total`, `Decides.unique`). It is the one
    that is reached but where there is a limit of no seconds: whole seconds are rounded toward zero,
    so such a conversation closes in the second before its start already
    (`decided_by_the_rules_iff`). -/

namespace Dialogue.Conversation

open Time Dialogue.Flow

/-- The conversation has a time limit, and now is at least that long after its start. -/
def TimeIsUp (config : ClosureConfig) (s : ConversationState) (now : Instant) : Prop :=
  ∃ limit, config.timeLimit = some limit ∧ s.context.startedAt.rank ≤ now.rank ∧
    seconds limit.toNat ≤ now.since s.context.startedAt

/-- The outcome that the rules give, which is none where the hook breaks down. -/
inductive Decides (hooks : Hooks) (config : ClosureConfig) (s : ConversationState) (c : ContactEnd)
    (now : Instant) :
    Option ClosureOutcome → Prop where
  | singleContact : config.multiContact = false →
      Decides hooks config s c now (some ⟨.close, .singleContact, none⟩)
  | timeLimit : config.multiContact = true → TimeIsUp config s now →
      Decides hooks config s c now (some ⟨.close, .timeLimitReached, some (s.summarise c now)⟩)
  | hook {name : String} {hook : Hook} : config.multiContact = true → ¬ TimeIsUp config s now →
      config.hook = some name → hooks name = some hook →
      Decides hooks config s c now
        ((hook config s c).map fun d => ⟨d, .hook name, some (s.summarise c now)⟩)
  | hookMissing {name : String} : config.multiContact = true → ¬ TimeIsUp config s now →
      config.hook = some name → hooks name = none →
      Decides hooks config s c now (some ⟨.keepAlive, .hookMissing name, some (s.summarise c now)⟩)
  | default : config.multiContact = true → ¬ TimeIsUp config s now → config.hook = none →
      Decides hooks config s c now (some ⟨.keepAlive, .default, some (s.summarise c now)⟩)

/-- The limit is of no seconds, and now is less than a second before the start. -/
def ClosesEarly (config : ClosureConfig) (s : ConversationState) (now : Instant) : Prop :=
  config.multiContact = true ∧ config.timeLimit = some 0 ∧
    -nanosPerSecond < now.since s.context.startedAt ∧
    (now.since s.context.startedAt < 0 ∨ now.rank < s.context.startedAt.rank)

variable {hooks : Hooks} {config : ClosureConfig} {s : ConversationState} {c : ContactEnd}
    {now : Instant}

/-! ### The rules -/

theorem decides_total (hooks : Hooks) (config : ClosureConfig) (s : ConversationState)
    (c : ContactEnd) (now : Instant) :
    ∃ o, Decides hooks config s c now o := by
  cases hmulti : config.multiContact with
  | false => exact ⟨_, .singleContact hmulti⟩
  | true =>
    by_cases htime : TimeIsUp config s now
    · exact ⟨_, .timeLimit hmulti htime⟩
    · cases hname : config.hook with
      | none => exact ⟨_, .default hmulti htime hname⟩
      | some name =>
        cases hhook : hooks name with
        | none => exact ⟨_, .hookMissing hmulti htime hname hhook⟩
        | some hook => exact ⟨_, .hook hmulti htime hname hhook⟩

theorem Decides.unique {o o' : Option ClosureOutcome} (h : Decides hooks config s c now o)
    (h' : Decides hooks config s c now o') : o = o' := by
  cases h <;> cases h' <;> simp_all

/-! ### The time limit -/

theorem since_lt_of_rank_lt {t u : Instant} (h : t.rank < u.rank) : t.since u < nanosPerSecond := by
  have ht := t.inCalendar.2.2
  have hu := u.inCalendar.2.2
  simp only [Instant.rank, Instant.since, Instant.nanos, Instant.isLeap, nanosPerSecond,
    decide_eq_true_eq] at h ⊢
  split
  · omega
  · split <;> omega

/-- Whole seconds of a span, from either side of zero. -/
theorem wholeSeconds_eq (span : Int) :
    wholeSeconds span = if 0 ≤ span then span / nanosPerSecond else -(-span / nanosPerSecond) := by
  unfold wholeSeconds
  split
  · rename_i hspan
    exact Int.tdiv_eq_ediv_of_nonneg hspan
  · rename_i hspan
    have hnegative : 0 ≤ -span := by omega
    rw [← Int.tdiv_eq_ediv_of_nonneg hnegative, Int.neg_tdiv, Int.neg_neg]

/-- The limit counts as reached from so many seconds on, and one of none a second before. -/
theorem limitReached_iff {limit : UInt64} {startedAt now : Instant} :
    limitReached limit startedAt now = true ↔
    seconds limit.toNat ≤ now.since startedAt ∨ limit = 0 ∧
      -nanosPerSecond < now.since startedAt := by
  have hzero : limit = 0 ↔ limit.toNat = 0 := by
    rw [← UInt64.toNat_inj]
    rfl
  simp only [limitReached, wholeSeconds_eq, seconds, nanosPerSecond, Bool.and_eq_true,
    decide_eq_true_eq, hzero]
  split <;> omega

/-- With a time limit, it is the rule of the time limit or it is too early for it. -/
theorem any_limitReached_iff (s : ConversationState) (now : Instant)
    (hmulti : config.multiContact = true) :
    (config.timeLimit.any fun limit => limitReached limit s.context.startedAt now) = true ↔
      TimeIsUp config s now ∨ ClosesEarly config s now := by
  simp only [Option.any_eq_true, limitReached_iff, TimeIsUp, ClosesEarly, hmulti, true_and]
  constructor
  · rintro ⟨limit, hlimit, hreached⟩
    by_cases hup : s.context.startedAt.rank ≤ now.rank ∧
      seconds limit.toNat ≤ now.since s.context.startedAt
    · exact .inl ⟨limit, hlimit, hup⟩
    · right
      rcases hreached with hreached | ⟨rfl, hspan⟩
      · -- the span is of a whole second at least, but for the limit of none
        have hearlier : now.rank < s.context.startedAt.rank :=
          Int.not_le.1 fun hrank => hup ⟨hrank, hreached⟩
        have hshort := since_lt_of_rank_lt hearlier
        have hzero : limit = 0 := by
          rw [← UInt64.toNat_inj]
          simp only [seconds, nanosPerSecond] at hreached hshort
          change limit.toNat = 0
          omega
        refine ⟨hzero ▸ hlimit, ?_, .inr hearlier⟩
        simp only [seconds, nanosPerSecond] at hreached ⊢
        omega
      · refine ⟨hlimit, hspan, ?_⟩
        rcases Int.lt_or_le (now.since s.context.startedAt) 0 with hbefore | hafter
        · exact .inl hbefore
        · exact .inr (Int.not_le.1 fun hrank => hup ⟨hrank, hafter⟩)
  · rintro (⟨limit, hlimit, -, hup⟩ | ⟨hlimit, hspan, -⟩)
    · exact ⟨limit, hlimit, .inl hup⟩
    · exact ⟨0, hlimit, .inr ⟨rfl, hspan⟩⟩

/-! ### The decision -/

/-- Too early, the conversation closes as if its time were up. -/
theorem ClosesEarly.decided (h : ClosesEarly config s now) (hooks : Hooks) (c : ContactEnd) :
    decideClosure hooks config s c now =
        some ⟨.close, .timeLimitReached, some (s.summarise c now)⟩ := by
  have hreached := (any_limitReached_iff s now h.1).2 (.inr h)
  simp only [decideClosure, h.1, hreached, Bool.not_true, Bool.false_eq_true, if_false, if_true]

theorem ClosesEarly.not_timeIsUp (h : ClosesEarly config s now) : ¬ TimeIsUp config s now := by
  rintro ⟨limit, hlimit, hrank, hspan⟩
  obtain ⟨-, hzero, -, hearly⟩ := h
  obtain rfl : limit = 0 := Option.some.inj (hlimit.symm.trans hzero)
  have hnone : seconds (0 : UInt64).toNat = 0 := rfl
  omega

/-- None of the rules closes it then. -/
theorem ClosesEarly.not_decides (h : ClosesEarly config s now) :
    ¬ Decides hooks config s c now (decideClosure hooks config s c now) := by
  rw [h.decided]
  intro hdecides
  generalize ho :
    (some ⟨.close, .timeLimitReached, some (s.summarise c now)⟩ : Option ClosureOutcome) =
    o at hdecides
  cases hdecides with
  | singleContact hmulti =>
    rw [h.1] at hmulti
    cases hmulti
  | timeLimit _ htime => exact h.not_timeIsUp htime
  | hook =>
    obtain ⟨d, -, hd⟩ := Option.map_eq_some_iff.1 ho.symm
    cases hd
  | hookMissing => cases ho
  | default => cases ho

/-- At any other time the rules are followed. -/
theorem decides_of_not_closesEarly (hooks : Hooks) (c : ContactEnd)
    (h : ¬ ClosesEarly config s now) :
    Decides hooks config s c now (decideClosure hooks config s c now) := by
  unfold decideClosure
  cases hmulti : config.multiContact with
  | false => exact .singleContact hmulti
  | true =>
    have hreached := any_limitReached_iff s now hmulti
    simp only [h, or_false] at hreached
    simp only [Bool.not_true, Bool.false_eq_true, if_false]
    by_cases htime : TimeIsUp config s now
    · rw [if_pos (hreached.2 htime)]
      exact .timeLimit hmulti htime
    · rw [if_neg fun hany => htime (hreached.1 hany), decideByHook]
      cases hname : config.hook with
      | none => exact .default hmulti htime hname
      | some name =>
        cases hhook : hooks name with
        | none => simpa [hhook] using Decides.hookMissing hmulti htime hname hhook
        | some hook =>
          simpa [hhook, Function.comp_def] using Decides.hook (c := c) hmulti htime hname hhook

/-- The decision is the one that the rules give, unless the limit is of no seconds and now is within
    the second before the start: then the conversation closes, as one whose time is up. -/
theorem decided_by_the_rules_iff (hooks : Hooks) (config : ClosureConfig) (s : ConversationState)
    (c : ContactEnd) (now : Instant) :
    ((∀ o, Decides hooks config s c now o ↔ decideClosure hooks config s c now = o) ↔
        ¬ ClosesEarly config s now) ∧
      (ClosesEarly config s now →
        decideClosure hooks config s c now =
            some ⟨.close, .timeLimitReached, some (s.summarise c now)⟩) := by
  refine ⟨⟨?_, ?_⟩, fun h => h.decided hooks c⟩
  · intro hall hearly
    exact hearly.not_decides ((hall _).2 rfl)
  · intro hearly o
    have hdecides := decides_of_not_closesEarly hooks c hearly
    exact ⟨fun ho => hdecides.unique ho, fun ho => ho ▸ hdecides⟩

/-- A conversation that may last no time, half a second before it starts. -/
theorem closed_before_the_start :
    let config : ClosureConfig := { multiContact := true, timeLimit := some 0 }
    let s : ConversationState :=
      { context := ⟨"c1", "k1", "welcome", .phone, ⟨1735722000, 0, by decide⟩, []⟩ }
    let now : Instant := ⟨1735721999, 500000000, by decide⟩
    now.rank < s.context.startedAt.rank ∧ now.since s.context.startedAt = -500000000 ∧
      (decideClosure (fun _ => none) config s { contactId := "k1" } now).map
        (fun o => (o.decision, o.reason)) =
        some (.close, .timeLimitReached) ∧
      ¬ Decides (fun _ => none) config s { contactId := "k1" } now
        (decideClosure (fun _ => none) config s { contactId := "k1" } now) := by
  intro config s now
  have hearly : ClosesEarly config s now := ⟨rfl, rfl, by decide, .inl (by decide)⟩
  refine ⟨by decide, by decide, ?_, hearly.not_decides⟩
  rw [hearly.decided]
  rfl

end Dialogue.Conversation
