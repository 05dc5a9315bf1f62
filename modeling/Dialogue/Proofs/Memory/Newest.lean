import Dialogue.Proofs.Memory.Meetings

/-! # What a read shows of a write

    A read finds of each variable that a write gave a value the fact of that write, or of a later
    one to the same bucket (`newest?_split`); a value that tools have written goes before one that
    was extracted. A read of both buckets copies them one after the other, and what has been written
    by then is in both copies (`shows_merge`). -/

namespace Dialogue.Memory

open Time

/-! ### What a write leaves to be read -/

/-- The last value that the write gives the variable. -/
def Write.last? (w : Write) (id : String) : Option Update :=
  (w.updates.filter (·.variableId = id)).getLast?

/-- The last write to the bucket that gives the variable a value, with it. -/
def newest? (source : Source) (ws : List Write) (id : String) : Option (Write × Update) :=
  (ws.filter (·.writer.source = source)).reverse.findSome? fun w => (w.last? id).map (w, ·)

/-- The fact is the value that the write gave the variable, with its provenance. -/
def Fact.IsOf (f : Fact) (w : Write) (id : String) : Prop :=
  ∃ u, w.last? id = some u ∧
    { f with descriptions := none } = Fact.new u.value w.writer.name w.contactId w.startedAt

variable {source : Source} {ws : List Write} {w : Write} {id : String} {f : Fact}

theorem getLast?_updatesTo (source : Source) (ws : List Write) (id : String) :
    ((updatesTo source ws).filter fun e => e.2.variableId = id).getLast? =
        newest? source ws id := by
  have hown (w : Write) :
      ((w.updates.map (w, ·)).filter fun e => e.2.variableId = id).getLast? = (w.last? id).map
          (w, ·) := by
    rw [List.filter_map, List.getLast?_map]
    rfl
  simp only [updatesTo, List.filter_flatMap, List.getLast?_flatMap, hown, newest?]

theorem mem_of_newest? {e : Write × Update} (h : newest? source ws id = some e) :
    e.1 ∈ ws ∧ e.1.writer.source = source ∧ e.1.last? id = some e.2 := by
  obtain ⟨w, hw, hlast⟩ := List.exists_of_findSome?_eq_some h
  obtain ⟨u, hu, rfl⟩ := Option.map_eq_some_iff.1 hlast
  obtain ⟨hmem, hsource⟩ := List.mem_filter.1 (List.mem_reverse.1 hw)
  exact ⟨hmem, of_decide_eq_true hsource, hu⟩

theorem get?_of_newest? {e : Write × Update} (h : newest? source ws id = some e) :
    ∃ f, (bucketAfter source ws).get? id = some f ∧ f.IsOf e.1 id := by
  rw [bucketAfter, get?_recordAll, lastOf, getLast?_updatesTo, h]
  exact ⟨_, rfl, e.2, (mem_of_newest? h).2.2, rfl⟩

theorem newest?_of_get? (h : (bucketAfter source ws).get? id = some f) :
    ∃ e, newest? source ws id = some e ∧ f.IsOf e.1 id := by
  have hnewest := h
  rw [bucketAfter, get?_recordAll, lastOf, getLast?_updatesTo] at hnewest
  obtain ⟨e, he, -⟩ := Option.map_eq_some_iff.1 hnewest
  obtain ⟨f', hf', hof⟩ := get?_of_newest? he
  rw [h, Option.some.injEq] at hf'
  exact ⟨e, he, hf' ▸ hof⟩

/-- From a write to the bucket on, the newest is that write or a later one. -/
theorem newest?_split (before later : List Write) (hsource : w.writer.source = source)
    (hlast : w.last? id ≠ none) :
    ∃ e, newest? source (before ++ w :: later) id = some e ∧ newest? source
      (w :: later) id = some e := by
  obtain ⟨u, hu⟩ := Option.ne_none_iff_exists'.1 hlast
  have hsome : (newest? source (w :: later) id).isSome := by
    simp [newest?, hsource, hu]
  obtain ⟨e, he⟩ := Option.isSome_iff_exists.1 hsome
  refine ⟨e, ?_, he⟩
  rw [newest?] at he
  rw [newest?, List.filter_append, List.reverse_append, List.findSome?_append, he, Option.some_or]

/-! ### What a read shows of a write -/

/-- In the log the fact is that of the entry, or of a later one in the same bucket of the namespace;
    a value that tools have written there goes before one that was extracted. -/
def Current (log : List Entry) (own : Entry) (id : String) (f : Fact) : Prop :=
  (∃ before later, log = before ++ own :: later ∧ ∃ e ∈ own :: later, e.space = own.space ∧
    e.write.writer.source = own.write.writer.source ∧ f.IsOf e.write id) ∨
  own.write.writer.source = .extraction ∧
    ∃ e ∈ log, e.space = own.space ∧ e.write.writer.source = .tools ∧ f.IsOf e.write id

/-- The facts show of each variable of the write what is current. -/
def Shows (facts : Bucket) (log : List Entry) (own : Entry) : Prop :=
  ∀ u ∈ own.write.updates, ∃ f, facts.get? u.variableId = some f ∧ Current log own u.variableId f

variable {log seen : List Entry} {own e : Entry} {n : Nat} {facts : Bucket}

theorem Current.mono (h : Current seen own id f) (hseen : seen <+: log) : Current log own id f := by
  rcases h with ⟨before, later, rfl, e, he, hrest⟩ | ⟨hsource, e, he, hrest⟩
  · obtain ⟨more, rfl⟩ := hseen
    refine .inl ⟨before, later ++ more, by simp, e, ?_, hrest⟩
    rw [← List.cons_append]
    exact List.mem_append_left _ he
  · exact .inr ⟨hsource, e, hseen.subset he, hrest⟩

theorem Shows.mono (h : Shows facts seen own) (hseen : seen <+: log) : Shows facts log own := by
  intro u hu
  obtain ⟨f, hf, hcurrent⟩ := h u hu
  exact ⟨f, hf, hcurrent.mono hseen⟩

theorem mem_writesTo : w ∈ writesTo n log ↔ ∃ e ∈ log, e.space = n ∧ e.write = w := by
  simp [writesTo, and_assoc]

theorem current_of_bucket {u : Update} (hown : own ∈ log) (hu : u ∈ own.write.updates) :
    ∃ f, (bucketAfter own.write.writer.source (writesTo own.space log)).get? u.variableId = some f ∧
      Current log own u.variableId f := by
  obtain ⟨before, later, rfl⟩ := List.append_of_mem hown
  have hsplit : writesTo own.space (before ++ own :: later) =
      writesTo own.space before ++ own.write :: writesTo own.space later := by
    simp [writesTo]
  have hlast : own.write.last? u.variableId ≠ none := by
    rw [Write.last?, ne_eq, List.getLast?_eq_none_iff]
    exact List.ne_nil_of_mem (List.mem_filter.2 ⟨hu, decide_eq_true rfl⟩)
  obtain ⟨e, he, hfrom⟩ :=
    newest?_split (writesTo own.space before) (writesTo own.space later) rfl hlast
  obtain ⟨f, hf, hof⟩ := get?_of_newest? he
  refine ⟨f, hsplit ▸ hf, .inl ⟨before, later, rfl, ?_⟩⟩
  obtain ⟨hmem, hsource, -⟩ := mem_of_newest? hfrom
  rcases List.mem_cons.1 hmem with hsame | hlater
  · exact ⟨own, List.mem_cons_self, rfl, rfl, hsame ▸ hof⟩
  · obtain ⟨entry, hentry, hspace, hwrite⟩ := mem_writesTo.1 hlater
    exact ⟨entry, List.mem_cons_of_mem _ hentry, hspace, hwrite ▸ hsource, hwrite ▸ hof⟩

/-- The tools' bucket may have been copied earlier than the other; what was written is
    in the copy. -/
theorem shows_merge (hown : own ∈ seen) (hseen : seen <+: log) :
    Shows (merge (bucketAfter .tools (writesTo own.space seen))
        (bucketAfter .extraction (writesTo own.space log)))
      log own := by
  intro u hu
  rw [get?_merge]
  cases hsource : own.write.writer.source with
  | tools =>
    obtain ⟨f, hf, hcurrent⟩ := current_of_bucket hown hu
    rw [hsource] at hf
    rw [hf]
    exact ⟨f, rfl, hcurrent.mono hseen⟩
  | extraction =>
    obtain ⟨f, hf, hcurrent⟩ := current_of_bucket (hseen.subset hown) hu
    rw [hsource] at hf
    rw [hf]
    -- a fact of the tools comes first, whoever has written later
    cases htools : (bucketAfter .tools (writesTo own.space seen)).get? u.variableId with
    | none => exact ⟨f, rfl, hcurrent⟩
    | some g =>
      obtain ⟨e, he, hof⟩ := newest?_of_get? htools
      obtain ⟨hmem, htool, -⟩ := mem_of_newest? he
      obtain ⟨entry, hentry, hspace, hwrite⟩ := mem_writesTo.1 hmem
      exact ⟨g, rfl,
        .inr ⟨hsource, entry, hseen.subset hentry, hspace, hwrite ▸ htool, hwrite ▸ hof⟩⟩

end Dialogue.Memory
