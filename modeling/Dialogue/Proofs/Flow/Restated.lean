import Dialogue.Flow.Version
import Dialogue.StateMachine.Compile
import Dialogue.Proofs.Json.Printed
import Dialogue.Proofs.Json.Restated

/-! # A flow version in other words

    The reader of flow versions is blind to the order of members, and to members that it does not
    know. It passes over these unread, but for one place: what a task has beside its own members may
    be the members of its kind, and is read as values before the kind is known. There, and in the
    routing parameters among them, only values can be added. -/

namespace Dialogue.Flow

open Json

/-! ### Layouts -/

/-- A record that passes over all members but those with the keys `known`. -/
def passing (known : List String) (member : String → Layout) : Layout :=
  .record (fun _ key _ => key ∉ known) member

/-- The same for one without any records in it. -/
def flat (known : List String) : Layout := passing known fun _ => .any

/-- A closure configuration. -/
def closureLayout : Layout := flat ClosureConfig.keys

/-- A declared variable. -/
def variableLayout : Layout := flat Variable.keys

/-- A transition parameter. -/
def parameterLayout : Layout := flat ["variableId", "required"]

/-- A selection of tools. -/
def toolsLayout : Layout := flat ["mcpServerName", "selectedTools"]

/-- The routing parameters of a task, which stand inside four arrays and objects. -/
def routingLayout : Layout :=
  .record (fun _ key w => key ∉ ["timeout", "agentSkills"] ∧ Readable 4 w) fun _ => .any

/-- The members of a kind beside its tag. -/
def kindKeys (tag : String) : List String :=
  if tag = "AIO" then ["hideTranscriptionToHuman"]
  else if tag = "AIS" ∨ tag = "HUM" then ["routingParameters"]
  else []

/-- The members of the kinds. -/
def kindMember (key : String) : Layout := if key = "routingParameters" then routingLayout else .any

/-- The members of a task, those of its kind among them. -/
def taskMember (key : String) : Layout :=
  if key = "transitionParameters" then .list parameterLayout
  else if key = "mcpToolSelection" then .list toolsLayout
  else if key = "closureConfig" then closureLayout
  else kindMember key

/-- What a task may be given beside the members `ms`: values that are neither of the
    task nor of its kind. -/
structure MayAddToTask (ms : List (Option String × Written)) (key : String) (w : Written) :
    Prop where
  unknown : key ∉ Task.keys
  untagged : key ≠ "type"
  foreign : ∀ tagged tag, (some "type", tagged) ∈ ms → TaskKind.tagAmong? tagged = some tag →
      key ∉ kindKeys tag
  value : Readable 3 w

/-- A task. -/
def taskLayout : Layout := .record MayAddToTask taskMember

/-- The members of a version. -/
def versionMember (key : String) : Layout :=
  if key = "closureConfig" then closureLayout
  else if key = "variables" then .list variableLayout
  else if key = "tasks" then .list taskLayout
  else .any

/-- A flow version. -/
def versionLayout : Layout := passing Version.keys versionMember

/-! ### Records -/

theorem blind_passing {α : Type} {known : List String} {member : String → Layout}
    {ofFields : Fields → Option α}
    (hfields : ∀ fs fs', Fields.Restate member fs fs' → ofFields fs' = ofFields fs) :
    Blind (passing known member) fun w => w.fields? known >>= ofFields :=
  blind_record _ (fun _ _ _ h => h) hfields

theorem blind_texts : Blind .any (Written.list? Written.string?) :=
  Blind.of_any (blind_list (l := .any) blind_string)

theorem blind_closure : Blind closureLayout ClosureConfig.ofWritten? := by
  refine blind_passing fun fs fs' h => ?_
  rw [h.withDefault blind_bool, h.optional blind_uint64, h.optional blind_string]

theorem blind_parameter : Blind parameterLayout TransitionParameter.ofWritten? := by
  refine blind_passing fun fs fs' h => ?_
  rw [h.required blind_string, h.withDefault blind_bool]

theorem blind_tools : Blind toolsLayout ToolSelection.ofWritten? := by
  refine blind_passing fun fs fs' h => ?_
  rw [h.required blind_string, h.withDefault blind_texts]

theorem blind_routing : Blind routingLayout RoutingParameters.ofWritten? := by
  refine blind_record _ (fun _ _ _ h => h.1) fun fs fs' h => ?_
  rw [h.required blind_uint32, h.withDefault blind_texts]

theorem blind_variableType : Blind .any VariableType.ofWritten? := blind_choice

theorem blind_variable : Blind variableLayout Variable.ofWritten? := by
  refine blind_passing fun fs fs' h => ?_
  rw [h.required blind_string, h.required blind_string, h.required blind_variableType,
    h.optional blind_string, h.optional blind_texts]

/-! ### Tasks -/

theorem blind_kind (tag : String) :
    Blind (.record (fun _ key _ => key ∉ kindKeys tag) kindMember) (TaskKind.ofTag? tag) := by
  intro w w' h
  unfold TaskKind.ofTag?
  split
  · rename_i htag
    refine blind_record ["hideTranscriptionToHuman"] ?_ (fun fs fs' hfields => ?_) w w' h
    · simp [kindKeys, htag]
    · rw [hfields.withDefault blind_bool]
  · rename_i hauto
    split
    · rename_i htag
      refine blind_record ["routingParameters"] ?_ (fun fs fs' hfields => ?_) w w' h
      · simp [kindKeys, hauto, htag]
      · rw [hfields.required (show Blind (kindMember "routingParameters") _ from blind_routing)]
    · rfl

/-- The one tag among the members with its key. -/
def soleTag? : List (String × Written) → Option Written
  | [(_, tag)] => some tag
  | _ => none

theorem soleTag?_eq_none {tags : List (String × Written)} (h : tags.length ≠ 1) :
    soleTag? tags = none := by
  rcases tags with _ | ⟨_, _ | ⟨_, _⟩⟩
  · rfl
  · exact (h rfl).elim
  · rfl

theorem mem_of_soleTag? {tags : List (String × Written)} {tag : Written}
    (h : soleTag? tags = some tag) :
    ∃ key, (key, tag) ∈ tags := by
  rcases tags with _ | ⟨⟨key, _⟩, _ | ⟨_, _⟩⟩
  · cases h
  · cases h
    exact ⟨key, List.mem_singleton_self _⟩
  · cases h

theorem mapM_isSome {α β : Type} {f : α → Option β} {as : List α} :
    (as.mapM f).isSome = as.all fun a => (f a).isSome := by
  induction as with
  | nil => rfl
  | cons a as ih =>
    rw [List.mapM_cons, List.all_cons, ← ih]
    cases f a <;> cases as.mapM f <;> rfl

/-- The members beside the tag have to be values; the kind is made from them and the one tag. -/
theorem among?_eq (outer : Nat) (es : List (String × Written)) :
    TaskKind.among? outer es =
    if (es.filter fun e => !decide (e.1 = "type")).all fun e =>
      (e.2.valueWithin? (outer + 1)).isSome then
      ((soleTag? (es.filter fun e => decide (e.1 = "type"))).bind TaskKind.tagAmong?).bind
        fun tag =>
        TaskKind.ofTag? tag
          (.object ((es.filter fun e => !decide (e.1 = "type")).map fun e => (some e.1, e.2)))
    else none := by
  rw [TaskKind.among?, splitTag, List.partition_eq_filter_filter, ← mapM_isSome]
  show Option.bind (Option.bind (List.mapM _ (es.filter fun e => !decide (e.1 = "type"))) _) _ = _
  cases hvalues : (es.filter fun e => !decide (e.1 = "type")).mapM fun e =>
      e.2.valueWithin? (outer + 1) with
  | none => rfl
  | some values =>
    rw [Option.bind_some, Option.isSome_some, if_pos rfl]
    generalize es.filter (fun e => decide (e.1 = "type")) = tags
    rcases tags with _ | ⟨⟨_, tag⟩, _ | ⟨_, _⟩⟩
    · rfl
    · rfl
    · rfl

variable {mayAdd : String → Written → Prop} {member : String → Layout}
    {es es' : List (String × Written)}

theorem blind_tag {l : Layout} : Blind l TaskKind.tagAmong? :=
  blind_plain (fun _ => rfl) fun _ => rfl

/-- The tag is read alike where no other can be added. -/
theorem tag_edit (h : Edit mayAdd member es es') (hadd : ∀ key w, ¬ mayAdd key w) :
    (soleTag? es').bind TaskKind.tagAmong? = (soleTag? es).bind TaskKind.tagAmong? := by
  cases h with
  | reorder hperm =>
    by_cases hone : es.length = 1
    · obtain ⟨e, rfl⟩ := List.length_eq_one_iff.1 hone
      rw [List.singleton_perm.1 hperm]
    · rw [soleTag?_eq_none hone, soleTag?_eq_none (hperm.length_eq ▸ hone)]
  | @change before after key w w' hstep =>
    by_cases hone : before = [] ∧ after = []
    · obtain ⟨rfl, rfl⟩ := hone
      exact blind_tag w w' hstep
    · have hlength : before.length + (after.length + 1) ≠ 1 := by
        rw [← List.length_eq_zero_iff, ← List.length_eq_zero_iff] at hone
        omega
      rw [soleTag?_eq_none (by simpa using hlength), soleTag?_eq_none (by simpa using hlength)]
  | add h => exact (hadd _ _ h).elim

theorem readable_edit {outer : Nat} (h : Edit mayAdd member es es')
    (hmember : ∀ key, (member key).AddsValues outer)
    (hadd : ∀ key w, mayAdd key w → Readable outer w) :
    (es'.all fun e => (e.2.valueWithin? outer).isSome) = es.all fun e =>
      (e.2.valueWithin? outer).isSome := by
  cases h with
  | reorder hperm => exact hperm.symm.all_eq
  | @change before after key w w' hstep =>
    have hvalue : (w'.valueWithin? outer).isSome = (w.valueWithin? outer).isSome :=
      Bool.eq_iff_iff.2 (hstep.readable_iff (hmember key)).symm
    simp only [List.all_append, List.all_cons, hvalue]
  | add h => rw [List.all_cons, hadd _ _ h, Bool.true_and]

/-- The kind is made alike of members that are edited, when what is added is a value and no tag, and
    not of the kind that the tag names. -/
theorem among?_edit {outer : Nat} (h : Edit mayAdd kindMember es es')
    (hmember : ∀ key, (kindMember key).AddsValues (outer + 1))
    (hvalue : ∀ key w, mayAdd key w → Readable (outer + 1) w)
      (huntagged : ∀ key w, mayAdd key w → key ≠ "type")
    (hforeign : ∀ key w, mayAdd key w → ∀ tagged tag, ("type", tagged) ∈ es →
      TaskKind.tagAmong? tagged = some tag → key ∉ kindKeys tag) :
    TaskKind.among? outer es' = TaskKind.among? outer es := by
  have htags := h.filter (fun key => decide (key = "type")) kindMember fun _ _ => rfl
  have hrest := h.filter (fun key => !decide (key = "type")) kindMember fun _ _ => rfl
  have htag := tag_edit htags fun key w hw => huntagged key w hw.1 (by simpa using hw.2)
  have hvalues := readable_edit hrest hmember fun key w hw => hvalue key w hw.1
  rw [among?_eq, among?_eq, htag, hvalues]
  congr 1
  refine Option.bind_congr fun tag hread => ?_
  refine blind_kind tag _ _ (hrest.step fun key w hw => ?_)
  obtain ⟨tagged, hsole, hread⟩ := Option.bind_eq_some_iff.1 hread
  obtain ⟨key', hmem⟩ := mem_of_soleTag? hsole
  obtain ⟨hmem, hkey'⟩ := List.mem_filter.1 hmem
  exact hforeign key w hw.1 tagged tag (of_decide_eq_true hkey' ▸ hmem) hread

theorem addsValues_kindMember (key : String) : (kindMember key).AddsValues 3 := by
  unfold kindMember
  split
  · exact ⟨fun _ _ _ h => h.2, fun _ => trivial⟩
  · trivial

theorem taskMember_eq {key : String} (hkey : key ∉ Task.keys) :
    kindMember key = taskMember key := by
  have hne : key ≠ "transitionParameters" ∧ key ≠ "mcpToolSelection" ∧ key ≠ "closureConfig" := by
    simp only [Task.keys, List.mem_cons, not_or] at hkey
    exact ⟨hkey.2.2.2.2.1, hkey.2.2.2.2.2.1, hkey.2.2.2.2.2.2.1⟩
  rw [taskMember, if_neg hne.1, if_neg hne.2.1, if_neg hne.2.2]

theorem withKind?_object (ms : List (Option String × Written)) :
    withKind? Task.keys 2 (.object ms) =
    if ms.all (·.1.isSome) then (Fields.pick? Task.keys (keyed ms)).bind fun fs =>
      (TaskKind.among? 2 ((keyed ms).filter fun m => !Task.keys.contains m.1)).bind fun kind =>
        some (fs, kind)
    else none := by
  rw [withKind?, members?_eq]
  cases ms.all (·.1.isSome) <;> rfl

/-- The fields of the task are restated by an edit, and the kind stays. -/
theorem withKind?_step {w w' : Written} (h : taskLayout.Step w w') :
    Option.Rel (fun x x' => Fields.Restate taskMember x.1 x'.1 ∧ x'.2 = x.2)
      (withKind? Task.keys 2 w) (withKind? Task.keys 2 w') := by
  cases w with
  | object ms =>
    obtain ⟨ms', rfl, hkeys, hedit⟩ := h.edit
    -- the step shows beside the keys of a task as one the kind does not see
    have hothers := hedit.filter (fun key => !Task.keys.contains key) kindMember fun key hkey =>
      taskMember_eq (by simpa using hkey)
    have hkind := among?_edit hothers addsValues_kindMember (fun _ _ hw => hw.1.value)
      (fun _ _ hw => hw.1.untagged)
      fun key x hw tagged tag hmem =>
        hw.1.foreign tagged tag (mem_keyed.1 (List.mem_filter.1 hmem).1)
    rw [withKind?_object, withKind?_object, hkeys, hkind]
    cases ms.all (·.1.isSome) with
    | false => exact .none
    | true =>
      generalize hfs : Fields.pick? Task.keys (keyed ms) = fs, hfs' :
        Fields.pick? Task.keys (keyed ms') = fs'
      cases hfs ▸ hfs' ▸ hedit.pick? fun _ _ hw => hw.unknown with
      | none => exact .none
      | some hrestate =>
        cases TaskKind.among? 2 ((keyed ms).filter fun m => !Task.keys.contains m.1) with
        | none => exact .none
        | some kind => exact .some ⟨hrestate, rfl⟩
  | array ws =>
    generalize hw : Written.array ws = w at h
    cases h <;> cases hw
    exact .none
  | null => cases h
  | bool => cases h
  | number => cases h
  | string => cases h

theorem blind_task : Blind taskLayout (Task.ofWritten? 2) := by
  intro w w' h
  rw [Task.ofWritten?, Task.ofWritten?]
  generalize hw : withKind? Task.keys 2 w = o, hw' : withKind? Task.keys 2 w' = o'
  cases hw ▸ hw' ▸ withKind?_step h with
  | none => rfl
  | @some x x' hsame =>
    obtain ⟨fs, kind⟩ := x
    obtain ⟨fs', _⟩ := x'
    obtain ⟨hfields, rfl⟩ := hsame
    -- the kind is the same, and so is each member that a task looks up
    have htexts : Blind (taskMember "connectedTasks") (Written.list? Written.string?) := blind_texts
    have hparameters :
        Blind (taskMember "transitionParameters") (Written.list? TransitionParameter.ofWritten?) :=
      blind_list blind_parameter
    have htools : Blind (taskMember "mcpToolSelection") (Written.list? ToolSelection.ofWritten?) :=
      blind_list blind_tools
    have hclosure : Blind (taskMember "closureConfig") ClosureConfig.ofWritten? := blind_closure
    simp only [Option.bind_eq_bind, Option.bind_some]
    rw [hfields.required blind_string, hfields.required blind_string,
      hfields.withDefault blind_string, hfields.withDefault htexts, hfields.withDefault hparameters,
      hfields.optional htools, hfields.optional hclosure]

/-- A member that is no value makes a task unreadable, though neither the task nor any
    kind knows it. -/
theorem task_eq_none {ms : List (Option String × Written)} {key : String} {w : Written}
    (hunknown : key ∉ Task.keys) (huntagged : key ≠ "type") (hvalue : ¬ Readable 3 w) :
    Task.ofWritten? 2 (.object ((some key, w) :: ms)) = none := by
  -- the member goes to the kind with the rest, and cannot be read there
  have hkind :
      TaskKind.among? 2 ((keyed ((some key, w) :: ms)).filter fun m => !Task.keys.contains m.1) =
      none := by
    have hbeside : ((key, w) :: keyed ms).filter (fun m => !Task.keys.contains m.1) =
        (key, w) :: (keyed ms).filter fun m => !Task.keys.contains m.1 :=
          List.filter_cons_of_pos (by simpa using hunknown)
    have hfalse : (w.valueWithin? 3).isSome = false := Bool.eq_false_iff.2 hvalue
    show TaskKind.among? 2 (((key, w) :: keyed ms).filter fun m => !Task.keys.contains m.1) = none
    rw [hbeside, among?_eq, List.filter_cons_of_pos (by simpa using huntagged), List.all_cons,
      hfalse, Bool.false_and]
    rfl
  have hnone : withKind? Task.keys 2 (.object ((some key, w) :: ms)) = none := by
    rw [withKind?_object, hkind]
    split
    · cases Fields.pick? Task.keys (keyed ((some key, w) :: ms)) <;> rfl
    · rfl
  rw [Task.ofWritten?, hnone]
  rfl

/-! ### Versions -/

theorem blind_version : Blind versionLayout Version.ofWritten? := by
  refine blind_passing fun fs fs' h => ?_
  have hchannels : Blind (versionMember "channels") (Written.list? Channel.ofWritten?) :=
    Blind.of_any (blind_list (l := .any) blind_choice)
  have hclosure : Blind (versionMember "closureConfig") ClosureConfig.ofWritten? := blind_closure
  have hvariables : Blind (versionMember "variables") (Written.list? Variable.ofWritten?) :=
    blind_list blind_variable
  have htasks : Blind (versionMember "tasks") (Written.list? (Task.ofWritten? 2)) :=
    blind_list blind_task
  have hinstant : Blind (versionMember "createdAt") Written.timestamp? :=
    blind_plain (fun _ => rfl) fun _ => rfl
  rw [h.required blind_string, h.required blind_string, h.withDefault blind_bool,
    h.withDefault blind_string, h.withDefault hchannels, h.withDefault hclosure,
    h.withDefault hvariables, h.withDefault htasks, h.optional blind_string,
    h.optional blind_string, h.optional hinstant]

/-- The machine that the text of a version compiles to. -/
def machineOf? (s : String) : Option StateMachine.Machine :=
  do (StateMachine.compile (← Version.ofText? s)).toOption

/-- Texts of documents that say the same in other words are read as one version, so they
    compile to one machine. -/
theorem restated_version_reads_alike {s s' : String} {w w' : Written}
    (hs : Written.ofText? s = some w) (hs' : Written.ofText? s' = some w')
    (h : versionLayout.Restates w w') :
    Version.ofText? s' = Version.ofText? s ∧ machineOf? s' = machineOf? s := by
  have hversion : Version.ofText? s' = Version.ofText? s := by
    rw [Version.ofText?, Version.ofText?, hs, hs']
    exact blind_version.restates h
  exact ⟨hversion, by rw [machineOf?, machineOf?, hversion]⟩

/-- A task without anything that it does not need. -/
def welcomeTask : List (String × Value) :=
  [("_id", .string "t1"), ("description", .string "welcome"), ("type", .string "AIO")]

/-- A member of the other kinds. -/
def routed : String × Value := ("routingParameters", .array [.null])

/-- The members of a version but for its tasks. -/
def welcomeMembers : List (String × Value) :=
  [("_id", .string "v1"), ("conversationalFlowId", .string "booking"), ("firstTask", .string "t1")]

/-- A version with the one task. -/
def welcomeDocument : Value := .object (welcomeMembers ++ [("tasks", .array [.object welcomeTask])])

/-- The same with a note, with a member of the other kinds in its task, and with its
    tasks in front. -/
def annotatedDocument : Value :=
  .object (("tasks", .array [.object (routed :: welcomeTask)]) :: ("note", .bool true) ::
    welcomeMembers)

theorem welcome_restated :
    versionLayout.Restates welcomeDocument.written annotatedDocument.written := by
  have hrouted : MayAddToTask (membersWritten welcomeTask) routed.1 routed.2.written := by
    refine ⟨by decide, by decide, fun tagged tag hmem htag => ?_, by decide⟩
    obtain rfl : tagged = .string (some "AIO") := by
      simpa [membersWritten, welcomeTask, Value.written] using hmem
    obtain rfl := Option.some.inj htag
    decide
  have htask : taskLayout.Step (Value.object welcomeTask).written
      (Value.object (routed :: welcomeTask)).written :=
    .add hrouted
  have htasks : versionLayout.Step welcomeDocument.written
      (.object (membersWritten welcomeMembers ++
          [(some "tasks", .array [(Value.object (routed :: welcomeTask)).written])])) :=
    @Layout.Step.member versionLayout (membersWritten welcomeMembers) [] (some "tasks") _ _
      (@Layout.Step.item (.list taskLayout) [] [] _ _ htask)
  have hnote (ms : List (Option String × Written)) : versionLayout.MayAdd ms "note" (.bool true) :=
    show "note" ∉ Version.keys by decide
  -- the tasks stand behind the four others, and come in front of them
  exact .tail (.tail (.single htasks) (.add (hnote _)))
    (.reorder (@List.perm_append_comm _ [_, _, _, _] [_]))

theorem annotated_reads_alike :
    versionLayout.Restates welcomeDocument.written annotatedDocument.written ∧
    machineOf? annotatedDocument.text = machineOf? welcomeDocument.text ∧
      (machineOf? welcomeDocument.text).isSome := by
  have hreads : welcomeDocument.Reads := by
    simp [welcomeDocument, welcomeMembers, welcomeTask, Value.Reads, MembersRead, ItemsRead]
  have hreads' : annotatedDocument.Reads := by
    simp [annotatedDocument, routed, welcomeMembers, welcomeTask, Value.Reads, MembersRead,
      ItemsRead]
  refine ⟨welcome_restated, ?_, ?_⟩
  · exact (restated_version_reads_alike (Written.ofText?_text hreads)
      (Written.ofText?_text hreads') welcome_restated).2
  · rw [machineOf?, Version.ofText?, Written.ofText?_text hreads]
    decide +kernel

/-- The text of such a document, with something after the members of its task. -/
def welcomeText (onTask : String) : String :=
  "\x7b\"_id\":\"v1\",\"conversationalFlowId\":\"booking\",\"tasks\":[" ++
    "\x7b\"_id\":\"t1\",\"description\":\"welcome\",\"type\":\"AIO\"" ++ onTask ++
      "\x7d],\"firstTask\":\"t1\"\x7d"

/-- Notes on a task that are numbers or strings, but no values. -/
theorem note_on_task_not_read : (Version.ofText? (welcomeText "")).isSome ∧
    Version.ofText? (welcomeText ",\"note\":1e999") = none ∧
    Version.ofText? (welcomeText ",\"note\":\"\\ud800\"") = none := by
  decide +kernel

end Dialogue.Flow
