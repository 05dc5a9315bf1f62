import Dialogue.Flow.Version
import Dialogue.Proofs.Conversation.Blob

/-! # Flow versions are read back

    The text of a flow version is read as the version, with its creation at the instant that is told
    (`Version.ofText?_textOf`), so it is read back exactly when that is the time it was created at
    (`Version.asRead_eq_self_iff`). A field that is left out when there is nothing to say is told
    from one that is `null`, and the members of the kind of a task are told from those of the task
    by their keys (`withKind?_written`). -/

namespace Dialogue.Flow

open Json Time Conversation

/-! ### Plain data -/

theorem readsBack_bool (b : Bool) : ReadsBack Written.bool? b := ⟨trivial, rfl⟩

theorem readsBack_uint32 (n : UInt32) : ReadsBack Written.uint32? n := by
  have hn : n.toNat < UInt32.size := n.toNat_lt_size
  have hlow : -((UInt64.size / 2 : Nat) : Int) ≤ (n.toNat : Int) := by omega
  have hhigh : (n.toNat : Int) < UInt64.size := by simp only [UInt32.size, UInt64.size] at *; omega
  refine ⟨reads_int hlow hhigh, ?_⟩
  simp [toJson, Value.written, Written.uint32?, Written.natBelow?, hn]

theorem readsBack_variableType (t : VariableType) : ReadsBack VariableType.ofWritten? t := by
  cases t <;> exact ⟨trivial, rfl⟩

/-- A text that may be missing is not written as nothing when it is there. -/
theorem readsBack_text (o : Option String) :
    ∀ s ∈ o, ReadsBack Written.string? s ∧ (toJson s).written ≠ .null := by
  intro s _
  exact ⟨readsBack_string s, by simp [toJson, Value.written]⟩

/-- Nor is a list, or a record. -/
theorem list_ne_null {α : Type} [ToJson α] (as : List α) : (toJson as).written ≠ .null := by
  simp [toJson, Value.written]

theorem closure_ne_null (c : ClosureConfig) : (toJson c).written ≠ .null := by
  simp [toJson, Value.written]

/-! ### Parts of a version -/

theorem readsBack_closure (c : ClosureConfig) : ReadsBack ClosureConfig.ofWritten? c := by
  have hmulti := readsBack_bool c.multiContact
  have hlimit : ∀ n ∈ c.timeLimit, ReadsBack Written.uint64? n ∧ (toJson n).written ≠ .null := by
    intro n _
    exact ⟨readsBack_uint64 n, written_uint64_ne_null n⟩
  have hhook := readsBack_text c.hook
  refine readsAs_sparse rfl ?_ (by decide) ?_ ?_
  · rw [List.map_append, List.map_cons]
    exact ((keys_memberIfSome "conversationTimeLimit" c.timeLimit).cons_cons "multiContact").append
      (keys_memberIfSome "customHandler" c.hook)
  · simp only [List.forall_mem_append, List.forall_mem_cons]
    exact ⟨⟨hmulti.numbers, reads_memberIfSome fun n hn => (hlimit n hn).1.numbers⟩,
      reads_memberIfSome fun s hs => (hhook s hs).1.numbers⟩
  · obtain ⟨multi, limit, hook⟩ := c
    rw [withDefault_written hmulti (by rfl),
      optional_memberIfSome hlimit (by cases limit <;> cases hook <;> rfl),
      optional_memberIfSome hhook (by cases limit <;> cases hook <;> rfl)]
    rfl

theorem readsBack_parameter (p : TransitionParameter) :
    ReadsBack TransitionParameter.ofWritten? p := by
  have hid := readsBack_string p.variableId
  have hrequired := readsBack_bool p.required
  refine readsAs_record rfl rfl (by decide) ?_ ?_
  · simp only [List.forall_mem_cons, List.not_mem_nil, false_imp_iff, implies_true, and_true]
    exact ⟨hid.numbers, hrequired.numbers⟩
  · rw [required_written hid (by rfl), withDefault_written hrequired (by rfl)]
    rfl

theorem readsBack_routing (r : RoutingParameters) : ReadsBack RoutingParameters.ofWritten? r := by
  have htimeout := readsBack_uint32 r.timeout
  have hskills : ReadsBack (Written.list? Written.string?) r.agentSkills :=
    readsBack_list fun s _ => readsBack_string s
  refine readsAs_record rfl rfl (by decide) ?_ ?_
  · simp only [List.forall_mem_cons, List.not_mem_nil, false_imp_iff, implies_true, and_true]
    exact ⟨htimeout.numbers, hskills.numbers⟩
  · rw [required_written htimeout (by rfl), withDefault_written hskills (by rfl)]
    rfl

theorem readsBack_tools (t : ToolSelection) : ReadsBack ToolSelection.ofWritten? t := by
  have hserver := readsBack_string t.server
  have htools : ReadsBack (Written.list? Written.string?) t.tools :=
    readsBack_list fun s _ => readsBack_string s
  refine readsAs_record rfl rfl (by decide) ?_ ?_
  · simp only [List.forall_mem_cons, List.not_mem_nil, false_imp_iff, implies_true, and_true]
    exact ⟨hserver.numbers, htools.numbers⟩
  · rw [required_written hserver (by rfl), withDefault_written htools (by rfl)]
    rfl

theorem readsBack_variable (v : Variable) : ReadsBack Variable.ofWritten? v := by
  have hid := readsBack_string v.id
  have hname := readsBack_string v.name
  have htype := readsBack_variableType v.type
  have hprompt := readsBack_text v.prompt
  have hvalues : ∀ ss ∈ v.enumValues, ReadsBack (Written.list? Written.string?) ss ∧
      (toJson ss).written ≠ .null := by
    intro ss _
    exact ⟨readsBack_list fun s _ => readsBack_string s, list_ne_null ss⟩
  refine readsAs_sparse rfl ?_ (by decide) ?_ ?_
  · rw [List.map_append, List.map_append]
    exact ((List.Sublist.refl ["_id", "name", "type"]).append
      (keys_memberIfSome "prompt" v.prompt)).append
      (keys_memberIfSome "enumValues" v.enumValues)
  · simp only [List.forall_mem_append, List.forall_mem_cons, List.not_mem_nil, false_imp_iff,
      implies_true, and_true]
    exact ⟨⟨⟨hid.numbers, hname.numbers, htype.numbers⟩, reads_memberIfSome fun s hs =>
      (hprompt s hs).1.numbers⟩, reads_memberIfSome fun ss hss => (hvalues ss hss).1.numbers⟩
  · obtain ⟨id, name, type, prompt, values⟩ := v
    rw [required_written hid (by rfl), required_written hname (by rfl),
      required_written htype (by rfl),
      optional_memberIfSome hprompt (by cases prompt <;> cases values <;> rfl),
      optional_memberIfSome hvalues (by cases prompt <;> cases values <;> rfl)]
    rfl

/-! ### Tasks

    The members of the kind stand behind those of the task, and have keys of their own. -/

theorem reads_members (k : TaskKind) : ∀ m ∈ k.members, m.2.Reads := by
  cases k with
  | automated hide => simp [TaskKind.members, toJson, Value.Reads]
  | assisted r | human r =>
    simp only [TaskKind.members, List.forall_mem_cons, List.not_mem_nil, false_imp_iff,
      implies_true, and_true]
    exact ⟨trivial, (readsBack_routing r).numbers⟩

/-- Texts in a list stand no deeper than the list. -/
theorem itemDepth_texts (ss : List String) :
    itemDepth (itemsWritten (ss.map Value.string)) = 0 := by
  induction ss with
  | nil => rfl
  | cons s ss ih => rw [List.map_cons, itemsWritten, itemDepth, ih]; rfl

theorem depth_routing (r : RoutingParameters) : (toJson r).written.depth = 2 := by
  simp only [toJson, Value.written, membersWritten, Written.depth, memberDepth, itemDepth_texts]
  rfl

/-- The tag is told from the one member beside it. -/
theorem splitTag_pair {outer : Nat} {key : String} {tag other v : Value} (hkey : key ≠ "type")
    (hother : other.written.valueWithin? outer = some v) :
    splitTag "type" outer ([("type", tag), (key, other)].map fun m => (m.1, m.2.written)) =
      some (tag.written, [(key, other.written)]) := by
  simp [splitTag, hkey, hother]

theorem fields?_single (key : String) (v : Value) :
    (Value.object [(key, v)]).written.fields? [key] = some [(key, v.written)] :=
  fields?_written (.refl _) (by simp)

/-- A kind is made from its tag and the member beside it. -/
theorem ofTag?_members (k : TaskKind) :
    TaskKind.ofTag? k.tag (Value.object k.members.tail).written = some k := by
  have hroutes (r : RoutingParameters) : Fields.required [("routingParameters", (toJson r).written)]
      "routingParameters" RoutingParameters.ofWritten? = some r :=
        required_written (readsBack_routing r) (by rfl)
  cases k with
  | automated hide =>
    have hhides :
        Fields.withDefault [("hideTranscriptionToHuman", (toJson hide).written)]
        "hideTranscriptionToHuman"
        false Written.bool? = some hide := withDefault_written (readsBack_bool hide) (by rfl)
    rw [TaskKind.tag, TaskKind.ofTag?, if_pos rfl, TaskKind.members, List.tail_cons, fields?_single]
    exact congrArg (Option.map TaskKind.automated) hhides
  | assisted r =>
    rw [TaskKind.tag, TaskKind.ofTag?, if_neg (by decide), if_pos (by decide), TaskKind.members,
      List.tail_cons, fields?_single, Option.bind_eq_bind, Option.bind_some, hroutes]
    rfl
  | human r =>
    rw [TaskKind.tag, TaskKind.ofTag?, if_neg (by decide), if_pos (by decide), TaskKind.members,
      List.tail_cons, fields?_single, Option.bind_eq_bind, Option.bind_some, hroutes]
    rfl

/-- The members of a kind make the kind, where values may stand that deep. -/
theorem among?_members {outer : Nat} (k : TaskKind) (h : outer + 3 ≤ deepest) :
    TaskKind.among? outer (k.members.map fun m => (m.1, m.2.written)) = some k := by
  have hvalue (v : Value) (hv : v.written.depth ≤ 2) :
      v.written.valueWithin? (outer + 1) = some v.sorted := by
    rw [Written.valueWithin?, if_pos (by omega), value?_written]
  have hkind := ofTag?_members k
  cases k with
  | automated hide =>
    rw [TaskKind.among?, TaskKind.members,
      splitTag_pair (by decide) (hvalue (toJson hide) (Nat.zero_le _))]
    exact hkind
  | assisted r =>
    rw [TaskKind.among?, TaskKind.members,
      splitTag_pair (by decide) (hvalue (toJson r) (depth_routing r).le)]
    exact hkind
  | human r =>
    rw [TaskKind.among?, TaskKind.members,
      splitTag_pair (by decide) (hvalue (toJson r) (depth_routing r).le)]
    exact hkind

/-- A record with a kind is told apart from the kind by its keys. -/
theorem withKind?_written {known : List String} {outer : Nat} {own : List (String × Value)}
    (k : TaskKind) (hkeys : (own.map (·.1)).Sublist known) (hnodup : known.Nodup)
    (hkind : ∀ m ∈ k.members, m.1 ∉ known) (h : outer + 3 ≤ deepest) :
    withKind? known outer (Value.object (own ++ k.members)).written =
      some (own.map fun m => (m.1, m.2.written), k) := by
  -- the members that are left over are those of the kind
  have hothers :
      ((own ++ k.members).map fun m => (m.1, m.2.written)).filter (fun m => !known.contains m.1) =
      k.members.map fun m => (m.1, m.2.written) := by
    rw [List.map_append, List.filter_append, List.filter_eq_nil_iff.2, List.filter_eq_self.2,
      List.nil_append]
    · intro m hm
      obtain ⟨x, hx, rfl⟩ := List.mem_map.1 hm
      simpa using hkind x hx
    · intro m hm
      obtain ⟨x, hx, rfl⟩ := List.mem_map.1 hm
      simpa using hkeys.subset (List.mem_map_of_mem hx)
  rw [withKind?, members?_object]
  simp only [Option.bind_eq_bind, Option.bind_some, pick?_append hkeys hnodup hkind, hothers,
    among?_members k h]
  rfl

theorem members_not_in_keys (k : TaskKind) : ∀ m ∈ k.members, m.1 ∉ Task.keys := by
  cases k <;> simp [TaskKind.members, Task.keys]

/-- The members of a task beside those of its kind. -/
def Task.ownMembers (t : Task) : List (String × Value) :=
  [("_id", toJson t.id), ("description", toJson t.description), ("prompt", toJson t.prompt),
    ("connectedTasks", toJson t.connectedTasks), ("transitionParameters", toJson t.parameters)]
    ++ memberIfSome "mcpToolSelection" t.tools ++ memberIfSome "closureConfig" t.closure

theorem keys_ownMembers (t : Task) : (t.ownMembers.map (·.1)).Sublist Task.keys := by
  rw [Task.ownMembers, List.map_append, List.map_append]
  exact ((List.Sublist.refl ["_id", "description", "prompt", "connectedTasks",
    "transitionParameters"]).append
    (keys_memberIfSome "mcpToolSelection" t.tools)).append
      (keys_memberIfSome "closureConfig" t.closure)

theorem readsBack_task {outer : Nat} (t : Task) (h : outer + 3 ≤ deepest) :
    ReadsBack (Task.ofWritten? outer) t := by
  have hid := readsBack_string t.id
  have hdescription := readsBack_string t.description
  have hprompt := readsBack_string t.prompt
  have hconnected : ReadsBack (Written.list? Written.string?) t.connectedTasks :=
    readsBack_list fun s _ => readsBack_string s
  have hparameters : ReadsBack (Written.list? TransitionParameter.ofWritten?) t.parameters :=
    readsBack_list fun p _ => readsBack_parameter p
  have htools : ∀ ts ∈ t.tools, ReadsBack (Written.list? ToolSelection.ofWritten?) ts ∧
      (toJson ts).written ≠ .null := by
    intro ts _
    exact ⟨readsBack_list fun s _ => readsBack_tools s, list_ne_null ts⟩
  have hclosure : ∀ c ∈ t.closure, ReadsBack ClosureConfig.ofWritten? c ∧
      (toJson c).written ≠ .null := by
    intro c _
    exact ⟨readsBack_closure c, closure_ne_null c⟩
  have hdocument : toJson t = .object (t.ownMembers ++ t.kind.members) := rfl
  constructor
  -- every number is one that can be read
  · rw [hdocument]
    refine (membersRead_iff _).2 ?_
    simp only [Task.ownMembers, List.forall_mem_append, List.forall_mem_cons, List.not_mem_nil,
      false_imp_iff, implies_true, and_true]
    exact ⟨⟨⟨⟨hid.numbers, hdescription.numbers, hprompt.numbers, hconnected.numbers,
      hparameters.numbers⟩, reads_memberIfSome fun ts hts => (htools ts hts).1.numbers⟩,
      reads_memberIfSome fun c hc => (hclosure c hc).1.numbers⟩, reads_members t.kind⟩
  -- the members of its own, and among those beside them the kind
  · rw [hdocument, Task.ofWritten?,
      withKind?_written t.kind (keys_ownMembers t) (by decide) (members_not_in_keys t.kind) h,
      Option.bind_eq_bind, Option.bind_some]
    obtain ⟨id, description, prompt, connected, parameters, tools, closure, kind⟩ := t
    simp only
    rw [required_written hid (by rfl), required_written hdescription (by rfl),
      withDefault_written hprompt (by rfl), withDefault_written hconnected (by rfl),
      withDefault_written hparameters (by rfl),
      optional_memberIfSome htools (by cases tools <;> cases closure <;> rfl),
      optional_memberIfSome hclosure (by cases tools <;> cases closure <;> rfl)]
    rfl

/-! ### Versions -/

/-- The version that the text of a version tells: its creation is at an instant. -/
def Version.asRead (v : Version) : Version :=
  { v with createdAt := v.createdAt.map fun t => t.asRead.stamp }

/-- The version was created at an instant, or does not say when. -/
def Version.OfInstant (v : Version) : Prop := ∀ t ∈ v.createdAt, t.IsInstant

theorem Version.asRead_eq_self_iff (v : Version) : v.asRead = v ↔ v.OfInstant := by
  obtain ⟨_, _, _, _, _, _, _, _, _, _, createdAt⟩ := v
  cases createdAt with
  | none => simp [Version.asRead, Version.OfInstant]
  | some t => simp [Version.asRead, Version.OfInstant, Timestamp.stamp_asRead_iff]

theorem readsAs_recordedTime (t : Timestamp) : ReadsAs Written.timestamp? t t.asRead.stamp := by
  have htold := readsAs_timestamp t
  exact ⟨htold.numbers, by rw [Written.timestamp?, htold.reads]; rfl⟩

theorem readsAs_version (v : Version) : ReadsAs Version.ofWritten? v v.asRead := by
  have hid := readsBack_string v.id
  have hflow := readsBack_string v.flowId
  have hdraft := readsBack_bool v.draft
  have hprompt := readsBack_string v.globalPrompt
  have hchannels : ReadsBack (Written.list? Channel.ofWritten?) v.channels :=
    readsBack_list fun c _ => readsBack_channel c
  have hclosure := readsBack_closure v.closure
  have hdeclarations : ReadsBack (Written.list? Variable.ofWritten?) v.declarations :=
    readsBack_list fun x _ => readsBack_variable x
  have htasks : ReadsBack (Written.list? (Task.ofWritten? 2)) v.tasks :=
    readsBack_list fun t _ => readsBack_task t (by decide)
  have hfirst := readsBack_text v.firstTask
  have hby := readsBack_text v.createdBy
  -- only the time of the creation may be read as another
  have hat : ∀ t ∈ v.createdAt, ReadsAs Written.timestamp? t t.asRead.stamp ∧
      (toJson t).written ≠ .null := by
    intro t _
    exact ⟨readsAs_recordedTime t, by simp [toJson, Value.written]⟩
  refine readsAs_record rfl rfl (by decide) ?_ ?_
  · simp only [List.forall_mem_cons, List.not_mem_nil, false_imp_iff, implies_true, and_true]
    exact ⟨hid.numbers, hflow.numbers, hdraft.numbers, hprompt.numbers, hchannels.numbers,
      hclosure.numbers,
      hdeclarations.numbers, htasks.numbers, reads_option fun s hs => (hfirst s hs).1.numbers,
      reads_option fun s hs => (hby s hs).1.numbers, reads_option fun t ht => (hat t ht).1.numbers⟩
  · rw [required_written hid (by rfl), required_written hflow (by rfl),
      withDefault_written hdraft (by rfl), withDefault_written hprompt (by rfl),
      withDefault_written hchannels (by rfl), withDefault_written hclosure (by rfl),
      withDefault_written hdeclarations (by rfl), withDefault_written htasks (by rfl),
      optional_written hfirst (by rfl), optional_written hby (by rfl), optional_readAs hat (by rfl)]
    rfl

/-- The text of a version is read as the version, created at the instant that is told. -/
theorem Version.ofText?_textOf (v : Version) : Version.ofText? (textOf v) = some v.asRead :=
  (readsAs_version v).ofText

end Dialogue.Flow
