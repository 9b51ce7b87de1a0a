import NestedWorkflow.Proofs.Artifact.Memory
import NestedWorkflow.Proofs.Literal.Document
import NestedWorkflow.Proofs.Reference.Segments
import NestedWorkflow.Proofs.Tick.CallOrder
import NestedWorkflow.Proofs.Tick.Seeding

/-!
# Stored inputs reach the start node

The inputs of a node lie in a file, as the text of one JSON object.  A first tick hands them to the
executor as they were written, whatever they are and under whichever spelling of its path the file
was put (`StoredInputs.feed_start`).  Where there is no file there are no inputs.  Where the file
holds anything else the node fails, and the executor does not hear of it.

What the reader answers decides which way a first tick goes (`Body.Starts.seededInputs_eq`,
`Body.Starts.eq_of_unread`); what the store holds decides what the reader answers.
-/

namespace NestedWorkflow

variable {σ : Type}

/-! ### Calls of the executor -/

namespace Call

/-- The inputs with which the start node is to be seeded. -/
def seededInputs? : Call → Option LiteralMap
  | .seed _ inputs _ => some inputs
  | _ => none

/-- The call turns to the executor. -/
def IsOfExecutor (call : Call) : Prop := call.kind ∈ [Kind.seeding, .pass, .abort]

/-- Only what prepares the graph can be a seeding. -/
lemma seededInputs?_eq_none {call : Call} (h : ¬ call.Prepares) : call.seededInputs? = none := by
  cases call with
  | seed l inputs a => exact absurd (.seed l inputs a) h
  | _ => rfl

end Call

/-- The inputs with which the start node was seeded among these exchanges, each time. -/
def seededInputs (xs : List (Exchange σ)) : List LiteralMap :=
  xs.filterMap fun x => x.call.seededInputs?

namespace Body

variable {site : TickSite} {c : Collaborators σ} {sub : SubWorkflow} {s : Status} {w : σ}
  {o : TickOutcome σ Transition}

/-- Inputs that were read are what the start node is seeded with, once. -/
lemma Starts.seededInputs_eq (h : Starts site c s w o) (hsub : resolve site = .ok sub)
    (hlink : (site.linking sub s).1 = .ok ()) {inputs : LiteralMap}
    (hread : (c.readInputs w).1 = .ok inputs) : seededInputs o.exchanges = [inputs] := by
  cases h with
  | unresolved hs => cases hs.symm.trans hsub
  | unlinked hs hl =>
    obtain rfl := Except.ok.inj (hs.symm.trans hsub)
    cases hl.symm.trans hlink
  | unread _ _ read =>
    rw [read] at hread
    cases hread
  | seedHalted _ _ read hq _ | seedFailed _ _ read hq _ =>
    rw [read] at hread
    obtain rfl := Except.ok.inj hread
    subst hq
    rfl
  | @advanced _ _ _ q _ o' _ _ read hq _ _ ho =>
    rw [read] at hread
    obtain rfl := Except.ok.inj hread
    subst hq
    have hrest : seededInputs o'.exchanges = [] :=
      List.filterMap_eq_nil_iff.2 fun y hy =>
        Call.seededInputs?_eq_none (ho.not_prepares y hy)
    change _ :: seededInputs o'.exchanges = _
    rw [hrest]
    rfl

/-- If the inputs cannot be read then the node fails with the reason, and nothing else happens. -/
lemma Starts.eq_of_unread (h : Starts site c s w o) (hsub : resolve site = .ok sub)
    (hlink : (site.linking sub s).1 = .ok ()) {e : InputError}
    (hread : (c.readInputs w).1 = .error e) :
    o = ⟨.ok (.failed (.system ExecutionError.runtimeCode ("failed to read input: " ++ e.report))),
      (site.linking sub s).2, (c.readInputs w).2,
      [⟨.readInputs (.error e), (c.readInputs w).2⟩]⟩ := by
  cases h with
  | unresolved hs => cases hs.symm.trans hsub
  | unlinked hs hl =>
    obtain rfl := Except.ok.inj (hs.symm.trans hsub)
    cases hl.symm.trans hlink
  | unread hs _ read =>
    obtain rfl := Except.ok.inj (hs.symm.trans hsub)
    rw [read] at hread ⊢
    obtain rfl := Except.error.inj hread
    rfl
  | seedHalted _ _ read _ _ | seedFailed _ _ read _ _ | advanced _ _ read _ _ _ _ =>
    rw [read] at hread
    cases hread

end Body

/-! ### What the file holds -/

namespace StoredInputs

/-- What a first tick makes of what is stored under the path of the inputs.  Inputs are those that
were written, or whatever else the bytes decode to; without a file there are none.  Bytes that are
no JSON object are an error of the system, of which the executor does not hear, and which leaves the
checkpoint as it was before. -/
structure Feed (stored : Option ByteArray) (before : Checkpoint) (o : TickOutcome σ Transition) :
    Prop where
  written : ∀ m : LiteralMap, (∀ e ∈ m.entries, e.2.Plain 126) →
    stored = some m.toText.toUTF8 → seededInputs o.exchanges = [m]
  decoded : ∀ bytes m, stored = some bytes → LiteralMap.ofBytes? bytes = some m →
    seededInputs o.exchanges = [m]
  absent : stored = none → seededInputs o.exchanges = [Dict.empty]
  refused : ∀ bytes, stored = some bytes → LiteralMap.ofBytes? bytes = none →
    (∃ e : ExecutionError, o.result = .ok (.failed e) ∧ e.kind = .system ∧
      e.code = ExecutionError.runtimeCode) ∧
    (∀ x ∈ o.exchanges, ¬ x.call.IsOfExecutor) ∧ o.status.own.checkpoint = before

/-- Noting the start does not change what a tick made of its inputs. -/
lemma Feed.recordingStart {stored : Option ByteArray} {before : Checkpoint}
    {o : TickOutcome σ Transition} (h : Feed stored before o) (now : Instant) :
    Feed stored before (o.recordingStart now) where
  written m hm hstored := (o.exchanges_recordingStart now).symm ▸ h.written m hm hstored
  decoded bytes m hstored hm := (o.exchanges_recordingStart now).symm ▸ h.decoded bytes m hstored hm
  absent hstored := (o.exchanges_recordingStart now).symm ▸ h.absent hstored
  refused bytes hstored hnone := by
    have hrefused := h.refused bytes hstored hnone
    obtain ⟨e, hresult, -⟩ := hrefused.1
    have hsame : o.recordingStart now = o :=
      TickOutcome.recordingStart_of_ne_running (by rw [hresult]; simp) now
    rw [hsame]
    exact hrefused

/-- A first tick whose reader decodes what is stored feeds it to the start node. -/
lemma feed_of_starts {site : TickSite} {c : Collaborators σ} {sub : SubWorkflow} {s : Status}
    {w : σ} {o : TickOutcome σ Transition} (h : Body.Starts site c s w o)
    (hsub : Body.resolve site = .ok sub) (hlink : (site.linking sub s).1 = .ok ())
    {file : Reference} {stored : Option ByteArray}
    (hread : (c.readInputs w).1 = decode file (.ok stored)) : Feed stored s.own.checkpoint o := by
  have hdecoded : ∀ bytes m, stored = some bytes → LiteralMap.ofBytes? bytes = some m →
      seededInputs o.exchanges = [m] := by
    rintro bytes m rfl hm
    simp only [decode, hm] at hread
    exact h.seededInputs_eq hsub hlink hread
  refine ⟨fun m hm hstored => ?_, hdecoded, ?_, ?_⟩
  · exact hdecoded _ m hstored (LiteralMap.ofBytes?_toText hm)
  · rintro rfl
    exact h.seededInputs_eq hsub hlink hread
  · rintro bytes rfl hnone
    simp only [decode, hnone] at hread
    obtain rfl := h.eq_of_unread hsub hlink hread
    have hreading : Call.Kind.reading ∉ [Call.Kind.seeding, .pass, .abort] := by decide
    refine ⟨⟨_, rfl, rfl, rfl⟩, fun x hx => ?_,
      congrArg Progress.checkpoint (site.own_linking sub s)⟩
    rw [List.mem_singleton.1 hx]
    exact hreading

/-- So does the tick of a node whose checkpoint says nothing yet. -/
lemma feed_of_handles {site : TickSite} {c : Collaborators σ} {sub : SubWorkflow} {s : Status}
    {w : σ} {o : TickOutcome σ Transition} (h : WorkflowNode.Handles site c s w o)
    (hsub : Body.resolve site = .ok sub) (hstage : s.effectiveCheckpoint.stage = .undefined)
    (hlink : (site.linking sub (s.renewed site.now)).1 = .ok ()) {file : Reference}
    {stored : Option ByteArray} (hread : (c.readInputs w).1 = decode file (.ok stored)) :
    Feed stored s.effectiveCheckpoint o := by
  rw [← s.checkpoint_renewed site.now] at hstage ⊢
  cases h with
  | refused hrefused =>
    obtain ⟨ref, hkind, -⟩ := WorkflowNode.resolve_eq_ok_iff.1 hsub
    rw [WorkflowNode.ensureWorkflowNode, hkind] at hrefused
    cases hrefused
  | started _ _ ho => exact (feed_of_starts ho hsub hlink hread).recordingStart site.now
  | checked _ hexecuting _ => cases hexecuting.symm.trans hstage
  | failed _ hfailing _ => cases hfailing.symm.trans hstage

/-- A node reads its inputs from a store that answers by the keys of references, and the file may
have been put there under any spelling of its path.  If the reference of the node resolves and its
children can be linked, then a first tick feeds the file to the start node, on its own as well as
within the tick of a node whose checkpoint says nothing yet. -/
theorem feed_start {c : Collaborators σ} {base : String}
    {objects : ArtifactKey → σ → Except StorageError (Option ByteArray) × σ}
    {dataDir : Reference} {inputsFile : String}
    (hreader : c.readInputs = reader (fun r => objects (ArtifactKey.of base r)) dataDir inputsFile)
    {site : TickSite} {sub : SubWorkflow} (hsub : Body.resolve site = .ok sub)
    {r : Reference} (hr : r.segments = dataDir.segments ++ (Reference.mk inputsFile).segments)
    {w : σ} {stored : Option ByteArray}
    (hstored : (objects (ArtifactKey.of base r) w).1 = .ok stored) (s : Status) :
    ((site.linking sub s).1 = .ok () →
      Feed stored s.own.checkpoint ((Body.start site c).run s w)) ∧
    (s.effectiveCheckpoint.stage = .undefined →
      (site.linking sub (s.renewed site.now)).1 = .ok () →
      Feed stored s.effectiveCheckpoint ((WorkflowNode.handle site c).run s w)) := by
  have hkey : ArtifactKey.of base (path dataDir inputsFile) = ArtifactKey.of base r := by
    rw [ArtifactKey.of_inj, path, Reference.segments_join, hr]
  have hread : (c.readInputs w).1 = decode (path dataDir inputsFile) (.ok stored) := by
    rw [hreader, reader, ← hstored, ← hkey]
  constructor
  · intro hlink
    obtain ⟨o, ho, hyields⟩ := Body.start_yields site c s w
    rw [hyields.run_eq]
    exact feed_of_starts ho hsub hlink hread
  · intro hstage hlink
    exact feed_of_handles (WorkflowNode.handles_run site c s w) hsub hstage hlink hread

end StoredInputs

namespace Sample

/-- What a store in memory with the prefix `runs` answers. -/
def inMemory (key : ArtifactKey) (m : MemoryStore) :
    Except StorageError (Option ByteArray) × MemoryStore :=
  (.ok (m.artifacts.get? key), m)

/-- Collaborators that read the inputs of the node from the store. -/
def reading : Collaborators MemoryStore :=
  { idle with
    readInputs :=
      StoredInputs.reader (fun r => inMemory (ArtifactKey.of "runs" r)) ⟨"data/outer"⟩
        "inputs.json" }

/-- Inputs with a text to escape, and with the least and the greatest integer. -/
def inputs : LiteralMap :=
  (Dict.empty.insert "bounds"
    (.list [.int (-9223372036854775808), .int 18446744073709551615])).insert
      "name" (.text "a \"b\"\n")

/-- A store with this file of inputs, under another spelling of its path. -/
def storing (bytes : ByteArray) : MemoryStore :=
  (MemoryStore.new "runs").put ⟨"/data//outer/inputs.json/"⟩ bytes

/-- The inputs can be stored. -/
lemma inputs_plain : ∀ e ∈ inputs.entries, e.2.Plain 126 := by
  have hentries : inputs.entries =
      [("bounds", .list [.int (-9223372036854775808), .int 18446744073709551615]),
        ("name", .text "a \"b\"\n")] := rfl
  have hbounds : ∀ l ∈ [Literal.int (-9223372036854775808), .int 18446744073709551615],
      l.Plain 125 := by
    simp only [List.forall_mem_cons]
    exact ⟨.int 125 (by decide) (by decide), .int 125 (by decide) (by decide), by simp⟩
  rw [hentries]
  simp only [List.forall_mem_cons]
  exact ⟨.list hbounds, .text 126 _, by simp⟩

/-- The inputs that were written are what the start node is seeded with.  Without the file it is
seeded without inputs, and with a file that goes on behind its object the node fails before anything
is seeded. -/
theorem inputs_fed :
    seededInputs ((WorkflowNode.handle site reading).run status
        (storing inputs.toText.toUTF8)).exchanges = [inputs] ∧
      seededInputs ((Body.start site reading).run status (.new "runs")).exchanges = [Dict.empty] ∧
      ∃ e : ExecutionError,
        ((Body.start site reading).run status (storing "\x7b\x7d 1".toUTF8)).result =
          .ok (.failed e) ∧ e.code = "RuntimeExecutionError" := by
  have hstored : ∀ bytes, (inMemory (ArtifactKey.of "runs" ⟨"/data//outer/inputs.json/"⟩)
      (storing bytes)).1 = .ok (some bytes) := by
    intro bytes
    have hget := (MemoryStore.new "runs").get?_put ⟨"/data//outer/inputs.json/"⟩
      ⟨"/data//outer/inputs.json/"⟩ bytes
    rw [if_pos rfl] at hget
    exact congrArg Except.ok hget
  have hspelling : (Reference.mk "/data//outer/inputs.json/").segments =
      (Reference.mk "data/outer").segments ++ (Reference.mk "inputs.json").segments := by decide
  have hsub : Body.resolve site = .ok body := rfl
  have hfed : ∀ {m : MemoryStore} {stored : Option ByteArray},
      (inMemory (ArtifactKey.of "runs" ⟨"/data//outer/inputs.json/"⟩) m).1 = .ok stored → _ :=
    fun h => StoredInputs.feed_start (c := reading) rfl hsub hspelling h status
  refine ⟨?_, ?_, ?_⟩
  · exact ((hfed (hstored _)).2 rfl rfl).written inputs inputs_plain rfl
  · exact ((hfed rfl).1 rfl).absent rfl
  · have hnone : LiteralMap.ofBytes? "\x7b\x7d 1".toUTF8 = none := by decide
    obtain ⟨⟨e, hresult, -, hcode⟩, -⟩ := ((hfed (hstored _)).1 rfl).refused _ rfl hnone
    exact ⟨e, hresult, hcode⟩

end Sample

end NestedWorkflow
