import TypedId.CommandLine.Run

/-!
# Runs of steps

Steps are taken one after the other (`takeAll_append_iff`). Printing and logging are quiet: the store stays, and no
quiet step fails (`takeAll_of_quiet`). The plan of a call is careful: it has a step that is not quiet only if it ends
with status zero (`isCareful_planCall`), for all checks have been made when the plan comes to such a step. A call that is
refused therefore leaves every file and directory as it is (`refused_call_changes_nothing`).
-/

set_option autoImplicit false

namespace TypedId.CommandLine

deriving instance DecidableEq for Failure, Ending

variable {trace middle last : Trace} {steps more : List Step} {plan : Plan} {store : Files.Store}

/-! ## Taking steps -/

/-- Steps are all taken exactly if the first is taken and then the others. -/
theorem takeAll_cons_iff {step : Step} :
    trace.takeAll (step :: steps) = (last, none) ↔
      ∃ middle, trace.take step = (middle, none) ∧ middle.takeAll steps = (last, none) := by
  rw [Trace.takeAll]
  split
  · rename_i next hnext
    simp [hnext]
  · rename_i hfailed
    constructor
    · intro h
      exact absurd h (hfailed last)
    · rintro ⟨middle, hmiddle, -⟩
      exact absurd hmiddle (hfailed middle)

/-- More steps are taken behind steps that are taken without a fault. -/
theorem takeAll_append_iff :
    trace.takeAll (steps ++ more) = (last, none) ↔
      ∃ middle, trace.takeAll steps = (middle, none) ∧ middle.takeAll more = (last, none) := by
  induction steps generalizing trace with
  | nil => simp [Trace.takeAll]
  | cons step steps ih =>
    rw [List.cons_append, takeAll_cons_iff]
    constructor
    · rintro ⟨next, hnext, hrest⟩
      obtain ⟨middle, hmiddle, hlast⟩ := ih.1 hrest
      exact ⟨middle, takeAll_cons_iff.2 ⟨next, hnext, hmiddle⟩, hlast⟩
    · rintro ⟨middle, hmiddle, hlast⟩
      obtain ⟨next, hnext, hrest⟩ := takeAll_cons_iff.1 hmiddle
      exact ⟨next, hnext, ih.2 ⟨middle, hrest, hlast⟩⟩

/-- To make a directory changes the store only. -/
theorem take_makeDirectories_iff {path : Files.Path} :
    trace.take (.makeDirectories path) = (last, none) ↔
      ∃ made, trace.store.makeDirectories path = (made, none) ∧ last = { trace with store := made } := by
  rw [Trace.take, Trace.after]
  constructor
  · intro h
    obtain ⟨hlast, hfault⟩ := Prod.mk.inj h
    exact ⟨_, Prod.ext rfl hfault, hlast.symm⟩
  · rintro ⟨made, hmade, rfl⟩
    rw [hmade]

/-- Logging adds the records. -/
theorem takeAll_log (trace : Trace) (records : List LogRecord) :
    trace.takeAll (records.map .log) = ({ trace with records := trace.records ++ records }, none) := by
  induction records generalizing trace with
  | nil => simp [Trace.takeAll]
  | cons record rest ih =>
    rw [List.map_cons, Trace.takeAll, Trace.take]
    simp only []
    rw [ih, List.append_assoc, List.singleton_append]

/-! ## Quiet steps -/

/-- Whether the file system has no part in a step. -/
def Step.isQuiet : Step → Bool
  | .print _ | .printError _ | .log _ => true
  | .makeDirectories _ | .write _ _ => false

/-- A quiet step does not fail and leaves the store as it is. -/
theorem take_of_isQuiet (trace : Trace) {step : Step} (h : step.isQuiet = true) :
    (trace.take step).2 = none ∧ (trace.take step).1.store = trace.store := by
  cases step with
  | print text => exact ⟨rfl, rfl⟩
  | printError text => exact ⟨rfl, rfl⟩
  | log record => exact ⟨rfl, rfl⟩
  | makeDirectories path => exact absurd h (by simp [Step.isQuiet])
  | write path text => exact absurd h (by simp [Step.isQuiet])

/-- Quiet steps are taken without a fault and leave the store. -/
theorem takeAll_of_quiet (trace : Trace) (h : ∀ step ∈ steps, step.isQuiet = true) :
    ∃ last, trace.takeAll steps = (last, none) ∧ last.store = trace.store := by
  induction steps generalizing trace with
  | nil => exact ⟨trace, rfl, rfl⟩
  | cons step steps ih =>
    obtain ⟨hfault, hstore⟩ := take_of_isQuiet trace (h step List.mem_cons_self)
    obtain ⟨last, hlast, hsame⟩ := ih (trace.take step).1 fun other hmem => h other (List.mem_cons_of_mem _ hmem)
    exact ⟨last, takeAll_cons_iff.2 ⟨_, Prod.ext rfl hfault, hlast⟩, hsame.trans hstore⟩

/-- Logging is quiet. -/
theorem isQuiet_of_mem_logSteps {verbose : Bool} {records : List LogRecord} {step : Step}
    (h : step ∈ logSteps verbose records) : step.isQuiet = true := by
  obtain ⟨record, -, rfl⟩ := List.mem_map.1 h
  rfl

/-! ## Careful plans -/

/-- A plan that touches files ends with status zero. -/
def Plan.IsCareful (plan : Plan) : Prop :=
  plan.ending = .exit 0 ∨ ∀ step ∈ plan.steps, step.isQuiet = true

/-- A plan that only prints is careful. -/
theorem isCareful_printing (text : String) (status : Nat) : (Plan.printing text status).IsCareful := by
  right
  intro step hstep
  rw [List.mem_singleton.1 hstep]
  rfl

/-- A plan for a language is careful if it is so for each known one. -/
theorem isCareful_withLanguage {name : String} {next : Emit.Language → Plan} (h : ∀ language, (next language).IsCareful) :
    (withLanguage name next).IsCareful := by
  rw [withLanguage]
  split
  · exact h _
  · exact isCareful_printing _ _

/-- A plan stays careful behind quiet steps. -/
theorem Plan.IsCareful.after (h : plan.IsCareful) (hquiet : ∀ step ∈ steps, step.isQuiet = true) :
    (plan.after steps).IsCareful := by
  refine h.imp id fun hplan step hstep => ?_
  rcases List.mem_append.1 hstep with hstep | hstep
  · exact hquiet step hstep
  · exact hplan step hstep

/-- A plan for descriptors is careful if it is so whatever they are. -/
theorem isCareful_withDescriptors {verbose : Bool} {contents : String → List Nat} {inputs : List String}
    {next : List Descriptor → Plan} (h : ∀ ids, (next ids).IsCareful) :
    (withDescriptors verbose contents inputs next).IsCareful := by
  rw [withDescriptors]
  refine Plan.IsCareful.after ?_ fun step => isQuiet_of_mem_logSteps
  split
  · exact h _
  · exact isCareful_printing _ _
  · exact Or.inr (by simp)
  · exact Or.inr (by simp)

/-- The names of all outputs are compared before the first file is written. -/
theorem isCareful_writeAll (verbose : Bool) (language : Emit.Language) (directory : Files.Path) (ids : List Descriptor) :
    (writeAll verbose language directory ids).IsCareful := by
  rw [writeAll]
  split
  · exact isCareful_printing _ _
  · exact Or.inl rfl

/-- The plan that delivers a text is careful. -/
theorem isCareful_deliver (output : Option String) (text : String) : (deliver output text).IsCareful := by
  cases output with
  | none => exact isCareful_printing text 0
  | some path => exact Or.inl rfl

/-- The plan of a request is careful. -/
theorem isCareful_requestPlan (verbose : Bool) (contents : String → List Nat) (request : Request) :
    (requestPlan verbose contents request).IsCareful := by
  cases request with
  | gen language inputs output =>
    exact isCareful_withLanguage fun language => isCareful_withDescriptors (isCareful_writeAll verbose language _)
  | render id language output => exact isCareful_withLanguage fun language => isCareful_deliver _ _
  | attributeSource space output => exact isCareful_deliver _ _
  | info inputs asJson => exact isCareful_withDescriptors fun ids => isCareful_printing _ _

/-- The plan of a call is careful. -/
theorem isCareful_planCall (environment : String → Option String) (status : String → Files.Status)
    (arguments : List String) : (planCall environment status arguments).IsCareful := by
  rw [planCall]
  cases readCall environment status arguments with
  | request verbose request => exact isCareful_requestPlan _ _ _
  | help command => exact isCareful_printing _ _
  | noArguments => exact Or.inr (by simp [replyPlan, Step.isQuiet])
  | fault fault command => exact Or.inr (by simp [replyPlan, Step.isQuiet])
  | refusedPath => exact Or.inr (by simp [replyPlan])

/-! ## Refused calls -/

/-- A run ends as planned, or a step has met a fault of the file system. -/
theorem ending_run (plan : Plan) (store : Files.Store) :
    (plan.run store).ending = plan.ending ∨ ∃ error, (plan.run store).ending = .failure (.file error) := by
  rw [Plan.run]
  split
  · exact Or.inl rfl
  · exact Or.inr ⟨_, rfl⟩

/-- A run that takes all steps ends as planned. -/
theorem run_of_takeAll (h : (Trace.start store).takeAll plan.steps = (last, none)) :
    plan.run store = ⟨plan.ending, last⟩ := by
  rw [Plan.run, h]

/-- A run without such a fault takes all steps. -/
theorem takeAll_of_run (h : ∀ error, (plan.run store).ending ≠ .failure (.file error)) :
    (Trace.start store).takeAll plan.steps = ((plan.run store).trace, none) ∧ (plan.run store).ending = plan.ending := by
  rw [Plan.run] at h ⊢
  split
  · rename_i hsteps
    exact ⟨hsteps, rfl⟩
  · rename_i error hsteps
    simp only [hsteps] at h
    exact absurd rfl (h error)

/-- Where a careful plan does not end with status zero, its run ends as planned and leaves the store. -/
theorem run_of_ending_ne (store : Files.Store) (hcareful : plan.IsCareful) (h : plan.ending ≠ .exit 0) :
    (plan.run store).ending = plan.ending ∧ (plan.run store).trace.store = store := by
  obtain ⟨last, htaken, hstore⟩ := takeAll_of_quiet (.start store) (hcareful.resolve_left h)
  rw [Plan.run, htaken]
  exact ⟨rfl, hstore⟩

/-- A call that ends with a status other than zero leaves the store as it was. So does a call that ends without a
status, unless all of its checks had passed and the file system refused a step. -/
theorem refused_call_changes_nothing (environment : String → Option String) (arguments : List String)
    (store : Files.Store) :
    (∀ status, (runCall environment arguments store).ending = .exit status → status ≠ 0 →
      (runCall environment arguments store).trace.store = store) ∧
    ∀ failure, (runCall environment arguments store).ending = .failure failure →
      (runCall environment arguments store).trace.store = store ∨
        (planCall environment store.status arguments).ending = .exit 0 ∧ ∃ error, failure = .file error := by
  have hcareful := isCareful_planCall environment store.status arguments
  by_cases hzero : (planCall environment store.status arguments).ending = .exit 0
  · rcases ending_run (planCall environment store.status arguments) store with hplanned | ⟨error, herror⟩
    · refine ⟨fun status hstatus hne => ?_, fun failure hfailure => ?_⟩
      · rw [runCall, hplanned, hzero] at hstatus
        exact absurd (Ending.exit.inj hstatus).symm hne
      · rw [runCall, hplanned, hzero] at hfailure
        exact absurd hfailure (by simp)
    · refine ⟨fun status hstatus hne => ?_, fun failure hfailure => Or.inr ⟨hzero, error, ?_⟩⟩
      · rw [runCall, herror] at hstatus
        exact absurd hstatus (by simp)
      · rw [runCall, herror] at hfailure
        exact (Ending.failure.inj hfailure).symm
  · have hstore := (run_of_ending_ne store hcareful hzero).2
    exact ⟨fun _ _ _ => hstore, fun _ _ => Or.inl hstore⟩

/-- Two declaration files, the second of which declares a struct of the first once more. -/
def markedStore : Files.Store :=
  ⟨[(⟨.working, ["a.cs"]⟩, .file (Text.Utf8.encode "[StrongId]partial struct A;".toList)),
    (⟨.working, ["b.cs"]⟩, .file (Text.Utf8.encode "[StrongId]struct B;[StrongId]partial struct A;".toList))]⟩

/-- Two sources with one name are not generated, although both files can be loaded. -/
theorem colliding_call_changes_nothing :
    (runCall (fun _ => none) ["gen", "-i", "a.cs", "-i", "b.cs"] markedStore).ending = .exit 1 ∧
      (runCall (fun _ => none) ["gen", "-i", "a.cs", "-i", "b.cs"] markedStore).trace.store = markedStore := by
  have hending : (runCall (fun _ => none) ["gen", "-i", "a.cs", "-i", "b.cs"] markedStore).ending = .exit 1 := by
    decide +kernel
  have hstore := (refused_call_changes_nothing (fun _ => none) ["gen", "-i", "a.cs", "-i", "b.cs"] markedStore).1 1
    hending (by decide)
  exact ⟨hending, hstore⟩

end TypedId.CommandLine
