import TypedId.Proofs.CommandLine.Request
import TypedId.Proofs.CommandLine.Run
import TypedId.Proofs.Files.Path

/-!
# Calls that render one identifier

`renderArguments` are the arguments that describe an identifier by its parts. Where no variable of the environment has
a say, such a call is read as the request for that identifier (`readCall_render`), and the source is printed
(`run_render_print`) or written to a file (`run_render_write`), like every text that a command delivers (`delivers_run`).
-/

set_option autoImplicit false

namespace TypedId.CommandLine

open Text Emit Files

/-- No option is set by a variable of the environment. -/
def SetsNothing (environment : String → Option String) : Prop :=
  ∀ (spec : OptionSpec) (command : Option Command), (spec.environmentName? command).bind environment = none

/-- An environment without variables sets no option. -/
theorem setsNothing_none : SetsNothing fun _ => none := by
  intro spec command
  cases spec.environmentName? command <;> rfl

/-- A word names a kind among the choices of an option: by name or number, whatever the case. -/
def Names (word : String) (kind : BackingKind) : Prop :=
  Unicode.foldCase word = Unicode.foldCase kind.markerName ∨ Unicode.foldCase word = toString kind.number

/-- The choices have different names. -/
theorem backingChoice?_of_names {word : String} {kind : BackingKind} (h : Names word kind) :
    backingChoice? word = some kind := by
  rw [backingChoice?]
  rcases h with h | h
  · rw [h]
    cases kind <;> decide +kernel
  · rw [h]
    cases kind <;> decide +kernel

variable {environment : String → Option String} {status : String → Status} {setting : Setting}
  {specs : List OptionSpec} {spec : OptionSpec}

/-! ## Options that are in order -/

/-- Where the environment sets nothing, no option comes from it. -/
theorem fromEnvironment?_eq_none (hfree : SetsNothing setting.environment) : setting.fromEnvironment? spec = none := by
  rw [Setting.fromEnvironment?, hfree spec setting.command]
  rfl

/-- A flag that no argument gives is not set. -/
theorem flag_eq_false (hfree : SetsNothing setting.environment) (hhas : setting.has spec.key = false) :
    setting.flag spec = .ok false := by
  rw [Setting.flag, hhas, fromEnvironment?_eq_none hfree]
  rfl

/-- A flag that is given is on. -/
theorem flag_eq_true (hhas : setting.has spec.key = true) : setting.flag spec = .ok true :=
  if_pos hhas

/-- Options are in order if each of them is. -/
theorem checkOptions_eq_ok (hhelp : setting.has .help = false) (h : ∀ spec ∈ specs, objection? setting spec = none) :
    checkOptions setting specs = .ok () :=
  checkOptions_eq_ok_iff.2 ⟨hhelp, fun spec hspec => h spec (mem_of_mem_checkOrder hspec)⟩

/-- A flag of which the environment says nothing is in order. -/
theorem objection?_flag (hfree : SetsNothing setting.environment) (hflag : spec = verboseOption ∨ spec = internalOption ∨
    spec = helpOption) : objection? setting spec = none := by
  have hok : ∃ value, setting.flag spec = .ok value := by
    cases hhas : setting.has spec.key with
    | false => exact ⟨false, flag_eq_false hfree hhas⟩
    | true => exact ⟨true, flag_eq_true hhas⟩
  obtain ⟨value, hvalue⟩ := hok
  rcases hflag with rfl | rfl | rfl
  all_goals
    unfold objection?
    simp only [verboseOption, internalOption, helpOption] at hvalue ⊢
    simp [hvalue]

/-! ## Arguments that describe an identifier -/

/-- The arguments of a call that renders an identifier, given by its parts, in a language. -/
def renderArguments (name space word label : String) (isPublic : Bool) (output : Option String) : List String :=
  "render" :: "-n" :: name :: "-s" :: space :: "-b" :: word :: ((if isPublic then [] else ["--internal"])
    ++ "-l" :: label :: (match output with | none => [] | some path => ["-o", path]))

variable {name space word label : String} {isPublic : Bool} {output : Option String} {kind : BackingKind}

/-- The options that these arguments give. -/
def renderGiven (name space word label : String) (isPublic : Bool) (output : Option String) : Given :=
  ⟨[(.name, some name), (.space, some space), (.backing, some word)] ++ (if isPublic then [] else [(.internal, none)])
    ++ [(.language, some label)] ++ (match output with | none => [] | some path => [(.output, some path)]), []⟩

/-- The arguments that describe an identifier are read as its options. -/
theorem readArguments_render :
    readArguments Command.render.options true .empty none (renderArguments name space word label isPublic output).tail
      = .ok (renderGiven name space word label isPublic output) := by
  cases isPublic <;> cases output <;> rfl

/-- Without options in front of it, a command is read from its name on. -/
theorem readGlobal_command (hfree : SetsNothing environment) (status : String → Status) (command : Command)
    (rest : List String) : readGlobal environment status (command.name :: rest) = .ok (false, command.name :: rest) := by
  have hread : readArguments globalOptions false .empty none (command.name :: rest)
      = .ok ⟨[], command.name :: rest⟩ := by
    cases command <;> rfl
  have hcheck : checkOptions ⟨none, ⟨[], command.name :: rest⟩, environment, status⟩ globalOptions = .ok () := by
    refine checkOptions_eq_ok rfl fun spec hspec => objection?_flag hfree ?_
    rcases List.mem_pair.1 hspec with rfl | rfl
    · exact Or.inl rfl
    · exact Or.inr (Or.inr rfl)
  have hverbose : (Setting.mk none ⟨[], command.name :: rest⟩ environment status).isSet verboseOption = false := by
    rw [Setting.isSet, flag_eq_false hfree rfl]
    rfl
  rw [readGlobal, hread]
  simp only [hcheck, hverbose, Except.map]

/-- A call without options in front of its command comes to what the arguments of the command are read as. -/
theorem readCall_command (hfree : SetsNothing environment) {command : Command} {rest : List String} {request : Request}
    (h : readCommand environment status command rest = .ok request) :
    readCall environment status (command.name :: rest) = .request false request := by
  have hknown : Command.ofName? command.name = some command := by
    cases command <;> rfl
  exact readCall_eq_request_iff.2 ⟨command.name, rest, command, readGlobal_command hfree status command rest, hknown, h⟩

/-- What is known when the options of the call are checked. -/
def renderSetting (environment : String → Option String) (status : String → Status) (name space word label : String)
    (isPublic : Bool) (output : Option String) : Setting :=
  ⟨some .render, renderGiven name space word label isPublic output, environment, status⟩

/-- The values that the arguments give. -/
theorem value?_render :
    (renderSetting environment status name space word label isPublic output).value? nameOption = some name ∧
    (renderSetting environment status name space word label isPublic output).value? spaceOption = some space ∧
    (renderSetting environment status name space word label isPublic output).value? backingOption = some word ∧
    (renderSetting environment status name space word label isPublic output).value? languageOption = some label := by
  cases isPublic <;> cases output <;> exact ⟨rfl, rfl, rfl, rfl⟩

/-- All options of the call are in order if its name, namespace and kind are. -/
theorem checkOptions_render (hfree : SetsNothing environment) (hname : isIdentifier name = true)
    (hspace : isDottedPath space = true) (hword : backingChoice? word = some kind) :
    checkOptions (renderSetting environment status name space word label isPublic output) Command.render.options
      = .ok () := by
  obtain ⟨hnameValue, hspaceValue, hbackingValue, -⟩ := @value?_render environment status name space word label isPublic
    output
  refine checkOptions_eq_ok (by cases isPublic <;> cases output <;> rfl) fun spec hspec => ?_
  simp only [Command.options, List.mem_cons, List.not_mem_nil, or_false] at hspec
  rcases hspec with rfl | rfl | rfl | rfl | rfl | rfl | rfl
  · exact objection?_name_eq_none_iff.2 ⟨name, hnameValue, hname⟩
  · refine objection?_space_eq_none_iff.2 fun other hother => ?_
    rwa [← Option.some.inj (hspaceValue.symm.trans hother)]
  · refine objection?_backing_eq_none_iff.2 fun other hother => ?_
    rw [← Option.some.inj (hbackingValue.symm.trans hother), hword]
    rfl
  · exact objection?_flag hfree (Or.inr (Or.inl rfl))
  · rfl
  · rfl
  · exact objection?_flag hfree (Or.inr (Or.inr rfl))

/-- The call is the request for the identifier that its parts describe. -/
theorem requestOf_render (hfree : SetsNothing environment) (hword : backingChoice? word = some kind) :
    requestOf (renderSetting environment status name space word label isPublic output) .render
      = .render ⟨space, name, kind, isPublic⟩ label output := by
  have hinternal : (renderSetting environment status name space word label isPublic output).isSet internalOption
      = !isPublic := by
    cases isPublic with
    | true =>
      have hhas : (renderSetting environment status name space word label true output).has internalOption.key = false := by
        cases output <;> rfl
      rw [Setting.isSet, flag_eq_false hfree hhas]
      rfl
    | false =>
      have hhas : (renderSetting environment status name space word label false output).has internalOption.key = true := by
        cases output <;> rfl
      rw [Setting.isSet, flag_eq_true hhas]
      rfl
  have houtput : (renderSetting environment status name space word label isPublic output).value? outputFileOption
      = output := by
    cases output with
    | none =>
      have hvalues : (renderSetting environment status name space word label isPublic none).values outputFileOption.key
          = [] := by
        cases isPublic <;> rfl
      rw [Setting.value?, hvalues]
      exact fromEnvironment?_eq_none hfree
    | some path => cases isPublic <;> rfl
  obtain ⟨hname, hspace, hbacking, hlabel⟩ := @value?_render environment status name space word label isPublic output
  rw [requestOf, descriptorOf, hinternal, houtput, hlabel, hspace, hname, hbacking, Option.bind_some, hword, Bool.not_not]
  rfl

/-- Where no variable has a say, the arguments that describe an identifier are read as the request for it. -/
theorem readCall_render (hfree : SetsNothing environment) (hname : isIdentifier name = true)
    (hspace : isDottedPath space = true) (hword : backingChoice? word = some kind) :
    readCall environment status (renderArguments name space word label isPublic output)
      = .request false (.render ⟨space, name, kind, isPublic⟩ label output) := by
  refine readCall_command hfree (readCommand_eq_ok_iff.2 ⟨_, readArguments_render, rfl, ?_, ?_⟩)
  · exact checkOptions_render hfree hname hspace hword
  · exact (requestOf_render hfree hword).symm

/-! ## Texts that are delivered -/

variable {language : Language} {store : Store} {text : String}

/-- All that a run does is to print a text, or it ends with the text in a file unless the file system refuses. -/
def Delivers (outcome : Outcome) (store : Store) (text : String) : Option String → Prop
  | none => outcome = ⟨.exit 0, ⟨text, "", [], store⟩⟩
  | some path => (∀ error, outcome.ending ≠ .failure (.file error)) →
    outcome.ending = .exit 0 ∧ outcome.trace.output = "" ∧
      outcome.trace.store.status path = .file (Utf8.encode text.toList)

/-- The plan that delivers a text prints it, or writes it to the named file. -/
theorem delivers_run (output : Option String) (text : String) (store : Store) :
    Delivers ((deliver output text).run store) store text output := by
  cases output with
  | none =>
    have hprinted : "" ++ text = text := String.empty_append
    rw [Delivers, deliver, Plan.printing, Plan.run, Trace.takeAll, Trace.take, Trace.start, hprinted]
    rfl
  | some path =>
    intro hunhindered
    obtain ⟨htaken, hending⟩ := takeAll_of_run hunhindered
    obtain ⟨middle, hwrite, hlast⟩ := takeAll_cons_iff.1 htaken
    obtain rfl : middle = ((deliver (some path) text).run store).trace := congrArg Prod.fst hlast
    obtain ⟨hwritten, hfault⟩ := Prod.mk.inj hwrite
    have hstore := congrArg Trace.store hwritten
    have houtput := congrArg Trace.output hwritten
    exact ⟨hending, houtput.symm, Store.status_of_write (Prod.ext hstore hfault)⟩

/-! ## Runs of such a call -/

/-- A language is found by its label. -/
theorem ofLabel?_label (language : Language) : Language.ofLabel? language.label = some language := by
  cases language <;> rfl

/-- A call that describes an identifier has the plan that delivers its source. -/
theorem planCall_render (hfree : SetsNothing environment) (hname : isIdentifier name = true)
    (hspace : isDottedPath space = true) (hword : Names word kind) :
    planCall environment status (renderArguments name space word language.label isPublic output)
      = deliver output (language.render ⟨space, name, kind, isPublic⟩) := by
  rw [planCall, readCall_render hfree hname hspace (backingChoice?_of_names hword), replyPlan, requestPlan, withLanguage,
    ofLabel?_label]

/-- Without an output file the source is printed. -/
theorem run_render_print (hfree : SetsNothing environment) (hname : isIdentifier name = true)
    (hspace : isDottedPath space = true) (hword : Names word kind) :
    runCall environment (renderArguments name space word language.label isPublic none) store
      = ⟨.exit 0, ⟨language.render ⟨space, name, kind, isPublic⟩, "", [], store⟩⟩ := by
  rw [runCall, planCall_render hfree hname hspace hword]
  exact delivers_run none _ store

/-- With an output file the source is written to it, unless the file system refuses. -/
theorem run_render_write (hfree : SetsNothing environment) (hname : isIdentifier name = true)
    (hspace : isDottedPath space = true) (hword : Names word kind) {path : String} {outcome : Outcome}
    (houtcome : outcome = runCall environment (renderArguments name space word language.label isPublic (some path)) store)
    (hunhindered : ∀ error, outcome.ending ≠ .failure (.file error)) :
    outcome.ending = .exit 0 ∧ outcome.trace.output = "" ∧
      outcome.trace.store.status path = .file (Utf8.encode (language.render ⟨space, name, kind, isPublic⟩).toList) := by
  have hrun : outcome = (deliver (some path) (language.render ⟨space, name, kind, isPublic⟩)).run store := by
    rw [houtcome, runCall, planCall_render hfree hname hspace hword]
  rw [hrun] at hunhindered ⊢
  exact delivers_run (some path) _ store hunhindered

end TypedId.CommandLine
