import TypedId.CommandLine.Request
import TypedId.Proofs.Results

/-!
# What is known of a valid call

A call that comes to a request is one of a command, and all options of that command have been checked
(`of_readCall`). In particular every input path leads to a file (`isFile_of_mem_inputs`). Files matter for nothing else
when a call is read: it comes to the same request wherever its input paths lead to files (`readCall_of_isFile`).
-/

set_option autoImplicit false

namespace TypedId.CommandLine

open Files

deriving instance DecidableEq for OptionSpec, UsageFault, Request, Reply

variable {environment : String → Option String} {status : String → Status} {arguments : List String} {verbose : Bool}
  {request : Request} {setting : Setting} {specs : List OptionSpec} {spec : OptionSpec}

/-- The input files of a request. -/
def Request.inputs : Request → List String
  | .gen _ inputs _ => inputs
  | .info inputs _ => inputs
  | .render _ _ _ => []
  | .attributeSource _ _ => []

/-- A check that fails makes no request. -/
theorem not_request_of_checkOptions (h : checkOptions setting specs = .error (.request verbose request)) : False := by
  rw [checkOptions] at h
  split at h
  · exact absurd h (by simp)
  · split at h <;> exact absurd h (by simp)

/-- What stands in front of the command is never a request by itself. -/
theorem not_request_of_readGlobal (h : readGlobal environment status arguments = .error (.request verbose request)) :
    False := by
  rw [readGlobal] at h
  split at h
  · exact absurd h (by simp)
  · rename_i given _
    cases hcheck : checkOptions ⟨none, given, environment, status⟩ globalOptions with
    | error reply =>
      simp only [hcheck, Except.map, Except.error.injEq] at h
      exact not_request_of_checkOptions (h ▸ hcheck)
    | ok checked =>
      simp only [hcheck, Except.map] at h
      exact absurd h (by simp)

/-- An unknown command is never a request. -/
theorem not_request_of_unknownCommand {name : String}
    (h : unknownCommand environment status name arguments = .request verbose request) : False := by
  rw [unknownCommand] at h
  split at h
  · exact absurd h (by simp)
  · split at h
    · rename_i reply hreply
      exact not_request_of_readGlobal (h ▸ hreply)
    · exact absurd h (by simp)

/-- The arguments of a command are read as a request if they are options only and these are in order. -/
theorem readCommand_eq_ok_iff {command : Command} :
    readCommand environment status command arguments = .ok request ↔
      ∃ given, readArguments command.options true .empty none arguments = .ok given ∧ given.rest = [] ∧
        checkOptions ⟨some command, given, environment, status⟩ command.options = .ok () ∧
        request = requestOf ⟨some command, given, environment, status⟩ command := by
  rw [readCommand]
  cases readArguments command.options true .empty none arguments with
  | error fault => simp
  | ok given =>
    simp only [Except.ok.injEq, exists_eq_left']
    cases checkOptions ⟨some command, given, environment, status⟩ command.options with
    | error reply => simp [Except.bind]
    | ok checked =>
      by_cases hrest : given.rest = []
      · simp [Except.bind, hrest, eq_comm]
      · simp [Except.bind, hrest]

/-- An error of a command makes no request. -/
theorem not_request_of_readCommand {command : Command}
    (h : readCommand environment status command arguments = .error (.request verbose request)) : False := by
  rw [readCommand] at h
  split at h
  · exact absurd h (by simp)
  · rename_i given _
    cases hcheck : checkOptions ⟨some command, given, environment, status⟩ command.options with
    | error reply =>
      simp only [hcheck, Except.bind, Except.error.injEq] at h
      exact not_request_of_checkOptions (h ▸ hcheck)
    | ok checked =>
      simp only [hcheck, Except.bind] at h
      split at h <;> exact absurd h (by simp)

/-- A call that comes to a request names a command behind the options in front of it, and the arguments of the command
are read as the request. -/
theorem readCall_eq_request_iff :
    readCall environment status arguments = .request verbose request ↔
      ∃ name rest command, readGlobal environment status arguments = .ok (verbose, name :: rest) ∧
        Command.ofName? name = some command ∧ readCommand environment status command rest = .ok request := by
  constructor
  · intro h
    rw [readCall] at h
    split at h
    · exact absurd h (by simp)
    · split at h
      · rename_i reply hreply
        exact (not_request_of_readGlobal (h ▸ hreply)).elim
      · exact absurd h (by simp)
      · rename_i name rest hglobal
        split at h
        · exact (not_request_of_unknownCommand h).elim
        · rename_i command hcommand
          split at h
          · rename_i reply hreply
            exact (not_request_of_readCommand (h ▸ hreply)).elim
          · rename_i read hread
            obtain ⟨rfl, rfl⟩ := Reply.request.inj h
            exact ⟨name, rest, command, hglobal, hcommand, hread⟩
  · rintro ⟨name, rest, command, hglobal, hcommand, hread⟩
    have hne : arguments ≠ [] := by
      rintro rfl
      have hnil : readArguments globalOptions false .empty none [] = .ok .empty := rfl
      rw [readGlobal, hnil] at hglobal
      obtain ⟨_, -, hsame⟩ := map_eq_ok_iff.1 hglobal
      exact absurd (congrArg Prod.snd hsame) (by simp [Given.empty])
    rw [readCall, if_neg (by simpa using hne), hglobal]
    simp only [hcommand, hread]

/-- A call that comes to a request is one of a command whose options have been checked. -/
theorem of_readCall (h : readCall environment status arguments = .request verbose request) :
    ∃ command given, checkOptions ⟨some command, given, environment, status⟩ command.options = .ok () ∧
      request = requestOf ⟨some command, given, environment, status⟩ command := by
  obtain ⟨_, _, command, -, -, hread⟩ := readCall_eq_request_iff.1 h
  obtain ⟨given, -, -, hcheck, hrequest⟩ := readCommand_eq_ok_iff.1 hread
  exact ⟨command, given, hcheck, hrequest⟩

/-! ## Options that have been checked -/

/-- The options that are checked are among those of the command. -/
theorem mem_of_mem_checkOrder (h : spec ∈ checkOrder setting specs) : spec ∈ specs := by
  rcases List.mem_append.1 h with h | h
  · obtain ⟨option, -, hfound⟩ := List.mem_filterMap.1 h
    exact List.mem_of_find?_eq_some hfound
  · exact List.mem_of_mem_filter h

/-- Options are in order if no help is asked for and there is nothing wrong with any of them. -/
theorem checkOptions_eq_ok_iff :
    checkOptions setting specs = .ok () ↔
      setting.has .help = false ∧ ∀ spec ∈ checkOrder setting specs, objection? setting spec = none := by
  rw [checkOptions, ← List.findSome?_eq_none_iff]
  cases setting.has .help with
  | true => simp
  | false =>
    cases (checkOrder setting specs).findSome? (objection? setting) with
    | none => simp
    | some objection => cases objection <;> simp

/-- Every option of a command is among those that are checked. -/
theorem mem_checkOrder (h : specs.find? (fun other => other.key == spec.key) = some spec) :
    spec ∈ checkOrder setting specs := by
  rw [checkOrder, List.mem_append]
  by_cases hgiven : setting.has spec.key = true
  · left
    obtain ⟨option, hoption, hkey⟩ := List.any_eq_true.1 hgiven
    refine List.mem_filterMap.2 ⟨option, hoption, ?_⟩
    rwa [beq_iff_eq.1 hkey]
  · right
    exact List.mem_filter.2 ⟨List.mem_of_find?_eq_some h, by simpa using hgiven⟩

/-- An option of a command whose options have been checked is in order. -/
theorem objection?_eq_none (hcheck : checkOptions setting specs = .ok ())
    (hspec : specs.find? (fun other => other.key == spec.key) = some spec) : objection? setting spec = none :=
  (checkOptions_eq_ok_iff.1 hcheck).2 spec (mem_checkOrder hspec)

/-- Input paths are in order if there are some and they lead to files. -/
theorem objection?_input_eq_none_iff :
    objection? setting inputOption = none ↔ setting.allValues inputOption ≠ [] ∧
      ∀ input ∈ setting.allValues inputOption, ∃ bytes, setting.status input = .file bytes := by
  change (if (setting.allValues inputOption).isEmpty then some (Objection.fault (.missingOption inputOption))
    else (setting.allValues inputOption).findSome? (inputObjection? setting inputOption)) = none ↔ _
  have hinput (input : String) :
      inputObjection? setting inputOption input = none ↔ ∃ bytes, setting.status input = .file bytes := by
    rw [inputObjection?]
    cases setting.status input <;> simp
  by_cases hnil : setting.allValues inputOption = []
  · simp [hnil]
  · rw [if_neg (by simpa using hnil), List.findSome?_eq_none_iff]
    simp only [hinput, ne_eq, hnil, not_false_eq_true, true_and]

/-- The name of an identifier is required and must be an identifier. -/
theorem objection?_name_eq_none_iff :
    objection? setting nameOption = none ↔
      ∃ name, setting.value? nameOption = some name ∧ Text.isIdentifier name = true := by
  simp only [objection?, nameOption]
  cases setting.value? _ with
  | none => simp
  | some name => simp

/-- A namespace that is given must be a dotted path. -/
theorem objection?_space_eq_none_iff :
    objection? setting spaceOption = none ↔
      ∀ space, setting.value? spaceOption = some space → Text.isDottedPath space = true := by
  simp only [objection?, spaceOption]
  cases setting.value? _ with
  | none => simp
  | some space => simp

/-- A word for a kind that is given must be one of the choices. -/
theorem objection?_backing_eq_none_iff :
    objection? setting backingOption = none ↔
      ∀ word, setting.value? backingOption = some word → (backingChoice? word).isSome := by
  simp only [objection?, backingOption]
  cases setting.value? _ with
  | none => simp
  | some word => simp [Option.isSome_iff_ne_none]

/-- Every input path of a valid call leads to a file. -/
theorem isFile_of_mem_inputs (h : readCall environment status arguments = .request verbose request) :
    ∀ input ∈ request.inputs, ∃ bytes, status input = .file bytes := by
  obtain ⟨command, given, hcheck, rfl⟩ := of_readCall h
  intro input hinput
  cases command with
  | attributeSource => exact absurd hinput (by simp [requestOf, Request.inputs])
  | render => exact absurd hinput (by simp [requestOf, Request.inputs])
  | gen => exact (objection?_input_eq_none_iff.1 (objection?_eq_none hcheck rfl)).2 input hinput
  | info => exact (objection?_input_eq_none_iff.1 (objection?_eq_none hcheck rfl)).2 input hinput

/-! ## Other files -/

variable {other : String → Status}

/-- Only input paths are looked up. -/
theorem objection?_other (setting : Setting) (other : String → Status) (hkey : spec.key ≠ .input) :
    objection? { setting with status := other } spec = objection? setting spec := by
  obtain ⟨key, long, short, takesValue, variableName⟩ := spec
  cases key with
  | input => exact absurd rfl hkey
  | _ => rfl

/-- Options other than input paths are checked alike whatever the files are. -/
theorem checkOptions_other (setting : Setting) (other : String → Status) (hspecs : ∀ spec ∈ specs, spec.key ≠ .input) :
    checkOptions { setting with status := other } specs = checkOptions setting specs := by
  have hitems {items : List OptionSpec} (h : ∀ spec ∈ items, spec.key ≠ .input) :
      items.findSome? (objection? { setting with status := other }) = items.findSome? (objection? setting) := by
    induction items with
    | nil => rfl
    | cons spec rest ih =>
      obtain ⟨hspec, hrest⟩ := List.forall_mem_cons.1 h
      rw [List.findSome?_cons, List.findSome?_cons, objection?_other setting other hspec, ih hrest]
  have hsame : (checkOrder { setting with status := other } specs).findSome? (objection? { setting with status := other })
      = (checkOrder setting specs).findSome? (objection? setting) :=
    hitems fun spec hspec => hspecs spec (mem_of_mem_checkOrder hspec)
  rw [checkOptions, hsame, checkOptions]
  rfl

/-- Options that are in order remain so as long as the input paths lead to files. -/
theorem checkOptions_of_isFile (hcheck : checkOptions setting specs = .ok ())
    (hspecs : ∀ spec ∈ specs, spec.key = .input → spec = inputOption)
    (hfiles : inputOption ∈ specs → ∀ input ∈ setting.allValues inputOption, ∃ bytes, other input = .file bytes) :
    checkOptions { setting with status := other } specs = .ok () := by
  obtain ⟨hhelp, hnone⟩ := checkOptions_eq_ok_iff.1 hcheck
  refine checkOptions_eq_ok_iff.2 ⟨hhelp, fun spec hspec => ?_⟩
  have hself : objection? setting spec = none := hnone spec hspec
  by_cases hkey : spec.key = .input
  · have hmem := mem_of_mem_checkOrder hspec
    obtain rfl := hspecs spec hmem hkey
    exact objection?_input_eq_none_iff.2 ⟨(objection?_input_eq_none_iff.1 hself).1, hfiles hmem⟩
  · rw [objection?_other setting other hkey, hself]

/-- Options that have been in order are faulty or in order with other files. -/
theorem checkOptions_cases (hcheck : checkOptions setting specs = .ok ()) (other : String → Status) :
    checkOptions { setting with status := other } specs = .ok () ∨
      (∃ fault, checkOptions { setting with status := other } specs = .error (.fault fault setting.command)) ∨
      checkOptions { setting with status := other } specs = .error .refusedPath := by
  have hhelp : Setting.has { setting with status := other } .help = false := (checkOptions_eq_ok_iff.1 hcheck).1
  rw [checkOptions, hhelp]
  simp only [Bool.false_eq_true, if_false]
  split
  · exact Or.inr (Or.inl ⟨_, rfl⟩)
  · exact Or.inr (Or.inr rfl)
  · exact Or.inl rfl

/-- What stands in front of the command is read without a look at the files. -/
theorem readGlobal_other (environment : String → Option String) (status other : String → Status)
    (arguments : List String) : readGlobal environment other arguments = readGlobal environment status arguments := by
  rw [readGlobal, readGlobal]
  cases readArguments globalOptions false .empty none arguments with
  | error fault => rfl
  | ok given =>
    have hspecs : ∀ spec ∈ globalOptions, spec.key ≠ .input := by
      exact List.forall_iff_forall_mem.1 (by decide)
    have hcheck := checkOptions_other ⟨none, given, environment, status⟩ other hspecs
    simp only [hcheck]
    rfl

/-- The option for input files is the same in each command that has it. -/
theorem inputOption_of_mem (command : Command) : ∀ spec ∈ command.options, spec.key = .input → spec = inputOption := by
  cases command <;> exact List.forall_iff_forall_mem.1 (by decide)

/-- Options make the same request whatever the files are. -/
theorem requestOf_other (command : Command) (given : Given) :
    requestOf ⟨some command, given, environment, other⟩ command
      = requestOf ⟨some command, given, environment, status⟩ command := by
  cases command <;> rfl

/-- A call comes to the same request whenever its input paths lead to files. -/
theorem readCall_of_isFile (h : readCall environment status arguments = .request verbose request)
    (hfiles : ∀ input ∈ request.inputs, ∃ bytes, other input = .file bytes) :
    readCall environment other arguments = .request verbose request := by
  obtain ⟨name, rest, command, hglobal, hcommand, hread⟩ := readCall_eq_request_iff.1 h
  obtain ⟨given, hgiven, hrest, hcheck, rfl⟩ := readCommand_eq_ok_iff.1 hread
  have hchecked : checkOptions ⟨some command, given, environment, other⟩ command.options = .ok () := by
    refine checkOptions_of_isFile hcheck (inputOption_of_mem command) fun hmem => ?_
    cases command with
    | gen => exact hfiles
    | info => exact hfiles
    | attributeSource => exact absurd hmem (by decide)
    | render => exact absurd hmem (by decide)
  refine readCall_eq_request_iff.2 ⟨name, rest, command, ?_, hcommand, ?_⟩
  · rw [readGlobal_other environment status other, hglobal]
  · exact readCommand_eq_ok_iff.2 ⟨given, hgiven, hrest, hchecked, (requestOf_other command given).symm⟩

/-- A call that comes to a request with some files comes to it with others, or is refused. -/
theorem readCall_cases (h : readCall environment status arguments = .request verbose request) (other : String → Status) :
    readCall environment other arguments = .request verbose request ∨
      (∃ fault command, readCall environment other arguments = .fault fault command) ∨
      readCall environment other arguments = .refusedPath := by
  obtain ⟨name, rest, command, hglobal, hcommand, hread⟩ := readCall_eq_request_iff.1 h
  obtain ⟨given, hgiven, hrest, hcheck, rfl⟩ := readCommand_eq_ok_iff.1 hread
  have hne : arguments.isEmpty = false := by
    cases arguments with
    | nil => exact absurd h (by simp [readCall])
    | cons => rfl
  have hglobal : readGlobal environment other arguments = .ok (verbose, name :: rest) := by
    rw [readGlobal_other environment status other, hglobal]
  have hcall {reply : Reply} (hreply : readCommand environment other command rest = .error reply) :
      readCall environment other arguments = reply := by
    rw [readCall, hne]
    simp [hglobal, hcommand, hreply]
  rcases checkOptions_cases hcheck other with hchecked | ⟨fault, hfault⟩ | hrefused
  · exact Or.inl (readCall_eq_request_iff.2 ⟨name, rest, command, hglobal, hcommand,
      readCommand_eq_ok_iff.2 ⟨given, hgiven, hrest, hchecked, (requestOf_other command given).symm⟩⟩)
  · refine Or.inr (Or.inl ⟨fault, some command, hcall ?_⟩)
    rw [readCommand, hgiven]
    simp only [hfault, Except.bind]
  · refine Or.inr (Or.inr (hcall ?_))
    rw [readCommand, hgiven]
    simp only [hrefused, Except.bind]

end TypedId.CommandLine
