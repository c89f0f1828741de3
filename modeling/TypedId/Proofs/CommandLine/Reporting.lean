import TypedId.Proofs.CommandLine.Generation
import TypedId.Proofs.Scan.Descriptors

/-!
# Bad input files

Loading stops at the first file that gives no descriptors (`of_loadAll_eq_error`). What is wrong with a file is reported
with its name, whatever its bytes are (`IsBad`), but for one thing: a declaration file that is not UTF-8 ends the run
before anything is reported (`IsUndecodable`). `first_bad_file_is_reported` says this of whole calls.
-/

set_option autoImplicit false

namespace TypedId

namespace CommandLine

open Text Emit Files

/-! ## One file -/

/-- A file gives no descriptors, with the message that is reported: a JSON file that is not UTF-8 or lists none, or a
declaration file that cannot be scanned. -/
inductive IsBad (file : String) (bytes : List Nat) : String → Prop where
  | undecodable {error : Utf8.DecodeError} : isJsonFile file = true → fileText bytes = .error error →
      IsBad file bytes error.message
  | unlisted {text : List Char} {message : String} : isJsonFile file = true → fileText bytes = .ok text →
      descriptorsFromText text = .error message → IsBad file bytes message
  | unscanned {text : List Char} {error : Scan.ScanError} : isJsonFile file = false → fileText bytes = .ok text →
      Scan.scan text = .error error → IsBad file bytes error.message

/-- A declaration file is not UTF-8. -/
def IsUndecodable (file : String) (bytes : List Nat) (error : Utf8.DecodeError) : Prop :=
  isJsonFile file = false ∧ fileText bytes = .error error

/-- Why loading stops at a file. -/
inductive StopsAt (file : String) (bytes : List Nat) : LoadStop → Prop where
  | bad {message : String} : IsBad file bytes message → StopsAt file bytes (.bad file message)
  | undecodable {error : Utf8.DecodeError} : IsUndecodable file bytes error → StopsAt file bytes (.undecodable error)

variable {file : String} {bytes : List Nat} {stop : LoadStop}

/-- Two loads in a row stop where the first stops, or where the second does behind a first that succeeds. -/
theorem andThen_eq_error_iff {α β : Type} {loaded : Loaded α} {next : α → Loaded β} :
    (loaded.andThen next).result = .error stop ↔
      loaded.result = .error stop ∨ ∃ first, loaded.result = .ok first ∧ (next first).result = .error stop := by
  rw [Loaded.andThen]
  cases loaded.result with
  | error other => simp
  | ok first => simp

/-- A JSON file that is not loaded has a fault, and that is what is reported. -/
theorem stopsAt_of_loadJson (hjson : isJsonFile file = true) (h : (loadJson file bytes).result = .error stop) :
    StopsAt file bytes stop := by
  rw [loadJson] at h
  cases htext : fileText bytes with
  | error error =>
    rw [htext] at h
    obtain rfl := Except.error.inj h
    exact .bad (.undecodable hjson htext)
  | ok text =>
    simp only [htext] at h
    cases hlist : descriptorsFromText text with
    | error message =>
      rw [hlist] at h
      obtain rfl := Except.error.inj h
      exact .bad (.unlisted hjson htext hlist)
    | ok ids =>
      rw [hlist] at h
      exact absurd h (by simp [Except.mapError])

/-- Scanning stops exactly with the message of the error in the text. -/
theorem scanText_eq_error_iff {text : List Char} :
    (scanText file text).result = .error stop ↔
      ∃ error, Scan.scan text = .error error ∧ stop = .bad file error.message := by
  rw [scanText, Scan.scan]
  cases Scan.readDeclarations text with
  | error error => simp [Except.bind, eq_comm]
  | ok declarations =>
    simp only [Except.bind]
    cases Scan.distinct declarations with
    | error error => simp [Except.mapError, eq_comm]
    | ok distinct => simp [Except.mapError]

/-- Scanned declarations have descriptors, so only the text of a declaration file can be wrong. -/
theorem stopsAt_of_loadDeclarations (hother : isJsonFile file = false)
    (h : (loadDeclarations file bytes).result = .error stop) : StopsAt file bytes stop := by
  rw [loadDeclarations] at h
  cases htext : fileText bytes with
  | error error =>
    rw [htext] at h
    obtain rfl := Except.error.inj h
    exact .undecodable ⟨hother, htext⟩
  | ok text =>
    rw [htext] at h
    rcases andThen_eq_error_iff.1 h with hscan | ⟨declarations, hscan, hextract⟩
    · obtain ⟨error, herror, rfl⟩ := scanText_eq_error_iff.1 hscan
      exact .bad (.unscanned hother htext herror)
    · have hnone := Scan.not_isFalse_of_scan (scanText_eq_ok_iff.1 hscan)
      obtain ⟨ids, hids⟩ := exists_descriptorsOf_iff.2 hnone
      rw [extractAll, hids] at hextract
      exact absurd hextract (by simp [Except.mapError])

/-- A file that is not loaded has a fault, and that is what is reported. -/
theorem stopsAt_of_loadFile (h : (loadFile file bytes).result = .error stop) : StopsAt file bytes stop := by
  rw [loadFile] at h
  rcases andThen_eq_error_iff.1 h with hloaded | ⟨ids, -, hlogged⟩
  · by_cases hjson : isJsonFile file = true
    · rw [if_pos hjson] at hloaded
      exact stopsAt_of_loadJson hjson hloaded
    · rw [if_neg hjson] at hloaded
      exact stopsAt_of_loadDeclarations (by simpa using hjson) hloaded
  · exact absurd hlogged (by simp)

/-! ## All files -/

/-- Loading stops at the first file that gives no descriptors. -/
theorem of_loadAll_eq_error {contents : String → List Nat} {inputs : List String}
    (h : (loadAll contents inputs).result = .error stop) :
    ∃ front file behind loads, inputs = front ++ file :: behind ∧ YieldsAll contents front loads ∧
      StopsAt file (contents file) stop := by
  induction inputs with
  | nil => exact absurd h (by simp [loadAll])
  | cons first rest ih =>
    rw [loadAll] at h
    rcases andThen_eq_error_iff.1 h with hfirst | ⟨ids, hfirst, hmore⟩
    · exact ⟨[], first, rest, [], rfl, .nil, stopsAt_of_loadFile hfirst⟩
    · rcases andThen_eq_error_iff.1 hmore with hrest | ⟨more, -, hjoined⟩
      · obtain ⟨declarations, hyields⟩ := loadFile_eq_ok_iff.1 hfirst
        obtain ⟨front, file, behind, loads, rfl, hfront, hfile⟩ := ih hrest
        exact ⟨first :: front, file, behind, (declarations, ids) :: loads, rfl, .cons hyields hfront, hfile⟩
      · exact absurd hjoined (by simp)

/-! ## Calls -/

/-- A request loads input files before anything else is done. -/
inductive Request.Loads : Request → List String → Prop where
  | gen {name : String} {language : Language} (inputs : List String) (output : String) :
      Language.ofLabel? name = some language → Loads (.gen name inputs output) inputs
  | info (inputs : List String) (asJson : Bool) : Loads (.info inputs asJson) inputs

/-- What a run leaves that has stopped at an input file. -/
structure Stopped (outcome : Outcome) (store : Store) (ending : Ending) (output : String) : Prop where
  ending : outcome.ending = ending
  output : outcome.trace.output = output
  errors : outcome.trace.errors = ""
  store : outcome.trace.store = store

variable {environment : String → Option String} {arguments : List String} {verbose : Bool} {inputs : List String}
  {store : Store} {request : Request}

/-- A call that loads input files runs a plan that goes on with what they give, and comes to a status then. -/
theorem exists_next (hcall : readCall environment store.status arguments = .request verbose request)
    (hloads : request.Loads inputs) :
    ∃ next : List Descriptor → Plan, (∀ ids, ∃ status, (next ids).ending = .exit status) ∧
      runCall environment arguments store
        = (withDescriptors verbose (contentsOf store.status) inputs next).run store := by
  rw [runCall, planCall, hcall, replyPlan, requestPlan.eq_def]
  cases hloads with
  | @gen name language inputs output hlanguage =>
    refine ⟨writeAll verbose language (.ofText output), fun ids => ?_, ?_⟩
    · rw [writeAll]
      split <;> exact ⟨_, rfl⟩
    · simp only [withLanguage, hlanguage]
  | info inputs asJson => exact ⟨_, fun ids => ⟨0, rfl⟩, rfl⟩

/-- The run of a call whose input files cannot all be loaded. -/
theorem stopped_of_error {next : List Descriptor → Plan} {stop : LoadStop}
    (h : (loadAll (contentsOf store.status) inputs).result = .error stop) {outcome : Outcome}
    (houtcome : outcome = (withDescriptors verbose (contentsOf store.status) inputs next).run store) :
    match stop with
    | .bad file message => Stopped outcome store (.exit 1) ("Error in " ++ file ++ ": " ++ message ++ "\n")
    | .undecodable error => Stopped outcome store (.failure (.undecodable error)) ""
    | .numeral error => Stopped outcome store (.failure (.numeral error)) "" := by
  have hlogged := takeAll_logSteps (.start store) verbose (loadAll (contentsOf store.status) inputs).records
  rw [houtcome, withDescriptors]
  simp only [h]
  cases stop with
  | bad file message =>
    have hprinted (trace : Trace) (text : String) :
        trace.takeAll [.print text] = ({ trace with output := trace.output ++ text }, none) := rfl
    have htaken := takeAll_append_iff.2 ⟨_, hlogged, hprinted _ ("Error in " ++ file ++ ": " ++ message ++ "\n")⟩
    rw [@run_of_takeAll _ (Plan.after _ (.printing _ 1)) _ htaken]
    exact ⟨rfl, String.empty_append, rfl, rfl⟩
  | undecodable error =>
    rw [← List.append_nil (logSteps verbose _)] at hlogged
    rw [@run_of_takeAll _ (Plan.after _ ⟨[], _⟩) _ hlogged]
    exact ⟨rfl, rfl, rfl, rfl⟩
  | numeral error =>
    rw [← List.append_nil (logSteps verbose _)] at hlogged
    rw [@run_of_takeAll _ (Plan.after _ ⟨[], _⟩) _ hlogged]
    exact ⟨rfl, rfl, rfl, rfl⟩

/-- A call that loads input files finds descriptors in all of them, and then only the file system can keep it from coming
to a status; or it stops at the first file without, which is reported with status one unless it is a declaration file that
is not UTF-8. -/
theorem first_bad_file_is_reported
    (hcall : readCall environment store.status arguments = .request verbose request) (hloads : request.Loads inputs) :
    ((∃ loads, LoadsFrom store.status inputs loads) ∧
      ∀ failure, (runCall environment arguments store).ending = .failure failure → ∃ error, failure = .file error) ∨
    ∃ front file behind loads bytes, inputs = front ++ file :: behind ∧ LoadsFrom store.status front loads ∧
      store.status file = .file bytes ∧
      ((∃ message, IsBad file bytes message ∧
          Stopped (runCall environment arguments store) store (.exit 1)
            ("Error in " ++ file ++ ": " ++ message ++ "\n")) ∨
        ∃ error, IsUndecodable file bytes error ∧
          Stopped (runCall environment arguments store) store (.failure (.undecodable error)) "") := by
  have hfiles : ∀ input ∈ inputs, ∃ bytes, store.status input = .file bytes := by
    have hinputs := isFile_of_mem_inputs hcall
    cases hloads <;> exact hinputs
  obtain ⟨next, hnext, hrun⟩ := exists_next hcall hloads
  cases hload : (loadAll (contentsOf store.status) inputs).result with
  | ok ids =>
    obtain ⟨loads, hyields, -⟩ := loadAll_eq_ok_iff.1 hload
    refine Or.inl ⟨⟨loads, hyields.loadsFrom hfiles⟩, fun failure hfailure => ?_⟩
    obtain ⟨status, hstatus⟩ := hnext ids
    rw [hrun] at hfailure
    rcases ending_run (withDescriptors verbose (contentsOf store.status) inputs next) store with hplanned | ⟨error, herror⟩
    · have hending : (withDescriptors verbose (contentsOf store.status) inputs next).ending = .exit status := by
        rw [withDescriptors_of_ok hload]
        exact hstatus
      rw [hplanned, hending] at hfailure
      exact absurd hfailure (by simp)
    · rw [herror] at hfailure
      exact ⟨error, (Ending.failure.inj hfailure).symm⟩
  | error stop =>
    have hstopped := stopped_of_error hload hrun
    obtain ⟨front, file, behind, loads, rfl, hfront, hstop⟩ := of_loadAll_eq_error hload
    obtain ⟨bytes, hfile⟩ := hfiles file (by simp)
    rw [contentsOf_eq hfile] at hstop
    refine Or.inr ⟨front, file, behind, loads, bytes, rfl, ?_, hfile, ?_⟩
    · exact hfront.loadsFrom fun input hinput => hfiles input (List.mem_append_left _ hinput)
    · cases hstop with
      | bad hbad => exact Or.inl ⟨_, hbad, hstopped⟩
      | undecodable herror => exact Or.inr ⟨_, herror, hstopped⟩

/-- A declaration file that is not UTF-8, and a list that is not closed. -/
def unreadableStore : Store :=
  ⟨[(⟨.working, ["a.cs"]⟩, .file [0xFF]), (⟨.working, ["b.json"]⟩, .file (Utf8.encode "[".toList))]⟩

/-- The list that is not closed is reported. -/
theorem unclosed_list_is_reported :
    readCall (fun _ => none) unreadableStore.status ["info", "-i", "b.json"] = .request false (.info ["b.json"] false) ∧
    Request.Loads (.info ["b.json"] false) ["b.json"] ∧
    ∃ file bytes message, unreadableStore.status file = .file bytes ∧ IsBad file bytes message ∧
      Stopped (runCall (fun _ => none) ["info", "-i", "b.json"] unreadableStore) unreadableStore (.exit 1)
        ("Error in " ++ file ++ ": " ++ message ++ "\n") := by
  have hcall : readCall (fun _ => none) unreadableStore.status ["info", "-i", "b.json"]
      = .request false (.info ["b.json"] false) := by
    decide +kernel
  have hexit : (runCall (fun _ => none) ["info", "-i", "b.json"] unreadableStore).ending = .exit 1 := by decide +kernel
  have hnone : (loadAll (contentsOf unreadableStore.status) ["b.json"]).result.toOption = none := by decide +kernel
  refine ⟨hcall, .info _ _, ?_⟩
  rcases first_bad_file_is_reported hcall (.info _ _) with ⟨⟨loads, hloads⟩, -⟩ | ⟨_, file, _, _, bytes, -, -, hfile, hstop⟩
  · rw [loadAll_eq_ok_iff.2 ⟨loads, hloads.yieldsAll, rfl⟩] at hnone
    exact absurd hnone (by simp [Except.toOption])
  · rcases hstop with ⟨message, hbad, hstopped⟩ | ⟨error, -, hstopped⟩
    · exact ⟨file, bytes, message, hfile, hbad, hstopped⟩
    · exact absurd (hexit.symm.trans hstopped.ending) (by simp)

/-- Not every bad file is reported: one that is not UTF-8 ends the run without a status. -/
theorem not_every_bad_file_is_reported :
    ¬ ∀ (environment : String → Option String) (arguments : List String) (store : Store) (verbose : Bool)
      (request : Request) (inputs : List String),
      readCall environment store.status arguments = .request verbose request → request.Loads inputs →
        (∃ loads, LoadsFrom store.status inputs loads) ∨
          (runCall environment arguments store).ending = .exit 1 ∧
            ∃ file ∈ inputs, ∃ message, (runCall environment arguments store).trace.output
              = "Error in " ++ file ++ ": " ++ message ++ "\n" := by
  intro h
  have hcall : readCall (fun _ => none) unreadableStore.status ["gen", "-i", "a.cs"]
      = .request false (.gen "csharp" ["a.cs"] ".") := by
    decide +kernel
  have hending : (runCall (fun _ => none) ["gen", "-i", "a.cs"] unreadableStore).ending ≠ .exit 1 := by decide +kernel
  have hnone : (loadAll (contentsOf unreadableStore.status) ["a.cs"]).result.toOption = none := by decide +kernel
  rcases h _ _ _ _ _ _ hcall (@Request.Loads.gen "csharp" .csharp _ _ rfl) with ⟨loads, hloads⟩ | ⟨hexit, -⟩
  · rw [loadAll_eq_ok_iff.2 ⟨loads, hloads.yieldsAll, rfl⟩] at hnone
    exact absurd hnone (by simp [Except.toOption])
  · exact hending hexit

end CommandLine

end TypedId
