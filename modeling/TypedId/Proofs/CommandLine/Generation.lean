import TypedId.Proofs.CommandLine.Loading
import TypedId.Proofs.CommandLine.Request
import TypedId.Proofs.CommandLine.Run
import TypedId.Proofs.Emit.OutputName
import TypedId.Proofs.Files.Path
import TypedId.Proofs.Scan.Naming

/-!
# What is generated

`Generates language directory ids before after` says what the sources of identifiers leave in a store: all output names
differ, each output holds the source of its identifier, and nothing else is new but the directory and those above it. It
is an invariant of the steps that write: each puts one file below the directory (`takeAll_writeSteps`), and no two put
it at the same place. A call that generates and ends with status zero has loaded all of its input files and leaves such
a store (`gen_writes_sources`).
-/

set_option autoImplicit false

namespace TypedId.CommandLine

open Text Emit Files

/-! ## Descriptors that are loaded -/

/-- The names of a scanned declaration are in order. -/
theorem isNamed_of_descriptor? {text : List Char} {declarations : List TypeDeclaration}
    {declaration : TypeDeclaration} {id : Descriptor} (hscan : Scan.scan text = .ok declarations)
    (hmem : declaration ∈ declarations) (h : declaration.descriptor? = .ok (some id)) : id.IsNamed := by
  obtain ⟨-, hname, hspace⟩ := TypeDeclaration.of_descriptor? h
  obtain ⟨hidentifier, hpath⟩ := Scan.isIdentifier_of_scan hscan declaration hmem
  exact ⟨hname ▸ hidentifier, hspace ▸ hpath⟩

/-- Names are checked in JSON and are in order in a declaration file. -/
theorem isNamed_of_yields {file : String} {bytes : List Nat} {declarations : List TypeDeclaration} {ids : List Descriptor}
    (h : Yields file bytes declarations ids) : ∀ id ∈ ids, id.IsNamed := by
  intro id hid
  cases h with
  | listed _ _ _ _ hids =>
    obtain ⟨item, -, hitem⟩ := exists_of_mem_right hids hid
    exact isNamed_of_ofJson hitem
  | declared _ _ hscan hids =>
    obtain ⟨declaration, hmem, hdeclaration⟩ := exists_of_mem_right hids hid
    exact isNamed_of_descriptor? hscan (List.mem_of_mem_filter hmem) hdeclaration

/-- All descriptors that files give have their names in order. -/
theorem isNamed_of_yieldsAll {contents : String → List Nat} {inputs : List String}
    {loads : List (List TypeDeclaration × List Descriptor)} (h : YieldsAll contents inputs loads) :
    ∀ id ∈ loads.flatMap Prod.snd, id.IsNamed := by
  intro id hid
  obtain ⟨load, hload, hid⟩ := List.mem_flatMap.1 hid
  obtain ⟨file, -, hyields⟩ := exists_of_mem_right h hload
  exact isNamed_of_yields hyields id hid

/-! ## Sources in a directory -/

/-- The path of the source of an identifier. -/
def sourcePath (language : Language) (directory : Path) (id : Descriptor) : Path :=
  directory.child (language.outputName id)

/-- The bytes of the source of an identifier. -/
def sourceBytes (language : Language) (id : Descriptor) : List Nat :=
  Utf8.encode (language.render id).toList

/-- What a store has become when exactly the sources of identifiers have been written into a directory. -/
structure Generates (language : Language) (directory : Path) (ids : List Descriptor) (before after : Store) : Prop where
  distinct : (ids.map language.outputName).Nodup
  written : ∀ id ∈ ids, after.status (sourcePath language directory id).text = .file (sourceBytes language id)
  directory_made : after.status directory.text = .directory
  elsewhere : ∀ place, after.entry? place = before.entry? place ∨
    (∃ id ∈ ids, after.locate (sourcePath language directory id).text = .ok place) ∨
    before.entry? place = none ∧ after.entry? place = some .directory ∧
      ∃ path ∈ Store.pathsAbove directory.root directory.names.reverse, after.locate path = .ok place

/-- The names of outputs are compared with those before: there is no collision exactly if all differ. -/
theorem collision?_eq_none_iff {outputName : Descriptor → String} {ids : List Descriptor} :
    collision? outputName [] ids = none ↔ (ids.map outputName).Nodup := by
  have hrepeated (seen : List String) :
      collision? outputName seen ids = none ↔ firstRepeated? seen (ids.map outputName) = none := by
    induction ids generalizing seen with
    | nil => simp [collision?, firstRepeated?]
    | cons id rest ih =>
      rw [collision?, List.map_cons, firstRepeated?]
      split
      · simp
      · exact ih _
  rw [hrepeated, firstRepeated?_eq_none_iff]
  simp

variable {trace last : Trace} {language : Language} {directory : Path} {ids : List Descriptor} {verbose : Bool}
  {store : Store}

/-- Logging adds the warnings to the trace, and the other records too if the call is verbose. -/
theorem takeAll_logSteps (trace : Trace) (verbose : Bool) (records : List LogRecord) :
    trace.takeAll (logSteps verbose records)
      = ({ trace with
            records := trace.records ++ records.filter fun record => verbose || record.level == .warning }, none) :=
  takeAll_log trace _

/-- Warnings are logged whether details are or not. -/
theorem warnings_logged (verbose : Bool) (records : List LogRecord) :
    warnings (records.filter fun record => verbose || record.level == .warning) = warnings records := by
  rw [warnings, warnings, List.filter_filter]
  congr 1
  funext record
  cases verbose <;> simp

/-- The path of a source leads to its place in the directory. -/
theorem locate_sourcePath_iff (hplain : directory.IsPlain) {id : Descriptor} (hid : id.IsNamed) {place : Location} :
    store.locate (sourcePath language directory id).text = .ok place ↔
      ∃ above, store.locate directory.text = .ok above ∧ store.entry? above = some .directory ∧
        place = above.child (language.outputName id) := by
  have hname := outputName_isPlainName hid language
  have hshort : language.outputName id ≠ ".." := outputName_ne_of_length_le language id (by decide)
  exact Store.locate_child_iff hplain hname hshort (null_notMem_outputName hid language)

/-- A source is written at its place below the directory. -/
theorem take_write (hplain : directory.IsPlain) {id : Descriptor} (hid : id.IsNamed) {above : Location}
    (habove : trace.store.locate directory.text = .ok above)
    (h : trace.take (.write (sourcePath language directory id).text (language.render id)) = (last, none)) :
    trace.store.entry? (above.child (language.outputName id)) ≠ some .directory ∧
      last = { trace with
        store := trace.store.put (above.child (language.outputName id)) (.file (sourceBytes language id)) } := by
  obtain ⟨hlast, hfault⟩ := Prod.mk.inj h
  have hwrite : trace.store.write (sourcePath language directory id).text (sourceBytes language id)
      = (last.store, none) := Prod.ext (congrArg Trace.store hlast) hfault
  obtain ⟨place, hplace, hentry, hstore⟩ := Store.write_spec.1 hwrite
  have hlocate : trace.store.locate (sourcePath language directory id).text = .ok place := by
    rw [sourcePath, ← Store.fileLocation_child directory (outputName_isPlainName hid language)]
    exact hplace
  obtain ⟨other, hother, -, rfl⟩ := (locate_sourcePath_iff hplain hid).1 hlocate
  obtain rfl : above = other := Except.ok.inj (habove.symm.trans hother)
  refine ⟨hentry, ?_⟩
  rw [← hlast, ← hstore, ← hlast]

/-- What steps that write the sources of identifiers into the directory at a location leave. -/
structure Writes (language : Language) (above : Location) (ids : List Descriptor) (trace last : Trace) : Prop where
  keeps : trace.store.Keeps last.store
  written : ∀ id ∈ ids, last.store.entry? (above.child (language.outputName id)) = some (.file (sourceBytes language id))
  elsewhere : ∀ place, (∀ id ∈ ids, place ≠ above.child (language.outputName id)) →
    last.store.entry? place = trace.store.entry? place
  output : last.output = trace.output
  warned : warnings last.records = warnings trace.records

/-- The steps of one source put its file and change nothing else. -/
theorem writes_one (hplain : directory.IsPlain) {id : Descriptor} (hid : id.IsNamed) {above : Location}
    (habove : trace.store.locate directory.text = .ok above)
    (h : trace.takeAll (writeSteps verbose language directory id) = (last, none)) :
    Writes language above [id] trace last := by
  obtain ⟨middle, hwrite, hlog⟩ := takeAll_cons_iff.1 h
  obtain ⟨hentry, rfl⟩ := take_write hplain hid habove hwrite
  rw [takeAll_logSteps] at hlog
  obtain rfl := congrArg Prod.fst hlog
  have hput (place : Location) :
      Store.entry? (trace.store.put (above.child (language.outputName id)) (.file (sourceBytes language id))) place
        = if place = above.child (language.outputName id) then some (.file (sourceBytes language id))
          else trace.store.entry? place :=
    Store.entry?_put (Store.names_ne_nil hentry)
  refine ⟨Store.keeps_put hentry, fun other hother => ?_, fun place hplace => ?_, rfl, ?_⟩
  · rw [List.mem_singleton.1 hother]
    exact (hput _).trans (if_pos rfl)
  · exact (hput place).trans (if_neg (hplace id List.mem_cons_self))
  · rw [warnings_append, warnings_logged, warnings_debug, List.append_nil]

/-- All sources are in place once their steps have been taken: no later one is put where an earlier one is. -/
theorem takeAll_writeSteps (hplain : directory.IsPlain) (hids : ∀ id ∈ ids, id.IsNamed)
    (hnodup : (ids.map language.outputName).Nodup) {above : Location}
    (habove : trace.store.locate directory.text = .ok above)
    (h : trace.takeAll (ids.flatMap (writeSteps verbose language directory)) = (last, none)) :
    Writes language above ids trace last := by
  induction ids generalizing trace with
  | nil =>
    obtain rfl : trace = last := congrArg Prod.fst h
    exact ⟨.refl _, by simp, fun _ _ => rfl, rfl, rfl⟩
  | cons id rest ih =>
    rw [List.flatMap_cons] at h
    obtain ⟨middle, hfirst, hmore⟩ := takeAll_append_iff.1 h
    obtain ⟨hid, hrest⟩ := List.forall_mem_cons.1 hids
    rw [List.map_cons, List.nodup_cons] at hnodup
    have hone := writes_one hplain hid habove hfirst
    have hothers := ih hrest hnodup.2 (hone.keeps.locate habove) hmore
    refine ⟨hone.keeps.trans hothers.keeps, ?_, fun place hplace => ?_, hothers.output.trans hone.output,
      hothers.warned.trans hone.warned⟩
    · rw [List.forall_mem_cons]
      refine ⟨?_, hothers.written⟩
      rw [hothers.elsewhere, hone.written id List.mem_cons_self]
      intro other hother hsame
      apply hnodup.1
      rw [Store.child_inj hsame]
      exact List.mem_map_of_mem hother
    · obtain ⟨hfirst, hlater⟩ := List.forall_mem_cons.1 hplace
      rw [hothers.elsewhere place hlater, hone.elsewhere place (List.forall_mem_singleton.2 hfirst)]

/-- Where the directory can be made and the sources be written, exactly the sources are generated. -/
theorem generates_of_takeAll (hplain : directory.IsPlain) (hids : ∀ id ∈ ids, id.IsNamed)
    (hnodup : (ids.map language.outputName).Nodup)
    (h : trace.takeAll (.makeDirectories directory :: ids.flatMap (writeSteps verbose language directory))
      = (last, none)) :
    Generates language directory ids trace.store last.store ∧ last.output = trace.output ∧
      warnings last.records = warnings trace.records := by
  obtain ⟨middle, hmake, hwrite⟩ := takeAll_cons_iff.1 h
  obtain ⟨made, hmade, rfl⟩ := take_makeDirectories_iff.1 hmake
  obtain ⟨hgrows, hdirectory⟩ := Store.makeDirectories_spec hmade
  obtain ⟨above, habove, hentry⟩ := Store.status_eq_directory_iff.1 hdirectory
  have hwrites := @takeAll_writeSteps { trace with store := made } last language directory ids verbose hplain hids hnodup
    above habove hwrite
  have habove_last := hwrites.keeps.locate habove
  have hentry_last := hwrites.keeps above hentry
  have hlocate {id : Descriptor} (hid : id ∈ ids) :
      last.store.locate (sourcePath language directory id).text = .ok (above.child (language.outputName id)) :=
    (locate_sourcePath_iff hplain (hids id hid)).2 ⟨above, habove_last, hentry_last, rfl⟩
  refine ⟨⟨hnodup, fun id hid => ?_, ?_, fun place => ?_⟩, hwrites.output, hwrites.warned⟩
  · rw [Store.status_of_locate (hlocate hid), hwrites.written id hid]
    rfl
  · exact Store.status_eq_directory_iff.2 ⟨above, habove_last, hentry_last⟩
  · by_cases hplace : ∃ id ∈ ids, place = above.child (language.outputName id)
    · obtain ⟨id, hid, rfl⟩ := hplace
      exact Or.inr (Or.inl ⟨id, hid, hlocate hid⟩)
    · have hsame := hwrites.elsewhere place fun id hid heq => hplace ⟨id, hid, heq⟩
      rcases hgrows place with hkept | ⟨hnone, hmade, path, hpath, hfound⟩
      · exact Or.inl (hsame.trans hkept)
      · exact Or.inr (Or.inr ⟨hnone, hsame.trans hmade, path, hpath, hwrites.keeps.locate hfound⟩)

/-! ## Calls that generate -/

/-- What a run says that has generated the sources of identifiers. -/
def generatedText (directory : Path) (ids : List Descriptor) : String :=
  "Generated " ++ toString ids.length ++ " file(s) in " ++ directory.text ++ "\n"

variable {contents : String → List Nat} {inputs : List String} {next : List Descriptor → Plan}

/-- Once all files are loaded, the plan goes on with their descriptors behind the steps that log. -/
theorem withDescriptors_of_ok (h : (loadAll contents inputs).result = .ok ids) :
    withDescriptors verbose contents inputs next
      = (next ids).after (logSteps verbose (loadAll contents inputs).records) := by
  rw [withDescriptors]
  simp only [h]

/-- Input files that cannot be loaded end a plan with status one or with a failure that is none of the file system. -/
theorem withDescriptors_of_error (verbose : Bool) {stop : LoadStop}
    (h : (loadAll contents inputs).result = .error stop) :
    ∃ ending, (∀ next, (withDescriptors verbose contents inputs next).ending = ending) ∧ ending ≠ .exit 0 := by
  cases stop with
  | bad file message => exact ⟨.exit 1, fun next => by rw [withDescriptors]; simp only [h]; rfl, by simp⟩
  | undecodable error =>
    exact ⟨.failure (.undecodable error), fun next => by rw [withDescriptors]; simp only [h]; rfl, by simp⟩
  | numeral error => exact ⟨.failure (.numeral error), fun next => by rw [withDescriptors]; simp only [h]; rfl, by simp⟩

/-- The plan that generates the sources of the identifiers in input files. -/
def generationPlan (verbose : Bool) (contents : String → List Nat) (inputs : List String) (language : Language)
    (directory : Path) : Plan :=
  withDescriptors verbose contents inputs (writeAll verbose language directory)

/-- Where two outputs have one name, nothing is generated. -/
theorem run_of_collision (hload : (loadAll contents inputs).result = .ok ids)
    (hcollision : ¬ (ids.map language.outputName).Nodup) :
    ((generationPlan verbose contents inputs language directory).run store).ending = .exit 1 ∧
      ((generationPlan verbose contents inputs language directory).run store).trace.store = store := by
  have hcareful : (generationPlan verbose contents inputs language directory).IsCareful :=
    isCareful_withDescriptors (isCareful_writeAll verbose language directory)
  have hending : (generationPlan verbose contents inputs language directory).ending = .exit 1 := by
    rw [generationPlan, withDescriptors_of_ok hload, writeAll]
    split
    · rfl
    · rename_i hnone
      exact absurd (collision?_eq_none_iff.1 hnone) hcollision
  have hrun := run_of_ending_ne store hcareful (by rw [hending]; simp)
  rwa [hending] at hrun

/-- The steps that generate the sources of identifiers. -/
def generationSteps (verbose : Bool) (language : Language) (directory : Path) (ids : List Descriptor) : List Step :=
  .makeDirectories directory :: ids.flatMap (writeSteps verbose language directory)

/-- The trace of a call before its first step that generates. -/
def loadedTrace (verbose : Bool) (contents : String → List Nat) (inputs : List String) (store : Store) : Trace :=
  { Trace.start store with
    records := (loadAll contents inputs).records.filter fun record => verbose || record.level == .warning }

/-- With different output names, the plan logs, writes the sources and prints their number. -/
theorem generationPlan_of_nodup (hload : (loadAll contents inputs).result = .ok ids)
    (hnodup : (ids.map language.outputName).Nodup) :
    generationPlan verbose contents inputs language directory
      = ⟨logSteps verbose (loadAll contents inputs).records
          ++ (generationSteps verbose language directory ids ++ [.print (generatedText directory ids)]), .exit 0⟩ := by
  have hnone := collision?_eq_none_iff.2 hnodup
  rw [generationPlan, withDescriptors_of_ok hload, writeAll, hnone]
  rfl

/-- A run whose steps that generate are all taken ends with status zero. -/
theorem run_of_taken (hload : (loadAll contents inputs).result = .ok ids) (hnodup : (ids.map language.outputName).Nodup)
    (h : (loadedTrace verbose contents inputs store).takeAll (generationSteps verbose language directory ids)
      = (last, none)) :
    (generationPlan verbose contents inputs language directory).run store
      = ⟨.exit 0, { last with output := last.output ++ generatedText directory ids }⟩ := by
  have hprinted : last.takeAll [.print (generatedText directory ids)]
      = ({ last with output := last.output ++ generatedText directory ids }, none) := rfl
  rw [generationPlan_of_nodup hload hnodup]
  exact run_of_takeAll (takeAll_append_iff.2 ⟨_, takeAll_logSteps _ _ _, takeAll_append_iff.2 ⟨last, h, hprinted⟩⟩)

/-- A run of which the file system refuses no step takes all steps that generate. -/
theorem exists_taken (hload : (loadAll contents inputs).result = .ok ids) (hnodup : (ids.map language.outputName).Nodup)
    (hunhindered : ∀ error,
      ((generationPlan verbose contents inputs language directory).run store).ending ≠ .failure (.file error)) :
    ∃ last, (loadedTrace verbose contents inputs store).takeAll (generationSteps verbose language directory ids)
      = (last, none) := by
  have htaken := (takeAll_of_run hunhindered).1
  rw [generationPlan_of_nodup hload hnodup] at htaken
  obtain ⟨logged, hlogged, hmore⟩ := takeAll_append_iff.1 htaken
  obtain ⟨written, hwritten, -⟩ := takeAll_append_iff.1 hmore
  rw [takeAll_logSteps] at hlogged
  obtain rfl := congrArg Prod.fst hlogged
  exact ⟨written, hwritten⟩

/-- Where all outputs have different names and the file system refuses no step, the sources are generated. -/
theorem run_of_nodup (hplain : directory.IsPlain) (hload : (loadAll contents inputs).result = .ok ids)
    (hids : ∀ id ∈ ids, id.IsNamed) (hnodup : (ids.map language.outputName).Nodup)
    {outcome : Outcome} (houtcome : outcome = (generationPlan verbose contents inputs language directory).run store)
    (hunhindered : ∀ error, outcome.ending ≠ .failure (.file error)) :
    outcome.ending = .exit 0 ∧ Generates language directory ids store outcome.trace.store ∧
      outcome.trace.output = generatedText directory ids ∧
      warnings outcome.trace.records = warnings (loadAll contents inputs).records := by
  rw [houtcome] at hunhindered
  obtain ⟨written, hwritten⟩ := exists_taken hload hnodup hunhindered
  obtain ⟨hgenerates, houtput, hwarned⟩ := generates_of_takeAll hplain hids hnodup hwritten
  rw [houtcome, run_of_taken hload hnodup hwritten]
  refine ⟨rfl, hgenerates, ?_, hwarned.trans (warnings_logged verbose _)⟩
  change written.output ++ _ = _
  rw [houtput]
  exact String.empty_append

/-- What the files that paths lead to give, in their order. -/
def LoadsFrom (status : String → Status) (inputs : List String) (loads : List (List TypeDeclaration × List Descriptor)) :
    Prop :=
  List.Forall₂ (fun file load => ∃ bytes, status file = .file bytes ∧ Yields file bytes load.1 load.2) inputs loads

variable {status : String → Status} {loads : List (List TypeDeclaration × List Descriptor)}

/-- The contents of a file are its bytes. -/
theorem contentsOf_eq {bytes : List Nat} {file : String} (h : status file = .file bytes) : contentsOf status file = bytes := by
  rw [contentsOf, h]

/-- What files in a store give is what files with their contents give. -/
theorem LoadsFrom.yieldsAll (h : LoadsFrom status inputs loads) : YieldsAll (contentsOf status) inputs loads := by
  refine h.imp fun file load hload => ?_
  obtain ⟨bytes, hfile, hyields⟩ := hload
  rwa [contentsOf_eq hfile]

/-- What given contents yield is loaded from a store that has files for all of them. -/
theorem YieldsAll.loadsFrom (h : YieldsAll (contentsOf status) inputs loads)
    (hfiles : ∀ input ∈ inputs, ∃ bytes, status input = .file bytes) : LoadsFrom status inputs loads := by
  refine (List.forall₂_and_left _ _ |>.2 ⟨hfiles, h⟩).imp fun file load hload => ?_
  obtain ⟨⟨bytes, hfile⟩, hyields⟩ := hload
  rw [contentsOf_eq hfile] at hyields
  exact ⟨bytes, hfile, hyields⟩

/-- Files that are still there give the same. -/
theorem LoadsFrom.transfer {other : String → Status} (h : LoadsFrom status inputs loads)
    (hkept : ∀ input ∈ inputs, ∀ bytes, status input = .file bytes → other input = .file bytes) :
    LoadsFrom other inputs loads := by
  refine (List.forall₂_and_left _ _ |>.2 ⟨hkept, h⟩).imp fun input load hload => ?_
  obtain ⟨hother, bytes, hbytes, hyields⟩ := hload
  exact ⟨bytes, hother bytes hbytes, hyields⟩

variable {environment : String → Option String} {arguments : List String} {name output : String}

/-- A call that generates has the plan to do so in the language it names. -/
theorem planCall_gen (hcall : readCall environment status arguments = .request verbose (.gen name inputs output))
    (hlanguage : Language.ofLabel? name = some language) :
    planCall environment status arguments
      = generationPlan verbose (contentsOf status) inputs language (.ofText output) := by
  rw [planCall, hcall, replyPlan, requestPlan, withLanguage, hlanguage]
  rfl

/-- A call for a known language runs the plan of the generation. -/
theorem runCall_gen (hcall : readCall environment store.status arguments = .request verbose (.gen name inputs output))
    (hlanguage : Language.ofLabel? name = some language) :
    runCall environment arguments store
      = (generationPlan verbose (contentsOf store.status) inputs language (.ofText output)).run store := by
  rw [runCall, planCall_gen hcall hlanguage]

/-- A call that ends with status zero has named a known language. -/
theorem exists_language (hcall : readCall environment store.status arguments = .request verbose (.gen name inputs output))
    (hexit : (runCall environment arguments store).ending = .exit 0) : ∃ language, Language.ofLabel? name = some language := by
  cases hlanguage : Language.ofLabel? name with
  | some language => exact ⟨language, rfl⟩
  | none =>
    rw [runCall, planCall, hcall, replyPlan, requestPlan, withLanguage, hlanguage] at hexit
    exact absurd hexit (by simp [Plan.run, Plan.printing, Trace.takeAll, Trace.take])

/-- All input files of a run that ends with status zero have been loaded. -/
theorem exists_loaded (hexit : ((withDescriptors verbose contents inputs next).run store).ending = .exit 0) :
    ∃ ids, (loadAll contents inputs).result = .ok ids := by
  cases hload : (loadAll contents inputs).result with
  | ok ids => exact ⟨ids, rfl⟩
  | error stop =>
    obtain ⟨ending, hending, hne⟩ := withDescriptors_of_error verbose hload
    rcases ending_run (withDescriptors verbose contents inputs next) store with hplanned | ⟨error, herror⟩
    · rw [hplanned, hending] at hexit
      exact absurd hexit hne
    · rw [herror] at hexit
      exact absurd hexit (by simp)

/-- A run of a call that generates sources from input files, in which the file system refuses no step. -/
structure GenRun (language : Language) (inputs : List String) (output : String) (store : Store) (outcome : Outcome) :
    Prop where
  call : ∃ environment arguments verbose name,
    readCall environment store.status arguments = .request verbose (.gen name inputs output) ∧
      Language.ofLabel? name = some language ∧ outcome = runCall environment arguments store
  unhindered : ∀ error, outcome.ending ≠ .failure (.file error)

variable {outcome : Outcome}

/-- Descriptors with different output names are generated. -/
theorem GenRun.of_nodup (h : GenRun language inputs output store outcome) (hloads : LoadsFrom store.status inputs loads)
    (hnodup : ((loads.flatMap Prod.snd).map language.outputName).Nodup) :
    outcome.ending = .exit 0 ∧ Generates language (.ofText output) (loads.flatMap Prod.snd) store outcome.trace.store ∧
      outcome.trace.output = generatedText (.ofText output) (loads.flatMap Prod.snd) ∧
      warnings outcome.trace.records = warningsAbout (loads.flatMap Prod.fst) := by
  obtain ⟨environment, arguments, verbose, name, hcall, hlanguage, rfl⟩ := h.call
  have hyields := hloads.yieldsAll
  have hload := loadAll_eq_ok_iff.2 ⟨loads, hyields, rfl⟩
  have hrun := run_of_nodup (Path.isPlain_ofText output) hload (isNamed_of_yieldsAll hyields) hnodup
    (runCall_gen hcall hlanguage) h.unhindered
  rwa [warnings_loadAll hyields] at hrun

/-- Of descriptors with one output name nothing is generated. -/
theorem GenRun.of_collision (h : GenRun language inputs output store outcome)
    (hloads : LoadsFrom store.status inputs loads)
    (hcollision : ¬ ((loads.flatMap Prod.snd).map language.outputName).Nodup) :
    outcome.ending = .exit 1 ∧ outcome.trace.store = store := by
  obtain ⟨environment, arguments, verbose, name, hcall, hlanguage, rfl⟩ := h.call
  rw [runCall_gen hcall hlanguage]
  exact run_of_collision (loadAll_eq_ok_iff.2 ⟨loads, hloads.yieldsAll, rfl⟩) hcollision

/-- A call that generates and ends with status zero has found descriptors in all of its input files. Their output names
differ, each output holds the source of its descriptor, nothing else is changed or new but the output directory and
those above it, the number of descriptors is printed, and the marked structs that lack `partial` are warned about. -/
theorem gen_writes_sources
    (hcall : readCall environment store.status arguments = .request verbose (.gen name inputs output))
    (hexit : (runCall environment arguments store).ending = .exit 0) :
    ∃ language loads, Language.ofLabel? name = some language ∧ LoadsFrom store.status inputs loads ∧
      Generates language (.ofText output) (loads.flatMap Prod.snd) store
        (runCall environment arguments store).trace.store ∧
      (runCall environment arguments store).trace.output = generatedText (.ofText output) (loads.flatMap Prod.snd) ∧
      warnings (runCall environment arguments store).trace.records = warningsAbout (loads.flatMap Prod.fst) := by
  obtain ⟨language, hlanguage⟩ := exists_language hcall hexit
  have hgen : GenRun language inputs output store (runCall environment arguments store) :=
    ⟨⟨environment, arguments, verbose, name, hcall, hlanguage, rfl⟩, by simp [hexit]⟩
  have hloaded := hexit
  rw [runCall_gen hcall hlanguage] at hloaded
  obtain ⟨ids, hload⟩ := exists_loaded hloaded
  obtain ⟨loads, hyields, rfl⟩ := loadAll_eq_ok_iff.1 hload
  have hloads : LoadsFrom store.status inputs loads := hyields.loadsFrom (isFile_of_mem_inputs hcall)
  by_cases hnodup : ((loads.flatMap Prod.snd).map language.outputName).Nodup
  · obtain ⟨-, hgenerates, houtput, hwarned⟩ := hgen.of_nodup hloads hnodup
    exact ⟨language, loads, hlanguage, hloads, hgenerates, houtput, hwarned⟩
  · have hrefused := (hgen.of_collision hloads hnodup).1
    exact absurd (hexit.symm.trans hrefused) (by simp)

/-- A file with two marked structs, of which one lacks `partial`, is generated. -/
theorem gen_writes_two_sources :
    readCall (fun _ => none) markedStore.status ["gen", "-i", "b.cs"] = .request false (.gen "csharp" ["b.cs"] ".") ∧
    (runCall (fun _ => none) ["gen", "-i", "b.cs"] markedStore).ending = .exit 0 ∧
    ∃ language loads, Language.ofLabel? "csharp" = some language ∧ LoadsFrom markedStore.status ["b.cs"] loads ∧
      Generates language (.ofText ".") (loads.flatMap Prod.snd) markedStore
        (runCall (fun _ => none) ["gen", "-i", "b.cs"] markedStore).trace.store ∧
      (runCall (fun _ => none) ["gen", "-i", "b.cs"] markedStore).trace.output
        = generatedText (.ofText ".") (loads.flatMap Prod.snd) ∧
      warnings (runCall (fun _ => none) ["gen", "-i", "b.cs"] markedStore).trace.records
        = warningsAbout (loads.flatMap Prod.fst) := by
  have hcall : readCall (fun _ => none) markedStore.status ["gen", "-i", "b.cs"]
      = .request false (.gen "csharp" ["b.cs"] ".") := by
    decide +kernel
  have hexit : (runCall (fun _ => none) ["gen", "-i", "b.cs"] markedStore).ending = .exit 0 := by
    decide +kernel
  exact ⟨hcall, hexit, gen_writes_sources hcall hexit⟩

end TypedId.CommandLine
