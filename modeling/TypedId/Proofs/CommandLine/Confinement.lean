import TypedId.Proofs.CommandLine.Generation

/-!
# What input can bring about

Every descriptor that a call builds is in order, whichever way it comes from (`isNamed_of_builds`): names are checked
among the arguments and in JSON, and those in a declaration file are words. Its outputs therefore have plain names. A
step of a plan that generates puts at most one file right below the output directory or makes that directory
(`confined_take`), so whatever a run has done when it ends, be it early, is confined to these places (`confined_gen`).
-/

set_option autoImplicit false

namespace TypedId

open Text Emit

/-! ## Descriptors in order -/

/-- A name of a file in any directory, on one line. -/
structure IsHarmless (name : String) : Prop where
  slash_notMem : '/' ∉ name.toList
  null_notMem : Char.ofNat 0 ∉ name.toList
  newline_notMem : '\n' ∉ name.toList
  ne_point : name ≠ "."
  ne_points : name ≠ ".."

/-- A descriptor is in order: its name is an identifier and its namespace a dotted path, the full name joins them, the
kind is one of those there are, the names of its outputs are harmless, and in Python that is the name of a module. -/
structure Descriptor.IsSound (id : Descriptor) : Prop where
  named : id.IsNamed
  fullName : id.fullName = joinDots (nameParts id)
  backing : id.backing ∈ BackingKind.all
  outputs : ∀ language : Language, IsHarmless (language.outputName id)
  module : ∃ module, isIdentifier module = true ∧ Language.python.outputName id = module ++ ".py"

/-- All follows from the name and the namespace. -/
theorem Descriptor.IsNamed.isSound {id : Descriptor} (h : id.IsNamed) : id.IsSound where
  named := h
  fullName := fullName_eq_joinDots id
  backing := by cases id.backing <;> decide
  outputs language :=
    { slash_notMem := (outputName_isPlainName h language).slash_notMem
      null_notMem := null_notMem_outputName h language
      newline_notMem := newline_notMem_outputName h language
      ne_point := (outputName_isPlainName h language).ne_point
      ne_points := outputName_ne_of_length_le language id (by decide) }
  module := exists_module h

/-! ## Full names in JSON -/

/-- Setting a key leaves the values of all others. -/
theorem Json.lookup?_put_of_ne {entries : List (Json.Text × Json)} {key other : String} (value : Json) (h : key ≠ other) :
    Json.lookup? (Json.put entries (.whole key) value) other = Json.lookup? entries other := by
  have hkey : (Json.Text.whole key == Json.Text.whole other) = false := by simpa using h
  induction entries with
  | nil => simp [Json.lookup?, Json.put, hkey]
  | cons entry rest ih =>
    obtain ⟨first, found⟩ := entry
    rw [Json.lookup?, Json.lookup?] at ih
    rw [Json.lookup?, Json.lookup?, Json.put]
    split
    · rename_i hfirst
      rw [hfirst, List.find?_cons_of_neg (by simp [hkey]), List.find?_cons_of_neg (by simp [hkey])]
    · rw [List.find?_cons, List.find?_cons]
      cases first == Json.Text.whole other with
      | true => rfl
      | false => exact ih

/-- The full name that an object states makes no difference. -/
theorem ofJson_put_fullName (entries : List (Json.Text × Json)) (value : Json) :
    Descriptor.ofJson (.object (Json.put entries (.whole "fully_qualified_name") value))
      = Descriptor.ofJson (.object entries) := by
  have hlookup {key : String} (h : "fully_qualified_name" ≠ key) :
      Json.lookup? (Json.put entries (.whole "fully_qualified_name") value) key = Json.lookup? entries key :=
    Json.lookup?_put_of_ne value h
  rw [Descriptor.ofJson, Descriptor.ofJson, descriptorOfEntries, descriptorOfEntries, spaceEntry, spaceEntry,
    hlookup (by decide), hlookup (by decide), hlookup (by decide), hlookup (by decide)]

namespace CommandLine

open Files

variable {environment : String → Option String} {status : String → Status} {arguments : List String} {verbose : Bool}
  {request : Request} {id : Descriptor}

/-! ## Descriptors that calls build -/

/-- A request builds a descriptor: the one that its arguments describe, one of an entry in a JSON file, or one of a
declaration in a declaration file. Other entries and other files may be bad. -/
inductive Builds (status : String → Status) : Request → Descriptor → Prop where
  | described (id : Descriptor) (language : String) (output : Option String) :
      Builds status (.render id language output) id
  | listed {request : Request} {file : String} {bytes : List Nat} {text : List Char} {value item : Json}
      {items : List Json} {id : Descriptor} :
      file ∈ request.inputs → status file = .file bytes → isJsonFile file = true → fileText bytes = .ok text →
      Json.read text = .ok value → listedValues value = some items → item ∈ items → Descriptor.ofJson item = .ok id →
      Builds status request id
  | declared {request : Request} {file : String} {bytes : List Nat} {text : List Char}
      {declarations : List TypeDeclaration} {declaration : TypeDeclaration} {id : Descriptor} :
      file ∈ request.inputs → status file = .file bytes → isJsonFile file = false → fileText bytes = .ok text →
      Scan.scan text = .ok declarations → declaration ∈ declarations → declaration.descriptor? = .ok (some id) →
      Builds status request id

/-- A call that renders an identifier has been given names in order. -/
theorem isNamed_of_render {language : String} {output : Option String}
    (hcall : readCall environment status arguments = .request verbose (.render id language output)) : id.IsNamed := by
  obtain ⟨command, given, hcheck, hrequest⟩ := of_readCall hcall
  cases command with
  | gen => exact absurd hrequest (by simp [requestOf])
  | attributeSource => exact absurd hrequest (by simp [requestOf])
  | info => exact absurd hrequest (by simp [requestOf])
  | render =>
    simp only [requestOf, Request.render.injEq] at hrequest
    obtain ⟨name, hname, hidentifier⟩ := objection?_name_eq_none_iff.1 (objection?_eq_none hcheck rfl)
    have hspace := objection?_space_eq_none_iff.1 (objection?_eq_none hcheck rfl)
    rw [hrequest.1]
    refine ⟨?_, ?_⟩
    · rw [descriptorOf, hname]
      exact hidentifier
    · rw [descriptorOf]
      cases hgiven : Setting.value? _ spaceOption with
      | none => rfl  -- without a namespace it is empty
      | some space => exact hspace space hgiven

/-- Whatever a call builds has been checked or is made of words. -/
theorem isNamed_of_builds (hcall : readCall environment status arguments = .request verbose request)
    (h : Builds status request id) : id.IsNamed := by
  cases h with
  | described => exact isNamed_of_render hcall
  | listed _ _ _ _ _ _ _ hitem => exact isNamed_of_ofJson hitem
  | declared _ _ _ _ hscan hmem hdeclaration => exact isNamed_of_descriptor? hscan hmem hdeclaration

/-- What a file yields is built. -/
theorem builds_of_yields {file : String} {bytes : List Nat} {declarations : List TypeDeclaration} {ids : List Descriptor}
    (hfile : file ∈ request.inputs) (hstatus : status file = .file bytes) (h : Yields file bytes declarations ids)
    (hid : id ∈ ids) : Builds status request id := by
  cases h with
  | listed hjson htext hread hitems hids =>
    obtain ⟨item, hitem, hread'⟩ := exists_of_mem_right hids hid
    exact .listed hfile hstatus hjson htext hread hitems hitem hread'
  | declared hother htext hscan hids =>
    obtain ⟨declaration, hmem, hdeclaration⟩ := exists_of_mem_right hids hid
    exact .declared hfile hstatus hother htext hscan (List.mem_of_mem_filter hmem) hdeclaration

/-- What the input files of a request give is built. -/
theorem builds_of_loadsFrom {loads : List (List TypeDeclaration × List Descriptor)}
    (h : LoadsFrom status request.inputs loads) (hid : id ∈ loads.flatMap Prod.snd) : Builds status request id := by
  obtain ⟨load, hload, hid⟩ := List.mem_flatMap.1 hid
  obtain ⟨file, hfile, bytes, hstatus, hyields⟩ := exists_of_mem_right h hload
  exact builds_of_yields hfile hstatus hyields hid

/-! ## What generating changes -/

/-- A store differs from an earlier one only by files right below a directory, each the source of one of the given
descriptors, and by this directory and those above it where they were missing. -/
structure Confined (language : Language) (directory : Path) (built : Descriptor → Prop) (before after : Store) : Prop where
  keeps : before.Keeps after
  changed : ∀ place, after.entry? place = before.entry? place ∨
    (∃ id above, built id ∧ after.locate directory.text = .ok above ∧ after.entry? above = some .directory ∧
      place = above.child (language.outputName id) ∧ after.entry? place = some (.file (sourceBytes language id))) ∨
    before.entry? place = none ∧ after.entry? place = some .directory ∧
      ∃ path ∈ Store.pathsAbove directory.root directory.names.reverse, after.locate path = .ok place

variable {language : Language} {directory : Path} {built : Descriptor → Prop} {before middle after : Store}

/-- A store that stays as it is has been changed nowhere. -/
theorem Confined.refl (language : Language) (directory : Path) (built : Descriptor → Prop) (store : Store) :
    Confined language directory built store store :=
  ⟨.refl store, fun _ => Or.inl rfl⟩

/-- A file that is changed once more is changed to another source, and new directories stay. -/
theorem Confined.trans (hfirst : Confined language directory built before middle)
    (hsecond : Confined language directory built middle after) : Confined language directory built before after := by
  refine ⟨hfirst.keeps.trans hsecond.keeps, fun place => ?_⟩
  rcases hsecond.changed place with hsame | hwritten | ⟨hnone, hmade⟩
  · rw [hsame]
    refine (hfirst.changed place).imp_right (Or.imp ?_ ?_)
    · rintro ⟨id, above, hid, habove, hdirectory, hplace, hfile⟩
      exact ⟨id, above, hid, hsecond.keeps.locate habove, hsecond.keeps above hdirectory, hplace, hfile⟩
    · rintro ⟨hnone, hmade, path, hpath, hlocate⟩
      exact ⟨hnone, hmade, path, hpath, hsecond.keeps.locate hlocate⟩
  · exact Or.inr (Or.inl hwritten)
  · rcases hfirst.changed place with hsame | ⟨_, _, _, _, _, _, hfile⟩ | ⟨_, hdirectory, _⟩
    · exact Or.inr (Or.inr ⟨hsame ▸ hnone, hmade⟩)
    · rw [hnone] at hfile
      exact absurd hfile (by simp)
    · rw [hnone] at hdirectory
      exact absurd hdirectory (by simp)

/-- The steps of a plan that generates: quiet ones, the one that makes the directory, and those that write sources. -/
inductive Generating (language : Language) (directory : Path) (built : Descriptor → Prop) : Step → Prop where
  | quiet {step : Step} : step.isQuiet = true → Generating language directory built step
  | makeDirectories : Generating language directory built (.makeDirectories directory)
  | write {id : Descriptor} : built id →
      Generating language directory built (.write (sourcePath language directory id).text (language.render id))

/-- Each such step stays within the directory, whether the file system refuses it or not. -/
theorem confined_take (hplain : directory.IsPlain) (hbuilt : ∀ id, built id → id.IsNamed) (trace : Trace) {step : Step}
    (h : Generating language directory built step) :
    Confined language directory built trace.store (trace.take step).1.store := by
  cases h with
  | quiet hquiet =>
    rw [(take_of_isQuiet trace hquiet).2]
    exact .refl _ _ _ _
  | makeDirectories =>
    have hgrows := Store.grows_makeDirectories trace.store directory
    exact ⟨hgrows.keeps, fun place => (hgrows place).imp_right Or.inr⟩
  | @write id hid =>
    have hnamed := hbuilt id hid
    change Confined language directory built trace.store
      (trace.store.write (sourcePath language directory id).text (sourceBytes language id)).1
    cases hwrite : trace.store.write (sourcePath language directory id).text (sourceBytes language id) with
    | mk made fault =>
      cases fault with
      | some error =>
        rw [Store.write_of_fault hwrite]
        exact .refl _ _ _ _
      | none =>
        obtain ⟨place, hplace, hentry, rfl⟩ := Store.write_spec.1 hwrite
        rw [sourcePath, Store.fileLocation_child directory (outputName_isPlainName hnamed language)] at hplace
        obtain ⟨above, habove, hdirectory, rfl⟩ := (locate_sourcePath_iff hplain hnamed).1 hplace
        have hkeeps : trace.store.Keeps
            (trace.store.put (above.child (language.outputName id)) (.file (sourceBytes language id))) :=
          Store.keeps_put hentry
        refine ⟨hkeeps, fun other => ?_⟩
        rw [Store.entry?_put (Store.names_ne_nil hentry)]
        by_cases hother : other = above.child (language.outputName id)
        · rw [if_pos hother]
          exact Or.inr (Or.inl ⟨id, above, hid, hkeeps.locate habove, hkeeps above hdirectory, hother, rfl⟩)
        · rw [if_neg hother]
          exact Or.inl rfl

/-- Steps that generate stay within the directory, also when one of them fails. -/
theorem confined_takeAll (hplain : directory.IsPlain) (hbuilt : ∀ id, built id → id.IsNamed) (trace : Trace)
    {steps : List Step} (h : ∀ step ∈ steps, Generating language directory built step) :
    Confined language directory built trace.store (trace.takeAll steps).1.store := by
  induction steps generalizing trace with
  | nil => exact .refl _ _ _ _
  | cons step rest ih =>
    obtain ⟨hstep, hrest⟩ := List.forall_mem_cons.1 h
    have hfirst := confined_take hplain hbuilt trace hstep
    rw [Trace.takeAll]
    split
    · rename_i next hnext
      rw [hnext] at hfirst
      exact hfirst.trans (ih next hrest)
    · exact hfirst

/-! ## Calls -/

variable {name output : String} {inputs : List String} {store : Store}

/-- Logging is a step of generating. -/
theorem generating_of_mem_logSteps {records : List LogRecord} {step : Step} (h : step ∈ logSteps verbose records) :
    Generating language directory built step :=
  .quiet (isQuiet_of_mem_logSteps h)

/-- All steps of a plan that writes the sources of identifiers are steps of generating. -/
theorem generating_of_mem_writeAll {ids : List Descriptor} (hids : ∀ id ∈ ids, built id) {step : Step}
    (h : step ∈ (writeAll verbose language directory ids).steps) : Generating language directory built step := by
  rw [writeAll] at h
  split at h
  · rw [List.mem_singleton.1 h]
    exact .quiet rfl
  · simp only [List.mem_append, List.mem_cons, List.mem_flatMap, List.not_mem_nil, or_false] at h
    rcases h with (rfl | ⟨id, hid, hstep⟩) | rfl
    · exact .makeDirectories
    · rw [writeSteps] at hstep
      rcases List.mem_cons.1 hstep with rfl | hlog
      · exact .write (hids id hid)
      · exact generating_of_mem_logSteps hlog
    · exact .quiet rfl

/-- The plan of a call that generates has no other steps, whether its input files can be loaded or not. -/
theorem generating_of_mem_generationPlan
    (hcall : readCall environment store.status arguments = .request verbose (.gen name inputs output)) {step : Step}
    (h : step ∈ (generationPlan verbose (contentsOf store.status) inputs language (.ofText output)).steps) :
    Generating language (.ofText output) (Builds store.status (.gen name inputs output)) step := by
  cases hload : (loadAll (contentsOf store.status) inputs).result with
  | ok ids =>
    obtain ⟨loads, hyields, rfl⟩ := loadAll_eq_ok_iff.1 hload
    have hloads := hyields.loadsFrom (isFile_of_mem_inputs hcall)
    rw [generationPlan, withDescriptors_of_ok hload] at h
    rcases List.mem_append.1 h with hlog | hwrite
    · exact generating_of_mem_logSteps hlog
    · exact generating_of_mem_writeAll (fun id hid => builds_of_loadsFrom hloads hid) hwrite
  | error stop =>
    rw [generationPlan, withDescriptors] at h
    simp only [hload] at h
    rcases List.mem_append.1 h with hlog | hreport
    · exact generating_of_mem_logSteps hlog
    · cases stop with
      | bad file message =>
        rw [List.mem_singleton.1 hreport]
        exact .quiet rfl
      | undecodable error => exact absurd hreport (by simp)
      | numeral error => exact absurd hreport (by simp)

/-- The run of a plan leaves what its steps leave. -/
theorem store_run (plan : Plan) (store : Store) :
    (plan.run store).trace = ((Trace.start store).takeAll plan.steps).1 := by
  rw [Plan.run]
  split
  · rename_i hsteps
    rw [hsteps]
  · rename_i hsteps
    rw [hsteps]

/-- What a call that generates changes is confined to the output directory, however the call ends. -/
theorem confined_gen (hcall : readCall environment store.status arguments = .request verbose (.gen name inputs output))
    (hlanguage : Language.ofLabel? name = some language) :
    Confined language (.ofText output) (Builds store.status (.gen name inputs output)) store
      (runCall environment arguments store).trace.store := by
  rw [runCall_gen hcall hlanguage, store_run]
  exact confined_takeAll (Path.isPlain_ofText output) (fun id => isNamed_of_builds hcall) (.start store)
    fun step => generating_of_mem_generationPlan hcall

/-- Without a language nothing is changed. -/
theorem store_of_unknownLanguage
    (hcall : readCall environment store.status arguments = .request verbose (.gen name inputs output))
    (hlanguage : Language.ofLabel? name = none) : (runCall environment arguments store).trace.store = store := by
  rw [runCall, planCall, hcall, replyPlan, requestPlan, withLanguage, hlanguage]
  rfl

/-- Whatever the arguments and the files of a call are, every descriptor that it builds is in order, whatever full name
an object states for it, and a call that generates changes nothing but the files of such descriptors right below the
output directory and, where they were missing, this directory and those above it. -/
theorem input_is_confined (hcall : readCall environment store.status arguments = .request verbose request) :
    (∀ id, Builds store.status request id → id.IsSound) ∧
    (∀ entries value, Descriptor.ofJson (.object (Json.put entries (.whole "fully_qualified_name") value))
      = Descriptor.ofJson (.object entries)) ∧
    ∀ name inputs output, request = .gen name inputs output →
      (∀ language, Language.ofLabel? name = some language →
        Confined language (.ofText output) (Builds store.status request) store
          (runCall environment arguments store).trace.store) ∧
      (Language.ofLabel? name = none → (runCall environment arguments store).trace.store = store) := by
  refine ⟨fun id hid => (isNamed_of_builds hcall hid).isSound, ofJson_put_fullName, ?_⟩
  rintro name inputs output rfl
  exact ⟨fun language => confined_gen hcall, store_of_unknownLanguage hcall⟩

/-- Two marked structs are generated in a new directory. -/
theorem marked_input_is_confined :
    readCall (fun _ => none) markedStore.status ["gen", "-i", "b.cs", "-o", "out"]
      = .request false (.gen "csharp" ["b.cs"] "out") ∧
    (∃ id, Builds markedStore.status (.gen "csharp" ["b.cs"] "out") id ∧ id.IsSound) ∧
    Confined .csharp (.ofText "out") (Builds markedStore.status (.gen "csharp" ["b.cs"] "out")) markedStore
      (runCall (fun _ => none) ["gen", "-i", "b.cs", "-o", "out"] markedStore).trace.store := by
  have hcall : readCall (fun _ => none) markedStore.status ["gen", "-i", "b.cs", "-o", "out"]
      = .request false (.gen "csharp" ["b.cs"] "out") := by
    decide +kernel
  have hload : (loadAll (contentsOf markedStore.status) ["b.cs"]).result.toOption
      = some [⟨"", "B", .guid, false⟩, ⟨"", "A", .guid, false⟩] := by
    decide +kernel
  have hbuilds : Builds markedStore.status (.gen "csharp" ["b.cs"] "out") ⟨"", "B", .guid, false⟩ := by
    obtain ⟨loads, hyields, hids⟩ := loadAll_eq_ok_iff.1 (eq_ok_of_toOption hload)
    refine builds_of_loadsFrom (hyields.loadsFrom (isFile_of_mem_inputs hcall)) ?_
    rw [← hids]
    exact List.mem_cons_self
  obtain ⟨hsound, -, hgen⟩ := input_is_confined hcall
  exact ⟨hcall, ⟨_, hbuilds, hsound _ hbuilds⟩, (hgen _ _ _ rfl).1 .csharp rfl⟩

end CommandLine

end TypedId
