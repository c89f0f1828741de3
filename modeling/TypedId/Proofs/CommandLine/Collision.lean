import TypedId.Proofs.CommandLine.Reporting
import TypedId.Proofs.Scan.Repetition

/-!
# Outputs with one name

No output is written where two of them have one name. In C# that is so only for descriptors of one type, with the same
namespace and the same name (`csharp_collides_iff`), and in every language it is so for these (`collides_of_repeatsType`);
so what can be generated in Python can be generated in C#. The declarations of one file have different full names,
hence a declaration file alone repeats no type (`not_repeatsType_of_scan`).
-/

set_option autoImplicit false

namespace TypedId.CommandLine

open Text Emit Files

variable {language : Language} {ids : List Descriptor}

/-! ## Types that are repeated -/

/-- Two of the descriptors have the same namespace and the same name. -/
def RepeatsType (ids : List Descriptor) : Prop :=
  ∃ first second, [first, second].Sublist ids ∧ first.space = second.space ∧ first.name = second.name

/-- Something is found twice exactly if it is found for two of the items. -/
theorem not_nodup_map_iff {α β : Type} {f : α → β} {items : List α} :
    ¬ (items.map f).Nodup ↔ ∃ first second, [first, second].Sublist items ∧ f first = f second := by
  rw [List.nodup_iff_pairwise_ne, List.pairwise_map, List.pairwise_iff_forall_sublist]
  simp only [ne_eq, not_forall, not_not, exists_prop]

/-- In every language the outputs of one type have one name. -/
theorem collides_of_repeatsType (language : Language) (h : RepeatsType ids) : ¬ (ids.map language.outputName).Nodup := by
  obtain ⟨first, second, hpair, hspace, hname⟩ := h
  exact not_nodup_map_iff.2 ⟨first, second, hpair, outputName_congr language hspace hname⟩

/-- In C# only the outputs of one type have one name. -/
theorem csharp_collides_iff (hids : ∀ id ∈ ids, id.IsNamed) :
    ¬ (ids.map Language.csharp.outputName).Nodup ↔ RepeatsType ids := by
  refine ⟨fun hcollision => ?_, collides_of_repeatsType .csharp⟩
  obtain ⟨first, second, hpair, hsame⟩ := not_nodup_map_iff.1 hcollision
  have hfirst := hids first (hpair.subset List.mem_cons_self)
  have hsecond := hids second (hpair.subset (List.mem_cons_of_mem _ List.mem_cons_self))
  exact ⟨first, second, hpair, csharp_outputName_inj hfirst hsecond hsame⟩

/-- Outputs that have different names in some language have different names in C#. -/
theorem csharp_nodup_of_nodup (hids : ∀ id ∈ ids, id.IsNamed) (h : (ids.map language.outputName).Nodup) :
    (ids.map Language.csharp.outputName).Nodup := by
  by_contra hcollision
  exact collides_of_repeatsType language ((csharp_collides_iff hids).1 hcollision) h

/-- A descriptor has the full name of its declaration. -/
theorem fullName_of_descriptor? {declaration : TypeDeclaration} {id : Descriptor}
    (h : declaration.descriptor? = .ok (some id)) : id.fullName = declaration.fullName := by
  obtain ⟨-, hname, hspace⟩ := TypeDeclaration.of_descriptor? h
  rw [Descriptor.fullName, TypeDeclaration.fullName, hname, hspace]

/-- Descriptors have the full names of their declarations. -/
theorem map_fullName_of_descriptors {declarations : List TypeDeclaration}
    (h : List.Forall₂ (fun declaration id => declaration.descriptor? = .ok (some id)) declarations ids) :
    ids.map Descriptor.fullName = declarations.map TypeDeclaration.fullName := by
  induction h with
  | nil => rfl
  | cons hid _ ih => rw [List.map_cons, List.map_cons, fullName_of_descriptor? hid, ih]

/-- A declaration file repeats no type. -/
theorem not_repeatsType_of_scan {text : List Char} {declarations : List TypeDeclaration}
    (hscan : Scan.scan text = .ok declarations)
    (hids : List.Forall₂ (fun declaration id => declaration.descriptor? = .ok (some id))
      (declarations.filter fun declaration => declaration.IsMarked) ids) : ¬ RepeatsType ids := by
  rintro ⟨first, second, hpair, hspace, hname⟩
  have hnodup : (ids.map Descriptor.fullName).Nodup := by
    rw [map_fullName_of_descriptors hids]
    exact (Scan.nodup_of_scan hscan).sublist (List.filter_sublist.map _)
  refine not_nodup_map_iff.2 ⟨first, second, hpair, ?_⟩ hnodup
  rw [Descriptor.fullName, Descriptor.fullName, hspace, hname]

/-- What is loaded from one declaration file repeats no type. -/
theorem not_repeatsType_of_loadsFrom {status : String → Status} {file : String}
    {loads : List (List TypeDeclaration × List Descriptor)} (hother : isJsonFile file = false)
    (h : LoadsFrom status [file] loads) : ¬ RepeatsType (loads.flatMap Prod.snd) := by
  obtain ⟨⟨declarations, ids⟩, rest, ⟨bytes, -, hyields⟩, hrest, rfl⟩ := List.forall₂_cons_left_iff.1 h
  obtain rfl := List.forall₂_nil_left_iff.1 hrest
  rw [List.flatMap_singleton]
  cases hyields with
  | listed hjson => exact absurd (hother.symm.trans hjson) (by simp)
  | declared _ _ hscan hids => exact not_repeatsType_of_scan hscan hids

/-! ## Runs that report an output -/

variable {environment : String → Option String} {arguments : List String} {verbose : Bool} {name output : String}
  {inputs : List String} {store : Store} {contents : String → List Nat} {directory : Path}

/-- What is printed about an identifier whose output has the name of an earlier one. -/
def duplicateText (language : Language) (id : Descriptor) : String :=
  "Duplicate output " ++ language.outputName id ++ " for " ++ id.fullName ++ "\n"

/-- A run ends with status one and reports that an output has the name of an earlier one. -/
def ReportsDuplicate (language : Language) (outcome : Outcome) : Prop :=
  outcome.ending = .exit 1 ∧ ∃ id, outcome.trace.output = duplicateText language id

/-- A collision is reported under the output name of the descriptor that is reported. -/
theorem fst_of_collision? {outputName : Descriptor → String} {seen : List String} {found : String × Descriptor}
    (h : collision? outputName seen ids = some found) : found.1 = outputName found.2 := by
  induction ids generalizing seen with
  | nil => exact absurd h (by simp [collision?])
  | cons id rest ih =>
    rw [collision?] at h
    split at h
    · rw [← Option.some.inj h]
    · exact ih h

/-- Where two outputs have one name, that is reported. -/
theorem reportsDuplicate_of_collision (hload : (loadAll contents inputs).result = .ok ids)
    (hcollision : ¬ (ids.map language.outputName).Nodup) :
    ReportsDuplicate language ((generationPlan verbose contents inputs language directory).run store) := by
  obtain ⟨⟨text, id⟩, hfound⟩ := Option.ne_none_iff_exists'.1 (mt collision?_eq_none_iff.1 hcollision)
  obtain rfl : text = language.outputName id := fst_of_collision? hfound
  have hplan : generationPlan verbose contents inputs language directory
      = ⟨logSteps verbose (loadAll contents inputs).records ++ [.print (duplicateText language id)], .exit 1⟩ := by
    rw [generationPlan, withDescriptors_of_ok hload, writeAll, hfound]
    rfl
  have hprinted (trace : Trace) :
      trace.takeAll [.print (duplicateText language id)]
        = ({ trace with output := trace.output ++ duplicateText language id }, none) := rfl
  rw [hplan, run_of_takeAll (takeAll_append_iff.2 ⟨_, takeAll_logSteps (.start store) _ _, hprinted _⟩)]
  exact ⟨rfl, id, String.empty_append⟩

/-- What is printed about a bad file begins differently. -/
theorem errorText_ne_duplicateText (file message : String) (id : Descriptor) :
    "Error in " ++ file ++ ": " ++ message ++ "\n" ≠ duplicateText language id := by
  have hbegins (rest other : String) : "Error in " ++ rest ≠ "Duplicate output " ++ other := by
    intro hsame
    have hfirst := congrArg (fun text => text.toList.head?) hsame
    simp at hfirst
  unfold duplicateText
  simp only [String.append_assoc]
  exact hbegins _ _

/-- Nothing else is reported like that. -/
theorem collision_of_reportsDuplicate
    (h : ReportsDuplicate language
      ((generationPlan verbose (contentsOf store.status) inputs language directory).run store)) :
    ∃ ids, (loadAll (contentsOf store.status) inputs).result = .ok ids ∧ ¬ (ids.map language.outputName).Nodup := by
  obtain ⟨hending, id, houtput⟩ := h
  cases hload : (loadAll (contentsOf store.status) inputs).result with
  | error stop =>
    have hstopped := @stopped_of_error verbose inputs store (writeAll verbose language directory) stop hload _ rfl
    cases stop with
    | bad file message =>
      exact absurd (hstopped.output.symm.trans houtput) (errorText_ne_duplicateText file message id)
    | undecodable error => exact absurd (hstopped.ending.symm.trans hending) (by simp)
    | numeral error => exact absurd (hstopped.ending.symm.trans hending) (by simp)
  | ok ids =>
    refine ⟨ids, rfl, fun hnodup => ?_⟩
    rcases ending_run (generationPlan verbose (contentsOf store.status) inputs language directory) store
      with hplanned | ⟨error, herror⟩
    · rw [hplanned, generationPlan_of_nodup hload hnodup] at hending
      exact absurd hending (by simp)
    · exact absurd (herror.symm.trans hending) (by simp)

/-- A call that generates reports an output exactly if all input files can be loaded and two outputs have one name. -/
theorem reportsDuplicate_iff
    (hcall : readCall environment store.status arguments = .request verbose (.gen name inputs output))
    (hlanguage : Language.ofLabel? name = some language) :
    ReportsDuplicate language (runCall environment arguments store) ↔
      ∃ loads, LoadsFrom store.status inputs loads ∧ ¬ ((loads.flatMap Prod.snd).map language.outputName).Nodup := by
  rw [runCall_gen hcall hlanguage]
  constructor
  · intro hreports
    obtain ⟨ids, hload, hcollision⟩ := collision_of_reportsDuplicate hreports
    obtain ⟨loads, hyields, rfl⟩ := loadAll_eq_ok_iff.1 hload
    exact ⟨loads, hyields.loadsFrom (isFile_of_mem_inputs hcall), hcollision⟩
  · rintro ⟨loads, hloads, hcollision⟩
    exact reportsDuplicate_of_collision (loadAll_eq_ok_iff.2 ⟨loads, hloads.yieldsAll, rfl⟩) hcollision

/-! ## Calls that pass all checks -/

/-- A run ends with status zero, or the file system refuses a step that it has come to. -/
def PassesChecks (outcome : Outcome) : Prop :=
  outcome.ending = .exit 0 ∨ ∃ error, outcome.ending = .failure (.file error)

/-- The path that a step writes to. -/
def Step.target? : Step → Option String
  | .write path _ => some path
  | _ => none

/-- The paths that a plan writes to, in order. -/
def Plan.targets (plan : Plan) : List String :=
  plan.steps.filterMap Step.target?

/-- A plan writes one file for each of the identifiers, all under different names. -/
structure WritesEach (plan : Plan) (language : Language) (directory : Path) (ids : List Descriptor) : Prop where
  distinct : (ids.map language.outputName).Nodup
  targets : plan.targets = ids.map fun id => (sourcePath language directory id).text

/-- Logging writes to no file. -/
theorem targets_logSteps (verbose : Bool) (records : List LogRecord) :
    (logSteps verbose records).filterMap Step.target? = [] := by
  rw [List.filterMap_eq_nil_iff]
  intro step hstep
  obtain ⟨record, -, rfl⟩ := List.mem_map.1 hstep
  rfl

/-- Writing sources writes to one file for each, in their order. -/
theorem targets_writeSteps (verbose : Bool) (language : Language) (directory : Path) (ids : List Descriptor) :
    (ids.flatMap (writeSteps verbose language directory)).filterMap Step.target?
      = ids.map fun id => (sourcePath language directory id).text := by
  induction ids with
  | nil => rfl
  | cons id rest ih =>
    have hone : (writeSteps verbose language directory id).filterMap Step.target?
        = [(sourcePath language directory id).text] :=
      congrArg (_ :: ·) (targets_logSteps verbose _)
    rw [List.flatMap_cons, List.filterMap_append, hone, ih]
    rfl

/-- Where all outputs have different names, one file is written for each identifier. -/
theorem writesEach_of_nodup (hload : (loadAll contents inputs).result = .ok ids)
    (hnodup : (ids.map language.outputName).Nodup) :
    WritesEach (generationPlan verbose contents inputs language directory) language directory ids := by
  refine ⟨hnodup, ?_⟩
  rw [generationPlan_of_nodup hload hnodup, Plan.targets, List.filterMap_append, targets_logSteps, generationSteps,
    List.filterMap_append, List.filterMap_cons_none rfl, targets_writeSteps]
  simp [Step.target?]

/-- A run passes all checks exactly if the input files can be loaded and all outputs have different names. -/
theorem passesChecks_iff :
    PassesChecks ((generationPlan verbose (contentsOf store.status) inputs language directory).run store) ↔
      ∃ ids, (loadAll (contentsOf store.status) inputs).result = .ok ids ∧ (ids.map language.outputName).Nodup := by
  constructor
  · intro hpasses
    cases hload : (loadAll (contentsOf store.status) inputs).result with
    | error stop =>
      have hstopped := @stopped_of_error verbose inputs store (writeAll verbose language directory) stop hload _ rfl
      cases stop with
      | bad file message => exact absurd hpasses (by simp [PassesChecks, generationPlan, hstopped.ending])
      | undecodable error => exact absurd hpasses (by simp [PassesChecks, generationPlan, hstopped.ending])
      | numeral error => exact absurd hpasses (by simp [PassesChecks, generationPlan, hstopped.ending])
    | ok ids =>
      refine ⟨ids, rfl, ?_⟩
      by_contra hcollision
      have hrefused := (@run_of_collision language directory ids verbose store _ _ hload hcollision).1
      exact absurd hpasses (by simp [PassesChecks, hrefused])
  · rintro ⟨ids, hload, hnodup⟩
    have hending : (generationPlan verbose (contentsOf store.status) inputs language directory).ending = .exit 0 := by
      rw [generationPlan_of_nodup hload hnodup]
    exact (ending_run _ store).imp_left fun hplanned => hplanned.trans hending

/-- What a call in Python is not refused for, a call in C# with the same input files is not refused for, and it writes
as many files. -/
theorem csharp_passes_of_python {first second : Store} {environment environment' : String → Option String}
    {arguments arguments' : List String} {verbose verbose' : Bool} {output output' : String}
    (hpython : readCall environment first.status arguments = .request verbose (.gen "python" inputs output))
    (hcsharp : readCall environment' second.status arguments' = .request verbose' (.gen "csharp" inputs output'))
    (hsame : ∀ input ∈ inputs, second.status input = first.status input)
    (hpasses : PassesChecks (runCall environment arguments first)) :
    PassesChecks (runCall environment' arguments' second) ∧
      ∃ ids, WritesEach (planCall environment first.status arguments) .python (.ofText output) ids ∧
        WritesEach (planCall environment' second.status arguments') .csharp (.ofText output') ids := by
  rw [runCall_gen hpython rfl] at hpasses
  obtain ⟨ids, hload, hnodup⟩ := passesChecks_iff.1 hpasses
  obtain ⟨loads, hyields, rfl⟩ := loadAll_eq_ok_iff.1 hload
  have hfirst := hyields.loadsFrom (isFile_of_mem_inputs hpython)
  have hsecond := (hfirst.transfer fun input hinput _ hfile => (hsame input hinput).trans hfile).yieldsAll
  have hloaded := loadAll_eq_ok_iff.2 ⟨loads, hsecond, rfl⟩
  have hdistinct := csharp_nodup_of_nodup (isNamed_of_yieldsAll hyields) hnodup
  rw [runCall_gen hcsharp rfl, planCall_gen hpython rfl, planCall_gen hcsharp rfl]
  exact ⟨passesChecks_iff.2 ⟨_, hloaded, hdistinct⟩, _, writesEach_of_nodup hload hnodup,
    writesEach_of_nodup hloaded hdistinct⟩

/-- Outputs in C# have one name only for one type. So a call in C# reports an output exactly if two of the descriptors
that are loaded have the same namespace and name, which those of a single declaration file never have; and what passes
all checks in Python passes them in C# and gives as many files. -/
theorem csharp_reports_only_repeated_types :
    (∀ id other : Descriptor, id.IsNamed → other.IsNamed →
      Language.csharp.outputName id = Language.csharp.outputName other → id.space = other.space ∧ id.name = other.name) ∧
    (∀ environment arguments store verbose inputs output,
      readCall environment store.status arguments = .request verbose (.gen "csharp" inputs output) →
        (ReportsDuplicate .csharp (runCall environment arguments store) ↔
          ∃ loads, LoadsFrom store.status inputs loads ∧ RepeatsType (loads.flatMap Prod.snd))) ∧
    (∀ environment arguments store verbose file output,
      readCall environment store.status arguments = .request verbose (.gen "csharp" [file] output) →
        isJsonFile file = false → ¬ ReportsDuplicate .csharp (runCall environment arguments store)) ∧
    (∀ environment environment' arguments arguments' first second verbose verbose' inputs output output',
      readCall environment first.status arguments = .request verbose (.gen "python" inputs output) →
      readCall environment' second.status arguments' = .request verbose' (.gen "csharp" inputs output') →
      (∀ input ∈ inputs, second.status input = first.status input) →
      PassesChecks (runCall environment arguments first) →
        PassesChecks (runCall environment' arguments' second) ∧
          ∃ ids, WritesEach (planCall environment first.status arguments) .python (.ofText output) ids ∧
            WritesEach (planCall environment' second.status arguments') .csharp (.ofText output') ids) := by
  refine ⟨fun id other hid hother => csharp_outputName_inj hid hother, ?_, ?_,
    fun _ _ _ _ _ _ _ _ _ _ _ => csharp_passes_of_python⟩
  · intro environment arguments store verbose inputs output hcall
    rw [reportsDuplicate_iff hcall rfl]
    exact exists_congr fun loads => and_congr_right fun hloads =>
      csharp_collides_iff (isNamed_of_yieldsAll hloads.yieldsAll)
  · intro environment arguments store verbose file output hcall hother hreports
    obtain ⟨loads, hloads, hcollision⟩ := (reportsDuplicate_iff hcall rfl).1 hreports
    exact not_repeatsType_of_loadsFrom hother hloads
      ((csharp_collides_iff (isNamed_of_yieldsAll hloads.yieldsAll)).1 hcollision)

/-- A type that two files declare is reported; the file alone that declares it with another type passes. -/
theorem csharp_reports_repeated_A :
    Language.csharp.outputName ⟨"A.B", "C", .guid, true⟩ = Language.csharp.outputName ⟨"A.B", "C", .int, false⟩ ∧
    ReportsDuplicate .csharp (runCall (fun _ => none) ["gen", "-i", "a.cs", "-i", "b.cs"] markedStore) ∧
    (∃ loads, LoadsFrom markedStore.status ["a.cs", "b.cs"] loads ∧ RepeatsType (loads.flatMap Prod.snd)) ∧
    ¬ ReportsDuplicate .csharp (runCall (fun _ => none) ["gen", "-i", "b.cs"] markedStore) ∧
    PassesChecks (runCall (fun _ => none) ["gen", "-l", "python", "-i", "b.cs"] markedStore) ∧
    PassesChecks (runCall (fun _ => none) ["gen", "-i", "b.cs"] markedStore) := by
  obtain ⟨hnames, hreported, hsingle, hpassed⟩ := csharp_reports_only_repeated_types
  have hboth : readCall (fun _ => none) markedStore.status ["gen", "-i", "a.cs", "-i", "b.cs"]
      = .request false (.gen "csharp" ["a.cs", "b.cs"] ".") := by
    decide +kernel
  have hone : readCall (fun _ => none) markedStore.status ["gen", "-i", "b.cs"]
      = .request false (.gen "csharp" ["b.cs"] ".") := by
    decide +kernel
  have hpython : readCall (fun _ => none) markedStore.status ["gen", "-l", "python", "-i", "b.cs"]
      = .request false (.gen "python" ["b.cs"] ".") := by
    decide +kernel
  have hsame : Language.csharp.outputName ⟨"A.B", "C", .guid, true⟩
      = Language.csharp.outputName ⟨"A.B", "C", .int, false⟩ := by
    decide +kernel
  have hreports : ReportsDuplicate .csharp (runCall (fun _ => none) ["gen", "-i", "a.cs", "-i", "b.cs"] markedStore) :=
    ⟨by decide +kernel, ⟨"", "A", .guid, false⟩, by decide +kernel⟩
  have hpasses : PassesChecks (runCall (fun _ => none) ["gen", "-l", "python", "-i", "b.cs"] markedStore) :=
    Or.inl (by decide +kernel)
  have hnamed := hnames _ _ ⟨by decide +kernel, by decide +kernel⟩ ⟨by decide +kernel, by decide +kernel⟩ hsame
  exact ⟨outputName_congr .csharp hnamed.1 hnamed.2, hreports, (hreported _ _ _ _ _ _ hboth).1 hreports,
    hsingle _ _ _ _ _ _ hone (by decide), hpasses, (hpassed _ _ _ _ _ _ _ _ _ _ _ hpython hone (fun _ _ => rfl) hpasses).1⟩

end TypedId.CommandLine
