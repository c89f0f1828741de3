import Mathlib.Data.List.Perm.Basic
import TypedId.Proofs.CommandLine.Generation
import TypedId.Proofs.CommandLine.Rendering

/-!
# Order and grouping of input files

Whether a call generates depends on three things only: that all of its input files can be loaded, that the outputs have
different names, and that the output directory can be made and holds no directories under these names (`Admits`). What it
leaves is then known at every place (`Holds`). None of this depends on the order of the input files, so calls with the
same files in any order generate the same. And since the outputs are put at different places, one call for all files can
be replaced by two calls for a part each, as long as the first does not write over the input files of the second
(`gen_in_any_order_and_grouping`).
-/

set_option autoImplicit false

namespace TypedId.CommandLine

open Text Emit Files

variable {trace last : Trace} {language : Language} {directory : Path} {ids more : List Descriptor} {verbose : Bool}
  {store made after : Store} {above : Location}

/-! ## Sources at their places -/

/-- The sources of identifiers can be written into a directory: their names differ, the directory can be made, which
leads to a location in the store that is left, and none of their places there is a directory. -/
structure Admits (language : Language) (directory : Path) (ids : List Descriptor) (store made : Store)
    (above : Location) : Prop where
  distinct : (ids.map language.outputName).Nodup
  makes : store.makeDirectories directory = (made, none)
  leads : made.locate directory.text = .ok above
  isDirectory : made.entry? above = some .directory
  free : ∀ id ∈ ids, made.entry? (above.child (language.outputName id)) ≠ some .directory

/-- What a store becomes when the sources of identifiers are put below a location: they stand at their places, and all
else is as it was. -/
structure Holds (language : Language) (above : Location) (ids : List Descriptor) (made after : Store) : Prop where
  written : ∀ id ∈ ids, after.entry? (above.child (language.outputName id)) = some (.file (sourceBytes language id))
  elsewhere : ∀ place, (∀ id ∈ ids, place ≠ above.child (language.outputName id)) →
    after.entry? place = made.entry? place

/-- Two stores have the same files and directories. -/
def Same (first second : Store) : Prop :=
  ∀ place, first.entry? place = second.entry? place

/-- What the steps for sources leave is known at every place. -/
theorem Writes.holds (h : Writes language above ids trace last) : Holds language above ids trace.store last.store :=
  ⟨h.written, h.elsewhere⟩

/-- What becomes of a store is determined by which sources are put, not by their order. -/
theorem Holds.same {other : Store} (hfirst : Holds language above ids made after)
    (hsecond : Holds language above more made other) (hsame : ∀ id, id ∈ ids ↔ id ∈ more) : Same after other := by
  intro place
  by_cases hplace : ∃ id ∈ ids, place = above.child (language.outputName id)
  · obtain ⟨id, hid, rfl⟩ := hplace
    rw [hfirst.written id hid, hsecond.written id ((hsame id).1 hid)]
  · have hnot : ∀ id ∈ ids, place ≠ above.child (language.outputName id) := fun id hid heq => hplace ⟨id, hid, heq⟩
    rw [hfirst.elsewhere place hnot, hsecond.elsewhere place fun id hid => hnot id ((hsame id).2 hid)]

/-- Sources that are put behind others with other names leave those at their places. -/
theorem Holds.append {middle : Store} (hfirst : Holds language above ids made middle)
    (hsecond : Holds language above more middle after) (hnodup : ((ids ++ more).map language.outputName).Nodup) :
    Holds language above (ids ++ more) made after := by
  rw [List.map_append, List.nodup_append] at hnodup
  refine ⟨List.forall_mem_append.2 ⟨fun id hid => ?_, hsecond.written⟩, fun place hplace => ?_⟩
  · rw [hsecond.elsewhere, hfirst.written id hid]
    intro other hother hsame
    exact hnodup.2.2 _ (List.mem_map_of_mem hid) _ (List.mem_map_of_mem hother) (Store.child_inj hsame)
  · obtain ⟨hids, hmore⟩ := List.forall_mem_append.1 hplace
    rw [hsecond.elsewhere place hmore, hfirst.elsewhere place hids]

/-- Directories stay where none is at a place that is written to. -/
theorem Holds.keeps (h : Holds language above ids made after)
    (hfree : ∀ id ∈ ids, made.entry? (above.child (language.outputName id)) ≠ some .directory) : made.Keeps after := by
  intro place hplace
  rw [h.elsewhere place, hplace]
  rintro id hid rfl
  exact hfree id hid hplace

/-- Whether sources can be written does not depend on their order. -/
theorem Admits.perm (h : Admits language directory ids store made above) (hperm : ids.Perm more) :
    Admits language directory more store made above where
  distinct := (hperm.map language.outputName).nodup_iff.1 h.distinct
  makes := h.makes
  leads := h.leads
  isDirectory := h.isDirectory
  free id hid := h.free id (hperm.mem_iff.2 hid)

/-- What can be written for some identifiers can be written for the first of them. -/
theorem Admits.left (h : Admits language directory (ids ++ more) store made above) :
    Admits language directory ids store made above where
  distinct := by
    have hdistinct := h.distinct
    rw [List.map_append, List.nodup_append] at hdistinct
    exact hdistinct.1
  makes := h.makes
  leads := h.leads
  isDirectory := h.isDirectory
  free id hid := h.free id (List.mem_append_left _ hid)

/-- What can be written together can be written one part behind the other: the directory is there by then, and only
files are new in it. -/
theorem Admits.right (h : Admits language directory (ids ++ more) store made above)
    (hholds : Holds language above ids made after) : Admits language directory more after after above := by
  have hkeeps := hholds.keeps h.left.free
  have hleads := hkeeps.locate h.leads
  have hdirectory := hkeeps above h.isDirectory
  have hdistinct := h.distinct
  rw [List.map_append, List.nodup_append] at hdistinct
  refine ⟨hdistinct.2.1, ?_, hleads, hdirectory, fun id hid => ?_⟩
  · exact Store.makeDirectories_of_directory (Store.status_eq_directory_iff.2 ⟨above, hleads, hdirectory⟩)
  · by_cases hplace : ∃ other ∈ ids, above.child (language.outputName id) = above.child (language.outputName other)
    · obtain ⟨other, hother, hsame⟩ := hplace
      rw [hsame, hholds.written other hother]
      simp
    · rw [hholds.elsewhere _ fun other hother heq => hplace ⟨other, hother, heq⟩]
      exact h.free id (List.mem_append_right _ hid)

/-! ## Steps that generate -/

/-- A source can be written where there is no directory. -/
theorem exists_take_write (hplain : directory.IsPlain) {id : Descriptor} (hid : id.IsNamed)
    (hleads : trace.store.locate directory.text = .ok above) (hdirectory : trace.store.entry? above = some .directory)
    (hfree : trace.store.entry? (above.child (language.outputName id)) ≠ some .directory) :
    ∃ last, trace.takeAll (writeSteps verbose language directory id) = (last, none) := by
  have hplace : trace.store.locate (sourcePath language directory id).text = .ok (above.child (language.outputName id)) :=
    (locate_sourcePath_iff hplain hid).2 ⟨above, hleads, hdirectory, rfl⟩
  rw [sourcePath, ← Store.fileLocation_child directory (outputName_isPlainName hid language)] at hplace
  have hwrite : trace.store.write (sourcePath language directory id).text (sourceBytes language id)
      = (trace.store.put (above.child (language.outputName id)) (.file (sourceBytes language id)), none) :=
    Store.write_spec.2 ⟨_, hplace, hfree, rfl⟩
  have htake : (trace.take (.write (sourcePath language directory id).text (language.render id))).2 = none :=
    congrArg Prod.snd hwrite
  exact ⟨_, takeAll_cons_iff.2 ⟨_, Prod.ext rfl htake, takeAll_logSteps _ _ _⟩⟩

/-- Sources can be written as long as no directory is at the place of one: writing them makes none. -/
theorem exists_takeAll_writeSteps (hplain : directory.IsPlain) (hids : ∀ id ∈ ids, id.IsNamed)
    (hleads : trace.store.locate directory.text = .ok above) (hdirectory : trace.store.entry? above = some .directory)
    (hfree : ∀ id ∈ ids, trace.store.entry? (above.child (language.outputName id)) ≠ some .directory) :
    ∃ last, trace.takeAll (ids.flatMap (writeSteps verbose language directory)) = (last, none) := by
  induction ids generalizing trace with
  | nil => exact ⟨trace, rfl⟩
  | cons id rest ih =>
    obtain ⟨hid, hrest⟩ := List.forall_mem_cons.1 hids
    obtain ⟨hhere, hlater⟩ := List.forall_mem_cons.1 hfree
    obtain ⟨middle, hfirst⟩ := @exists_take_write trace language directory verbose above hplain id hid hleads hdirectory hhere
    have hone := writes_one hplain hid hleads hfirst
    have hfreeAfter : ∀ other ∈ rest, middle.store.entry? (above.child (language.outputName other)) ≠ some .directory := by
      intro other hother
      by_cases hsame : above.child (language.outputName other) = above.child (language.outputName id)
      · rw [hsame, hone.written id List.mem_cons_self]
        simp
      · rw [hone.elsewhere _ (List.forall_mem_singleton.2 hsame)]
        exact hlater other hother
    obtain ⟨last, hlast⟩ := ih hrest (hone.keeps.locate hleads) (hone.keeps above hdirectory) hfreeAfter
    exact ⟨last, takeAll_append_iff.2 ⟨middle, hfirst, hlast⟩⟩

/-- No directory was at the place of a source that has been written. -/
theorem free_of_takeAll (hplain : directory.IsPlain) (hids : ∀ id ∈ ids, id.IsNamed)
    (hleads : trace.store.locate directory.text = .ok above)
    (h : trace.takeAll (ids.flatMap (writeSteps verbose language directory)) = (last, none)) :
    ∀ id ∈ ids, trace.store.entry? (above.child (language.outputName id)) ≠ some .directory := by
  induction ids generalizing trace with
  | nil => simp
  | cons id rest ih =>
    obtain ⟨hid, hrest⟩ := List.forall_mem_cons.1 hids
    obtain ⟨middle, hfirst, hmore⟩ := takeAll_append_iff.1 h
    have hone := writes_one hplain hid hleads hfirst
    obtain ⟨_, hwrite, -⟩ := takeAll_cons_iff.1 hfirst
    refine List.forall_mem_cons.2 ⟨(take_write hplain hid hleads hwrite).1, fun other hother hdirectory => ?_⟩
    exact ih hrest (hone.keeps.locate hleads) hmore other hother (hone.keeps _ hdirectory)

/-- The steps that generate sources are all taken exactly if the sources can be written. -/
theorem exists_taken_iff (hplain : directory.IsPlain) (hids : ∀ id ∈ ids, id.IsNamed)
    (hnodup : (ids.map language.outputName).Nodup) :
    (∃ last, trace.takeAll (generationSteps verbose language directory ids) = (last, none)) ↔
      ∃ made above, Admits language directory ids trace.store made above := by
  constructor
  · rintro ⟨last, hlast⟩
    obtain ⟨middle, hmake, hwrite⟩ := takeAll_cons_iff.1 hlast
    obtain ⟨made, hmakes, rfl⟩ := take_makeDirectories_iff.1 hmake
    obtain ⟨above, hleads, hdirectory⟩ := Store.status_eq_directory_iff.1 (Store.makeDirectories_spec hmakes).2
    have hfree := @free_of_takeAll { trace with store := made } last language directory ids verbose above hplain hids
      hleads hwrite
    exact ⟨made, above, hnodup, hmakes, hleads, hdirectory, hfree⟩
  · rintro ⟨made, above, hadmits⟩
    obtain ⟨last, hlast⟩ := @exists_takeAll_writeSteps { trace with store := made } language directory ids verbose above
      hplain hids hadmits.leads hadmits.isDirectory hadmits.free
    exact ⟨last, takeAll_cons_iff.2 ⟨_, take_makeDirectories_iff.2 ⟨made, hadmits.makes, rfl⟩, hlast⟩⟩

/-- What is left when all of them have been taken. -/
theorem holds_of_taken (hplain : directory.IsPlain) (hids : ∀ id ∈ ids, id.IsNamed)
    (hadmits : Admits language directory ids trace.store made above)
    (h : trace.takeAll (generationSteps verbose language directory ids) = (last, none)) :
    Holds language above ids made last.store := by
  obtain ⟨middle, hmake, hwrite⟩ := takeAll_cons_iff.1 h
  obtain ⟨new, hmakes, rfl⟩ := take_makeDirectories_iff.1 hmake
  obtain rfl : new = made := congrArg Prod.fst (hmakes.symm.trans hadmits.makes)
  exact (@takeAll_writeSteps { trace with store := new } last language directory ids verbose hplain hids hadmits.distinct
    above hadmits.leads hwrite).holds

/-! ## Calls that generate -/

variable {inputs others : List String} {output : String}
  {loads moreLoads : List (List TypeDeclaration × List Descriptor)}

/-- A call that asks for the sources of the identifiers in input files, where these are files. -/
structure GenCall (language : Language) (inputs : List String) (output : String) where
  environment : String → Option String
  arguments : List String
  asks : ∃ status verbose name, readCall environment status arguments = .request verbose (.gen name inputs output) ∧
    Language.ofLabel? name = some language

/-- The run of such a call. -/
def GenCall.run (call : GenCall language inputs output) (store : Store) : Outcome :=
  runCall call.environment call.arguments store

/-- Such a call asks for the same wherever it comes to status zero. -/
theorem GenCall.reads_of_exit (call : GenCall language inputs output) (hexit : (call.run store).ending = .exit 0) :
    ∃ verbose name, readCall call.environment store.status call.arguments = .request verbose (.gen name inputs output) ∧
      Language.ofLabel? name = some language := by
  obtain ⟨status, verbose, name, hcall, hlanguage⟩ := call.asks
  refine ⟨verbose, name, ?_, hlanguage⟩
  rcases readCall_cases hcall store.status with hsame | ⟨fault, command, hfault⟩ | hrefused
  · exact hsame
  · rw [run, runCall, planCall, hfault] at hexit
    exact absurd hexit (by simp [replyPlan, Plan.run, Trace.takeAll, Trace.take])
  · rw [run, runCall, planCall, hrefused] at hexit
    exact absurd hexit (by simp [replyPlan, Plan.run, Trace.takeAll])

/-- Such a call asks for the same wherever its input paths lead to files. -/
theorem GenCall.run_of_loadsFrom (call : GenCall language inputs output) (hloads : LoadsFrom store.status inputs loads) :
    ∃ verbose, call.run store
      = (generationPlan verbose (contentsOf store.status) inputs language (.ofText output)).run store := by
  obtain ⟨status, verbose, name, hcall, hlanguage⟩ := call.asks
  refine ⟨verbose, runCall_gen (readCall_of_isFile hcall fun input hinput => ?_) hlanguage⟩
  obtain ⟨load, -, bytes, hfile, -⟩ := exists_of_mem_right hloads.flip hinput
  exact ⟨bytes, hfile⟩

/-- Such a call takes all steps that generate where the sources can be written. -/
theorem GenCall.exists_taken (call : GenCall language inputs output) (hloads : LoadsFrom store.status inputs loads)
    (hadmits : Admits language (.ofText output) (loads.flatMap Prod.snd) store made above) :
    ∃ verbose last, (loadedTrace verbose (contentsOf store.status) inputs store).takeAll
        (generationSteps verbose language (.ofText output) (loads.flatMap Prod.snd)) = (last, none) ∧
      (call.run store).ending = .exit 0 ∧ (call.run store).trace.store = last.store := by
  obtain ⟨verbose, hrun⟩ := call.run_of_loadsFrom hloads
  have hyields := hloads.yieldsAll
  have hload := loadAll_eq_ok_iff.2 ⟨loads, hyields, rfl⟩
  obtain ⟨last, hlast⟩ := (@exists_taken_iff (loadedTrace verbose (contentsOf store.status) inputs store) _ _ _ verbose
    (Path.isPlain_ofText output) (isNamed_of_yieldsAll hyields) hadmits.distinct).2 ⟨made, above, hadmits⟩
  rw [hrun, run_of_taken hload hadmits.distinct hlast]
  exact ⟨verbose, last, hlast, rfl, rfl⟩

/-- A call comes to status zero exactly if its input files can be loaded and the sources be written. -/
theorem GenCall.exit_iff (call : GenCall language inputs output) (store : Store) :
    (call.run store).ending = .exit 0 ↔ ∃ loads made above, LoadsFrom store.status inputs loads ∧
      Admits language (.ofText output) (loads.flatMap Prod.snd) store made above := by
  constructor
  · intro hexit
    obtain ⟨verbose, name, hcall, hlanguage⟩ := call.reads_of_exit hexit
    have hrun : call.run store = _ := runCall_gen hcall hlanguage
    rw [hrun] at hexit
    obtain ⟨ids, hload⟩ := exists_loaded hexit
    obtain ⟨loads, hyields, rfl⟩ := loadAll_eq_ok_iff.1 hload
    have hnodup : ((loads.flatMap Prod.snd).map language.outputName).Nodup := by
      by_contra hcollision
      have hrefused := (@run_of_collision language (.ofText output) _ verbose store _ _ hload hcollision).1
      exact absurd (hexit.symm.trans hrefused) (by simp)
    have htaken := CommandLine.exists_taken hload hnodup fun error => by rw [hexit]; simp
    obtain ⟨made, above, hadmits⟩ :=
      (exists_taken_iff (Path.isPlain_ofText output) (isNamed_of_yieldsAll hyields) hnodup).1 htaken
    exact ⟨loads, made, above, hyields.loadsFrom (isFile_of_mem_inputs hcall), hadmits⟩
  · rintro ⟨loads, made, above, hloads, hadmits⟩
    obtain ⟨_, _, -, hexit, -⟩ := call.exists_taken hloads hadmits
    exact hexit

/-- What such a call leaves. -/
theorem GenCall.holds (call : GenCall language inputs output) (hloads : LoadsFrom store.status inputs loads)
    (hadmits : Admits language (.ofText output) (loads.flatMap Prod.snd) store made above) :
    Holds language above (loads.flatMap Prod.snd) made (call.run store).trace.store := by
  obtain ⟨verbose, last, hlast, -, hstore⟩ := call.exists_taken hloads hadmits
  rw [hstore]
  exact @holds_of_taken (loadedTrace verbose (contentsOf store.status) inputs store) last language (.ofText output) _
    verbose made above (Path.isPlain_ofText output) (isNamed_of_yieldsAll hloads.yieldsAll) hadmits hlast

/-! ## Other orders -/

/-- What files give in one order they give in any. -/
theorem LoadsFrom.perm {status : String → Status} (h : LoadsFrom status inputs loads) (hperm : others.Perm inputs) :
    ∃ moreLoads, LoadsFrom status others moreLoads ∧ moreLoads.Perm loads :=
  List.perm_comp_forall₂ hperm h

/-- A call comes to status zero if a call with the same files in another order does, and leaves the same. -/
theorem GenCall.of_perm (call : GenCall language inputs output) (other : GenCall language others output)
    (hperm : inputs.Perm others) (hexit : (call.run store).ending = .exit 0) :
    (other.run store).ending = .exit 0 ∧ Same (call.run store).trace.store (other.run store).trace.store := by
  obtain ⟨loads, made, above, hloads, hadmits⟩ := (call.exit_iff store).1 hexit
  obtain ⟨moreLoads, hmoreLoads, hloadsPerm⟩ := hloads.perm hperm.symm
  have hids : (loads.flatMap Prod.snd).Perm (moreLoads.flatMap Prod.snd) := hloadsPerm.symm.flatMap_right Prod.snd
  have hadmitsOther := hadmits.perm hids
  exact ⟨(other.exit_iff store).2 ⟨moreLoads, made, above, hmoreLoads, hadmitsOther⟩,
    (call.holds hloads hadmits).same (other.holds hmoreLoads hadmitsOther) fun _ => hids.mem_iff⟩

/-! ## One part behind the other -/

/-- A file stays what it is when sources are put elsewhere. -/
theorem Admits.status_of_holds {text : String} {bytes : List Nat}
    (h : Admits language directory ids store made above) (hholds : Holds language above ids made after)
    (hfile : store.status text = .file bytes)
    (hspared : ∀ id ∈ ids, made.locate text ≠ .ok (above.child (language.outputName id))) :
    after.status text = .file bytes := by
  obtain ⟨place, hplace, hentry⟩ := Store.status_eq_file_iff.1 hfile
  have hgrows := (Store.makeDirectories_spec h.makes).1
  have hplaceMade := hgrows.keeps.locate hplace
  refine Store.status_eq_file_iff.2 ⟨place, (hholds.keeps h.free).locate hplaceMade, ?_⟩
  rw [hholds.elsewhere place fun id hid heq => hspared id hid (heq ▸ hplaceMade)]
  rcases hgrows place with hsame | ⟨hnone, -⟩
  · rw [hsame, hentry]
  · exact absurd hentry (by simp [hnone])

/-- Two calls, one behind the other, write what can be written together, unless the first writes over the input files
of the second. -/
theorem GenCall.run_behind {first second : List String} (one : GenCall language first output)
    (two : GenCall language second output) (hfirst : LoadsFrom store.status first loads)
    (hsecond : LoadsFrom store.status second moreLoads)
    (hadmits : Admits language (.ofText output) (loads.flatMap Prod.snd ++ moreLoads.flatMap Prod.snd) store made above)
    (hspared : ∀ id ∈ loads.flatMap Prod.snd, ∀ input ∈ second,
      made.locate input ≠ .ok (above.child (language.outputName id))) :
    (one.run store).ending = .exit 0 ∧ (two.run (one.run store).trace.store).ending = .exit 0 ∧
      Holds language above (loads.flatMap Prod.snd ++ moreLoads.flatMap Prod.snd) made
        (two.run (one.run store).trace.store).trace.store := by
  have hholds := one.holds hfirst hadmits.left
  have hsecondAfter : LoadsFrom (one.run store).trace.store.status second moreLoads :=
    hsecond.transfer fun input hinput bytes hfile =>
      hadmits.left.status_of_holds hholds hfile fun id hid => hspared id hid input hinput
  have hadmitsAfter := hadmits.right hholds
  exact ⟨(one.exit_iff store).2 ⟨loads, made, above, hfirst, hadmits.left⟩,
    (two.exit_iff _).2 ⟨moreLoads, _, above, hsecondAfter, hadmitsAfter⟩,
    hholds.append (two.holds hsecondAfter hadmitsAfter) hadmits.distinct⟩

/-- No output path of a call is one of its input paths: in the store that the call leaves, no path of a source leads to
where an input path leads. -/
def GenCall.SparesInputs (call : GenCall language inputs output) (store : Store) : Prop :=
  ∀ loads, LoadsFrom store.status inputs loads → ∀ id ∈ loads.flatMap Prod.snd, ∀ input ∈ inputs, ∀ place,
    (call.run store).trace.store.locate (sourcePath language (.ofText output) id).text = .ok place →
      (call.run store).trace.store.locate input ≠ .ok place

/-- No input file of such a call is where it puts a source. -/
theorem GenCall.SparesInputs.ne_child {call : GenCall language inputs output} (h : call.SparesInputs store)
    (hloads : LoadsFrom store.status inputs loads)
    (hadmits : Admits language (.ofText output) (loads.flatMap Prod.snd) store made above) :
    ∀ id ∈ loads.flatMap Prod.snd, ∀ input ∈ inputs, made.locate input ≠ .ok (above.child (language.outputName id)) := by
  intro id hid input hinput hplace
  have hkeeps := (call.holds hloads hadmits).keeps hadmits.free
  have hsource : (call.run store).trace.store.locate (sourcePath language (.ofText output) id).text
      = .ok (above.child (language.outputName id)) :=
    (locate_sourcePath_iff (Path.isPlain_ofText output) (isNamed_of_yieldsAll hloads.yieldsAll id hid)).2
      ⟨above, hkeeps.locate hadmits.leads, hkeeps above hadmits.isDirectory, rfl⟩
  exact h loads hloads id hid input hinput _ hsource (hkeeps.locate hplace)

/-- Two calls, one behind the other, come to status zero and leave what one call leaves. -/
def GenCall.SplitsInto {first second : List String} (whole : GenCall language inputs output)
    (one : GenCall language first output) (two : GenCall language second output) (store : Store) : Prop :=
  (one.run store).ending = .exit 0 ∧ (two.run (one.run store).trace.store).ending = .exit 0 ∧
    Same (whole.run store).trace.store (two.run (one.run store).trace.store).trace.store

/-- What the files of two lists give is what those of the one list give and what those of the other give. -/
theorem loadsFrom_append_iff {status : String → Status} {first second : List String} :
    LoadsFrom status (first ++ second) loads ↔
      ∃ head tail, LoadsFrom status first head ∧ LoadsFrom status second tail ∧ loads = head ++ tail := by
  constructor
  · intro h
    refine ⟨loads.take first.length, loads.drop first.length, ?_, ?_, (List.take_append_drop _ _).symm⟩
    · exact (List.forall₂_take_append loads first second h.flip).flip
    · exact (List.forall₂_drop_append loads first second h.flip).flip
  · rintro ⟨head, tail, hhead, htail, rfl⟩
    exact List.rel_append hhead htail

/-- A call that comes to status zero can be replaced by two calls for parts of its input files, the one behind the
other, in whichever order the parts are. -/
theorem GenCall.splitsInto {first second : List String} (whole : GenCall language inputs output)
    (one : GenCall language first output) (two : GenCall language second output)
    (hperm : inputs.Perm (first ++ second)) (hexit : (whole.run store).ending = .exit 0)
    (hspares : whole.SparesInputs store) : whole.SplitsInto one two store := by
  obtain ⟨loads, made, above, hloads, hadmits⟩ := (whole.exit_iff store).1 hexit
  obtain ⟨parts, hparts, hloadsPerm⟩ := hloads.perm hperm.symm
  obtain ⟨head, tail, hhead, htail, rfl⟩ := loadsFrom_append_iff.1 hparts
  have hids : (loads.flatMap Prod.snd).Perm (head.flatMap Prod.snd ++ tail.flatMap Prod.snd) := by
    rw [← List.flatMap_append]
    exact hloadsPerm.symm.flatMap_right Prod.snd
  have hspared := hspares.ne_child hloads hadmits
  obtain ⟨hone, htwo, hholds⟩ := one.run_behind two hhead htail (hadmits.perm hids) fun id hid input hinput =>
    hspared id (hids.mem_iff.2 (List.mem_append_left _ hid)) input (hperm.mem_iff.2 (List.mem_append_right _ hinput))
  exact ⟨hone, htwo, (whole.holds hloads hadmits).same hholds fun _ => hids.mem_iff⟩

/-! ## Calls with given input files -/

/-- The arguments behind the command of a call that generates from input files. -/
def genArguments (language : Language) (inputs : List String) (output : String) : List String :=
  "-l" :: language.label :: "-o" :: output :: inputs.flatMap fun input => ["-i", input]

/-- The options that these arguments give. -/
def genGiven (language : Language) (inputs : List String) (output : String) : Given :=
  ⟨(.language, some language.label) :: (.output, some output) :: inputs.map fun input => (.input, some input), []⟩

/-- Each option for an input file adds its file to those given. -/
theorem readArguments_inputs (given : Given) (inputs : List String) :
    readArguments Command.gen.options true given none (inputs.flatMap fun input => ["-i", input])
      = .ok ⟨given.options ++ inputs.map fun input => (.input, some input), given.rest⟩ := by
  induction inputs generalizing given with
  | nil => simp [readArguments]
  | cons input rest ih =>
    have hone : readArguments Command.gen.options true given none ((input :: rest).flatMap fun input => ["-i", input])
        = readArguments Command.gen.options true ⟨given.options ++ [] ++ [(.input, some input)], given.rest⟩ none
          (rest.flatMap fun input => ["-i", input]) :=
      rfl
    rw [hone, ih]
    simp

/-- The arguments of a generation are read as its options. -/
theorem readArguments_gen :
    readArguments Command.gen.options true .empty none (genArguments language inputs output)
      = .ok (genGiven language inputs output) := by
  have hrest : readArguments Command.gen.options true .empty none (genArguments language inputs output)
      = readArguments Command.gen.options true ⟨[(.language, some language.label), (.output, some output)], []⟩ none
        (inputs.flatMap fun input => ["-i", input]) := by
    cases language <;> rfl
  rw [hrest, readArguments_inputs]
  rfl

/-- What is known when the options of the call are checked. -/
def genSetting (environment : String → Option String) (status : String → Status) (language : Language)
    (inputs : List String) (output : String) : Setting :=
  ⟨some .gen, genGiven language inputs output, environment, status⟩

variable {environment : String → Option String} {status : String → Status}

/-- The values that the arguments give. -/
theorem values_gen :
    (genSetting environment status language inputs output).values .language = [language.label] ∧
    (genSetting environment status language inputs output).values .input = inputs ∧
    (genSetting environment status language inputs output).values .output = [output] ∧
    (genSetting environment status language inputs output).has .help = false := by
  have hinputs (key : Key) : ((inputs.map fun input => (Key.input, some input)).filter fun option => option.1 == key)
      = if key = .input then inputs.map fun input => (Key.input, some input) else [] := by
    split
    · rename_i hkey
      exact List.filter_eq_self.2 fun option hoption => by
        obtain ⟨_, -, rfl⟩ := List.mem_map.1 hoption
        simpa using hkey.symm
    · rename_i hkey
      exact List.filter_eq_nil_iff.2 fun option hoption => by
        obtain ⟨_, -, rfl⟩ := List.mem_map.1 hoption
        simpa using Ne.symm hkey
  refine ⟨?_, ?_, ?_, ?_⟩
  all_goals
    simp [genSetting, genGiven, Setting.values, Setting.has, hinputs, List.filterMap_map, Function.comp_def]

/-- All options of the call are in order if there are input files. -/
theorem checkOptions_gen (hfree : SetsNothing environment) (hne : inputs ≠ [])
    (hfiles : ∀ input ∈ inputs, ∃ bytes, status input = .file bytes) :
    checkOptions (genSetting environment status language inputs output) Command.gen.options = .ok () := by
  obtain ⟨-, hinputs, -, hhelp⟩ := @values_gen language inputs output environment status
  have hall : (genSetting environment status language inputs output).allValues inputOption = inputs := by
    rw [Setting.allValues, show inputOption.key = .input from rfl, hinputs]
    simp [hne]
  refine checkOptions_eq_ok hhelp fun spec hspec => ?_
  simp only [Command.options, List.mem_cons, List.not_mem_nil, or_false] at hspec
  rcases hspec with rfl | rfl | rfl | rfl
  · rfl
  · exact objection?_input_eq_none_iff.2 (by rw [hall]; exact ⟨hne, hfiles⟩)
  · rfl
  · exact objection?_flag hfree (Or.inr (Or.inr rfl))

/-- With at least one input file, the options of a generation make the request for it. -/
theorem requestOf_gen (hne : inputs ≠ []) :
    requestOf (genSetting environment status language inputs output) .gen = .gen language.label inputs output := by
  obtain ⟨hlanguage, hinputs, houtput, -⟩ := @values_gen language inputs output environment status
  rw [requestOf, Setting.allValues, Setting.value?, Setting.value?, show languageOption.key = .language from rfl,
    show inputOption.key = .input from rfl, show outputDirectoryOption.key = .output from rfl, hlanguage, hinputs, houtput]
  simp [hne]

/-- A call that generates from given input files. -/
def genCall (language : Language) (output : String) (hne : inputs ≠ []) : GenCall language inputs output where
  environment := fun _ => none
  arguments := Command.gen.name :: genArguments language inputs output
  asks := by
    have hread : readCommand (fun _ => none) (fun _ => .file []) .gen (genArguments language inputs output)
        = .ok (.gen language.label inputs output) :=
      readCommand_eq_ok_iff.2 ⟨genGiven language inputs output, readArguments_gen, rfl,
        checkOptions_gen setsNothing_none hne fun _ _ => ⟨[], rfl⟩, (requestOf_gen hne).symm⟩
    exact ⟨fun _ => .file [], false, language.label, readCall_command setsNothing_none hread, ofLabel?_label language⟩

/-- There are calls that generate from any input files, but from none there is no call. -/
theorem nonempty_genCall_iff : Nonempty (GenCall language inputs output) ↔ inputs ≠ [] := by
  constructor
  · rintro ⟨⟨environment, arguments, status, verbose, name, hcall, -⟩⟩
    obtain ⟨command, given, hcheck, hrequest⟩ := of_readCall hcall
    cases command with
    | gen =>
      obtain ⟨-, rfl, -⟩ := Request.gen.inj hrequest
      exact (objection?_input_eq_none_iff.1 (objection?_eq_none hcheck rfl)).1
    | attributeSource => exact absurd hrequest (by simp [requestOf])
    | info => exact absurd hrequest (by simp [requestOf])
    | render => exact absurd hrequest (by simp [requestOf])
  · exact fun hne => ⟨genCall language output hne⟩

/-- Calls that generate, in a language and into a directory, do not depend on the order or the grouping of their input
files. There are such calls for any input files. With the same files in another order a call comes to status zero
exactly if the first does, and leaves the same files and directories. And if one call for the files of two lists comes
to status zero and spares its input files, then so do two calls, for the one list and then for the other in either
order, and what they leave is the same. -/
theorem gen_in_any_order_and_grouping (language : Language) (output : String) (store : Store) :
    (∀ inputs, Nonempty (GenCall language inputs output) ↔ inputs ≠ []) ∧
    (∀ (inputs others : List String) (call : GenCall language inputs output) (other : GenCall language others output),
      inputs.Perm others →
        ((call.run store).ending = .exit 0 ↔ (other.run store).ending = .exit 0) ∧
        ((call.run store).ending = .exit 0 → Same (call.run store).trace.store (other.run store).trace.store)) ∧
    (∀ (first second : List String) (whole : GenCall language (first ++ second) output)
      (one : GenCall language first output) (two : GenCall language second output),
      (whole.run store).ending = .exit 0 → whole.SparesInputs store →
        whole.SplitsInto one two store ∧ whole.SplitsInto two one store) := by
  refine ⟨fun inputs => nonempty_genCall_iff, fun inputs others call other hperm => ⟨⟨?_, ?_⟩, ?_⟩,
    fun first second whole one two hexit hspares => ⟨?_, ?_⟩⟩
  · exact fun hexit => (call.of_perm other hperm hexit).1
  · exact fun hexit => (other.of_perm call hperm.symm hexit).1
  · exact fun hexit => (call.of_perm other hperm hexit).2
  · exact whole.splitsInto one two (.refl _) hexit hspares
  · exact whole.splitsInto two one List.perm_append_comm hexit hspares

/-- Two files with one marked struct each. -/
def pairStore : Store :=
  ⟨[(⟨.working, ["a.cs"]⟩, .file (Utf8.encode "[StrongId]partial struct A;".toList)),
    (⟨.working, ["c.cs"]⟩, .file (Utf8.encode "[StrongId(1)]partial struct C;".toList))]⟩

/-- The call for both files. -/
def pairCall : GenCall .csharp (["a.cs"] ++ ["c.cs"]) "out" :=
  genCall .csharp "out" (by simp)

/-- The sources of two files are generated alike in either order and one behind the other. -/
theorem pair_in_any_order_and_grouping :
    (pairCall.run pairStore).ending = .exit 0 ∧ pairCall.SparesInputs pairStore ∧
    ∃ (other : GenCall .csharp ["c.cs", "a.cs"] "out") (one : GenCall .csharp ["a.cs"] "out")
      (two : GenCall .csharp ["c.cs"] "out"),
      Same (pairCall.run pairStore).trace.store (other.run pairStore).trace.store ∧
        pairCall.SplitsInto one two pairStore ∧ pairCall.SplitsInto two one pairStore := by
  have hexit : (pairCall.run pairStore).ending = .exit 0 := by
    decide +kernel
  have hspares : pairCall.SparesInputs pairStore := by
    intro loads hloads id hid input hinput place hsource hplace
    have hload := loadAll_eq_ok_iff.2 ⟨loads, hloads.yieldsAll, rfl⟩
    have hids : (loadAll (contentsOf pairStore.status) (["a.cs"] ++ ["c.cs"])).result.toOption
        = some [⟨"", "A", .guid, false⟩, ⟨"", "C", .int, false⟩] := by
      decide +kernel
    rw [hload] at hids
    rw [show loads.flatMap Prod.snd = _ from Option.some.inj hids] at hid
    have happart : ∀ id ∈ [Descriptor.mk "" "A" .guid false, ⟨"", "C", .int, false⟩], ∀ input ∈ ["a.cs"] ++ ["c.cs"],
        (pairCall.run pairStore).trace.store.locate (sourcePath .csharp (.ofText "out") id).text
          ≠ (pairCall.run pairStore).trace.store.locate input := by
      decide +kernel
    exact happart id hid input hinput (hsource.trans hplace.symm)
  obtain ⟨hcalls, horder, hgrouping⟩ := gen_in_any_order_and_grouping .csharp "out" pairStore
  obtain ⟨other⟩ := (hcalls ["c.cs", "a.cs"]).2 (by simp)
  obtain ⟨one⟩ := (hcalls ["a.cs"]).2 (by simp)
  obtain ⟨two⟩ := (hcalls ["c.cs"]).2 (by simp)
  exact ⟨hexit, hspares, other, one, two, (horder _ _ pairCall other (.swap _ _ _)).2 hexit,
    hgrouping _ _ pairCall one two hexit hspares⟩

end TypedId.CommandLine
