import TypedId.Proofs.CommandLine.Generation
import TypedId.Proofs.Json.Page

/-!
# Lists as input files

The JSON list of identifiers is an input file for the same identifiers (`yields_listText`): each entry is read as the
descriptor it was written from (`ofJson_listedJson`), since names in descriptors are identifiers. So a listing can be
generated from in place of the files that it lists (`listing_generates_the_same`).
-/

set_option autoImplicit false

namespace TypedId.CommandLine

open Text Emit Files

variable {id : Descriptor} {ids : List Descriptor} {file : String}

/-! ## Entries of a list -/

/-- A kind is read from its name. -/
theorem ofValue_markerName (kind : BackingKind) : BackingKind.ofValue (.ofString kind.markerName) = .ok kind := by
  cases kind <;> decide +kernel

/-- An entry of the list is read as the descriptor that it was written from. -/
theorem ofJson_listedJson (h : id.IsNamed) : Descriptor.ofJson (listedJson id) = .ok id := by
  exact ofJson_object rfl h.name (spaceEntry_of_lookup? rfl) h.space (ofValue_markerName id.backing)

/-- A listed descriptor holds no fractions and no surrogates. -/
theorem isTextual_listedJson (id : Descriptor) : (listedJson id).IsTextual := by
  simp [listedJson, Json.ofEntries, Json.ofString, Json.IsTextual, Json.AreTextualEntries]

/-- The list of descriptors holds no fractions and no surrogates. -/
theorem isTextual_list (ids : List Descriptor) : (Json.array (ids.map listedJson)).IsTextual := by
  induction ids with
  | nil => trivial
  | cons id rest ih => exact ⟨isTextual_listedJson id, ih⟩

/-! ## Lists in files -/

/-- A printed list is written in visible characters of ASCII and line feeds. -/
theorem isPage_listText (ids : List Descriptor) : Json.IsPage (listText ids) :=
  (Json.isPage_pageAt 0 _ (isTextual_list ids)).append (by decide)

/-- A list is the same text after it has been stored. -/
theorem fileText_listText (ids : List Descriptor) :
    fileText (Utf8.encode (listText ids).toList) = .ok (listText ids).toList := by
  obtain ⟨hascii, hreturn⟩ := Json.of_isPage (isPage_listText ids)
  rw [fileText, decode_encode hascii]
  exact congrArg Except.ok (unifyLineEnds_of_notMem hreturn)

/-- A printed list is read as the list. -/
theorem read_listText (ids : List Descriptor) : Json.read (listText ids).toList = .ok (.array (ids.map listedJson)) := by
  rw [listText, String.toList_append]
  exact Json.read_page (isTextual_list ids) (by decide)

/-- A file that holds the list gives the identifiers that are listed. -/
theorem yields_listText (hfile : Files.isJsonFile file = true) (hids : ∀ id ∈ ids, id.IsNamed) :
    Yields file (Utf8.encode (listText ids).toList) [] ids := by
  refine .listed hfile (fileText_listText ids) (read_listText ids) rfl ?_
  rw [List.forall₂_map_left_iff, List.forall₂_same]
  intro id hid
  exact ofJson_listedJson (hids id hid)

/-! ## Calls that list -/

variable {environment : String → Option String} {arguments : List String} {verbose : Bool} {inputs : List String}
  {store : Store}

/-- A call that lists in JSON and ends with status zero has found descriptors in all of its input files and prints the
list of them. -/
theorem of_info (hcall : readCall environment store.status arguments = .request verbose (.info inputs true))
    (hexit : (runCall environment arguments store).ending = .exit 0) :
    ∃ loads, LoadsFrom store.status inputs loads ∧
      (runCall environment arguments store).trace.output = listText (loads.flatMap Prod.snd) := by
  have hrun : runCall environment arguments store
      = (withDescriptors verbose (contentsOf store.status) inputs fun ids => .printing (listText ids) 0).run store := by
    rw [runCall, planCall, hcall]
    rfl
  rw [hrun] at hexit ⊢
  obtain ⟨ids, hload⟩ := exists_loaded hexit
  obtain ⟨loads, hyields, rfl⟩ := loadAll_eq_ok_iff.1 hload
  refine ⟨loads, hyields.loadsFrom (isFile_of_mem_inputs hcall), ?_⟩
  have hunhindered : ∀ error, ((withDescriptors verbose (contentsOf store.status) inputs
      fun ids => .printing (listText ids) 0).run store).ending ≠ .failure (.file error) := by
    simp [hexit]
  have htaken := (takeAll_of_run hunhindered).1
  rw [withDescriptors_of_ok hload] at htaken ⊢
  obtain ⟨logged, hlogged, hprinted⟩ := takeAll_append_iff.1 htaken
  rw [takeAll_logSteps] at hlogged
  obtain rfl := congrArg Prod.fst hlogged
  have houtput := congrArg (fun taken => taken.1.output) hprinted
  rw [← houtput]
  exact String.empty_append

/-- The list that a call prints can be generated from in place of the files it lists: in every language the two runs end
with the same status and, where it is zero, generate the same sources and print the same number. The outputs in the list
are the names of the C# sources. -/
theorem listing_generates_the_same
    (hcall : readCall environment store.status arguments = .request verbose (.info inputs true))
    (hexit : (runCall environment arguments store).ending = .exit 0) :
    ∃ loads, LoadsFrom store.status inputs loads ∧
      (∃ entries, Json.read (runCall environment arguments store).trace.output.toList = .ok (.array entries) ∧
        entries.map (Json.field? "output")
          = (loads.flatMap Prod.snd).map fun id => some (.ofString (Language.csharp.outputName id))) ∧
      ∀ {language : Language} {first second : Store} {direct saved : Outcome} {file output other : String},
        GenRun language inputs output first direct → (∀ input ∈ inputs, first.status input = store.status input) →
        Files.isJsonFile file = true →
        second.status file = .file (Utf8.encode (runCall environment arguments store).trace.output.toList) →
        GenRun language [file] other second saved →
          saved.ending = direct.ending ∧ (direct.ending = .exit 0 ∨ direct.ending = .exit 1) ∧
          (direct.ending = .exit 0 →
            (Generates language (.ofText output) (loads.flatMap Prod.snd) first direct.trace.store ∧
              direct.trace.output = generatedText (.ofText output) (loads.flatMap Prod.snd)) ∧
            Generates language (.ofText other) (loads.flatMap Prod.snd) second saved.trace.store ∧
              saved.trace.output = generatedText (.ofText other) (loads.flatMap Prod.snd)) := by
  obtain ⟨loads, hloads, houtput⟩ := of_info hcall hexit
  rw [houtput]
  refine ⟨loads, hloads, ⟨_, read_listText _, ?_⟩, ?_⟩
  · rw [List.map_map]
    rfl
  · intro language first second direct saved file output other hdirect hsame hfile hstored hsaved
    have hids := isNamed_of_yieldsAll hloads.yieldsAll
    have hfirst : LoadsFrom first.status inputs loads := by
      refine (List.forall₂_and_left _ _ |>.2 ⟨hsame, hloads⟩).imp fun input load hload => ?_
      obtain ⟨hstatus, bytes, hbytes, hyields⟩ := hload
      exact ⟨bytes, hstatus.trans hbytes, hyields⟩
    have hsecond : LoadsFrom second.status [file] [([], loads.flatMap Prod.snd)] :=
      .cons ⟨_, hstored, yields_listText hfile hids⟩ .nil
    have hlisted : [(([] : List TypeDeclaration), loads.flatMap Prod.snd)].flatMap Prod.snd = loads.flatMap Prod.snd :=
      List.append_nil _
    by_cases hnodup : ((loads.flatMap Prod.snd).map language.outputName).Nodup
    · obtain ⟨hending, hgenerates, htext, -⟩ := hdirect.of_nodup hfirst hnodup
      obtain ⟨hending', hgenerates', htext', -⟩ := hsaved.of_nodup hsecond (by rwa [hlisted])
      rw [hlisted] at hgenerates' htext'
      exact ⟨hending'.trans hending.symm, Or.inl hending, fun _ => ⟨⟨hgenerates, htext⟩, hgenerates', htext'⟩⟩
    · obtain ⟨hending, -⟩ := hdirect.of_collision hfirst hnodup
      obtain ⟨hending', -⟩ := hsaved.of_collision hsecond (by rwa [hlisted])
      refine ⟨hending'.trans hending.symm, Or.inr hending, fun hzero => ?_⟩
      exact absurd (hzero.symm.trans hending) (by simp)

/-- The list of a marked struct. -/
def markedList : String :=
  "[\n  \x7b\n    \"namespace\": \"\",\n    \"name\": \"A\",\n    \"fully_qualified_name\": \"A\",\n"
    ++ "    \"backing_kind\": \"Guid\",\n    \"is_public\": false,\n    \"output\": \"A.g.cs\"\n  \x7d\n]\n"

/-- A store with the list in a file. -/
def listedStore : Store :=
  ⟨[(⟨.working, ["list.json"]⟩, .file (Utf8.encode markedList.toList))]⟩

/-- A marked struct is generated from its declaration file and from the list of that file. -/
theorem marked_listing_generates_the_same :
    readCall (fun _ => none) markedStore.status ["info", "--json", "-i", "a.cs"]
      = .request false (.info ["a.cs"] true) ∧
    (runCall (fun _ => none) ["info", "--json", "-i", "a.cs"] markedStore).ending = .exit 0 ∧
    ∃ loads, LoadsFrom markedStore.status ["a.cs"] loads ∧
      Generates .python (.ofText "first") (loads.flatMap Prod.snd) markedStore
        (runCall (fun _ => none) ["gen", "-l", "python", "-i", "a.cs", "-o", "first"] markedStore).trace.store ∧
      Generates .python (.ofText "second") (loads.flatMap Prod.snd) listedStore
        (runCall (fun _ => none) ["gen", "-l", "python", "-i", "list.json", "-o", "second"] listedStore).trace.store := by
  have hcall : readCall (fun _ => none) markedStore.status ["info", "--json", "-i", "a.cs"]
      = .request false (.info ["a.cs"] true) := by
    decide +kernel
  have hexit : (runCall (fun _ => none) ["info", "--json", "-i", "a.cs"] markedStore).ending = .exit 0 := by
    decide +kernel
  have hlist : (runCall (fun _ => none) ["info", "--json", "-i", "a.cs"] markedStore).trace.output = markedList := by
    decide +kernel
  have hdirect : (runCall (fun _ => none) ["gen", "-l", "python", "-i", "a.cs", "-o", "first"] markedStore).ending
      = .exit 0 := by
    decide +kernel
  have hsaved : (runCall (fun _ => none) ["gen", "-l", "python", "-i", "list.json", "-o", "second"] listedStore).ending
      = .exit 0 := by
    decide +kernel
  have hstored : listedStore.status "list.json" = .file (Utf8.encode markedList.toList) := by
    have hlocate : listedStore.locate "list.json" = .ok ⟨.working, ["list.json"]⟩ := by decide +kernel
    rw [Store.status_of_locate hlocate]
    rfl
  have hfirst : GenRun .python ["a.cs"] "first" markedStore
      (runCall (fun _ => none) ["gen", "-l", "python", "-i", "a.cs", "-o", "first"] markedStore) := by
    refine ⟨⟨_, _, false, "python", ?_, by decide +kernel, rfl⟩, by simp [hdirect]⟩
    decide +kernel
  have hsecond : GenRun .python ["list.json"] "second" listedStore
      (runCall (fun _ => none) ["gen", "-l", "python", "-i", "list.json", "-o", "second"] listedStore) := by
    refine ⟨⟨_, _, false, "python", ?_, by decide +kernel, rfl⟩, by simp [hsaved]⟩
    decide +kernel
  obtain ⟨loads, hloads, -, hsame⟩ := listing_generates_the_same hcall hexit
  rw [hlist] at hsame
  have hgenerates := (hsame hfirst (fun _ _ => rfl) (by decide +kernel) hstored hsecond).2.2 hdirect
  exact ⟨hcall, hexit, loads, hloads, hgenerates.1.1, hgenerates.2.1⟩

end TypedId.CommandLine
