import TypedId.CommandLine.Loading
import TypedId.Proofs.Extraction

/-!
# What input files give

`Yields file bytes declarations ids` says which declarations a file holds and which descriptors it gives: those listed
in JSON, or one for each marked struct that is declared, in order. Loading files gives the descriptors of all files one
after the other (`loadAll_eq_ok_iff`) and warns about exactly the marked structs that are not partial
(`warnings_loadAll`): the condition of the warning and that of the descriptor are the same.
-/

set_option autoImplicit false

namespace TypedId

namespace CommandLine

open Text

/-! ## One file -/

/-- A file of the given bytes holds declarations and gives descriptors: a JSON file those that it lists, any other file
one for each marked struct among its declarations. -/
inductive Yields (file : String) (bytes : List Nat) : List TypeDeclaration → List Descriptor → Prop where
  | listed {text : List Char} {value : Json} {items : List Json} {ids : List Descriptor} :
    Files.isJsonFile file = true → fileText bytes = .ok text → Json.read text = .ok value →
      listedValues value = some items → List.Forall₂ (fun item id => Descriptor.ofJson item = .ok id) items ids →
      Yields file bytes [] ids
  | declared {text : List Char} {declarations : List TypeDeclaration} {ids : List Descriptor} :
    Files.isJsonFile file = false → fileText bytes = .ok text → Scan.scan text = .ok declarations →
      List.Forall₂ (fun declaration id => declaration.descriptor? = .ok (some id))
        (declarations.filter fun declaration => declaration.IsMarked) ids →
      Yields file bytes declarations ids

/-- The warnings among records. -/
def warnings (records : List LogRecord) : List LogRecord :=
  records.filter fun record => record.level == .warning

/-- What is logged about a declaration that lacks `partial`. -/
def lacksPartialWarning (declaration : TypeDeclaration) : LogRecord :=
  .warning (declaration.fullName ++ " is not declared partial; the generated part will not compile")

/-- The warnings about declarations, in their order. -/
def warningsAbout (declarations : List TypeDeclaration) : List LogRecord :=
  (declarations.filter fun declaration => declaration.LacksPartial).map lacksPartialWarning

/-- The warnings of records are those of the first and those of the rest. -/
theorem warnings_append (records more : List LogRecord) : warnings (records ++ more) = warnings records ++ warnings more :=
  List.filter_append _ _

/-- A record for debugging is no warning. -/
theorem warnings_debug (message : String) : warnings [.debug message] = [] := rfl

/-- The warnings about declarations are those about the first and those about the rest. -/
theorem warningsAbout_append (declarations more : List TypeDeclaration) :
    warningsAbout (declarations ++ more) = warningsAbout declarations ++ warningsAbout more := by
  rw [warningsAbout, List.filter_append, List.map_append]
  rfl

variable {file : String} {bytes : List Nat} {ids : List Descriptor} {declarations : List TypeDeclaration}

/-- A declaration is warned about like the list of it alone. -/
theorem partialWarnings_eq (declaration : TypeDeclaration) : partialWarnings declaration = warningsAbout [declaration] := by
  rw [partialWarnings, warningsAbout]
  by_cases h : declaration.LacksPartial
  · obtain ⟨hmarked, hpartial⟩ := h
    rw [if_pos, List.filter_cons_of_pos (by simpa using ⟨hmarked, hpartial⟩)]
    · rfl
    · simpa [TypeDeclaration.isExpandable_iff, TypeDeclaration.isPartial] using ⟨hmarked, hpartial⟩
  · rw [if_neg, List.filter_cons_of_neg (by simpa using h)]
    · rfl
    · simpa [TypeDeclaration.isExpandable_iff, TypeDeclaration.isPartial, TypeDeclaration.LacksPartial] using h

/-- Extraction warns about the declarations that lack `partial`; what else it logs are details. -/
theorem warnings_extractAll (declarations : List TypeDeclaration) :
    warnings (extractAll declarations).records = warningsAbout declarations := by
  have hwarned : warnings (declarations.flatMap partialWarnings) = warningsAbout declarations := by
    induction declarations with
    | nil => rfl
    | cons declaration rest ih =>
      have hself : warnings (warningsAbout [declaration]) = warningsAbout [declaration] := by
        rw [warnings, List.filter_eq_self]
        intro record hrecord
        obtain ⟨_, -, rfl⟩ := List.mem_map.1 hrecord
        rfl
      rw [List.flatMap_cons, warnings_append, ih, partialWarnings_eq, hself, ← warningsAbout_append]
      rfl
  have hskipped : warnings (declarations.flatMap TypeDeclaration.skipRecords) = [] := by
    rw [warnings, List.filter_eq_nil_iff]
    intro record hrecord
    obtain ⟨declaration, -, hskip⟩ := List.mem_flatMap.1 hrecord
    rw [TypeDeclaration.skipRecords] at hskip
    split at hskip
    · rw [List.mem_singleton.1 hskip]
      simp [LogRecord.debug]
    · exact absurd hskip (by simp)
  rw [extractAll, warnings_append, hwarned, hskipped, List.append_nil]

/-- Two loads in a row succeed exactly if the first does and then the second. -/
theorem andThen_eq_ok_iff {α β : Type} {loaded : Loaded α} {next : α → Loaded β} {value : β} :
    (loaded.andThen next).result = .ok value ↔
      ∃ first, loaded.result = .ok first ∧ (next first).result = .ok value := by
  rw [Loaded.andThen]
  cases loaded.result with
  | error stop => simp
  | ok first => simp

/-- The records of the second load come behind those of the first. -/
theorem records_andThen {α β : Type} {loaded : Loaded α} {next : α → Loaded β} {first : α}
    (h : loaded.result = .ok first) : (loaded.andThen next).records = loaded.records ++ (next first).records := by
  rw [Loaded.andThen, h]

/-- A text lists descriptors exactly if it is a JSON text of which each listed value gives one. -/
theorem descriptorsFromText_eq_ok_iff {text : List Char} :
    descriptorsFromText text = .ok ids ↔ ∃ value items, Json.read text = .ok value ∧ listedValues value = some items ∧
      List.Forall₂ (fun item id => Descriptor.ofJson item = .ok id) items ids := by
  rw [descriptorsFromText]
  cases Json.read text with
  | error error => simp
  | ok value =>
    cases hitems : listedValues value with
    | none => simp [hitems]
    | some items => simp [hitems, mapError_eq_ok_iff, mapM_eq_ok_iff]

/-- A scanned file is loaded with the declarations that are found, and nothing is warned about so far. -/
theorem scanText_eq_ok_iff {text : List Char} :
    (scanText file text).result = .ok declarations ↔ Scan.scan text = .ok declarations := by
  rw [scanText, Scan.scan]
  cases Scan.readDeclarations text with
  | error error => simp [Except.bind]
  | ok found => simp [mapError_eq_ok_iff, Except.bind]

/-- Scanning logs no warnings. -/
theorem warnings_scanText (file : String) (text : List Char) : warnings (scanText file text).records = [] := by
  rw [scanText]
  split <;> rfl

/-- A JSON file is loaded exactly if its bytes are a text that lists descriptors. -/
theorem loadJson_eq_ok_iff :
    (loadJson file bytes).result = .ok ids ↔
      ∃ text, fileText bytes = .ok text ∧ descriptorsFromText text = .ok ids := by
  rw [loadJson]
  cases fileText bytes with
  | error error => simp
  | ok text => simp [mapError_eq_ok_iff]

/-- A declaration file is loaded exactly if its bytes are a text that is scanned, and its declarations give descriptors.
-/
theorem loadDeclarations_eq_ok_iff :
    (loadDeclarations file bytes).result = .ok ids ↔
      ∃ text declarations, fileText bytes = .ok text ∧ Scan.scan text = .ok declarations ∧
        descriptorsOf declarations = .ok ids := by
  rw [loadDeclarations]
  cases fileText bytes with
  | error error => simp
  | ok text => simp [andThen_eq_ok_iff, scanText_eq_ok_iff, extractAll, mapError_eq_ok_iff]

/-- A file gives descriptors exactly if it yields them. -/
theorem loadFile_eq_ok_iff : (loadFile file bytes).result = .ok ids ↔ ∃ declarations, Yields file bytes declarations ids := by
  rw [loadFile, andThen_eq_ok_iff]
  simp only [Except.ok.injEq, exists_eq_right]
  by_cases hjson : Files.isJsonFile file = true
  · rw [if_pos hjson, loadJson_eq_ok_iff]
    constructor
    · rintro ⟨text, htext, hids⟩
      obtain ⟨value, items, hread, hitems, hids⟩ := descriptorsFromText_eq_ok_iff.1 hids
      exact ⟨[], .listed hjson htext hread hitems hids⟩
    · rintro ⟨declarations, hyields⟩
      cases hyields with
      | listed _ htext hread hitems hids =>
        exact ⟨_, htext, descriptorsFromText_eq_ok_iff.2 ⟨_, _, hread, hitems, hids⟩⟩
      | declared hother => exact absurd hjson (by simp [hother])
  · rw [if_neg hjson, loadDeclarations_eq_ok_iff]
    constructor
    · rintro ⟨text, declarations, htext, hscan, hids⟩
      exact ⟨declarations, .declared (by simpa using hjson) htext hscan (descriptorsOf_eq_ok_iff.1 hids)⟩
    · rintro ⟨declarations, hyields⟩
      cases hyields with
      | listed hsame => exact absurd hsame hjson
      | declared _ htext hscan hids => exact ⟨_, _, htext, hscan, descriptorsOf_eq_ok_iff.2 hids⟩

/-- Exactly those declarations are warned about that lack `partial`. -/
theorem warnings_loadFile (h : Yields file bytes declarations ids) :
    warnings (loadFile file bytes).records = warningsAbout declarations := by
  have hloaded := loadFile_eq_ok_iff.2 ⟨declarations, h⟩
  rw [loadFile] at hloaded ⊢
  obtain ⟨found, hfound, -⟩ := andThen_eq_ok_iff.1 hloaded
  rw [records_andThen hfound, warnings_append, warnings_debug, List.append_nil]
  cases h with
  | listed hjson htext =>
    rw [if_pos hjson, loadJson, htext]
    rfl
  | declared hother htext hscan hids =>
    rw [if_neg (by simp [hother]), loadDeclarations, htext]
    simp only []
    rw [records_andThen (scanText_eq_ok_iff.2 hscan), warnings_append, warnings_scanText, warnings_extractAll,
      List.nil_append]

/-! ## All files -/

/-- What each of the files gives, in their order. -/
def YieldsAll (contents : String → List Nat) (inputs : List String)
    (loads : List (List TypeDeclaration × List Descriptor)) : Prop :=
  List.Forall₂ (fun file load => Yields file (contents file) load.1 load.2) inputs loads

/-- Files that are loaded give the descriptors of one file after the other. -/
theorem loadAll_eq_ok_iff {contents : String → List Nat} {inputs : List String} :
    (loadAll contents inputs).result = .ok ids ↔
      ∃ loads, YieldsAll contents inputs loads ∧ ids = loads.flatMap Prod.snd := by
  induction inputs generalizing ids with
  | nil =>
    constructor
    · intro h
      exact ⟨[], .nil, (Except.ok.inj h).symm⟩
    · rintro ⟨loads, hloads, rfl⟩
      rw [List.forall₂_nil_left_iff.1 hloads]
      rfl
  | cons file rest ih =>
    rw [loadAll, andThen_eq_ok_iff]
    simp only [andThen_eq_ok_iff, Except.ok.injEq]
    constructor
    · rintro ⟨first, hfirst, others, hothers, rfl⟩
      obtain ⟨declarations, hyields⟩ := loadFile_eq_ok_iff.1 hfirst
      obtain ⟨loads, hloads, rfl⟩ := ih.1 hothers
      exact ⟨(declarations, first) :: loads, .cons hyields hloads, rfl⟩
    · rintro ⟨loads, hloads, rfl⟩
      obtain ⟨⟨declarations, first⟩, others, hyields, hothers, rfl⟩ := List.forall₂_cons_left_iff.1 hloads
      exact ⟨first, loadFile_eq_ok_iff.2 ⟨declarations, hyields⟩, _, ih.2 ⟨others, hothers, rfl⟩, rfl⟩

/-- Exactly those declarations of all files are warned about, in their order, that lack `partial`. -/
theorem warnings_loadAll {contents : String → List Nat} {inputs : List String}
    {loads : List (List TypeDeclaration × List Descriptor)} (h : YieldsAll contents inputs loads) :
    warnings (loadAll contents inputs).records = warningsAbout (loads.flatMap Prod.fst) := by
  induction h with
  | nil => rfl
  | @cons file load rest others hyields hothers ih =>
    have hfirst := loadFile_eq_ok_iff.2 ⟨_, hyields⟩
    have hmore := loadAll_eq_ok_iff.2 ⟨others, hothers, rfl⟩
    rw [loadAll, records_andThen hfirst, records_andThen hmore, List.append_nil, warnings_append,
      warnings_loadFile hyields, ih, ← warningsAbout_append]
    rfl

end CommandLine

end TypedId
