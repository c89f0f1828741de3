import TypedId.Proofs.CommandLine.Generation
import TypedId.Proofs.CommandLine.Rendering
import TypedId.Proofs.Json.Page
import TypedId.Proofs.Scan.Marking

/-!
# Three ways to one source

An identifier can be given by arguments, by an object in a JSON file, or by a marked struct in a declaration file. All
three come to the same source (`drivers_agree`): the descriptor is all that a source depends on, and each way leads to the
same descriptor, however the kind is spelled and however the struct is placed and marked.
-/

set_option autoImplicit false

namespace TypedId.CommandLine

open Text Emit Files

/-! ## Files that describe one identifier -/

/-- The entries of a JSON object describe an identifier; what has its default may be left out. -/
structure Describes (entries : List (Json.Text × Json)) (id : Descriptor) : Prop where
  name : Json.lookup? entries "name" = some (.ofString id.name)
  space : Json.lookup? entries "namespace" = some (.ofString id.space) ∨
    id.space = "" ∧ (Json.lookup? entries "namespace" = none ∨ Json.lookup? entries "namespace" = some .null)
  backing : (∃ value, Json.lookup? entries "backing_kind" = some value ∧ BackingKind.Spells id.backing value) ∨
    id.backing = .guid ∧ (Json.lookup? entries "backing_kind" = none ∨ Json.lookup? entries "backing_kind" = some .null)
  visibility : Json.lookup? entries "is_public" = some (.bool id.isPublic) ∨
    id.isPublic = true ∧ Json.lookup? entries "is_public" = none

/-- A JSON file holds an object that describes an identifier, by itself or in a list. -/
inductive ListsOne (bytes : List Nat) (id : Descriptor) : Prop where
  | intro {text : List Char} {value : Json} {entries : List (Json.Text × Json)} :
    fileText bytes = .ok text → Json.read text = .ok value → value = .object entries ∨ value = .array [.object entries] →
      Describes entries id → ListsOne bytes id

/-- A declaration file, laid out in any way, marks one struct, whose name, namespaces, modifiers and marker give an
identifier. -/
inductive DeclaresOne (bytes : List Nat) (id : Descriptor) : Prop where
  | intro {text : List Char} {source : Syntax.File} {names : List String} {declaration : Syntax.Declaration} :
    fileText bytes = .ok text → Grammar.Layout none source.tokens text → (∀ token ∈ source.tokens, token.IsSpelled) →
      Scan.Convertible source.tokens → (source.placed.map Scan.placedNames).Nodup →
      source.placed.filter (fun placed => placed.2.IsMarked) = [(names, declaration)] →
      joinDots names = id.space → declaration.name = id.name → ("public" ∈ declaration.modifiers ↔ id.isPublic = true) →
      declaration.Chooses id.backing → DeclaresOne bytes id

/-! ## An identifier in two files -/

section

open Syntax Grammar Scan

/-- An identifier. -/
def orderId : Descriptor :=
  ⟨"Shop", "OrderId", .int, true⟩

/-- A marker that chooses a kind. -/
def orderMarker : Attribute :=
  ⟨.ofName "StrongId", some [⟨none, [], .member ⟨false, "BackingType", ["Int"]⟩⟩]⟩

/-- A declaration of a marked struct. -/
def orderDeclaration : Declaration :=
  ⟨⟨[⟨orderMarker, [], false⟩], ["public", "partial"]⟩, .structType, "OrderId", .semicolon⟩

/-- A file that declares the struct in a namespace. -/
def orderFile : File :=
  ⟨[], .space (.ofName "Shop") [] [.type orderDeclaration]⟩

/-- The bytes of the file, with a blank in front of each token. -/
def orderSource : List Nat :=
  Utf8.encode " namespace Shop ; [ StrongId ( BackingType . Int ) ] public partial struct OrderId ;".toList

/-- An object that describes the identifier. -/
def orderEntries : List (Json.Text × Json) :=
  [(.whole "name", .ofString "OrderId"), (.whole "namespace", .ofString "Shop"), (.whole "backing_kind", .ofString " INT")]

/-- The bytes of a file that lists the object. -/
def orderObject : List Nat :=
  Utf8.encode (Json.page (.object orderEntries)).toList

/-- A store with two files that describe the identifier. -/
def orderStore : Store :=
  ⟨[(⟨.working, ["Ids.cs"]⟩, .file orderSource), (⟨.working, ["ids.json"]⟩, .file orderObject)]⟩

/-- The declaration file gives the identifier. -/
theorem declaresOne_orderSource : DeclaresOne orderSource orderId := by
  have hspelled : ∀ token ∈ orderFile.tokens, token.IsSpelled := by decide
  have hconvertible : Convertible orderFile.tokens := by
    have hnone : ∀ token ∈ orderFile.tokens, token.terminal ≠ .integer := by decide
    intro literal hliteral
    exact absurd rfl (hnone (.integer literal) hliteral)
  have htext : fileText orderSource = .ok (spacedText orderFile.tokens) := by decide +kernel
  have hdistinct : (orderFile.placed.map placedNames).Nodup := by decide +kernel
  have hsole : orderFile.placed.filter (fun placed => placed.2.IsMarked) = [(["Shop"], orderDeclaration)] := by
    decide +kernel
  have hchooses : orderDeclaration.Chooses .int := by
    have hmarker : orderMarker.IsMarker := Or.inl rfl
    refine ⟨[], orderMarker, [], rfl, by simp, hmarker, ?_⟩
    refine @ChooseKind.given _ [] [] ⟨none, [], .member ⟨false, "BackingType", ["Int"]⟩⟩ .int rfl (by simp) ?_ (.member rfl)
    intro label hlabel
    exact absurd hlabel (by simp)
  exact ⟨htext, layout_spacedText none _, hspelled, hconvertible, hdistinct, hsole, rfl, rfl, by decide, hchooses⟩

/-- The JSON file gives the identifier. -/
theorem listsOne_orderObject : ListsOne orderObject orderId := by
  have htext : fileText orderObject = .ok (Json.page (.object orderEntries)).toList := by decide +kernel
  have hread : Json.read (Json.page (.object orderEntries)).toList = .ok (.object orderEntries) := by
    have htextual : (Json.object orderEntries).IsTextual := by
      simp [orderEntries, Json.ofString, Json.IsTextual, Json.AreTextualEntries]
    have hpage := Json.read_page htextual (show Json.IsGap [] by simp [Json.IsGap])
    rwa [List.append_nil] at hpage
  have hspells : BackingKind.Spells .int (.ofString " INT") := by
    have hblank : IsBlank [' '] := List.forall_mem_singleton.2 (by decide +kernel)
    have hword : SameLetters (String.ofList ['I', 'N', 'T']) BackingKind.int.markerName := by
      rw [SameLetters, String.toList_ofList]
      decide
    exact @BackingKind.Spells.word .int [' '] ['I', 'N', 'T'] [] hblank hword (List.forall_mem_nil _)
  exact ⟨htext, hread, Or.inl rfl, ⟨rfl, Or.inl rfl, Or.inl ⟨_, rfl, hspells⟩, Or.inr ⟨rfl, rfl⟩⟩⟩

end

/-! ## What such files yield -/

variable {id : Descriptor} {bytes : List Nat} {file : String}

/-- Entries that describe an identifier are read as its descriptor. -/
theorem ofJson_of_describes {entries : List (Json.Text × Json)} (hid : id.IsNamed) (h : Describes entries id) :
    Descriptor.ofJson (.object entries) = .ok id := by
  have hspace : spaceEntry entries = .ofString id.space := by
    rcases h.space with hgiven | ⟨hempty, hnone | hnull⟩
    · exact spaceEntry_of_lookup? hgiven
    · rw [spaceEntry, hnone, hempty]
    · rw [spaceEntry, hnull, hempty]
      rfl
  have hbacking : BackingKind.ofValue ((Json.lookup? entries "backing_kind").getD .null) = .ok id.backing := by
    rcases h.backing with ⟨value, hgiven, hspells⟩ | ⟨hguid, hnone | hnull⟩
    · rw [hgiven]
      exact BackingKind.ofValue_of_spells hspells
    · rw [hnone, hguid]
      rfl
    · rw [hnull, hguid]
      rfl
  have hvisibility : ((Json.lookup? entries "is_public").map Json.isTruthy).getD true = id.isPublic := by
    rcases h.visibility with hgiven | ⟨hpublic, hnone⟩
    · rw [hgiven]
      rfl
    · rw [hnone, hpublic]
      rfl
  rw [ofJson_object h.name hid.name hspace hid.space hbacking, hvisibility]

/-- A JSON file that describes an identifier yields it and holds no declarations. -/
theorem yields_of_listsOne (hid : id.IsNamed) (hfile : Files.isJsonFile file = true) (h : ListsOne bytes id) :
    Yields file bytes [] [id] := by
  obtain ⟨htext, hread, hvalue, hdescribes⟩ := h
  have hone := ofJson_of_describes hid hdescribes
  rcases hvalue with rfl | rfl
  · exact .listed hfile htext hread rfl (.cons hone .nil)
  · exact .listed hfile htext hread rfl (.cons hone .nil)

/-- A declaration file that marks one struct yields its identifier. -/
theorem yields_of_declaresOne (hfile : Files.isJsonFile file = false) (h : DeclaresOne bytes id) :
    ∃ declarations, Yields file bytes declarations [id] := by
  obtain ⟨htext, hlayout, hspelled, hconvertible, hdistinct, hsole, hspace, hname, hpublic, hchooses⟩ := h
  obtain ⟨declarations, hscan, hdescriptors⟩ :=
    Scan.descriptors_of_layout hspelled hconvertible hlayout hdistinct hsole hchooses
  rename_i names declaration
  have hvisibility : declaration.modifiers.contains "public" = id.isPublic := by
    rw [Bool.eq_iff_iff, ← hpublic, List.contains_iff_mem]
  rw [hspace, hname, hvisibility] at hdescriptors
  exact ⟨declarations, .declared hfile htext hscan (descriptorsOf_eq_ok_iff.1 hdescriptors)⟩

/-! ## The drivers -/

variable {language : Language} {store : Store} {output : String} {outcome : Outcome}

/-- A file that yields one descriptor is generated as its source. -/
theorem GenRun.of_yields (h : GenRun language [file] output store outcome) (hfile : store.status file = .file bytes)
    {declarations : List TypeDeclaration} (hyields : Yields file bytes declarations [id]) :
    outcome.ending = .exit 0 ∧ Generates language (.ofText output) [id] store outcome.trace.store := by
  have hloads : LoadsFrom store.status [file] [(declarations, [id])] := .cons ⟨bytes, hfile, hyields⟩ .nil
  obtain ⟨hending, hgenerates, -⟩ := h.of_nodup hloads (List.nodup_singleton _)
  exact ⟨hending, hgenerates⟩

/-- The source of an identifier is the same whether it is rendered to the output or to a file from arguments, or
generated from a JSON file or from a declaration file. -/
theorem drivers_agree {id : Descriptor} (hid : id.IsNamed) (language : Language) :
    (∀ {environment : String → Option String} {word : String} {store : Store},
      SetsNothing environment → Names word id.backing →
        (runCall environment (renderArguments id.name id.space word language.label id.isPublic none) store)
          = ⟨.exit 0, ⟨language.render id, "", [], store⟩⟩) ∧
    (∀ {environment : String → Option String} {word path : String} {store : Store} {outcome : Outcome},
      SetsNothing environment → Names word id.backing →
      outcome = runCall environment (renderArguments id.name id.space word language.label id.isPublic (some path)) store →
      (∀ error, outcome.ending ≠ .failure (.file error)) →
        outcome.ending = .exit 0 ∧ outcome.trace.store.status path = .file (sourceBytes language id)) ∧
    (∀ {file output : String} {bytes : List Nat} {store : Store} {outcome : Outcome},
      Files.isJsonFile file = true → store.status file = .file bytes → ListsOne bytes id →
      GenRun language [file] output store outcome →
        outcome.ending = .exit 0 ∧ Generates language (.ofText output) [id] store outcome.trace.store) ∧
    (∀ {file output : String} {bytes : List Nat} {store : Store} {outcome : Outcome},
      Files.isJsonFile file = false → store.status file = .file bytes → DeclaresOne bytes id →
      GenRun language [file] output store outcome →
        outcome.ending = .exit 0 ∧ Generates language (.ofText output) [id] store outcome.trace.store) := by
  refine ⟨fun hfree hword => ?_, fun hfree hword houtcome hunhindered => ?_, fun hjson hfile hlists hgen => ?_,
    fun hother hfile hdeclares hgen => ?_⟩
  · exact run_render_print hfree hid.name hid.space hword
  · obtain ⟨hending, -, hwritten⟩ := run_render_write hfree hid.name hid.space hword houtcome hunhindered
    exact ⟨hending, hwritten⟩
  · exact hgen.of_yields hfile (yields_of_listsOne hid hjson hlists)
  · obtain ⟨declarations, hyields⟩ := yields_of_declaresOne hother hdeclares
    exact hgen.of_yields hfile hyields

/-- An identifier is rendered, and generated from both files. -/
theorem order_drivers_agree :
    orderId.IsNamed ∧
    runCall (fun _ => none) (renderArguments "OrderId" "Shop" "Int" "python" true none) orderStore
      = ⟨.exit 0, ⟨Language.python.render orderId, "", [], orderStore⟩⟩ ∧
    (runCall (fun _ => none) (renderArguments "OrderId" "Shop" "1" "python" true (some "id.py")) orderStore).trace.store.status
      "id.py" = .file (sourceBytes .python orderId) ∧
    Generates .python (.ofText ".") [orderId] orderStore
      (runCall (fun _ => none) ["gen", "-l", "python", "-i", "ids.json"] orderStore).trace.store ∧
    Generates .python (.ofText ".") [orderId] orderStore
      (runCall (fun _ => none) ["gen", "-l", "python", "-i", "Ids.cs"] orderStore).trace.store := by
  have hid : orderId.IsNamed := ⟨by decide +kernel, by decide +kernel⟩
  have hrun {file : String} {outcome : Outcome}
      (hcall : readCall (fun _ => none) orderStore.status ["gen", "-l", "python", "-i", file]
        = .request false (.gen "python" [file] "."))
      (houtcome : outcome = runCall (fun _ => none) ["gen", "-l", "python", "-i", file] orderStore)
      (hending : outcome.ending = .exit 0) : GenRun .python [file] "." orderStore outcome :=
    ⟨⟨_, _, false, "python", hcall, rfl, houtcome⟩, by simp [hending]⟩
  have hwritten : (runCall (fun _ => none) (renderArguments "OrderId" "Shop" "1" "python" true (some "id.py"))
      orderStore).ending = .exit 0 := by
    decide +kernel
  have hunhindered : ∀ error, (runCall (fun _ => none) (renderArguments "OrderId" "Shop" "1" "python" true (some "id.py"))
      orderStore).ending ≠ .failure (.file error) := by
    simp [hwritten]
  obtain ⟨hprint, hwrite, hjson, hsource⟩ := drivers_agree hid .python
  refine ⟨hid, ?_, ?_, ?_, ?_⟩
  · exact hprint setsNothing_none (Or.inl rfl)
  · exact (hwrite setsNothing_none (Or.inr (by decide +kernel)) rfl hunhindered).2
  · refine (hjson (by decide +kernel) (by decide +kernel) listsOne_orderObject (hrun (by decide +kernel) rfl ?_)).2
    decide +kernel
  · refine (hsource (by decide +kernel) (by decide +kernel) declaresOne_orderSource (hrun (by decide +kernel) rfl ?_)).2
    decide +kernel

end TypedId.CommandLine
