import Mathlib.Logic.Relation
import TypedId.Proofs.Scan.Descriptors

/-!
# What a descriptor does not depend on

Of the attributes of a declaration only the first marker counts, of its arguments only the first that states the backing
kind, and of the modifiers only whether `public` is among them (`SameReading`). `TypeDeclaration.Edit` lists changes that
leave these alone; no series of them changes what a declaration yields or what is logged about it
(`edits_keep_descriptor`).
-/

set_option autoImplicit false

namespace TypedId

open Text

/-! ## Lists that are rearranged -/

section Lists

variable {α β : Type} {Free : α → Prop} {items others : List α}

/-- An item of a free sort is put into a list, is left out, or is moved to another place. -/
inductive Rearranges (Free : α → Prop) : List α → List α → Prop where
  | insert {before behind : List α} {item : α} : Free item →
      Rearranges Free (before ++ behind) (before ++ item :: behind)
  | remove {before behind : List α} {item : α} : Free item →
      Rearranges Free (before ++ item :: behind) (before ++ behind)
  | move {before behind before' behind' : List α} {item : α} : Free item → before ++ behind = before' ++ behind' →
      Rearranges Free (before ++ item :: behind) (before' ++ item :: behind')

/-- What is not free stays, in its order. -/
theorem Rearranges.filter_eq (h : Rearranges Free items others) {keep : α → Bool}
    (hfree : ∀ item, Free item → keep item = false) : others.filter keep = items.filter keep := by
  have hskip {before behind : List α} {item : α} (hitem : Free item) :
      (before ++ item :: behind).filter keep = (before ++ behind).filter keep := by
    rw [List.filter_append, List.filter_cons_of_neg (by simp [hfree item hitem]), List.filter_append]
  cases h with
  | insert hitem => exact hskip hitem
  | remove hitem => exact (hskip hitem).symm
  | move hitem hsame => rw [hskip hitem, hskip hitem, hsame]

/-- Rearranging items that a search passes over leaves what it finds. -/
theorem Rearranges.find?_eq (h : Rearranges Free items others) {keep : α → Bool}
    (hfree : ∀ item, Free item → keep item = false) : others.find? keep = items.find? keep := by
  rw [← List.head?_filter, ← List.head?_filter, h.filter_eq hfree]

/-- What stands behind an item that is looked for does not count. -/
theorem find?_append_cons {keep : α → Bool} (before : List α) {item : α} (behind other : List α)
    (h : keep item = true) : (before ++ item :: other).find? keep = (before ++ item :: behind).find? keep := by
  rw [List.find?_append, List.find?_append, List.find?_cons_of_pos h, List.find?_cons_of_pos h]

/-- One of the items may be replaced by one that counts as the same. -/
theorem map_find?_replace {keep : α → Bool} {view : α → β} (before behind : List α) {item other : α}
    (hkeep : keep other = keep item) (hview : view other = view item) :
    ((before ++ other :: behind).find? keep).map view = ((before ++ item :: behind).find? keep).map view := by
  rw [List.find?_append, List.find?_append, List.find?_cons, List.find?_cons, hkeep]
  cases before.find? keep with
  | some found => rfl
  | none => cases keep item <;> simp [hview]

end Lists

/-! ## What counts -/

/-- The argument that states the backing kind. -/
def AttributeUse.backingArgument? (attr : AttributeUse) : Option AttributeArgument :=
  attr.arguments.find? AttributeArgument.statesBacking

namespace TypeDeclaration

variable {declaration edited : TypeDeclaration} {declarations : List TypeDeclaration}

/-- Two declarations agree in all that counts. -/
structure SameReading (declaration other : TypeDeclaration) : Prop where
  name : other.name = declaration.name
  space : other.space = declaration.space
  kind : other.kind = declaration.kind
  isPublic : other.isPublic = declaration.isPublic
  marker : other.marker?.map AttributeUse.backingArgument? = declaration.marker?.map AttributeUse.backingArgument?

/-- The kind that a declaration chooses, if it carries the marker. -/
theorem map_backingKind (declaration : TypeDeclaration) :
    declaration.marker?.map AttributeUse.backingKind = (declaration.marker?.map AttributeUse.backingArgument?).map
      fun argument => match argument with
        | some argument => argument.backingKind
        | none => .ok BackingKind.default := by
  rw [Option.map_map]
  rfl

/-- Declarations that are read alike yield the same descriptor. -/
theorem SameReading.descriptor?_eq (h : SameReading declaration edited) :
    edited.descriptor? = declaration.descriptor? := by
  have hkind : edited.marker?.map AttributeUse.backingKind = declaration.marker?.map AttributeUse.backingKind := by
    rw [map_backingKind, map_backingKind, h.marker]
  rw [descriptor?, descriptor?, h.kind, h.name, h.space, h.isPublic]
  cases hmarker : declaration.marker? with
  | none =>
    rw [hmarker, Option.map_none, Option.map_eq_none_iff] at hkind
    rw [hkind]
  | some marker =>
    rw [hmarker, Option.map_some] at hkind
    obtain ⟨other, hother, hsame⟩ := Option.map_eq_some_iff.1 hkind
    simp only [hother, hsame]

/-- Declarations that are read alike are skipped with the same records. -/
theorem SameReading.skipRecords_eq (h : SameReading declaration edited) :
    edited.skipRecords = declaration.skipRecords := by
  have hmarker : edited.marker?.isSome = declaration.marker?.isSome := by
    rw [← Option.isSome_map (f := AttributeUse.backingArgument?), h.marker, Option.isSome_map]
  rw [skipRecords, skipRecords, hmarker, h.kind, fullName, fullName, h.name, h.space]

end TypeDeclaration

/-! ## Edits -/

/-- A change to an attribute that leaves its simple name and the argument that states the backing kind alone. -/
inductive AttributeUse.Edit : AttributeUse → AttributeUse → Prop where
  | qualification {attr : AttributeUse} {name : String} : lastSegment name = attr.simpleName →
      Edit attr { attr with name }
  | arguments {attr : AttributeUse} {arguments : List AttributeArgument} :
      Rearranges (fun argument => ∃ label, argument.name = some label ∧ label ≠ "backingType") attr.arguments arguments →
      Edit attr { attr with arguments }
  | behindBacking {attr : AttributeUse} {before behind others : List AttributeArgument} {argument : AttributeArgument} :
      attr.arguments = before ++ argument :: behind → argument.name = none ∨ argument.name = some "backingType" →
      Edit attr { attr with arguments := before ++ argument :: others }

/-- A change to a declaration: to attributes other than the marker, to attributes behind a marker, to one attribute by
an edit, or to modifiers other than `public`. -/
inductive TypeDeclaration.Edit : TypeDeclaration → TypeDeclaration → Prop where
  | attributes {declaration : TypeDeclaration} {attributes : List AttributeUse} :
      Rearranges (fun attr => attr.simpleName ≠ "StrongId" ∧ attr.simpleName ≠ "StrongIdAttribute")
        declaration.attributes attributes →
      Edit declaration { declaration with attributes }
  | behindMarker {declaration : TypeDeclaration} {before behind others : List AttributeUse} {marker : AttributeUse} :
      declaration.attributes = before ++ marker :: behind →
      marker.simpleName = "StrongId" ∨ marker.simpleName = "StrongIdAttribute" →
      Edit declaration { declaration with attributes := before ++ marker :: others }
  | oneAttribute {declaration : TypeDeclaration} {before behind : List AttributeUse} {attr changed : AttributeUse} :
      declaration.attributes = before ++ attr :: behind → attr.Edit changed →
      Edit declaration { declaration with attributes := before ++ changed :: behind }
  | modifiers {declaration : TypeDeclaration} {modifiers : List String} :
      Rearranges (· ≠ "public") declaration.modifiers modifiers →
      Edit declaration { declaration with modifiers }

/-- An argument states the backing kind if it is positional or labelled for it. -/
theorem AttributeArgument.statesBacking_iff {argument : AttributeArgument} :
    argument.statesBacking = true ↔ argument.name = none ∨ argument.name = some "backingType" := by
  rw [statesBacking]
  cases argument.name with
  | none => simp
  | some name => simp [backingArgumentName]

/-- An edit of an attribute changes neither whether it is a marker nor the argument that states the kind. -/
theorem AttributeUse.Edit.sameReading {attr changed : AttributeUse} (h : attr.Edit changed) :
    changed.isMarker = attr.isMarker ∧ changed.backingArgument? = attr.backingArgument? := by
  cases h with
  | qualification hname =>
    refine ⟨?_, rfl⟩
    rw [isMarker, isMarker, ← hname]
    rfl
  | arguments hfree =>
    refine ⟨rfl, hfree.find?_eq ?_⟩
    rintro argument ⟨label, hlabel, hne⟩
    rw [← Bool.not_eq_true, AttributeArgument.statesBacking_iff, hlabel]
    simp [hne]
  | behindBacking harguments hstates =>
    refine ⟨rfl, ?_⟩
    rw [backingArgument?, backingArgument?, harguments]
    exact find?_append_cons _ _ _ (AttributeArgument.statesBacking_iff.2 hstates)

namespace TypeDeclaration

variable {declaration edited : TypeDeclaration} {declarations : List TypeDeclaration}

/-- New attributes keep what counts if the first marker among them is as the old one. -/
theorem SameReading.of_attributes {attributes : List AttributeUse}
    (h : (attributes.find? AttributeUse.isMarker).map AttributeUse.backingArgument?
      = (declaration.attributes.find? AttributeUse.isMarker).map AttributeUse.backingArgument?) :
    SameReading declaration { declaration with attributes } :=
  ⟨rfl, rfl, rfl, rfl, h⟩

/-- An edited declaration is read like the one before the edit. -/
theorem Edit.sameReading (h : declaration.Edit edited) : SameReading declaration edited := by
  cases h with
  | attributes hfree =>
    refine .of_attributes (congrArg _ (hfree.find?_eq fun attr hattr => ?_))
    rw [← Bool.not_eq_true, isMarker_iff]
    simpa using hattr
  | behindMarker hattributes hmarker =>
    refine .of_attributes (congrArg _ ?_)
    rw [hattributes]
    exact find?_append_cons _ _ _ (isMarker_iff.2 hmarker)
  | oneAttribute hattributes hedit =>
    refine .of_attributes ?_
    rw [hattributes]
    exact map_find?_replace _ _ hedit.sameReading.1 hedit.sameReading.2
  | modifiers hfree =>
    refine ⟨rfl, rfl, rfl, ?_, rfl⟩
    have hpublic (modifiers : List String) :
        modifiers.contains "public" = (modifiers.filter (· == "public")).contains "public" := by
      rw [Bool.eq_iff_iff, List.contains_iff_mem, List.contains_iff_mem, List.mem_filter]
      simp
    rw [isPublic, isPublic, hpublic, hpublic declaration.modifiers, hfree.filter_eq]
    simp

/-- However many edits are made, what counts stays. -/
theorem SameReading.of_edits (h : Relation.ReflTransGen Edit declaration edited) : SameReading declaration edited := by
  induction h with
  | refl => exact ⟨rfl, rfl, rfl, rfl, rfl⟩
  | tail _ hedit ih =>
    have hlast := hedit.sameReading
    exact ⟨hlast.name.trans ih.name, hlast.space.trans ih.space, hlast.kind.trans ih.kind,
      hlast.isPublic.trans ih.isPublic, hlast.marker.trans ih.marker⟩

/-! ## Integers that are numbers -/

/-- The arguments of a declaration that are integers carry numbers. -/
def CarriesIntegers (declaration : TypeDeclaration) : Prop :=
  ∀ attr ∈ declaration.attributes, ∀ argument ∈ attr.arguments, argument.kind = .integer →
    ∃ value, argument.value = .integer value

/-- Where integers are numbers, there is no numeral that cannot be read. -/
theorem CarriesIntegers.not_isFalse (h : declaration.CarriesIntegers) : ¬ declaration.IsFalse := by
  rintro ⟨-, marker, argument, hmarker, hargument, hkind, hfalse⟩
  obtain ⟨value, hvalue⟩ :=
    h marker (List.mem_of_find?_eq_some hmarker) argument (List.mem_of_find?_eq_some hargument) hkind
  rw [hvalue] at hfalse
  exact hfalse

/-- Such a declaration yields a descriptor exactly if it is marked. -/
theorem CarriesIntegers.exists_descriptor? (h : declaration.CarriesIntegers) :
    ∃ found, declaration.descriptor? = .ok found ∧ (found.isSome = true ↔ declaration.IsMarked) := by
  obtain ⟨found, hfound⟩ := exists_ok_iff_not_error.2 fun herror => h.not_isFalse (descriptor?_isError_iff.1 herror)
  refine ⟨found, hfound, fun hsome => ?_, fun hmarked => ?_⟩
  · obtain ⟨id, rfl⟩ := Option.isSome_iff_exists.1 hsome
    exact (of_descriptor? hfound).1
  · obtain ⟨id, rfl, -⟩ := exists_of_isMarked hmarked hfound
    rfl

end TypeDeclaration

namespace Scan

open Syntax

/-- Scanned declarations carry numbers, since literals are converted when they are scanned. -/
theorem carriesIntegers_of_scan {text : List Char} {declarations : List TypeDeclaration}
    (h : scan text = .ok declarations) : ∀ said ∈ declarations, said.CarriesIntegers := by
  obtain ⟨file, -, hsaid⟩ := of_scan h
  intro said hmem attr hattr argument hargument hkind
  obtain ⟨⟨space, declaration⟩, -, hdeclaration⟩ := exists_of_mem_right (mapM_eq_ok_iff.1 hsaid) hmem
  obtain ⟨use, -, huse⟩ := exists_of_mem_right (attributes_said hdeclaration) hattr
  obtain ⟨written, -, hwritten⟩ := exists_of_mem_right (of_attributeOf huse).2 hargument
  unfold argumentOf at hwritten
  split at hwritten
  · obtain rfl := Except.ok.inj hwritten
    exact absurd hkind (by simp)
  · obtain ⟨value, -, rfl⟩ := map_eq_ok_iff.1 hwritten
    exact ⟨value, rfl⟩
  · obtain rfl := Except.ok.inj hwritten
    exact absurd hkind (by simp)

end Scan

/-- What a declaration yields, and what is logged about it, stays the same under edits: of its attributes only the first
marker counts, and of that only the argument that states the backing kind. Where integers are numbers, as they are in
scanned declarations, something is yielded exactly for marked structs, by a list of declarations in order and once. -/
theorem edits_keep_descriptor {declaration edited : TypeDeclaration} {declarations : List TypeDeclaration}
    (hedits : Relation.ReflTransGen TypeDeclaration.Edit declaration edited)
    (hintegers : ∀ other ∈ declaration :: declarations, other.CarriesIntegers) :
    edited.descriptor? = declaration.descriptor? ∧ edited.skipRecords = declaration.skipRecords ∧
    (∃ found, declaration.descriptor? = .ok found ∧ (found.isSome = true ↔ declaration.IsMarked)) ∧
    (∃ ids, descriptorsOf declarations = .ok ids ∧
      List.Forall₂ (fun other id => other.descriptor? = .ok (some id))
        (declarations.filter fun other => other.IsMarked) ids) ∧
    ∀ text found, Scan.scan text = .ok found → ∀ other ∈ found, other.CarriesIntegers := by
  have hsame := TypeDeclaration.SameReading.of_edits hedits
  obtain ⟨hself, hrest⟩ := List.forall_mem_cons.1 hintegers
  refine ⟨hsame.descriptor?_eq, hsame.skipRecords_eq, hself.exists_descriptor?, ?_,
    fun _ _ => Scan.carriesIntegers_of_scan⟩
  obtain ⟨ids, hids⟩ := exists_descriptorsOf_iff.2 fun other hother => (hrest other hother).not_isFalse
  exact ⟨ids, hids, descriptorsOf_eq_ok_iff.1 hids⟩

/-- A struct with the given modifiers and attributes. -/
def sampleStruct (modifiers : List String) (attributes : List AttributeUse) : TypeDeclaration :=
  ⟨"A", "B", .structType, modifiers, attributes⟩

/-- A struct with a foreign attribute, and a marker that states a kind behind a foreign argument. -/
def notedStruct : TypeDeclaration :=
  sampleStruct ["public", "partial"] [⟨"Y", []⟩,
    ⟨"X.StrongId", [⟨some "note", .string, .ofString "n"⟩, ⟨none, .integer, .integer 2⟩]⟩]

/-- A type of the global namespace with a marker that has no arguments. -/
def bareType (kind : TypeKind) : TypeDeclaration :=
  ⟨"D", "", kind, [], [⟨"StrongId", []⟩]⟩

/-- A foreign attribute and a foreign argument are left out, the marker loses its namespace, a second argument and a
second marker come behind the first ones, and a modifier is moved: the struct still yields the same. From a list with a
marked class and another marked struct behind it, the two structs are kept. -/
theorem edits_keep_sampleStruct :
    (sampleStruct ["partial", "public"] [⟨"StrongId", [⟨none, .integer, .integer 2⟩, ⟨none, .integer, .integer 3⟩]⟩,
        ⟨"StrongIdAttribute", []⟩]).descriptor? = notedStruct.descriptor? ∧
    notedStruct.descriptor? = .ok (some ⟨"B", "A", .long, true⟩) ∧
    descriptorsOf [notedStruct, bareType .classType, bareType .structType]
      = .ok [⟨"B", "A", .long, true⟩, ⟨"", "D", .guid, false⟩] := by
  let note : AttributeArgument := ⟨some "note", .string, .ofString "n"⟩
  let two : AttributeArgument := ⟨none, .integer, .integer 2⟩
  let three : AttributeArgument := ⟨none, .integer, .integer 3⟩
  let modifiers := ["public", "partial"]
  have hforeign : notedStruct.Edit (sampleStruct modifiers [⟨"X.StrongId", [note, two]⟩]) :=
    .attributes (@Rearranges.remove _ _ [] _ _ (by decide +kernel))
  have hspace : (sampleStruct modifiers [⟨"X.StrongId", [note, two]⟩]).Edit
      (sampleStruct modifiers [⟨"StrongId", [note, two]⟩]) :=
    @TypeDeclaration.Edit.oneAttribute _ [] [] _ _ rfl (.qualification (by decide +kernel))
  have hnote : (sampleStruct modifiers [⟨"StrongId", [note, two]⟩]).Edit (sampleStruct modifiers [⟨"StrongId", [two]⟩]) :=
    @TypeDeclaration.Edit.oneAttribute _ [] [] _ _ rfl
      (.arguments (@Rearranges.remove _ _ [] _ _ ⟨"note", rfl, by decide⟩))
  have hthree : (sampleStruct modifiers [⟨"StrongId", [two]⟩]).Edit
      (sampleStruct modifiers [⟨"StrongId", [two, three]⟩]) :=
    @TypeDeclaration.Edit.oneAttribute _ [] [] _ _ rfl
      (@AttributeUse.Edit.behindBacking _ [] [] _ _ rfl (Or.inl rfl))
  have hmarker : (sampleStruct modifiers [⟨"StrongId", [two, three]⟩]).Edit
      (sampleStruct modifiers [⟨"StrongId", [two, three]⟩, ⟨"StrongIdAttribute", []⟩]) :=
    @TypeDeclaration.Edit.behindMarker _ [] [] _ _ rfl (Or.inl (by decide +kernel))
  have hmodifier : (sampleStruct modifiers [⟨"StrongId", [two, three]⟩, ⟨"StrongIdAttribute", []⟩]).Edit
      (sampleStruct ["partial", "public"] [⟨"StrongId", [two, three]⟩, ⟨"StrongIdAttribute", []⟩]) :=
    .modifiers (@Rearranges.move _ _ ["public"] [] [] ["public"] _ (by decide) rfl)
  have hnoted : notedStruct.CarriesIntegers := by
    intro attr hattr argument hargument hkind
    simp only [notedStruct, sampleStruct, List.mem_cons, List.not_mem_nil, or_false] at hattr
    rcases hattr with rfl | rfl
    · exact absurd hargument (by simp)
    · simp only [List.mem_cons, List.not_mem_nil, or_false] at hargument
      rcases hargument with rfl | rfl
      · exact absurd hkind (by decide)
      · exact ⟨2, rfl⟩
  have hbare (kind : TypeKind) : (bareType kind).CarriesIntegers := by
    intro attr hattr argument hargument
    obtain rfl := List.mem_singleton.1 hattr
    exact absurd hargument List.not_mem_nil
  have hintegers : ∀ other ∈ [notedStruct, notedStruct, bareType .classType, bareType .structType],
      other.CarriesIntegers := by
    simp [hnoted, hbare]
  have hedits := Relation.ReflTransGen.refl.tail hforeign |>.tail hspace |>.tail hnote |>.tail hthree
    |>.tail hmarker |>.tail hmodifier
  obtain ⟨hsame, -, -, ⟨ids, hids, hfound⟩, -⟩ := edits_keep_descriptor hedits hintegers
  have hmarked : notedStruct.IsMarked ∧ ¬ (bareType .classType).IsMarked ∧ (bareType .structType).IsMarked := by
    decide +kernel
  have hkept : [notedStruct, bareType .classType, bareType .structType].filter (fun other => other.IsMarked)
      = [notedStruct, bareType .structType] := by
    simp [hmarked]
  rw [hkept] at hfound
  obtain ⟨first, _, hfirst, hrest, rfl⟩ := List.forall₂_cons_left_iff.1 hfound
  obtain ⟨second, _, hsecond, hnone, rfl⟩ := List.forall₂_cons_left_iff.1 hrest
  obtain rfl := List.forall₂_nil_left_iff.1 hnone
  have hlong : notedStruct.descriptor? = .ok (some ⟨"B", "A", .long, true⟩) := by rfl
  have hguid : (bareType .structType).descriptor? = .ok (some ⟨"", "D", .guid, false⟩) := by rfl
  rw [hlong, Except.ok.injEq, Option.some.injEq] at hfirst
  rw [hguid, Except.ok.injEq, Option.some.injEq] at hsecond
  exact ⟨hsame, hlong, by rw [hids, hfirst, hsecond]⟩

end TypedId
