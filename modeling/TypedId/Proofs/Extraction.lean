import TypedId.Extraction
import TypedId.Proofs.Results

/-!
# What yields descriptors

A declaration yields a descriptor exactly if it is of a plain struct and carries the marker
(`TypeDeclaration.descriptor?_of_isMarked`, `TypeDeclaration.descriptor?_of_not_isMarked`), so the descriptors of a list
of declarations are those of the marked ones, in order (`descriptorsOf_eq_ok_iff`). A JSON object yields one only if its
name and namespace are in order (`isNamed_of_ofJson`).
-/

set_option autoImplicit false

namespace TypedId

/-! ## Marked structs -/

namespace TypeDeclaration

/-- The declaration is of a plain struct and carries the marker, qualified or not. -/
def IsMarked (declaration : TypeDeclaration) : Prop :=
  declaration.kind = .structType ∧
    ∃ attr ∈ declaration.attributes, attr.simpleName = "StrongId" ∨ attr.simpleName = "StrongIdAttribute"

/-- An attribute is a marker by its simple name, in its short form or with the word at the end. -/
theorem isMarker_iff {attr : AttributeUse} :
    attr.isMarker = true ↔ attr.simpleName = "StrongId" ∨ attr.simpleName = "StrongIdAttribute" := by
  simp [AttributeUse.isMarker, markerNames]

/-- The declarations that are expanded are the marked ones. -/
theorem isExpandable_iff {declaration : TypeDeclaration} : declaration.isExpandable = true ↔ declaration.IsMarked := by
  rw [isExpandable, Bool.and_eq_true, marker?, List.find?_isSome, TypeKind.isPlainStruct, beq_iff_eq, and_comm]
  simp only [isMarker_iff]
  rfl

instance (declaration : TypeDeclaration) : Decidable declaration.IsMarked :=
  decidable_of_iff _ isExpandable_iff

/-- The declaration cannot be completed although a part is generated for it. -/
def LacksPartial (declaration : TypeDeclaration) : Prop :=
  declaration.IsMarked ∧ "partial" ∉ declaration.modifiers

instance (declaration : TypeDeclaration) : Decidable declaration.LacksPartial :=
  inferInstanceAs (Decidable (_ ∧ _))

/-- A declaration that is not marked yields nothing. -/
theorem descriptor?_of_not_isMarked {declaration : TypeDeclaration} (h : ¬ declaration.IsMarked) :
    declaration.descriptor? = .ok none := by
  rw [descriptor?]
  split
  · rename_i marker hmarker
    have hname := isMarker_iff.1 (List.find?_some hmarker)
    have hmem := List.mem_of_find?_eq_some hmarker
    rw [if_neg]
    intro hkind
    rw [TypeKind.isPlainStruct, beq_iff_eq] at hkind
    exact h ⟨hkind, marker, hmem, hname⟩
  · rfl

/-- The descriptor of a marked declaration has its name, namespace and visibility, and the kind that its first marker
chooses. -/
theorem descriptor?_of_isMarked {declaration : TypeDeclaration} (h : declaration.IsMarked) :
    ∃ marker, declaration.marker? = some marker ∧
      declaration.descriptor? = marker.backingKind.map fun backing =>
        some ⟨declaration.space, declaration.name, backing, declaration.isPublic⟩ := by
  have hmarked := isExpandable_iff.2 h
  rw [isExpandable, Bool.and_eq_true] at hmarked
  obtain ⟨marker, hmarker⟩ := Option.isSome_iff_exists.1 hmarked.1
  refine ⟨marker, hmarker, ?_⟩
  rw [descriptor?, hmarker]
  exact if_pos hmarked.2

/-- A marked declaration that can be read yields a descriptor. -/
theorem exists_of_isMarked {declaration : TypeDeclaration} {found : Option Descriptor} (hmarked : declaration.IsMarked)
    (h : declaration.descriptor? = .ok found) :
    ∃ id, found = some id ∧ id.name = declaration.name ∧ id.space = declaration.space := by
  obtain ⟨marker, -, hdescriptor⟩ := descriptor?_of_isMarked hmarked
  rw [hdescriptor] at h
  obtain ⟨backing, -, rfl⟩ := map_eq_ok_iff.1 h
  exact ⟨_, rfl, rfl, rfl⟩

/-- Only a marked declaration yields a descriptor, which has its name and namespace. -/
theorem of_descriptor? {declaration : TypeDeclaration} {id : Descriptor} (h : declaration.descriptor? = .ok (some id)) :
    declaration.IsMarked ∧ id.name = declaration.name ∧ id.space = declaration.space := by
  have hmarked : declaration.IsMarked := by
    by_contra hmarked
    rw [descriptor?_of_not_isMarked hmarked] at h
    exact absurd h (by simp)
  obtain ⟨_, hsame, hname, hspace⟩ := exists_of_isMarked hmarked h
  obtain rfl := Option.some.inj hsame
  exact ⟨hmarked, hname, hspace⟩

end TypeDeclaration

/-! ## Descriptors of declarations -/

/-- The descriptors of declarations are those of the marked ones, in order. -/
theorem mapM_descriptor?_iff {declarations : List TypeDeclaration} {ids : List Descriptor} :
    (∃ found, declarations.mapM TypeDeclaration.descriptor? = .ok found ∧ found.filterMap id = ids) ↔
      List.Forall₂ (fun declaration id => declaration.descriptor? = .ok (some id))
        (declarations.filter fun declaration => declaration.IsMarked) ids := by
  simp only [mapM_eq_ok_iff]
  induction declarations generalizing ids with
  | nil =>
    rw [List.filter_nil, List.forall₂_nil_left_iff]
    constructor
    · rintro ⟨found, hfound, rfl⟩
      rw [List.forall₂_nil_left_iff.1 hfound, List.filterMap_nil]
    · rintro rfl
      exact ⟨[], .nil, rfl⟩
  | cons declaration rest ih =>
    by_cases hmarked : declaration.IsMarked
    · rw [List.filter_cons_of_pos (by simpa using hmarked), List.forall₂_cons_left_iff]
      constructor
      · rintro ⟨found, hfound, rfl⟩
        obtain ⟨first, others, hfirst, hothers, rfl⟩ := List.forall₂_cons_left_iff.1 hfound
        obtain ⟨id, rfl, -⟩ := TypeDeclaration.exists_of_isMarked hmarked hfirst
        exact ⟨id, _, hfirst, ih.1 ⟨others, hothers, rfl⟩, rfl⟩
      · rintro ⟨id, others, hid, hothers, rfl⟩
        obtain ⟨found, hfound, rfl⟩ := ih.2 hothers
        exact ⟨some id :: found, .cons hid hfound, rfl⟩
    · have hnone := TypeDeclaration.descriptor?_of_not_isMarked hmarked
      rw [List.filter_cons_of_neg (by simpa using hmarked), ← ih]
      constructor
      · rintro ⟨found, hfound, rfl⟩
        obtain ⟨first, others, hfirst, hothers, rfl⟩ := List.forall₂_cons_left_iff.1 hfound
        obtain rfl : first = none := (Except.ok.inj (hnone.symm.trans hfirst)).symm
        exact ⟨others, hothers, rfl⟩
      · rintro ⟨found, hfound, rfl⟩
        exact ⟨none :: found, .cons hnone hfound, rfl⟩

/-- Declarations yield the descriptors of those that are marked, in their order. -/
theorem descriptorsOf_eq_ok_iff {declarations : List TypeDeclaration} {ids : List Descriptor} :
    descriptorsOf declarations = .ok ids ↔
      List.Forall₂ (fun declaration id => declaration.descriptor? = .ok (some id))
        (declarations.filter fun declaration => declaration.IsMarked) ids := by
  rw [← mapM_descriptor?_iff, descriptorsOf]
  exact map_eq_ok_iff

/-- The descriptor that a declaration yields is one of those of the list that it belongs to. -/
theorem mem_of_descriptor? {declarations : List TypeDeclaration} {ids : List Descriptor}
    (h : descriptorsOf declarations = .ok ids) {declaration : TypeDeclaration} (hmem : declaration ∈ declarations)
    {id : Descriptor} (hid : declaration.descriptor? = .ok (some id)) : id ∈ ids := by
  obtain ⟨found, hfound, rfl⟩ := map_eq_ok_iff.1 h
  obtain ⟨other, hother, hsame⟩ := exists_of_mem_right (mapM_eq_ok_iff.1 hfound).flip hmem
  obtain rfl := Except.ok.inj (hid.symm.trans hsame)
  exact List.mem_filterMap.2 ⟨_, hother, rfl⟩

/-- Items that occur once are not repeated. -/
theorem firstRepeated?_eq_none_iff {seen items : List String} :
    firstRepeated? seen items = none ↔ items.Nodup ∧ ∀ item ∈ items, item ∉ seen := by
  induction items generalizing seen with
  | nil => simp [firstRepeated?]
  | cons item rest ih =>
    rw [firstRepeated?, List.contains_eq_mem, List.nodup_cons, List.forall_mem_cons]
    by_cases hseen : item ∈ seen
    · simp [hseen]
    · rw [if_neg (by simpa using hseen), ih]
      constructor
      · rintro ⟨hnodup, hrest⟩
        refine ⟨⟨fun hmem => hrest item hmem List.mem_cons_self, hnodup⟩, hseen, fun other hother hmem => ?_⟩
        exact hrest other hother (List.mem_cons_of_mem _ hmem)
      · rintro ⟨⟨hnew, hnodup⟩, -, hrest⟩
        refine ⟨hnodup, fun other hother hmem => ?_⟩
        rcases List.mem_cons.1 hmem with rfl | hmem
        · exact hnew hother
        · exact hrest other hother hmem

/-! ## Descriptors in JSON -/

open Text

/-- The name of an identifier type is an identifier and its namespace a dotted path, which may be empty. -/
structure Descriptor.IsNamed (id : Descriptor) : Prop where
  name : isIdentifier id.name = true
  space : isDottedPath id.space = true

/-- A value is read as a text if it is one and meets a condition. -/
theorem text_eq_some_iff {value : Json} {meets : String → Bool} {text : String} :
    (match value with
      | .string (.whole given) => if meets given then some given else none
      | _ => none) = some text ↔ value = .ofString text ∧ meets text = true := by
  split
  · rename_i given
    rw [Option.ite_none_right_eq_some, Option.some.injEq, Json.ofString, Json.string.injEq, Json.Text.whole.injEq]
    constructor
    · rintro ⟨hmeets, rfl⟩
      exact ⟨rfl, hmeets⟩
    · rintro ⟨rfl, hmeets⟩
      exact ⟨hmeets, rfl⟩
  · rename_i hother
    exact ⟨fun h => absurd h (by simp), fun h => absurd h.1 (hother text)⟩

/-- A value names a type exactly if it is a text that is an identifier. -/
theorem identifier?_eq_some_iff {value : Json} {name : String} :
    value.identifier? = some name ↔ value = .ofString name ∧ isIdentifier name = true :=
  text_eq_some_iff

/-- A value names a namespace exactly if it is a text that is empty or a dotted path. -/
theorem dottedPath?_eq_some_iff {value : Json} {space : String} :
    value.dottedPath? = some space ↔ value = .ofString space ∧ isDottedPath space = true :=
  text_eq_some_iff

/-- A descriptor that is read from a value has its names in order. -/
theorem isNamed_of_ofJson {value : Json} {id : Descriptor} (h : Descriptor.ofJson value = .ok id) : id.IsNamed := by
  unfold Descriptor.ofJson at h
  split at h
  · rw [descriptorOfEntries] at h
    simp only [] at h
    split at h
    · exact absurd h (by simp)
    · rename_i name hname
      split at h
      · exact absurd h (by simp)
      · rename_i space hspace
        split at h
        · exact absurd h (by simp)
        · obtain rfl := Except.ok.inj h
          exact ⟨(identifier?_eq_some_iff.1 hname).2, (dottedPath?_eq_some_iff.1 hspace).2⟩
  · exact absurd h (by simp)

/-- An object with an identifier and a dotted path gives a descriptor. -/
theorem ofJson_object {entries : List (Json.Text × Json)} {name space : String} {kind : BackingKind}
    (hname : Json.lookup? entries "name" = some (.ofString name)) (hidentifier : isIdentifier name = true)
    (hspace : spaceEntry entries = .ofString space) (hpath : isDottedPath space = true)
    (hkind : BackingKind.ofValue ((Json.lookup? entries "backing_kind").getD .null) = .ok kind) :
    Descriptor.ofJson (.object entries)
      = .ok ⟨space, name, kind, ((Json.lookup? entries "is_public").map Json.isTruthy).getD true⟩ := by
  rw [Descriptor.ofJson, descriptorOfEntries, hname, Option.getD_some, hspace]
  simp only [identifier?_eq_some_iff.2 ⟨rfl, hidentifier⟩, dottedPath?_eq_some_iff.2 ⟨rfl, hpath⟩, hkind]

/-- A namespace among entries is read, also the empty one. -/
theorem spaceEntry_of_lookup? {entries : List (Json.Text × Json)} {space : String}
    (h : Json.lookup? entries "namespace" = some (.ofString space)) : spaceEntry entries = .ofString space := by
  rw [spaceEntry, h]
  by_cases hempty : space = ""
  · rw [hempty]
    rfl
  · exact if_pos (by simpa [Json.isTruthy, Json.ofString] using hempty)

end TypedId
