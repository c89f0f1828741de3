import TypedId.Proofs.Selector

/-!
# Values that describe a type

`Describes value id` lists what a JSON value has to say for a descriptor to be read from it, and `Refuses value error`
what else it says: it is no object, or its name is no identifier, or its namespace cannot be used. Where the kind is not
given by a string every value does one or the other (`ofJson_describes`). A namespace of another type that counts as
false passes for the global one (`Json.IsVoid`), although it is not a string.
-/

set_option autoImplicit false

namespace TypedId

open Text

/-! ## Namespaces -/

/-- A value counts as false although it is neither null nor a text. -/
inductive Json.IsVoid : Json → Prop where
  | no : IsVoid (.bool false)
  | zero : IsVoid (.integer 0)
  | float {value : Decimal.Binary64} : value.isZero = true → IsVoid (.float value)
  | array : IsVoid (.array [])
  | object : IsVoid (.object [])
  -- no JSON text spells a string of no code points like that
  | torn : IsVoid (.string (.torn []))

/-- The values that count as false. -/
theorem Json.isTruthy_eq_false_iff {value : Json} :
    value.isTruthy = false ↔ value = .null ∨ value = .ofString "" ∨ value.IsVoid := by
  constructor
  · intro h
    cases value with
    | null => exact Or.inl rfl
    | bool value =>
      obtain rfl : value = false := h
      exact Or.inr (Or.inr .no)
    | integer value =>
      obtain rfl : value = 0 := by simpa [isTruthy] using h
      exact Or.inr (Or.inr .zero)
    | float value => exact Or.inr (Or.inr (.float (by simpa [isTruthy] using h)))
    | string text =>
      cases text with
      | whole text =>
        obtain rfl : text = "" := by simpa [isTruthy] using h
        exact Or.inr (Or.inl rfl)
      | torn points =>
        obtain rfl : points = [] := by simpa [isTruthy] using h
        exact Or.inr (Or.inr .torn)
    | array items =>
      obtain rfl : items = [] := by simpa [isTruthy] using h
      exact Or.inr (Or.inr .array)
    | object entries =>
      obtain rfl : entries = [] := by simpa [isTruthy] using h
      exact Or.inr (Or.inr .object)
  · rintro (rfl | rfl | hvoid)
    · rfl
    · rfl
    · cases hvoid with
      | float hzero => simpa [isTruthy] using hzero
      | no | zero | array | object | torn => rfl

/-- An entry for the namespace, or that there is none, gives a namespace. -/
inductive GivesSpace : Option Json → String → Prop where
  | absent : GivesSpace none ""
  | null : GivesSpace (some .null) ""
  | path {space : String} : isDottedPath space = true → GivesSpace (some (.ofString space)) space
  | void {given : Json} : given.IsVoid → GivesSpace (some given) ""

variable {entries : List (Json.Text × Json)} {value : Json} {id : Descriptor} {space : String}

/-- What counts as false gives the global namespace and no other. -/
theorem givesSpace_of_falsy (h : value.isTruthy = false) : GivesSpace (some value) space ↔ space = "" := by
  constructor
  · intro hgives
    cases hgives with
    | null | void => rfl
    | path => simpa [Json.ofString, Json.isTruthy] using h
  · rintro rfl
    rcases Json.isTruthy_eq_false_iff.1 h with rfl | rfl | hvoid
    · exact .null
    · exact .path rfl
    · exact .void hvoid

/-- What counts as true gives the namespace that it is the text of. -/
theorem givesSpace_of_truthy (h : value.isTruthy = true) :
    GivesSpace (some value) space ↔ value = .ofString space ∧ isDottedPath space = true := by
  constructor
  · intro hgives
    cases hgives with
    | null => exact absurd h (by simp [Json.isTruthy])
    | path hpath => exact ⟨rfl, hpath⟩
    | void hvoid =>
      have hfalse := Json.isTruthy_eq_false_iff.2 (Or.inr (Or.inr hvoid))
      exact absurd (hfalse.symm.trans h) (by simp)
  · rintro ⟨rfl, hpath⟩
    exact .path hpath

/-- A namespace is read from what gives it. -/
theorem dottedPath?_spaceEntry_iff :
    (spaceEntry entries).dottedPath? = some space ↔ GivesSpace (Json.lookup? entries "namespace") space := by
  have hglobal : (Json.ofString "").dottedPath? = some space ↔ space = "" :=
    ⟨fun h => (Option.some.inj h).symm, fun h => congrArg some h.symm⟩
  rw [spaceEntry]
  cases Json.lookup? entries "namespace" with
  | none => exact hglobal.trans ⟨fun h => h ▸ .absent, fun h => by cases h; rfl⟩
  | some given =>
    simp only []
    by_cases htruthy : given.isTruthy = true
    · rw [if_pos htruthy, dottedPath?_eq_some_iff, givesSpace_of_truthy htruthy]
    · rw [if_neg htruthy, hglobal, givesSpace_of_falsy (by simpa using htruthy)]

/-- A namespace that cannot be read is there. -/
theorem spaceEntry_of_not_givesSpace (h : ∀ space, ¬ GivesSpace (Json.lookup? entries "namespace") space) :
    Json.lookup? entries "namespace" = some (spaceEntry entries) := by
  rw [spaceEntry]
  cases hgiven : Json.lookup? entries "namespace" with
  | none =>
    rw [hgiven] at h
    exact absurd .absent (h "")
  | some given =>
    rw [hgiven] at h
    have htruthy : given.isTruthy = true := by
      by_contra hfalse
      exact h "" ((givesSpace_of_falsy (by simpa using hfalse)).2 rfl)
    exact congrArg some (if_pos htruthy).symm

/-! ## Descriptors -/

/-- What a value says for a descriptor to be read from it. -/
structure Describes (value : Json) (id : Descriptor) : Prop where
  name : value.field? "name" = some (.ofString id.name)
  identifier : isIdentifier id.name = true
  space : GivesSpace (value.field? "namespace") id.space
  fullName : id.fullName = if id.space = "" then id.name else id.space ++ "." ++ id.name
  backing : BackingKind.ofValue ((value.field? "backing_kind").getD .null) = .ok id.backing
  visibility : id.isPublic = ((value.field? "is_public").map Json.isTruthy).getD true

/-- What is wrong with a value from which no descriptor is read: the first that is wrong of shape, name and namespace. -/
inductive Refuses : Json → DescriptorError → Prop where
  | shape {value : Json} : (∀ entries, value ≠ .object entries) → Refuses value (.notObject value)
  | name {entries : List (Json.Text × Json)} :
      (∀ name, Json.lookup? entries "name" = some (.ofString name) → isIdentifier name = false) →
      Refuses (.object entries) (.invalidName ((Json.lookup? entries "name").getD .null))
  | space {entries : List (Json.Text × Json)} {name : String} {given : Json} :
      Json.lookup? entries "name" = some (.ofString name) → isIdentifier name = true →
      Json.lookup? entries "namespace" = some given → (∀ space, ¬ GivesSpace (some given) space) →
      Refuses (.object entries) (.invalidSpace given)

/-- The full name is the name behind the namespace and a point, or the name alone. -/
theorem fullName_eq (id : Descriptor) :
    id.fullName = if id.space = "" then id.name else id.space ++ "." ++ id.name := by
  rw [Descriptor.fullName, qualify]
  simp

/-- A name is read where there is one. -/
theorem identifier?_lookup_iff {name : String} :
    ((Json.lookup? entries "name").getD .null).identifier? = some name ↔
      Json.lookup? entries "name" = some (.ofString name) ∧ isIdentifier name = true := by
  rw [identifier?_eq_some_iff]
  cases Json.lookup? entries "name" with
  | none => simp [Json.ofString]
  | some given => simp

/-- Where the kind is not given by a string, a name and a namespace are enough. -/
theorem exists_describes (hkind : ∀ text, value.field? "backing_kind" ≠ some (.string text)) {name : String}
    (hname : value.field? "name" = some (.ofString name)) (hidentifier : isIdentifier name = true)
    (hspace : GivesSpace (value.field? "namespace") space) : ∃ id, Describes value id := by
  obtain ⟨backing, hbacking⟩ : ∃ backing,
      BackingKind.ofValue ((value.field? "backing_kind").getD .null) = .ok backing := by
    rw [exists_ok_iff_not_error, BackingKind.ofValue_isError_iff]
    cases hgiven : value.field? "backing_kind" with
    | none => exact id
    | some given =>
      cases given with
      | string text => exact absurd hgiven (hkind text)
      | null | bool _ | integer _ | float _ | array _ | object _ => exact id
  exact ⟨⟨space, name, backing, _⟩, hname, hidentifier, hspace, fullName_eq _, hbacking, rfl⟩

/-- A descriptor is read exactly from what describes it. -/
theorem ofJson_eq_ok_iff : Descriptor.ofJson value = .ok id ↔ Describes value id := by
  unfold Descriptor.ofJson
  split
  · rename_i entries
    rw [descriptorOfEntries]
    constructor
    · intro h
      simp only [] at h
      split at h
      · exact absurd h (by simp)
      · rename_i name hname
        split at h
        · exact absurd h (by simp)
        · rename_i space hspace
          split at h
          · exact absurd h (by simp)
          · rename_i backing hbacking
            obtain rfl := Except.ok.inj h
            obtain ⟨hgiven, hidentifier⟩ := identifier?_lookup_iff.1 hname
            exact ⟨hgiven, hidentifier, dottedPath?_spaceEntry_iff.1 hspace, fullName_eq _, hbacking, rfl⟩
    · intro h
      have hname := identifier?_lookup_iff.2 ⟨h.name, h.identifier⟩
      have hspace := dottedPath?_spaceEntry_iff.2 h.space
      have hbacking : BackingKind.ofValue ((Json.lookup? entries "backing_kind").getD .null) = .ok id.backing := h.backing
      have hvisibility : id.isPublic = ((Json.lookup? entries "is_public").map Json.isTruthy).getD true := h.visibility
      simp only [hname, hspace, hbacking, ← hvisibility]
  · rename_i hshape
    refine ⟨fun h => absurd h (by simp), fun h => ?_⟩
    cases value with
    | object entries => exact absurd rfl (hshape entries)
    | null | bool _ | integer _ | float _ | string _ | array _ => exact absurd h.name (by simp [Json.field?])

/-- What is wrong with a value is the error. -/
theorem ofJson_of_refuses {error : DescriptorError} (h : Refuses value error) :
    Descriptor.ofJson value = .error error := by
  cases h with
  | shape hshape =>
    unfold Descriptor.ofJson
    split
    · exact absurd rfl (hshape _)
    · rfl
  | @name entries hname =>
    have hnone : ((Json.lookup? entries "name").getD .null).identifier? = none := by
      refine Option.eq_none_iff_forall_ne_some.2 fun name hsome => ?_
      obtain ⟨hgiven, hidentifier⟩ := identifier?_lookup_iff.1 hsome
      exact absurd ((hname name hgiven).symm.trans hidentifier) (by simp)
    rw [Descriptor.ofJson, descriptorOfEntries]
    simp only [hnone]
  | @space entries name given hname hidentifier hgiven hspace =>
    rw [← hgiven] at hspace
    have hnone : (spaceEntry entries).dottedPath? = none :=
      Option.eq_none_iff_forall_ne_some.2 fun space hsome => hspace space (dottedPath?_spaceEntry_iff.1 hsome)
    obtain rfl : spaceEntry entries = given :=
      Option.some.inj ((spaceEntry_of_not_givesSpace hspace).symm.trans hgiven)
    rw [Descriptor.ofJson, descriptorOfEntries]
    simp only [identifier?_lookup_iff.2 ⟨hname, hidentifier⟩, hnone]

/-- Where the kind is not given by a string, a value describes a type or something is wrong with it. -/
theorem describes_or_refuses (hkind : ∀ text, value.field? "backing_kind" ≠ some (.string text)) :
    (∃ id, Describes value id) ∨ ∃ error, Refuses value error := by
  by_cases hshape : ∃ entries, value = .object entries
  · obtain ⟨entries, rfl⟩ := hshape
    by_cases hname : ∃ name, Json.lookup? entries "name" = some (.ofString name) ∧ isIdentifier name = true
    · obtain ⟨name, hname, hidentifier⟩ := hname
      by_cases hspace : ∃ space, GivesSpace (Json.lookup? entries "namespace") space
      · exact Or.inl (exists_describes hkind hname hidentifier hspace.choose_spec)
      · have hgiven := spaceEntry_of_not_givesSpace (not_exists.1 hspace)
        rw [hgiven] at hspace
        exact Or.inr ⟨_, .space hname hidentifier hgiven (not_exists.1 hspace)⟩
    · refine Or.inr ⟨_, .name fun name hgiven => ?_⟩
      by_contra hidentifier
      exact hname ⟨name, hgiven, by simpa using hidentifier⟩
  · exact Or.inr ⟨_, .shape (not_exists.1 hshape)⟩

/-- Where the kind is not given by a string, a descriptor is read exactly from an object whose name is an identifier and
which gives a namespace, and it is the one that the object describes; else the error is what is wrong first. -/
theorem ofJson_describes (value : Json) (hkind : ∀ text, value.field? "backing_kind" ≠ some (.string text)) :
    ((∃ id, Descriptor.ofJson value = .ok id) ↔
      ∃ name space, value.field? "name" = some (.ofString name) ∧ isIdentifier name = true ∧
        GivesSpace (value.field? "namespace") space) ∧
    (∀ id, Descriptor.ofJson value = .ok id ↔ Describes value id) ∧
    ∀ error, Descriptor.ofJson value = .error error ↔ Refuses value error := by
  refine ⟨⟨?_, ?_⟩, fun _ => ofJson_eq_ok_iff, fun error => ⟨fun herror => ?_, ofJson_of_refuses⟩⟩
  · rintro ⟨id, hid⟩
    have h := ofJson_eq_ok_iff.1 hid
    exact ⟨id.name, id.space, h.name, h.identifier, h.space⟩
  · rintro ⟨name, space, hname, hidentifier, hspace⟩
    obtain ⟨id, hid⟩ := exists_describes hkind hname hidentifier hspace
    exact ⟨id, ofJson_eq_ok_iff.2 hid⟩
  · rcases describes_or_refuses hkind with ⟨id, hid⟩ | ⟨other, hother⟩
    · exact absurd (herror.symm.trans (ofJson_eq_ok_iff.2 hid)) (by simp)
    · obtain rfl := Except.error.inj (herror.symm.trans (ofJson_of_refuses hother))
      exact hother

/-- An object with a name, a namespace and the number of a kind. -/
def placedId : Json :=
  .ofEntries [("name", .ofString "Id"), ("namespace", .ofString "A.B"), ("backing_kind", .integer 2)]

/-- It describes a public type. -/
theorem ofJson_placedId :
    (∀ text, placedId.field? "backing_kind" ≠ some (.string text)) ∧
      Descriptor.ofJson placedId = .ok ⟨"A.B", "Id", .long, true⟩ := by
  have hkind : ∀ text, placedId.field? "backing_kind" ≠ some (.string text) := by
    have hinteger : placedId.field? "backing_kind" = some (.integer 2) := rfl
    simp [hinteger]
  have hdescribes : Describes placedId ⟨"A.B", "Id", .long, true⟩ :=
    ⟨rfl, by decide +kernel, .path (by decide +kernel), fullName_eq _, rfl, rfl⟩
  exact ⟨hkind, ((ofJson_describes placedId hkind).2.1 _).2 hdescribes⟩

/-- An object with a name and false for its namespace. -/
def voidId : Json :=
  .ofEntries [("name", .ofString "Id"), ("namespace", .bool false)]

/-- False is no namespace, but it passes for the global one. -/
theorem not_every_namespace_is_path : ¬ ∀ value : Json,
    (∀ text, value.field? "backing_kind" ≠ some (.string text)) →
    ((∃ id, Descriptor.ofJson value = .ok id) ↔
      ∃ name, value.field? "name" = some (.ofString name) ∧ isIdentifier name = true ∧
        (value.field? "namespace" = none ∨ value.field? "namespace" = some .null ∨
          ∃ space, value.field? "namespace" = some (.ofString space) ∧ isDottedPath space = true)) := by
  intro h
  have hkind : voidId.field? "backing_kind" = none := rfl
  have hfalse : voidId.field? "namespace" = some (.bool false) := rfl
  have hdescribes : Describes voidId ⟨"", "Id", .guid, true⟩ :=
    ⟨rfl, by decide +kernel, hfalse ▸ .void .no, fullName_eq _, rfl, rfl⟩
  obtain ⟨-, -, -, hspace⟩ := (h voidId (by simp [hkind])).1 ⟨_, ofJson_eq_ok_iff.2 hdescribes⟩
  rw [hfalse] at hspace
  rcases hspace with hnone | hnull | ⟨space, hpath, -⟩
  · exact absurd hnone (by simp)
  · exact absurd hnull (by simp)
  · exact absurd hpath (by simp [Json.ofString])

end TypedId
