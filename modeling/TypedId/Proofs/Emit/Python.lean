import TypedId.Emit.Python
import TypedId.Proofs.Emit.Names

/-!
# Form of Python sources

A source is one of eight templates, one for each backing kind and visibility, with the full name and the name in its slots
(`spell_lines`). What names have no part in is decided on the parts of the templates (`isSound_template`), so that brackets
and blocks of every source are known.
-/

set_option autoImplicit false

namespace TypedId.Emit.Python

open Text

variable {id : Descriptor}

/-- The lines of the class and of what belongs to it. -/
def classLines (id : Descriptor) (p : Profile) : List Line :=
  valueLines id p ++ ((if p.hasNew then newLines id else []) ++ (fromLines id p ++ (parseLines id p ++
    (tryParseLines id p ++ ((if p.isInteger then intLines else []) ++ (jsonConverterLines id p ++
      typeConverterLines id p))))))

/-- A source is its head, its imports, the list of what it exports and its class. -/
theorem lines_eq (id : Descriptor) :
    lines id = headLines id ++ (importLines (profile id.backing) ++ (exportLines id ++
      classLines id (profile id.backing))) := by
  simp only [lines, classLines, List.append_assoc]

/-! ## Slots -/

/-- The texts for the slots: the full name and the name. -/
def filling (id : Descriptor) : Filling :=
  slotted id.fullName id.name

/-- The lines of a source with slots. -/
def template (isPublic : Bool) (kind : BackingKind) : Template :=
  spell (headLines ⟨"", "^", kind, isPublic⟩) ++ (spell (importLines (profile kind)) ++
    (spell (exportLines ⟨"", "$", kind, isPublic⟩) ++ spell (classLines ⟨"", "$", kind, isPublic⟩ (profile kind))))

/-- The numbers in the fragments for integers. -/
theorem toString_numbers : toString 32 = "32" ∧ toString 64 = "64" ∧
    toString (-(Int.pow 2 (32 - 1))) = "-2147483648" ∧ toString (Int.pow 2 (32 - 1) - 1) = "2147483647" ∧
    toString (-(Int.pow 2 (64 - 1))) = "-9223372036854775808" ∧
    toString (Int.pow 2 (64 - 1) - 1) = "9223372036854775807" := by
  decide

/-- The head is its template filled. -/
theorem spell_headLines (id : Descriptor) (kind : BackingKind) (isPublic : Bool) :
    spell (headLines id) = (spell (headLines ⟨"", "^", kind, isPublic⟩)).fill (filling id) := by
  have hslot : Descriptor.fullName ⟨"", "^", kind, isPublic⟩ = "^" := rfl
  simp (disch := (apply And.intro; with_reducible rfl; decide +kernel)) only [spell, headLines, hslot, Template.fill,
    List.map_cons, List.map_nil, String.toList_append, Filling.fill_append, filling, fill_first, fill_literal]

/-- The imports have no slots. -/
theorem spell_importLines (id : Descriptor) (kind : BackingKind) :
    spell (importLines (profile kind)) = (spell (importLines (profile kind))).fill (filling id) := by
  cases kind
  all_goals
    simp (disch := (apply And.intro; with_reducible rfl; decide +kernel)) only [spell, importLines, Profile.choose, profile,
      guidProfile, integerProfile, stringProfile, if_true, if_false, Bool.false_eq_true, Template.fill, List.map_append,
      List.map_cons, List.map_nil, filling, fill_literal]

/-- The list of what is exported is its template filled. -/
theorem spell_exportLines (id : Descriptor) :
    spell (exportLines id) = (spell (exportLines ⟨"", "$", id.backing, id.isPublic⟩)).fill (filling id) := by
  cases hpublic : id.isPublic
  all_goals
    simp (disch := (apply And.intro; with_reducible rfl; decide +kernel)) only [spell, exportLines, hpublic, if_true,
      if_false, Bool.false_eq_true, Template.fill, List.map_cons, List.map_nil, String.toList_append, Filling.fill_append,
      filling, fill_second, fill_literal]

/-- The class is its template filled. -/
theorem spell_classLines (id : Descriptor) (kind : BackingKind) (isPublic : Bool) :
    spell (classLines id (profile kind))
      = (spell (classLines ⟨"", "$", kind, isPublic⟩ (profile kind))).fill (filling id) := by
  cases kind
  all_goals
    simp (disch := (apply And.intro; with_reducible rfl; decide +kernel)) only [spell, classLines, valueLines, newLines,
      fromLines, rangeLines, parseLines, refusalLines, textCheckLines, tryParseLines, intLines, jsonConverterLines,
      typeConverterLines, Profile.choose, profile, guidProfile, integerProfile, stringProfile, toString_numbers,
      Descriptor.jsonConverterName, Descriptor.typeConverterName, if_true, if_false, Bool.false_eq_true, Template.fill,
      List.map_append, List.map_cons, List.map_nil, String.toList_append, Filling.fill_append, filling, fill_second,
      fill_literal]

/-- Every source is its template with the slots filled. -/
theorem spell_lines (id : Descriptor) : spell (lines id) = (template id.isPublic id.backing).fill (filling id) := by
  rw [lines_eq, template, spell_append, spell_append, spell_append, Template.fill_append, Template.fill_append,
    Template.fill_append, ← spell_headLines, ← spell_importLines, ← spell_exportLines, ← spell_classLines]

/-! ## What is decided on the templates -/

/-- What is decided on a template: no line holds a line feed, brackets are nested, and lines are indented by blocks. -/
structure IsSound (template : Template) : Prop where
  rows : ∀ row ∈ template.rows, '\n' ∉ row
  nested : Nested template.chars
  indented : IsBlockIndented template.rows

instance (template : Template) : Decidable (IsSound template) :=
  decidable_of_iff ((∀ row ∈ template.rows, '\n' ∉ row) ∧ Nested template.chars ∧ IsBlockIndented template.rows)
    ⟨fun ⟨hrows, hnested, hindented⟩ => ⟨hrows, hnested, hindented⟩, fun h => ⟨h.rows, h.nested, h.indented⟩⟩

/-- What is decided on templates holds of them one after the other. -/
theorem IsSound.append {template other : Template} (h : IsSound template) (hother : IsSound other) :
    IsSound (template ++ other) where
  rows := by
    rw [Template.rows_append]
    exact List.forall_mem_append.2 ⟨h.rows, hother.rows⟩
  nested := by
    rw [Template.chars_append]
    exact h.nested.append hother.nested
  indented := by
    rw [Template.rows_append]
    exact h.indented.append hother.indented

/-- What is decided on a template holds of the head. -/
theorem isSound_headLines (kind : BackingKind) (isPublic : Bool) :
    IsSound (spell (headLines ⟨"", "^", kind, isPublic⟩)) := by
  have hslot : Descriptor.fullName ⟨"", "^", kind, isPublic⟩ = "^" := rfl
  simp (disch := with_reducible rfl) only [spell, headLines, hslot, List.map_cons, List.map_nil, String.toList_append,
    toList_literal]
  decide

/-- What is decided on a template holds of the imports. -/
theorem isSound_importLines (kind : BackingKind) : IsSound (spell (importLines (profile kind))) := by
  cases kind
  all_goals
    simp (disch := with_reducible rfl) only [spell, importLines, Profile.choose, profile, guidProfile, integerProfile,
      stringProfile, if_true, if_false, Bool.false_eq_true, List.map_append, List.map_cons, List.map_nil, toList_literal]
    decide

/-- What is decided on a template holds of the list of what is exported. -/
theorem isSound_exportLines (kind : BackingKind) (isPublic : Bool) :
    IsSound (spell (exportLines ⟨"", "$", kind, isPublic⟩)) := by
  cases isPublic
  all_goals
    simp (disch := with_reducible rfl) only [spell, exportLines, if_true, if_false, Bool.false_eq_true, List.map_cons,
      List.map_nil, String.toList_append, toList_literal]
    decide

/-- What is decided on a template holds of the class. -/
theorem isSound_classLines (kind : BackingKind) (isPublic : Bool) :
    IsSound (spell (classLines ⟨"", "$", kind, isPublic⟩ (profile kind))) := by
  cases kind
  all_goals
    simp (disch := with_reducible rfl) only [spell, classLines, valueLines, newLines, fromLines, rangeLines, parseLines,
      refusalLines, textCheckLines, tryParseLines, intLines, jsonConverterLines, typeConverterLines, Profile.choose,
      profile, guidProfile, integerProfile, stringProfile, toString_numbers, Descriptor.jsonConverterName,
      Descriptor.typeConverterName, if_true, if_false, Bool.false_eq_true, List.map_append, List.map_cons, List.map_nil,
      String.toList_append, toList_literal]
    decide +kernel

/-- What is decided on a template holds of a whole source. -/
theorem isSound_template (isPublic : Bool) (kind : BackingKind) : IsSound (template isPublic kind) :=
  (isSound_headLines kind isPublic).append ((isSound_importLines kind).append
    ((isSound_exportLines kind isPublic).append (isSound_classLines kind isPublic)))

/-! ## Sources -/

/-- The full name and the name have no character that gives a source its form. -/
theorem avoids_filling (h : id.IsNamed) : (filling id).Avoids isFormal :=
  avoids_slotted (fun _ hc => notFormal_of_mem_fullName h hc) fun _ hc => notFormal_of_isIdentifier h.name hc

/-- Neither the full name nor the name is empty. -/
theorem isVisible_filling (h : id.IsNamed) : (filling id).IsVisible :=
  isVisible_slotted (fullName_ne_empty h) (ne_empty_of_isIdentifier h.name)

/-- The lines of a source are the filled lines of its template. -/
theorem rows_lines (h : id.IsNamed) :
    (spell (lines id)).rows = (template id.isPublic id.backing).rows.map (filling id).fill := by
  rw [spell_lines, Template.rows_fill (isVisible_filling h) (space_notMem_slotted _ _)]

/-- No line of a source holds a line feed. -/
theorem newline_notMem_rows (h : id.IsNamed) : ∀ row ∈ (spell (lines id)).rows, '\n' ∉ row := by
  rw [rows_lines h]
  refine List.forall_mem_map.2 fun row hrow => Filling.notMem_fill (avoids_formal (avoids_filling h) (by decide)) ?_
  exact (isSound_template id.isPublic id.backing).rows row hrow

/-- The brackets of a source are nested. -/
theorem nested_render (h : id.IsNamed) : Nested (render id).toList := by
  rw [render, toList_joinLines, spell_lines, Template.chars_fill (isVisible_filling h) (space_notMem_slotted _ _)
    (newline_notMem_slotted _ _)]
  exact (nested_fill (avoids_isBracket (avoids_filling h))).2 (isSound_template id.isPublic id.backing).nested

/-- The lines of a source are indented by blocks. -/
theorem isBlockIndented_render (h : id.IsNamed) : IsBlockIndented (cutAt '\n' (render id).toList) := by
  have havoids := avoids_filling h
  rw [render, toList_joinLines, Template.cutAt_chars (newline_notMem_rows h), rows_lines h]
  have hend : IsBlockIndented [[]] := by decide
  exact ((isSound_template id.isPublic id.backing).indented.fill (isVisible_filling h) (avoids_blank havoids)
    (avoids_formal havoids (by decide))).append hend

/-- A source ends in one line feed. -/
theorem endsInLineFeed_render (h : id.IsNamed) : EndsInLineFeed (render id) := by
  have hlast : (lines id).getLast?
      = some ⟨0, id.name ++ ".EMPTY = " ++ id.name ++ "(" ++ (profile id.backing).empty ++ ")"⟩ := by
    rw [lines, List.getLast?_append, typeConverterLines, List.getLast?_append]
    rfl
  exact endsInLineFeed_joinLines (newline_notMem_rows h) hlast (by simp)

end TypedId.Emit.Python
