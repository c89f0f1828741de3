import TypedId.Emit.CSharp
import TypedId.Proofs.Emit.Names

/-!
# Form of C# sources

In front of the type a source holds no brackets and declares nothing (`isPlain_frontLines`). What stands behind is one of
four templates, one for each backing kind, with the access modifier and the name in its slots (`spell_typeLines`). What
names have no part in is decided on the templates (`isSound_template`), so that brackets, depth and declarations of every
source are known.
-/

set_option autoImplicit false

namespace TypedId.Emit.CSharp

open Text

variable {id : Descriptor} {space : String}

/-- The lines in front of the type: the frame of the file and the namespace. -/
def frontLines (space : String) : List Line :=
  headLines ++ namespaceLines space

/-- The lines of the type, with its converters. -/
def typeLines (vis : String) (id : Descriptor) (p : Profile) : List Line :=
  valueLines vis id p ++ ((if p.hasNew then newLines vis id else []) ++ (fromLines vis id p ++ (parseLines id p ++
    (comparisonLines id p ++ (operatorLines id p ++ (jsonConverterLines vis id p ++ typeConverterLines vis id p))))))

/-- A source is the lines in front of the type and those of the type. -/
theorem lines_eq (id : Descriptor) :
    lines id = frontLines id.space ++ typeLines (visibility id.isPublic) id (profile id.backing) := by
  simp only [lines, frontLines, typeLines, List.append_assoc]

/-- How the declaration of the type begins behind its access modifier. -/
def declaring : List Char :=
  "partial".toList ++ ' ' :: "struct".toList

/-! ## In front of the type -/

/-- A line without brackets that declares nothing. -/
def IsPlain (row : List Char) : Prop :=
  '\n' ∉ row ∧ row.filter isBracket = [] ∧ occurrences declaring row = 0

instance (row : List Char) : Decidable (IsPlain row) :=
  inferInstanceAs (Decidable (_ ∧ _))

/-- A line that states a dotted path as the namespace is plain. -/
theorem isPlain_namespaceLine (h : isDottedPath space = true) :
    IsPlain ("namespace ".toList ++ space.toList ++ ";".toList) := by
  let filling : Filling := [('@', space.toList)]
  have havoids : filling.Avoids isFormal := by
    intro entry hentry
    obtain rfl := List.mem_singleton.1 hentry
    exact ⟨show isFormal '@' = false by decide, fun c hc => notFormal_of_isDottedPath h hc⟩
  have hrow : "namespace ".toList ++ space.toList ++ ";".toList = filling.fill "namespace @;".toList := by
    rw [toList_literal (show "namespace @;" = String.ofList _ from rfl),
      toList_literal (show "namespace " = String.ofList _ from rfl), toList_literal (show ";" = String.ofList _ from rfl)]
    rfl
  have hstandings : standings? ['@'] "partial".toList ' ' "struct".toList 0 "namespace @;".toList = some 0 := by
    decide
  have hdeclaring := occurrences_fill (avoids_formal havoids (by decide))
    (show standings? filling.slots _ _ _ _ _ = _ from hstandings)
  rw [hrow]
  refine ⟨Filling.notMem_fill (avoids_formal havoids (by decide)) (by decide), ?_,
    by rwa [Nat.zero_add] at hdeclaring⟩
  rw [Filling.filter_fill (avoids_isBracket havoids)]
  decide

/-- The lines in front of the type are plain. -/
theorem isPlain_frontLines (h : isDottedPath space = true) : ∀ row ∈ (spell (frontLines space)).rows, IsPlain row := by
  rw [frontLines, spell_append, Template.rows_append]
  refine List.forall_mem_append.2 ⟨?_, ?_⟩
  · simp (disch := with_reducible rfl) only [spell, headLines, List.map_cons, List.map_nil, toList_literal]
    decide
  · rw [namespaceLines]
    split
    · exact fun row hrow => absurd hrow (by simp [spell, Template.rows])
    · have hempty : IsPlain [] := by decide
      simpa [spell, Template.rows, hempty] using isPlain_namespaceLine h

/-! ## The type -/

/-- The texts for the slots: the access modifier and the name. -/
def filling (id : Descriptor) : Filling :=
  slotted (visibility id.isPublic) id.name

/-- The lines of the type with slots. -/
def template (kind : BackingKind) : Template :=
  spell (typeLines "^" ⟨"", "$", kind, true⟩ (profile kind))

/-- The lines of every type are those of its template with the slots filled. -/
theorem spell_typeLines (id : Descriptor) :
    spell (typeLines (visibility id.isPublic) id (profile id.backing)) = (template id.backing).fill (filling id) := by
  cases id.backing
  all_goals
    -- filling is pushed down to the texts that lines are put together from, each a slot or without one
    simp (disch := (apply And.intro; with_reducible rfl; decide +kernel)) only [template, spell, typeLines, valueLines,
      newLines, fromLines, fromTextLines, parseLines, comparisonLines, operatorLines, jsonConverterLines, unlessText,
      typeConverterLines, profile, guidProfile, numericProfile, stringProfile, Descriptor.jsonConverterName,
      Descriptor.typeConverterName, if_true, if_false, Bool.false_eq_true, Template.fill, List.map_append, List.map_cons,
      List.map_nil, String.toList_append, Filling.fill_append, filling, fill_first, fill_second, fill_literal]

/-- What is decided on a template: no line holds a line feed, begins as one for a namespace or with a name, brackets are
nested with braces three deep, and one partial struct is declared. -/
structure IsSound (template : Template) : Prop where
  rows : ∀ row ∈ template.rows, '\n' ∉ row ∧ row.head? ≠ some 'n' ∧ row.head? ≠ some '$'
  nested : Nested template.chars
  deepest_eq : deepest 0 template.chars = 3
  declares : standings? ['^', '$'] "partial".toList ' ' "struct".toList 0 template.chars = some 1

instance (template : Template) : Decidable (IsSound template) :=
  decidable_of_iff
    ((∀ row ∈ template.rows, '\n' ∉ row ∧ row.head? ≠ some 'n' ∧ row.head? ≠ some '$') ∧ Nested template.chars ∧
      deepest 0 template.chars = 3 ∧
      standings? ['^', '$'] "partial".toList ' ' "struct".toList 0 template.chars = some 1)
    ⟨fun ⟨hrows, hnested, hdeepest, hdeclares⟩ => ⟨hrows, hnested, hdeepest, hdeclares⟩,
      fun h => ⟨h.rows, h.nested, h.deepest_eq, h.declares⟩⟩

/-- What is decided on a template holds for each kind. -/
theorem isSound_template (kind : BackingKind) : IsSound (template kind) := by
  cases kind
  all_goals
    -- texts are opened to characters first, since strings are slow to evaluate
    simp (disch := with_reducible rfl) only [template, spell, typeLines, valueLines, newLines, fromLines, fromTextLines,
      parseLines, comparisonLines, operatorLines, jsonConverterLines, unlessText, typeConverterLines, profile, guidProfile,
      numericProfile, stringProfile, Descriptor.jsonConverterName, Descriptor.typeConverterName, if_true, if_false,
      Bool.false_eq_true, List.map_append, List.map_cons, List.map_nil, String.toList_append, toList_literal]
    decide +kernel

/-! ## Sources -/

/-- The access modifier and the name have no character that gives a source its form. -/
theorem avoids_filling (h : id.IsNamed) : (filling id).Avoids isFormal := by
  refine avoids_slotted ?_ fun c hc => notFormal_of_isIdentifier h.name hc
  cases id.isPublic <;> exact List.forall_iff_forall_mem.1 (by decide)

/-- Neither the access modifier nor the name is empty. -/
theorem isVisible_filling (h : id.IsNamed) : (filling id).IsVisible := by
  refine isVisible_slotted ?_ (ne_empty_of_isIdentifier h.name)
  cases id.isPublic <;> decide

/-- The lines of a source are those in front of the type and the filled lines of the template. -/
theorem rows_lines (h : id.IsNamed) :
    (spell (lines id)).rows = (spell (frontLines id.space)).rows ++ (template id.backing).rows.map (filling id).fill := by
  rw [lines_eq, spell_append, Template.rows_append, spell_typeLines,
    Template.rows_fill (isVisible_filling h) (space_notMem_slotted _ _)]

/-- A source is the text in front of the type and the filled text of the template. -/
theorem toList_render (h : id.IsNamed) :
    (render id).toList = (spell (frontLines id.space)).chars ++ (filling id).fill (template id.backing).chars := by
  rw [render, toList_joinLines, lines_eq, spell_append, Template.chars_append, spell_typeLines,
    Template.chars_fill (isVisible_filling h) (space_notMem_slotted _ _) (newline_notMem_slotted _ _)]

/-- No line of a source holds a line feed. -/
theorem newline_notMem_rows (h : id.IsNamed) : ∀ row ∈ (spell (lines id)).rows, '\n' ∉ row := by
  rw [rows_lines h]
  refine List.forall_mem_append.2 ⟨fun row hrow => (isPlain_frontLines h.space row hrow).1, ?_⟩
  refine List.forall_mem_map.2 fun row hrow => Filling.notMem_fill (avoids_formal (avoids_filling h) (by decide)) ?_
  exact ((isSound_template id.backing).rows row hrow).1

/-- No line of the type begins as one for the namespace does. -/
theorem head?_rows_typeLines (h : id.IsNamed) :
    ∀ row ∈ (spell (typeLines (visibility id.isPublic) id (profile id.backing))).rows, row.head? ≠ some 'n' := by
  rw [spell_typeLines, Template.rows_fill (isVisible_filling h) (space_notMem_slotted _ _)]
  refine List.forall_mem_map.2 fun row hrow => ?_
  obtain ⟨-, hn, hname⟩ := (isSound_template id.backing).rows row hrow
  rw [Filling.head?_fill (isVisible_filling h)]
  intro hhead
  obtain ⟨c, hc, hput⟩ := Option.bind_eq_some_iff.1 hhead
  -- a line begins with a character of its own or with the access modifier, but not with a name
  rcases Filling.put_cases (filling id) c with ⟨-, hself⟩ | hmem
  · rw [hself] at hput
    exact hn (hc.trans hput)
  · rcases List.mem_cons.1 hmem with hvis | hmem
    · rw [(Prod.mk.inj hvis).2] at hput
      revert hput
      cases id.isPublic <;> decide
    · obtain ⟨rfl, -⟩ := Prod.mk.inj (List.mem_singleton.1 hmem)
      exact hname hc

/-- There are no brackets in front of the type. -/
theorem filter_isBracket_frontLines (h : isDottedPath space = true) :
    (spell (frontLines space)).chars.filter isBracket = [] := by
  rw [Template.chars, List.filter_flatMap]
  refine List.flatMap_eq_nil_iff.2 fun row hrow => ?_
  rw [List.filter_append, (isPlain_frontLines h row hrow).2.1]
  rfl

/-- The brackets of a source are nested. -/
theorem nested_render (h : id.IsNamed) : Nested (render id).toList := by
  rw [toList_render h]
  refine (nested_of_filter_eq_nil (filter_isBracket_frontLines h.space)).append ?_
  exact (nested_fill (avoids_isBracket (avoids_filling h))).2 (isSound_template id.backing).nested

/-- At the deepest place of a source three braces are open. -/
theorem deepest_render (h : id.IsNamed) : deepest 0 (render id).toList = 3 := by
  rw [toList_render h, deepest_append (filter_isBracket_frontLines h.space),
    deepest_fill (avoids_isBracket (avoids_filling h))]
  exact (isSound_template id.backing).deepest_eq

/-- A source declares one partial struct. -/
theorem occurrences_render (h : id.IsNamed) : occurrences "partial struct".toList (render id).toList = 1 := by
  have hfront : ∀ row ∈ (spell (frontLines id.space)).rows, occurrences declaring row = 0 :=
    fun row hrow => (isPlain_frontLines h.space row hrow).2.2
  have htype := occurrences_fill (avoids_formal (avoids_filling h) (by decide))
    (show standings? (filling id).slots _ _ _ _ _ = _ from (isSound_template id.backing).declares)
  rw [Nat.zero_add] at htype
  rw [show "partial struct".toList = declaring by decide +kernel, toList_render h, Template.chars]
  -- the declaration holds no line feed, so the lines in front are counted one by one
  generalize (spell (frontLines id.space)).rows = rows at hfront
  induction rows with
  | nil => exact htype
  | cons row rest ih =>
    obtain ⟨hrow, hrest⟩ := List.forall_mem_cons.1 hfront
    rw [List.flatMap_cons, List.append_assoc, List.append_assoc, List.singleton_append,
      occurrences_append_cons (by decide +kernel), hrow, Nat.zero_add, ih hrest]

/-- A source ends in one line feed. -/
theorem endsInLineFeed_render (h : id.IsNamed) : EndsInLineFeed (render id) := by
  have hlast : (lines id).getLast? = some ⟨0, "\x7d"⟩ := by
    rw [lines, List.getLast?_append, typeConverterLines, List.getLast?_append]
    rfl
  exact endsInLineFeed_joinLines (newline_notMem_rows h) hlast (by decide)

end TypedId.Emit.CSharp
