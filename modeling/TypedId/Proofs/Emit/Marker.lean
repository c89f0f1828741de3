import TypedId.Emit.Marker
import TypedId.Proofs.Emit.Names

/-!
# Namespace of the marker attribute

The source of the marker attribute declares the enumeration of backing kinds and the attribute in the block of a namespace
(`isWrapped_render`), and its brackets are nested (`nested_render`). The line that states the namespace is there for the
global namespace as well, where it names nothing, so that the namespace of the source is legal for every other one only
(`hasLegalNamespace_render_iff`).
-/

set_option autoImplicit false

namespace TypedId.Emit.Marker

open Text

variable {space text : String}

/-- The keyword in front of the name of a namespace. -/
def namespaceKeyword : List Char := "namespace".toList

/-- A text is one of lines in which a brace behind the line for a namespace is closed by the last line. The enumeration of
backing kinds and the attribute are declared in between, where brackets are nested, and no other line has the keyword. -/
def IsWrapped (space text : String) : Prop :=
  ∃ front body : List Line,
    text = joinLines (front ++ (⟨0, "namespace " ++ space⟩ :: ⟨0, "\x7b"⟩ :: (body ++ [⟨0, "\x7d"⟩]))) ∧
      (∀ line ∈ front ++ body, '\n' ∉ line.text.toList ∧ occurrences namespaceKeyword line.text.toList = 0) ∧
      Nested (joinLines front).toList ∧ Nested (joinLines body).toList ∧
      ⟨1, "public enum BackingType"⟩ ∈ body ∧ ⟨1, "public sealed class StrongIdAttribute : Attribute"⟩ ∈ body

/-- The declarations of a text stand in the block of the namespace, which has a name, or the text has no keyword for one. -/
def HasLegalNamespace (space text : String) : Prop :=
  (space ≠ "" ∧ isDottedPath space = true ∧ IsWrapped space text) ∨ occurrences namespaceKeyword text.toList = 0

/-! ## Lines around and in the block -/

/-- The lines in front of the namespace. -/
def frontLines : List Line :=
  (headLines "").take 5

/-- The lines in the block of the namespace. -/
def bodyLines : List Line :=
  (headLines "").drop 7 ++ BackingKind.all.flatMap kindLines ++ attributeLines.dropLast

/-- The lines of the attribute are those in front of the namespace and the block of the namespace. -/
theorem lines_eq (space : String) :
    lines space = frontLines ++ (⟨0, "namespace " ++ space⟩ :: ⟨0, "\x7b"⟩ :: (bodyLines ++ [⟨0, "\x7d"⟩])) :=
  rfl

/-- What is decided on lines: none holds a line feed or the keyword, and brackets are nested. -/
structure IsSound (template : Template) : Prop where
  rows : ∀ line ∈ template, '\n' ∉ line.2 ∧ occurrences namespaceKeyword line.2 = 0
  nested : Nested template.chars

instance (template : Template) : Decidable (IsSound template) :=
  decidable_of_iff
    ((∀ line ∈ template, '\n' ∉ line.2 ∧ occurrences namespaceKeyword line.2 = 0) ∧ Nested template.chars)
    ⟨fun ⟨hrows, hnested⟩ => ⟨hrows, hnested⟩, fun h => ⟨h.rows, h.nested⟩⟩

/-- What is decided on lines holds of those in front of the namespace. -/
theorem isSound_frontLines : IsSound (spell frontLines) := by
  simp (disch := with_reducible rfl) only [spell, frontLines, headLines, List.take_succ_cons, List.take_zero, List.map_cons,
    List.map_nil, toList_literal]
  decide

/-- The numbers of the kinds. -/
theorem toString_numbers : toString 0 = "0" ∧ toString 1 = "1" ∧ toString 2 = "2" ∧ toString 3 = "3" := by
  decide

/-- What is decided on lines holds of those in the block. -/
theorem isSound_bodyLines : IsSound (spell bodyLines) := by
  simp (disch := with_reducible rfl) only [spell, bodyLines, headLines, List.drop_succ_cons, List.drop_zero,
    BackingKind.all, List.flatMap_cons, List.flatMap_nil, kindLines, BackingKind.markerName, BackingKind.number,
    BackingKind.default, toString_numbers, reduceCtorEq, if_true, if_false, attributeLines, List.dropLast_cons_cons,
    List.dropLast_singleton, List.cons_append, List.nil_append, List.append_nil, List.map_cons, List.map_nil,
    String.toList_append, toList_literal]
  decide +kernel

/-- The block declares the kinds and the attribute. -/
theorem mem_bodyLines : ⟨1, "public enum BackingType"⟩ ∈ bodyLines ∧
    ⟨1, "public sealed class StrongIdAttribute : Attribute"⟩ ∈ bodyLines := by
  constructor
  · simp [bodyLines, headLines]
  · simp [bodyLines, attributeLines]

/-! ## The source -/

/-- The declarations stand in the block of whatever namespace is given. -/
theorem isWrapped_render (space : String) : IsWrapped space (render space) := by
  have hrows : ∀ line ∈ spell (frontLines ++ bodyLines), '\n' ∉ line.2 ∧ occurrences namespaceKeyword line.2 = 0 := by
    rw [spell_append]
    exact List.forall_mem_append.2 ⟨isSound_frontLines.rows, isSound_bodyLines.rows⟩
  refine ⟨frontLines, bodyLines, by rw [render, lines_eq], fun line hline => ?_, ?_, ?_, mem_bodyLines⟩
  · exact hrows (line.depth, line.text.toList) (List.mem_map_of_mem hline)
  · rw [toList_joinLines]
    exact isSound_frontLines.nested
  · rw [toList_joinLines]
    exact isSound_bodyLines.nested

/-- The text of the attribute, cut at the line of the namespace and at the braces of its block. -/
theorem toList_render (space : String) : (render space).toList
    = (spell frontLines).chars ++ (("namespace " ++ space).toList ++ '\n' ::
        ('\x7b' :: ('\n' :: (spell bodyLines).chars ++ ['\x7d']) ++ ['\n'])) := by
  rw [render, toList_joinLines, lines_eq, spell_append, Template.chars_append, chars_spell_cons, chars_spell_cons,
    spell_append, Template.chars_append, chars_spell_cons, toList_literal (show "\x7b" = String.ofList ['\x7b'] from rfl),
    toList_literal (show "\x7d" = String.ofList ['\x7d'] from rfl)]
  simp [spell, Template.chars, Template.rows]

/-- The brackets of the attribute are nested. -/
theorem nested_render (h : isDottedPath space = true) : Nested (render space).toList := by
  have hline : ("namespace " ++ space).toList.filter isBracket = [] := by
    rw [String.toList_append, List.filter_append, List.append_eq_nil_iff, List.filter_eq_nil_iff, List.filter_eq_nil_iff]
    constructor
    · exact List.forall_iff_forall_mem.1 (by decide)
    · intro c hc
      have hformal := notFormal_of_isDottedPath h hc
      simp only [isFormal, Bool.or_eq_false_iff] at hformal
      simp [hformal.1.1]
  have hfeed (behind : List Char) (hbehind : Nested behind) : Nested ('\n' :: behind) := hbehind
  rw [toList_render]
  refine isSound_frontLines.nested.append ((nested_of_filter_eq_nil hline).append (hfeed _ (Nested.append ?_ ?_)))
  · exact (hfeed _ isSound_bodyLines.nested).inBraces
  · exact hfeed [] rfl

/-- The keyword stands in every source. -/
theorem occurrences_render_pos (space : String) : 0 < occurrences namespaceKeyword (render space).toList := by
  have hkeyword : ("namespace " ++ space).toList = namespaceKeyword ++ ' ' :: space.toList := by
    rw [String.toList_append, show "namespace ".toList = namespaceKeyword ++ [' '] by decide, List.append_assoc]
    rfl
  rw [toList_render, hkeyword, List.append_assoc]
  exact occurrences_pos _ _ _

/-- The attribute has a legal namespace exactly if the namespace is not the empty one. -/
theorem hasLegalNamespace_render_iff (h : isDottedPath space = true) :
    HasLegalNamespace space (render space) ↔ space ≠ "" := by
  constructor
  · rintro (⟨hne, -⟩ | hnone)
    · exact hne
    · have hpos := occurrences_render_pos space
      omega
  · intro hne
    exact Or.inl ⟨hne, h, isWrapped_render space⟩

end TypedId.Emit.Marker
