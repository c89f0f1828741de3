import TypedId.Emit.Language
import TypedId.Proofs.Emit.CSharp
import TypedId.Proofs.Emit.Python

/-!
# Sources of identifiers

Whatever the name and the namespace, a source is well formed (`sources_are_wellFormed`). Its visibility shows in the lines
that carry an access modifier or name what is public, its namespace in a line of its own or in the first one, and neither
shows anywhere else (`visibility_and_namespace_keep_their_places`).
-/

set_option autoImplicit false

namespace TypedId.Emit

open Text

variable {id other : Descriptor} {space : String}

/-! ## Form -/

/-- The lines of a source in C# are the lines that it was made from, and an empty one. -/
theorem CSharp.textLines_render (h : id.IsNamed) :
    textLines (CSharp.render id) = (CSharp.lines id).map Line.written ++ [""] :=
  textLines_joinLines (CSharp.newline_notMem_rows h)

/-- The lines of a source in Python are the lines that it was made from, and an empty one. -/
theorem Python.textLines_render (h : id.IsNamed) :
    textLines (Python.render id) = (Python.lines id).map Line.written ++ [""] :=
  textLines_joinLines (Python.newline_notMem_rows h)

/-- A line of the source declares the struct with its access modifier and its name. -/
theorem CSharp.exists_declaration (h : id.IsNamed) : ∃ behind,
    CSharp.visibility id.isPublic ++ " partial struct " ++ id.name ++ " : " ++ behind ∈ textLines (CSharp.render id) := by
  refine ⟨"IEquatable<" ++ id.name ++ ">, IComparable<" ++ id.name ++ ">, IParsable<" ++ id.name ++ ">", ?_⟩
  have hline : visibility id.isPublic ++ " partial struct " ++ id.name ++ " : IEquatable<" ++ id.name ++ ">, IComparable<"
      ++ id.name ++ ">, IParsable<" ++ id.name ++ ">" = visibility id.isPublic ++ " partial struct " ++ id.name ++ " : "
        ++ ("IEquatable<" ++ id.name ++ ">, IComparable<" ++ id.name ++ ">, IParsable<" ++ id.name ++ ">") := by
    rw [show " : IEquatable<" = " : " ++ "IEquatable<" from by decide]
    simp only [String.append_assoc]
  rw [textLines_render h, ← hline]
  refine List.mem_append_left _ (List.mem_map.2 ⟨⟨0, _⟩, ?_, written_zero (by simp)⟩)
  rw [lines_eq, typeLines, valueLines]
  simp

/-- Sources are well formed for every name and namespace, kind and visibility. In C#, brackets are nested with braces three
deep, and of partial structs exactly the type is declared; in Python, brackets are nested and lines are indented by blocks.
Both end in one line feed. -/
theorem sources_are_wellFormed (h : id.IsNamed) :
    (Nested (CSharp.render id).toList ∧ deepest 0 (CSharp.render id).toList = 3 ∧
      occurrences "partial struct".toList (CSharp.render id).toList = 1 ∧
      (∃ behind, CSharp.visibility id.isPublic ++ " partial struct " ++ id.name ++ " : " ++ behind
        ∈ textLines (CSharp.render id)) ∧
      EndsInLineFeed (CSharp.render id)) ∧
    Nested (Python.render id).toList ∧ IsBlockIndented (cutAt '\n' (Python.render id).toList) ∧
      EndsInLineFeed (Python.render id) :=
  ⟨⟨CSharp.nested_render h, CSharp.deepest_render h, CSharp.occurrences_render h, CSharp.exists_declaration h,
    CSharp.endsInLineFeed_render h⟩, Python.nested_render h, Python.isBlockIndented_render h,
    Python.endsInLineFeed_render h⟩

/-- The identifier of an order. -/
def orderId : Descriptor := ⟨"Shop.Orders", "OrderId", .guid, true⟩

/-- The sources of a public struct with a namespace. -/
theorem sources_of_orderId_are_wellFormed : orderId.IsNamed ∧ Nested (CSharp.render orderId).toList ∧
    deepest 0 (CSharp.render orderId).toList = 3 ∧ IsBlockIndented (cutAt '\n' (Python.render orderId).toList) := by
  have hnamed : orderId.IsNamed := ⟨by decide +kernel, by decide +kernel⟩
  obtain ⟨⟨hnested, hdeepest, -⟩, -, hindented, -⟩ := sources_are_wellFormed hnamed
  exact ⟨hnamed, hnested, hdeepest, hindented⟩

/-! ## Places of visibility and namespace -/

/-- Lines of the same number that differ in the given pairs of lines and in no others. -/
structure DifferIn (lines others : List String) (pairs : List (String × String)) : Prop where
  length_eq : lines.length = others.length
  pairs_eq : (lines.zip others).filter (fun pair => pair.1 ≠ pair.2) = pairs

namespace DifferIn

variable {lines others more rest : List String} {pairs behind : List (String × String)}

/-- Lines that differ in pairs, one after the other, differ in the pairs one after the other. -/
theorem append (h : DifferIn lines others pairs) (hbehind : DifferIn more rest behind) :
    DifferIn (lines ++ more) (others ++ rest) (pairs ++ behind) where
  length_eq := by rw [List.length_append, List.length_append, h.length_eq, hbehind.length_eq]
  pairs_eq := by rw [List.zip_append h.length_eq, List.filter_append, h.pairs_eq, hbehind.pairs_eq]

/-- A line that is the same in front of both changes nothing. -/
theorem cons_self_iff (line : String) :
    DifferIn (line :: lines) (line :: others) pairs ↔ DifferIn lines others pairs := by
  have hpairs : ((line :: lines).zip (line :: others)).filter (fun pair => pair.1 ≠ pair.2)
      = (lines.zip others).filter fun pair => pair.1 ≠ pair.2 := by
    rw [List.zip_cons_cons, List.filter_cons_of_neg (by simp)]
  exact ⟨fun h => ⟨Nat.succ.inj h.length_eq, hpairs ▸ h.pairs_eq⟩,
    fun h => ⟨congrArg Nat.succ h.length_eq, hpairs.trans h.pairs_eq⟩⟩

/-- Two lines in front that are not the same are a pair in which they differ. -/
theorem cons_iff {line other : String} (hne : line ≠ other) :
    DifferIn (line :: lines) (other :: others) ((line, other) :: pairs) ↔ DifferIn lines others pairs := by
  have hpairs : ((line :: lines).zip (other :: others)).filter (fun pair => pair.1 ≠ pair.2)
      = (line, other) :: (lines.zip others).filter fun pair => pair.1 ≠ pair.2 := by
    rw [List.zip_cons_cons, List.filter_cons_of_pos (by simpa using hne)]
  exact ⟨fun h => ⟨Nat.succ.inj h.length_eq, (List.cons.inj (hpairs.symm.trans h.pairs_eq)).2⟩,
    fun h => ⟨congrArg Nat.succ h.length_eq, hpairs.trans (congrArg _ h.pairs_eq)⟩⟩

/-- Lines do not differ from themselves. -/
theorem refl (lines : List String) : DifferIn lines lines [] := by
  induction lines with
  | nil => exact ⟨rfl, rfl⟩
  | cons line rest ih => exact (cons_self_iff line).2 ih

end DifferIn

namespace CSharp

/-- The lines that begin with the access modifier of the type, without it: the declarations of the type, of its members
for the empty and the wrapped value, of what makes identifiers, and of the converters. -/
def declarations (id : Descriptor) : List Line :=
  let p := profile id.backing
  [⟨0, " partial struct " ++ id.name ++ " : IEquatable<" ++ id.name ++ ">, IComparable<" ++ id.name ++ ">, IParsable<"
     ++ id.name ++ ">"⟩,
   ⟨1, " static readonly " ++ id.name ++ " Empty = new(" ++ p.empty ++ ");"⟩,
   ⟨1, " " ++ p.primitive ++ " Value \x7b get; \x7d"⟩]
  ++ (if id.backing = .guid then [⟨1, " static " ++ id.name ++ " New() => new(Guid.NewGuid());"⟩] else [])
  ++
  [⟨1, " static " ++ id.name ++ " From(" ++ p.primitive
     ++ if id.backing = .string then " value)" else " value) => new(value);"⟩,
   ⟨1, " sealed class " ++ id.jsonConverterName ++ " : JsonConverter<" ++ id.name ++ ">"⟩,
   ⟨1, " sealed class " ++ id.typeConverterName ++ " : TypeConverter"⟩]

/-- A declaration of a public and of an internal type. -/
def bothModifiers (line : Line) : String × String :=
  (indentation line.depth ++ ("public" ++ line.text), indentation line.depth ++ ("internal" ++ line.text))

/-- A line that begins with an access modifier, as it is written for each of the two. -/
theorem written_modifier (depth : Nat) (behind : String) :
    Line.written ⟨depth, "public" ++ behind⟩ = indentation depth ++ ("public" ++ behind) ∧
      Line.written ⟨depth, "internal" ++ behind⟩ = indentation depth ++ ("internal" ++ behind) := by
  constructor <;> exact written_of_ne (by simp)

/-- A line that begins with the access modifier is a pair in which the lines differ. -/
theorem differIn_modifier (depth : Nat) (behind : String) {lines others : List String}
    {pairs : List (String × String)} :
    DifferIn (Line.written ⟨depth, "public" ++ behind⟩ :: lines) (Line.written ⟨depth, "internal" ++ behind⟩ :: others)
      (bothModifiers ⟨depth, behind⟩ :: pairs) ↔ DifferIn lines others pairs := by
  rw [(written_modifier depth behind).1, (written_modifier depth behind).2]
  refine DifferIn.cons_iff fun heq => ?_
  -- the two modifiers differ in length
  have hlength := congrArg String.length heq
  simp only [String.length_append, show "public".length = 6 from rfl, show "internal".length = 8 from rfl] at hlength
  omega

/-- The lines of a public and of an internal type differ in the declarations. -/
theorem differIn_typeLines (id : Descriptor) :
    DifferIn ((typeLines "public" id (profile id.backing)).map Line.written)
      ((typeLines "internal" id (profile id.backing)).map Line.written) ((declarations id).map bothModifiers) := by
  cases hkind : id.backing
  all_goals
    simp only [typeLines, declarations, hkind, valueLines, newLines, fromLines, fromTextLines, parseLines, comparisonLines,
      operatorLines, jsonConverterLines, unlessText, typeConverterLines, profile, guidProfile, numericProfile,
      stringProfile, reduceCtorEq, if_true, if_false, Bool.false_eq_true, List.cons_append, List.nil_append,
      List.append_nil, List.map_cons, List.map_nil, String.append_assoc, DifferIn.cons_self_iff, differIn_modifier]
    exact .refl []

/-- The sources of a public and of an internal struct in C# differ in the declarations. -/
theorem differIn_textLines (h : id.IsNamed) :
    DifferIn (textLines (render { id with isPublic := true })) (textLines (render { id with isPublic := false }))
      ((declarations id).map bothModifiers) := by
  have hpublic : Descriptor.IsNamed { id with isPublic := true } := ⟨h.name, h.space⟩
  have hinternal : Descriptor.IsNamed { id with isPublic := false } := ⟨h.name, h.space⟩
  rw [textLines_render hpublic, textLines_render hinternal, lines_eq, lines_eq, List.map_append, List.map_append]
  have hlines :=
    ((DifferIn.refl ((frontLines id.space).map Line.written)).append (differIn_typeLines id)).append (.refl [""])
  rw [List.nil_append, List.append_nil] at hlines
  exact hlines

/-- A line that states the namespace. -/
def StatesNamespace (line : String) : Prop :=
  "namespace ".toList <+: line.toList

/-- A line that does not begin with the letter of the keyword states no namespace. -/
theorem not_statesNamespace_of_head? {line : String} (h : line.toList.head? ≠ some 'n') : ¬ StatesNamespace line := by
  rintro ⟨rest, hline⟩
  rw [← hline, toList_literal (show "namespace " = String.ofList _ from rfl)] at h
  exact h rfl

/-- The namespace takes a line and an empty one, and the empty namespace takes none. -/
theorem map_written_namespaceLines (space : String) : (namespaceLines space).map Line.written
    = if space = "" then [] else ["namespace " ++ space ++ ";", ""] := by
  by_cases hempty : space = ""
  · rw [hempty]
    rfl
  · rw [namespaceLines, if_neg (by simpa using hempty), if_neg hempty, List.map_cons, written_zero (by simp)]
    rfl

/-- The lines of a source are the same for all namespaces, but for the one that states the namespace and the blank one
behind it, which a source in the global namespace lacks. -/
theorem textLines_around_namespace (h : id.IsNamed) : ∃ front behind : List String,
    (∀ line ∈ front ++ behind, ¬ StatesNamespace line) ∧
    ∀ space, isDottedPath space = true → textLines (render { id with space })
      = front ++ ((if space = "" then [] else ["namespace " ++ space ++ ";", ""]) ++ behind) := by
  have hhead : ∀ line ∈ headLines.map Line.written, ¬ StatesNamespace line := by
    have hrows : ∀ row ∈ (spell headLines).rows, row.head? ≠ some 'n' := by
      simp (disch := with_reducible rfl) only [spell, headLines, List.map_cons, List.map_nil, toList_literal]
      decide
    rw [rows_spell] at hrows
    exact List.forall_mem_map.2 fun line hline => not_statesNamespace_of_head? (hrows _ (List.mem_map_of_mem hline))
  have htype : ∀ line ∈ (typeLines (visibility id.isPublic) id (profile id.backing)).map Line.written,
      ¬ StatesNamespace line := by
    refine List.forall_mem_map.2 fun line hline => not_statesNamespace_of_head? (head?_rows_typeLines h _ ?_)
    rw [rows_spell]
    exact List.mem_map_of_mem hline
  refine ⟨headLines.map Line.written,
    (typeLines (visibility id.isPublic) id (profile id.backing)).map Line.written ++ [""], ?_, fun space hspace => ?_⟩
  · refine List.forall_mem_append.2 ⟨hhead, List.forall_mem_append.2 ⟨htype, ?_⟩⟩
    rintro line hline
    rw [List.mem_singleton.1 hline]
    exact not_statesNamespace_of_head? (by decide)
  · have hnamed : Descriptor.IsNamed { id with space } := ⟨h.name, hspace⟩
    rw [textLines_render hnamed, lines_eq, frontLines, List.map_append, List.map_append, map_written_namespaceLines,
      List.append_assoc, List.append_assoc]
    rfl

end CSharp

/-- In Python a namespace changes nothing behind the first line. -/
theorem Python.tail_textLines (h : id.IsNamed) (hspace : isDottedPath space = true) :
    (textLines (Python.render { id with space })).tail = (textLines (Python.render id)).tail := by
  have hnamed : Descriptor.IsNamed { id with space } := ⟨h.name, hspace⟩
  rw [textLines_render hnamed, textLines_render h]
  rfl

/-- A list with a name in it is not the empty list. -/
theorem Python.export_ne (name : String) : "__all__ = [\"" ++ name ++ "\"]" ≠ "__all__: list[str] = []" := fun h => by
  -- what is behind the name that both begin with
  have hchars := congrArg (fun text => text.toList[7]?) h
  simp (disch := with_reducible rfl) only [String.toList_append, toList_literal] at hchars
  exact absurd (show some ' ' = some ':' from hchars) (by decide)

/-- The sources of a public and of an internal struct in Python differ in the list of what is exported. -/
theorem Python.differIn_textLines (h : id.IsNamed) :
    DifferIn (textLines (Python.render { id with isPublic := true }))
      (textLines (Python.render { id with isPublic := false }))
      [("__all__ = [\"" ++ id.name ++ "\"]", "__all__: list[str] = []")] := by
  have hexport : DifferIn ((exportLines { id with isPublic := true }).map Line.written)
      ((exportLines { id with isPublic := false }).map Line.written)
      [("__all__ = [\"" ++ id.name ++ "\"]", "__all__: list[str] = []")] := by
    rw [exportLines, exportLines, if_pos rfl, if_neg (by simp), List.map_singleton, List.map_singleton,
      written_zero (by simp), written_zero (by simp)]
    exact (DifferIn.cons_iff (export_ne id.name)).2 (.refl [])
  have hpublic : Descriptor.IsNamed { id with isPublic := true } := ⟨h.name, h.space⟩
  have hinternal : Descriptor.IsNamed { id with isPublic := false } := ⟨h.name, h.space⟩
  rw [textLines_render hpublic, textLines_render hinternal, lines_eq, lines_eq, List.map_append, List.map_append,
    List.map_append, List.map_append, List.map_append, List.map_append]
  exact .append (.append (.refl _) (.append (.refl _) (.append hexport (.refl _)))) (.refl _)

/-- Visibility and namespace have places of their own. In C#, a public and an internal source have the same lines but for the
access modifier in front of the declarations of the type, of its empty and wrapped values, of what makes identifiers, and
of the converters; in Python, but for the list of public names. The namespace is stated in C# by a line with a blank one
behind it, which the global namespace lacks, and in Python in the first line. -/
theorem visibility_and_namespace_keep_their_places (h : id.IsNamed) :
    DifferIn (textLines (CSharp.render { id with isPublic := true }))
      (textLines (CSharp.render { id with isPublic := false })) ((CSharp.declarations id).map CSharp.bothModifiers) ∧
    DifferIn (textLines (Python.render { id with isPublic := true }))
      (textLines (Python.render { id with isPublic := false }))
      [("__all__ = [\"" ++ id.name ++ "\"]", "__all__: list[str] = []")] ∧
    (∃ front behind : List String, (∀ line ∈ front ++ behind, ¬ CSharp.StatesNamespace line) ∧
      ∀ space, isDottedPath space = true → textLines (CSharp.render { id with space })
        = front ++ ((if space = "" then [] else ["namespace " ++ space ++ ";", ""]) ++ behind)) ∧
    ∀ space, isDottedPath space = true →
      (textLines (Python.render { id with space })).tail = (textLines (Python.render id)).tail :=
  ⟨CSharp.differIn_textLines h, Python.differIn_textLines h, CSharp.textLines_around_namespace h,
    fun _ hspace => Python.tail_textLines h hspace⟩

/-- The sources of the identifier of an order in two namespaces. -/
theorem namespaces_of_orderId_keep_their_places : orderId.IsNamed ∧
    (∃ front behind, textLines (CSharp.render orderId) = front ++ (["namespace Shop.Orders;", ""] ++ behind) ∧
      textLines (CSharp.render { orderId with space := "" }) = front ++ behind) ∧
    (textLines (Python.render { orderId with space := "" })).tail = (textLines (Python.render orderId)).tail := by
  have hnamed : orderId.IsNamed := ⟨by decide +kernel, by decide +kernel⟩
  obtain ⟨-, -, ⟨front, behind, -, hlines⟩, htail⟩ := visibility_and_namespace_keep_their_places hnamed
  exact ⟨hnamed, ⟨front, behind, hlines "Shop.Orders" (by decide +kernel), hlines "" (by decide)⟩, htail "" (by decide)⟩

end TypedId.Emit
