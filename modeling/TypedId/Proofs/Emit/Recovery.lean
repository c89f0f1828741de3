import TypedId.Proofs.Emit.Sources

/-!
# What a source tells about its identifier

A source states the namespace, the name, the backing kind and the visibility of its identifier, each at a place that is
found again, so that no two identifiers have the same source (`render_inj`).
-/

set_option autoImplicit false

namespace TypedId.Emit

open Text

variable {id other : Descriptor}

/-- What stands between two texts is found again. -/
theorem append_cancel {front behind first second : String} (h : front ++ first ++ behind = front ++ second ++ behind) :
    first = second := by
  have hchars := congrArg String.toList h
  simp only [String.toList_append] at hchars
  exact String.toList_inj.1 (List.append_cancel_left (List.append_cancel_right hchars))

namespace CSharp

variable {kind kind' : BackingKind} {vis vis' : String}

/-- Kinds are told apart by their descriptions. -/
theorem description_inj (h : (profile kind).description = (profile kind').description) : kind = kind' := by
  revert h
  cases kind <;> cases kind' <;> simp [profile, guidProfile, numericProfile, stringProfile]

/-- The access modifier tells whether a type is public. -/
theorem visibility_inj {isPublic isPublic' : Bool} (h : visibility isPublic = visibility isPublic') :
    isPublic = isPublic' := by
  revert h
  cases isPublic <;> cases isPublic' <;> simp [visibility]

/-- The comment of the type tells the backing kind. -/
theorem kind_of_typeLines (h : (typeLines vis id (profile kind)).map Line.written
    = (typeLines vis' other (profile kind')).map Line.written) : kind = kind' := by
  have hline : Line.written ⟨0, "/// Strongly-typed identifier backed by " ++ (profile kind).description ++ "."⟩
      = Line.written ⟨0, "/// Strongly-typed identifier backed by " ++ (profile kind').description ++ "."⟩ :=
    Option.some.inj (congrArg (fun lines => lines[1]?) h)
  rw [written_zero (by simp), written_zero (by simp)] at hline
  exact description_inj (append_cancel hline)

/-- The declaration of the type tells its access modifier and its name. -/
theorem declaration_of_typeLines (hvis : ' ' ∉ vis.toList) (hvis' : ' ' ∉ vis'.toList) (hname : ' ' ∉ id.name.toList)
    (hname' : ' ' ∉ other.name.toList) (h : (typeLines vis id (profile kind)).map Line.written
      = (typeLines vis' other (profile kind')).map Line.written) : vis = vis' ∧ id.name = other.name := by
  have hline : Line.written ⟨0, vis ++ " partial struct " ++ id.name ++ " : IEquatable<" ++ id.name ++ ">, IComparable<"
      ++ id.name ++ ">, IParsable<" ++ id.name ++ ">"⟩ = Line.written ⟨0, vis' ++ " partial struct " ++ other.name
        ++ " : IEquatable<" ++ other.name ++ ">, IComparable<" ++ other.name ++ ">, IParsable<" ++ other.name ++ ">"⟩ :=
    Option.some.inj (congrArg (fun lines => lines[5]?) h)
  rw [written_zero (by simp), written_zero (by simp)] at hline
  have hchars := congrArg String.toList hline
  simp (disch := with_reducible rfl) only [String.toList_append, List.append_assoc] at hchars
  rw [toList_literal (show " partial struct " = String.ofList _ from rfl),
    toList_literal (show " : IEquatable<" = String.ofList _ from rfl)] at hchars
  obtain ⟨hsame, hbehind⟩ := append_separator_inj hvis hvis' hchars
  obtain ⟨hnames, -⟩ := append_separator_inj hname hname' (List.append_cancel_left hbehind)
  exact ⟨String.toList_inj.1 hsame, String.toList_inj.1 hnames⟩

/-- The line that opens the summary states no namespace. -/
theorem summary_ne_namespace (space : String) : Line.written ⟨0, "/// <summary>"⟩ ≠ "namespace " ++ space ++ ";" := by
  rw [written_zero (by simp)]
  intro h
  have hchars := congrArg (fun text => text.toList.head?) h
  simp (disch := with_reducible rfl) only [String.toList_append, toList_literal] at hchars
  exact absurd (show some '/' = some 'n' from hchars) (by decide)

/-- Behind the head of a source follows the namespace, unless it is the global one. -/
theorem space_of_lines (h : (lines id).map Line.written = (lines other).map Line.written) : id.space = other.space ∧
    (typeLines (visibility id.isPublic) id (profile id.backing)).map Line.written
      = (typeLines (visibility other.isPublic) other (profile other.backing)).map Line.written := by
  rw [lines_eq, lines_eq, frontLines, frontLines, List.map_append, List.map_append, List.map_append, List.map_append,
    List.append_assoc, List.append_assoc] at h
  have hbehind := List.append_cancel_left h
  -- a source in the global namespace goes on with the comment of the type
  rw [map_written_namespaceLines, map_written_namespaceLines] at hbehind
  by_cases hid : id.space = "" <;> by_cases hother : other.space = ""
  · rw [if_pos hid, if_pos hother] at hbehind
    exact ⟨hid.trans hother.symm, hbehind⟩
  · rw [if_pos hid, if_neg hother] at hbehind
    exact absurd (List.cons.inj hbehind).1 (summary_ne_namespace other.space)
  · rw [if_neg hid, if_pos hother] at hbehind
    exact absurd (List.cons.inj hbehind).1.symm (summary_ne_namespace id.space)
  · rw [if_neg hid, if_neg hother] at hbehind
    obtain ⟨hspace, htype⟩ := List.cons.inj hbehind
    exact ⟨append_cancel hspace, (List.cons.inj htype).2⟩

/-- A source in C# determines the descriptor. -/
theorem render_inj (h : id.IsNamed) (hother : other.IsNamed) (hsource : render id = render other) : id = other := by
  have hlines := congrArg textLines hsource
  rw [textLines_render h, textLines_render hother] at hlines
  obtain ⟨hspace, htype⟩ := space_of_lines (List.append_cancel_right hlines)
  have hkind := kind_of_typeLines htype
  have hvis (isPublic : Bool) : ' ' ∉ (visibility isPublic).toList := by cases isPublic <;> decide
  have hblank {id : Descriptor} (h : id.IsNamed) : ' ' ∉ id.name.toList := fun hmem =>
    absurd (notFormal_of_isIdentifier h.name hmem) (by decide)
  obtain ⟨hpublic, hname⟩ := declaration_of_typeLines (hvis _) (hvis _) (hblank h) (hblank hother) htype
  cases id
  cases other
  exact Descriptor.mk.injEq .. |>.mpr ⟨hspace, hname, hkind, visibility_inj hpublic⟩

end CSharp

namespace Python

variable {kind kind' : BackingKind}

variable {isPublic isPublic' : Bool} {space name : String}

/-- The lines behind the description of the module. -/
def moduleLines (space name : String) (kind : BackingKind) (isPublic : Bool) : List Line :=
  importLines (profile kind) ++ (exportLines ⟨space, name, kind, isPublic⟩ ++
    classLines ⟨space, name, kind, isPublic⟩ (profile kind))

/-- The lines of a source are those of a fixed head and those behind the description of the module. -/
theorem map_written_lines (space name : String) (kind : BackingKind) (isPublic : Bool) :
    (lines ⟨space, name, kind, isPublic⟩).map Line.written = (headLines ⟨space, name, .guid, true⟩).map Line.written
      ++ (moduleLines space name kind isPublic).map Line.written := by
  rw [lines_eq, List.map_append]
  rfl

/-- The first import tells integers, texts and UUIDs apart. -/
theorem import_of_moduleLines (h : (moduleLines space name kind isPublic).map Line.written
      = (moduleLines space name kind' isPublic').map Line.written) :
    (importLines (profile kind)).head?.map Line.written = (importLines (profile kind')).head?.map Line.written := by
  have hfirst := congrArg List.head? h
  cases kind <;> cases kind' <;> exact hfirst

/-- The comment of the class tells the widths of integers apart. -/
theorem comment_of_moduleLines (hkind : (profile kind).isInteger = true) (hkind' : (profile kind').isInteger = true)
    (h : (moduleLines space name kind isPublic).map Line.written
      = (moduleLines space name kind' isPublic').map Line.written) :
    (profile kind).description = (profile kind').description := by
  have hline : Line.written ⟨1, "\"\"\"Strongly-typed identifier backed by " ++ (profile kind).description ++ ".\"\"\""⟩
      = Line.written ⟨1, "\"\"\"Strongly-typed identifier backed by " ++ (profile kind').description ++ ".\"\"\""⟩ := by
    have hseventh := congrArg (fun lines => lines[7]?) h
    -- which line this is does not depend on the kind or the visibility, but is known case by case only
    cases kind <;> cases kind' <;> cases isPublic <;> cases isPublic'
    all_goals
      first
      | exact absurd hkind (by decide)
      | exact absurd hkind' (by decide)
      | exact Option.some.inj hseventh
  rw [written_of_ne (by simp), written_of_ne (by simp), ← String.append_assoc, ← String.append_assoc,
    ← String.append_assoc, ← String.append_assoc] at hline
  exact append_cancel hline

/-- The lines behind the description of the module determine the kind. -/
theorem kind_of_moduleLines (h : (moduleLines space name kind isPublic).map Line.written
      = (moduleLines space name kind' isPublic').map Line.written) : kind = kind' := by
  have himport := import_of_moduleLines h
  cases kind <;> cases kind'
  all_goals
    first
    | rfl
    | exact absurd himport (by decide)
    | exact absurd (comment_of_moduleLines rfl rfl h) (by decide)

/-- A source in Python determines the descriptor. -/
theorem render_inj (h : id.IsNamed) (hother : other.IsNamed) (hsource : render id = render other) : id = other := by
  have hlines := congrArg textLines hsource
  rw [textLines_render h, textLines_render hother] at hlines
  have hhead : Line.written ⟨0, "\"\"\"Strongly-typed identifier " ++ id.fullName ++ "."⟩
      = Line.written ⟨0, "\"\"\"Strongly-typed identifier " ++ other.fullName ++ "."⟩ :=
    Option.some.inj (congrArg (fun lines => lines[0]?) hlines)
  rw [written_zero (by simp), written_zero (by simp)] at hhead
  obtain ⟨hspace, hname⟩ := qualify_inj (point_notMem_of_isIdentifier h.name) (point_notMem_of_isIdentifier hother.name)
    (append_cancel hhead)
  obtain ⟨space, name, kind, isPublic⟩ := id
  obtain ⟨_, _, kind', isPublic'⟩ := other
  obtain rfl := hspace
  obtain rfl := hname
  have hmodule : (moduleLines space name kind isPublic).map Line.written
      = (moduleLines space name kind' isPublic').map Line.written := by
    rw [map_written_lines, map_written_lines] at hlines
    exact List.append_cancel_left (List.append_cancel_right hlines)
  obtain rfl := kind_of_moduleLines hmodule
  simp only [moduleLines, List.map_append] at hmodule
  have hexport := congrArg List.head? (List.append_cancel_left hmodule)
  have hne : Line.written ⟨0, "__all__ = [\"" ++ name ++ "\"]"⟩ ≠ Line.written ⟨0, "__all__: list[str] = []"⟩ := by
    rw [written_zero (by simp), written_zero (by simp)]
    exact export_ne name
  cases isPublic <;> cases isPublic'
  · rfl
  · exact absurd (Option.some.inj hexport).symm hne
  · exact absurd (Option.some.inj hexport) hne
  · rfl

end Python

/-- No two identifiers share a source: identifiers with the same source in a language have the same namespace, name,
backing kind and visibility. -/
theorem source_determines_identifier (language : Language) (h : id.IsNamed) (hother : other.IsNamed)
    (hsource : language.render id = language.render other) : id = other := by
  cases language with
  | csharp => exact CSharp.render_inj h hother hsource
  | python => exact Python.render_inj h hother hsource

/-- The nearly equal sources for the two widths of integers differ. A number that stands for no kind and the default kind
come to the same source, and they are the same identifier. -/
theorem sources_of_int_and_long_differ :
    Language.csharp.render { orderId with backing := .int } ≠ Language.csharp.render { orderId with backing := .long } ∧
    Language.python.render { orderId with backing := .int } ≠ Language.python.render { orderId with backing := .long } ∧
    { orderId with backing := BackingKind.ofInteger 7 } = { orderId with backing := BackingKind.default } := by
  have horder : orderId.IsNamed := ⟨by decide +kernel, by decide +kernel⟩
  have hnamed (kind : BackingKind) : Descriptor.IsNamed { orderId with backing := kind } := ⟨horder.name, horder.space⟩
  exact ⟨fun h => absurd (source_determines_identifier .csharp (hnamed .int) (hnamed .long) h) (by decide),
    fun h => absurd (source_determines_identifier .python (hnamed .int) (hnamed .long) h) (by decide),
    source_determines_identifier .csharp (hnamed (BackingKind.ofInteger 7)) (hnamed BackingKind.default) rfl⟩

end TypedId.Emit
