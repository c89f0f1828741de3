import TypedId.Emit.Language
import TypedId.Proofs.Extraction
import TypedId.Proofs.Files.Path
import TypedId.Proofs.Text.Snake
import TypedId.Proofs.Text.Words

/-!
# Names of output files

The name of an output file is put together from the name and the namespace of an identifier. When these are an
identifier and a dotted path, it is a plain name, so that it leads to a place right below the output directory:
`outputName_isPlainName`. In C# it is the name of no other type (`csharp_outputName_inj`). In Python, where the parts of the
full name are put into snake case one by one, it is the snake case of the full name with underscores for its points
(`python_outputName_of_fullName`).
-/

set_option autoImplicit false

namespace TypedId

open Text Unicode

namespace Emit

variable {id other : Descriptor} {c : Char}

/-- The pieces that a Python output name is made of: the parts of the namespace and the name. -/
def nameParts (id : Descriptor) : List String :=
  (if id.space.isEmpty then [] else segments id.space) ++ [id.name]

/-- The namespace and the name have identifiers for parts. -/
theorem isIdentifier_of_mem_nameParts (h : id.IsNamed) {part : String} (hpart : part ∈ nameParts id) :
    isIdentifier part = true := by
  rcases List.mem_append.1 hpart with hpart | hpart
  · split at hpart
    · exact absurd hpart (by simp)
    · rename_i hne
      exact isIdentifier_of_mem_segments h.space (by simpa using hne) hpart
  · rw [List.mem_singleton.1 hpart]
    exact h.name

/-- The full name joins the parts. -/
theorem fullName_eq_joinDots (id : Descriptor) : id.fullName = joinDots (nameParts id) := by
  rw [Descriptor.fullName, nameParts]
  by_cases hempty : id.space = ""
  · rw [hempty]
    exact (String.intercalate_singleton).symm
  · have hsegments : segments id.space ≠ [] := by simpa [segments] using cutAt_ne_nil id.space.toList
    rw [qualify, if_neg (by simpa using hempty), if_neg (by simpa using hempty), joinDots,
      String.intercalate_append_of_ne_nil hsegments (by simp)]
    change _ = joinDots (segments id.space) ++ "." ++ _
    rw [joinDots_segments, String.intercalate_singleton]

/-- A character of the full name is a point or in one of the parts. -/
theorem mem_fullName (hc : c ∈ id.fullName.toList) : c = '.' ∨ ∃ part ∈ nameParts id, c ∈ part.toList := by
  have hname (hmem : c ∈ id.name.toList) : ∃ part ∈ nameParts id, c ∈ part.toList :=
    ⟨id.name, List.mem_append_right _ (List.mem_singleton_self _), hmem⟩
  rw [Descriptor.fullName, qualify] at hc
  split at hc
  · exact Or.inr (hname hc)
  · rename_i hne
    rw [String.toList_append, String.toList_append] at hc
    rcases List.mem_append.1 hc with hc | hc
    · rcases List.mem_append.1 hc with hc | hc
      · refine (mem_segments hc).imp_right ?_
        rintro ⟨segment, hsegment, hmem⟩
        refine ⟨segment, ?_, hmem⟩
        rw [nameParts, if_neg hne]
        exact List.mem_append_left _ hsegment
      · exact Or.inl (by simpa using hc)
    · exact Or.inr (hname hc)

/-- A character below the small letters that is in no identifier is in no output name, points and underscores apart. -/
theorem notMem_outputName (h : id.IsNamed) (language : Language) (hstart : identifierStart.has c = false)
    (hcontinue : identifierContinue.has c = false) (hpoint : c ≠ '.') (hunderscore : c ≠ '_')
    (hleast : c.toNat < leastLower) : c ∉ (language.outputName id).toList := by
  have hparts : ¬ ∃ part ∈ nameParts id, c ∈ part.toList := by
    rintro ⟨part, hpart, hc⟩
    exact notMem_of_isIdentifier (isIdentifier_of_mem_nameParts h hpart) hstart hcontinue hc
  have hsuffix {suffix : String} (hc : c ∈ suffix.toList)
      (hsmall : ∀ d ∈ suffix.toList, d = '.' ∨ leastLower ≤ d.toNat) : False := by
    rcases hsmall c hc with heq | hle
    · exact hpoint heq
    · omega
  intro hc
  cases language with
  | csharp =>
    change c ∈ (id.fullName ++ ".g.cs").toList at hc
    rw [String.toList_append, List.mem_append] at hc
    rcases hc with hc | hc
    · exact (mem_fullName hc).elim hpoint hparts
    · exact hsuffix hc (List.forall_iff_forall_mem.1 (by decide))
  | python =>
    change c ∈ ("_".intercalate ((nameParts id).map snakeCase) ++ ".py").toList at hc
    rw [String.toList_append, List.mem_append, String.toList_intercalate] at hc
    rcases hc with hc | hc
    · rcases mem_intercalate hc with hc | ⟨piece, hpiece, hc⟩
      · exact hunderscore (by simpa using hc)
      · obtain ⟨snake, hsnake, rfl⟩ := List.mem_map.1 hpiece
        obtain ⟨part, hpart, rfl⟩ := List.mem_map.1 hsnake
        rcases mem_snakeCase hc with hname | heq | hle
        · exact hparts ⟨part, hpart, hname⟩
        · exact hunderscore heq
        · omega
    · exact hsuffix hc (List.forall_iff_forall_mem.1 (by decide))

/-- An output name is longer than a pair of points. -/
theorem two_lt_length_outputName (language : Language) (id : Descriptor) :
    2 < (language.outputName id).toList.length := by
  cases language with
  | csharp =>
    change 2 < (id.fullName ++ ".g.cs").toList.length
    rw [String.toList_append, List.length_append]
    exact Nat.lt_add_left _ (by decide)
  | python =>
    change 2 < ("_".intercalate ((nameParts id).map snakeCase) ++ ".py").toList.length
    rw [String.toList_append, List.length_append]
    exact Nat.lt_add_left _ (by decide)

/-- An output name is none of the texts with two characters or less, such as the steps to a directory. -/
theorem outputName_ne_of_length_le (language : Language) (id : Descriptor) {text : String} (h : text.toList.length ≤ 2) :
    language.outputName id ≠ text := by
  rintro rfl
  have hlength := two_lt_length_outputName language id
  omega

/-- An output name is a step on its own. -/
theorem outputName_isPlainName (h : id.IsNamed) (language : Language) : Files.IsPlainName (language.outputName id) where
  ne_empty := outputName_ne_of_length_le language id (by decide)
  ne_point := outputName_ne_of_length_le language id (by decide)
  slash_notMem := notMem_outputName h language (by decide) (by decide) (by decide) (by decide) (by decide)

/-- An output name has no null character. -/
theorem null_notMem_outputName (h : id.IsNamed) (language : Language) :
    Char.ofNat 0 ∉ (language.outputName id).toList :=
  notMem_outputName h language (by decide) (by decide) (by decide) (by decide) (by decide)

/-- An output name has no line feed. -/
theorem newline_notMem_outputName (h : id.IsNamed) (language : Language) : '\n' ∉ (language.outputName id).toList :=
  notMem_outputName h language (by decide) (by decide) (by decide) (by decide) (by decide)

/-- In Python the output has the name of a module. -/
theorem exists_module (h : id.IsNamed) :
    ∃ module, isIdentifier module = true ∧ Language.python.outputName id = module ++ ".py" := by
  refine ⟨"_".intercalate ((nameParts id).map snakeCase), isIdentifier_intercalate (by simp [nameParts]) ?_, rfl⟩
  intro name hname
  obtain ⟨part, hpart, rfl⟩ := List.mem_map.1 hname
  exact isIdentifier_snakeCase (isIdentifier_of_mem_nameParts h hpart)

/-! ## Names of different types -/

/-- Nothing but the namespace and the name goes into the name of an output. -/
theorem outputName_congr (language : Language) (hspace : id.space = other.space) (hname : id.name = other.name) :
    language.outputName id = language.outputName other := by
  cases language with
  | csharp =>
    have hfull : id.fullName = other.fullName := by rw [Descriptor.fullName, Descriptor.fullName, hspace, hname]
    exact congrArg (· ++ ".g.cs") hfull
  | python =>
    have hparts : nameParts id = nameParts other := by rw [nameParts, nameParts, hspace, hname]
    exact congrArg (fun parts => "_".intercalate (parts.map snakeCase) ++ ".py") hparts

/-- The name of a C# output begins with the full name, in which the last point parts the namespace from the name. -/
theorem csharp_outputName_inj (h : id.IsNamed) (hother : other.IsNamed)
    (hsame : Language.csharp.outputName id = Language.csharp.outputName other) :
    id.space = other.space ∧ id.name = other.name := by
  change id.fullName ++ ".g.cs" = other.fullName ++ ".g.cs" at hsame
  have hfull : id.fullName = other.fullName := (String.append_left_inj ".g.cs").1 hsame
  exact qualify_inj (point_notMem_of_isIdentifier h.name) (point_notMem_of_isIdentifier hother.name) hfull

/-! ## Snake case of the full name -/

/-- A character of one of the parts is in the namespace or in the name, and a point only in the name. -/
theorem mem_of_mem_nameParts {part : String} (hpart : part ∈ nameParts id) (hc : c ∈ part.toList) :
    (c ∈ id.space.toList ∧ c ≠ '.') ∨ c ∈ id.name.toList := by
  rcases List.mem_append.1 hpart with hpart | hpart
  · split at hpart
    · exact absurd hpart (by simp)
    · obtain ⟨piece, hpiece, rfl⟩ := List.mem_map.1 hpart
      obtain ⟨hpoint, hsubset⟩ := of_mem_cutAt hpiece
      rw [String.toList_ofList] at hc
      refine Or.inl ⟨hsubset hc, ?_⟩
      rintro rfl
      exact hpoint hc
  · rw [List.mem_singleton.1 hpart] at hc
    exact Or.inr hc

/-- Snake case brings no points into a name. -/
theorem point_notMem_snakeCase {name : String} (h : '.' ∉ name.toList) : '.' ∉ (snakeCase name).toList := by
  intro hmem
  rcases mem_snakeCase hmem with hname | hunderscore | hleast
  · exact h hname
  · exact absurd hunderscore (by decide)
  · exact absurd hleast (by decide)

/-- Where the name holds no point and neither it nor the namespace a capital sigma, the name of the Python output is the
snake case of the full name with underscores for its points: it makes no difference whether the parts of a dotted path are
put into snake case, however many, or the whole path is. -/
theorem python_outputName_of_fullName (hpoint : '.' ∉ id.name.toList) (hspace : 'Σ' ∉ id.space.toList)
    (hname : 'Σ' ∉ id.name.toList) :
    Language.python.outputName id = underscored (snakeCase id.fullName) ++ ".py" ∧
      snakeCase id.fullName = joinDots ((nameParts id).map snakeCase) := by
  have hsigma : ∀ part ∈ nameParts id, 'Σ' ∉ part.toList := by
    intro part hpart hmem
    rcases mem_of_mem_nameParts hpart hmem with ⟨hmem, -⟩ | hmem
    · exact hspace hmem
    · exact hname hmem
  have hpoints : ∀ snake ∈ (nameParts id).map snakeCase, '.' ∉ snake.toList := by
    intro snake hsnake
    obtain ⟨part, hpart, rfl⟩ := List.mem_map.1 hsnake
    apply point_notMem_snakeCase
    intro hmem
    rcases mem_of_mem_nameParts hpart hmem with ⟨-, hne⟩ | hmem
    · exact hne rfl
    · exact hpoint hmem
  have hfull : snakeCase id.fullName = joinDots ((nameParts id).map snakeCase) := by
    rw [fullName_eq_joinDots, snakeCase_joinDots hsigma]
  refine ⟨?_, hfull⟩
  calc
    Language.python.outputName id = "_".intercalate ((nameParts id).map snakeCase) ++ ".py" := rfl
    _ = underscored (snakeCase id.fullName) ++ ".py" := by rw [hfull, underscored_joinDots hpoints]

/-- An identifier in a namespace with an empty part, and with a capital letter that two characters replace. -/
def dottedId : Descriptor := ⟨"HTTPApi..V2İ", "OrderID", .guid, true⟩

/-- A full name with two points in a row and a capital that two characters replace. -/
theorem python_outputName_of_dottedId :
    ('.' ∉ dottedId.name.toList ∧ 'Σ' ∉ dottedId.space.toList ∧ 'Σ' ∉ dottedId.name.toList) ∧
      Language.python.outputName dottedId = underscored (snakeCase dottedId.fullName) ++ ".py" ∧
      Language.python.outputName dottedId = "http_api__v2i̇_order_id.py" := by
  have hpoint : '.' ∉ dottedId.name.toList := by decide
  have hspace : 'Σ' ∉ dottedId.space.toList := by decide
  have hname : 'Σ' ∉ dottedId.name.toList := by decide
  exact ⟨⟨hpoint, hspace, hname⟩, (python_outputName_of_fullName hpoint hspace hname).1, by decide +kernel⟩

end Emit

end TypedId
