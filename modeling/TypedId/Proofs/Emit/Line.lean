import TypedId.Emit.Line
import TypedId.Proofs.Text.Filling
import TypedId.Proofs.Text.Segments

/-!
# Lines and the text they make

The lines of a text (`textLines`) are the lines that it was joined from, as long as none of them holds a line feed
(`textLines_joinLines`). A template is what lines with slots are spelled by; its slots may be filled before the text is
put together or in the whole text (`chars_fill`).
-/

set_option autoImplicit false

namespace TypedId.Emit

open Text

variable {line : Line} {lines : List Line} {filling : Filling}

/-- The lines of a text; behind the last line feed stands one more. -/
def textLines (text : String) : List String :=
  (cutAt '\n' text.toList).map String.ofList

/-- A text ends in one line feed and no more. -/
def EndsInLineFeed (text : String) : Prop :=
  ∃ (before : List Char) (last : Char), text.toList = before ++ [last, '\n'] ∧ last ≠ '\n'

/-! ## Templates -/

/-- Lines that are spelled out, each with its depth; some of the characters may be slots. -/
abbrev Template := List (Nat × List Char)

namespace Template

variable {template : Template}

/-- The lines as they are written. -/
def rows (template : Template) : List (List Char) :=
  template.map fun line => if line.2.isEmpty then [] else List.replicate (4 * line.1) ' ' ++ line.2

/-- The text of the lines, each ended by a line feed. -/
def chars (template : Template) : List Char :=
  template.rows.flatMap fun row => row ++ ['\n']

/-- The lines with their slots filled. -/
def fill (template : Template) (filling : Filling) : Template :=
  template.map fun line => (line.1, filling.fill line.2)

/-- Lines one after the other are filled one after the other. -/
theorem fill_append (template other : Template) (filling : Filling) :
    Template.fill (template ++ other) filling = template.fill filling ++ other.fill filling :=
  List.map_append

/-- Lines one after the other are written one after the other. -/
theorem rows_append (template other : Template) : Template.rows (template ++ other) = template.rows ++ other.rows :=
  List.map_append

/-- The text of lines one after the other is their texts one after the other. -/
theorem chars_append (template other : Template) :
    Template.chars (template ++ other) = template.chars ++ other.chars := by
  rw [chars, rows_append, List.flatMap_append]
  rfl

/-- The slots may be filled in the lines as they are written. -/
theorem rows_fill (hvisible : filling.IsVisible) (hspace : ' ' ∉ filling.slots) :
    (template.fill filling).rows = template.rows.map filling.fill := by
  rw [rows, fill, List.map_map, rows, List.map_map]
  refine List.map_congr_left fun line _ => ?_
  have hspaces : filling.fill (List.replicate (4 * line.1) ' ') = List.replicate (4 * line.1) ' ' :=
    Filling.fill_of_disjoint fun c hc => List.eq_of_mem_replicate hc ▸ hspace
  by_cases hempty : line.2 = []
  · simp [hempty]
  · -- a line that is not empty stays so, and is indented as before
    have hfilled : filling.fill line.2 ≠ [] := fun hnil => hempty ((Filling.fill_eq_nil_iff hvisible).1 hnil)
    simp [hempty, hfilled, hspaces]

/-- Slots may be filled line by line or in the whole text. -/
theorem chars_fill (hvisible : filling.IsVisible) (hspace : ' ' ∉ filling.slots) (hfeed : '\n' ∉ filling.slots) :
    (template.fill filling).chars = filling.fill template.chars := by
  rw [chars, chars, rows_fill hvisible hspace]
  induction template.rows with
  | nil => rfl
  | cons row rest ih =>
    rw [List.map_cons, List.flatMap_cons, List.flatMap_cons, ih, Filling.fill_append, Filling.fill_append,
      Filling.fill_cons, Filling.put_of_notMem hfeed, Filling.fill_nil, List.append_nil]

/-- The text of lines without line feeds is cut into these lines again, and an empty one stands at the end. -/
theorem cutAt_chars (h : ∀ row ∈ template.rows, '\n' ∉ row) : cutAt '\n' template.chars = template.rows ++ [[]] := by
  rw [chars]
  generalize template.rows = rows at h
  induction rows with
  | nil => rfl
  | cons row rest ih =>
    obtain ⟨hrow, hrest⟩ := List.forall_mem_cons.1 h
    rw [List.flatMap_cons, List.append_assoc, List.singleton_append, cutAt_append _ hrow, ih hrest, List.cons_append]

end Template

/-! ## Lines that are spelled out -/

/-- A line that is not empty is written with its indentation. -/
theorem written_of_ne (h : line.text ≠ "") : line.written = indentation line.depth ++ line.text :=
  if_neg (by simpa using h)

/-- A line at depth zero is written as its text. -/
theorem written_zero {text : String} (h : text ≠ "") : Line.written ⟨0, text⟩ = text :=
  (written_of_ne h).trans String.empty_append

/-- Lines with the characters of their texts. -/
def spell (lines : List Line) : Template :=
  lines.map fun line => (line.depth, line.text.toList)

/-- Lines one after the other are spelled one after the other. -/
theorem spell_append (lines others : List Line) : spell (lines ++ others) = spell lines ++ spell others :=
  List.map_append

/-- The lines that are spelled out are written as the lines themselves. -/
theorem rows_spell (lines : List Line) : (spell lines).rows = lines.map fun line => line.written.toList := by
  rw [spell, Template.rows, List.map_map]
  refine List.map_congr_left fun line _ => ?_
  have hempty : line.text.toList.isEmpty = line.text.isEmpty := by
    rw [Bool.eq_iff_iff, List.isEmpty_iff, String.isEmpty_iff, String.toList_eq_nil_iff]
  rw [Function.comp_apply, Line.written, hempty]
  split
  · rfl
  · rw [String.toList_append, indentation, String.toList_ofList]

/-- The text of lines is that of the same lines spelled out. -/
theorem toList_joinLines (lines : List Line) : (joinLines lines).toList = (spell lines).chars := by
  rw [joinLines, String.toList_join, Template.chars, rows_spell, List.flatMap_map, List.flatMap_map]
  exact List.flatMap_congr fun line _ => String.toList_append

/-- A line at the margin is written as it is. -/
theorem chars_spell_cons (text : String) (lines : List Line) :
    (spell (⟨0, text⟩ :: lines)).chars = text.toList ++ '\n' :: (spell lines).chars := by
  have hrow : (if text.toList.isEmpty then [] else List.replicate (4 * 0) ' ' ++ text.toList) = text.toList := by
    cases text.toList <;> rfl
  rw [spell, List.map_cons, Template.chars, Template.rows, List.map_cons, List.flatMap_cons, hrow, List.append_assoc]
  rfl

/-- Lines without line feeds are found again in the text that they are joined to. -/
theorem textLines_joinLines (h : ∀ row ∈ (spell lines).rows, '\n' ∉ row) :
    textLines (joinLines lines) = lines.map Line.written ++ [""] := by
  rw [textLines, toList_joinLines, Template.cutAt_chars h, rows_spell, List.map_append, List.map_map]
  simp [Function.comp_def]

/-- Joined lines end in one line feed if the last of them is not empty. -/
theorem endsInLineFeed_joinLines (h : ∀ row ∈ (spell lines).rows, '\n' ∉ row) (hline : lines.getLast? = some line)
    (hne : line.text ≠ "") : EndsInLineFeed (joinLines lines) := by
  obtain ⟨before, rfl⟩ := List.getLast?_eq_some_iff.1 hline
  have hrows : (spell (before ++ [line])).rows = (spell before).rows ++ [line.written.toList] := by
    rw [rows_spell, rows_spell, List.map_append, List.map_singleton]
  have hwritten : line.written.toList ≠ [] := by
    rw [written_of_ne hne, String.toList_append]
    simp [hne]
  obtain ⟨chars, last, hlast⟩ := (List.eq_nil_or_concat line.written.toList).resolve_left hwritten
  refine ⟨(spell before).chars ++ chars, last, ?_, ?_⟩
  · rw [toList_joinLines, Template.chars, hrows, List.flatMap_append, List.flatMap_singleton, hlast,
      List.concat_eq_append, List.append_assoc, List.append_assoc]
    rfl
  · rintro rfl
    exact h line.written.toList (by simp [hrows]) (by simp [hlast])

/-! ## Texts that are written out -/

/-- The characters of a text that is given by its characters. -/
theorem toList_literal {text : String} {chars : List Char} (h : text = String.ofList chars) : text.toList = chars := by
  rw [h, String.toList_ofList]

/-! ## Two slots -/

/-- The texts for the two slots of the templates for identifiers. -/
def slotted (first second : String) : Filling :=
  [('^', first.toList), ('$', second.toList)]

/-- A blank is no slot. -/
theorem space_notMem_slotted (first second : String) : ' ' ∉ (slotted first second).slots :=
  show ' ' ∉ ['^', '$'] by decide

/-- A line feed is no slot. -/
theorem newline_notMem_slotted (first second : String) : '\n' ∉ (slotted first second).slots :=
  show '\n' ∉ ['^', '$'] by decide

/-- The first slot stands for the first text. -/
theorem fill_first (first second : String) : (slotted first second).fill "^".toList = first.toList := by
  rw [toList_literal (show "^" = String.ofList ['^'] from rfl)]
  exact List.append_nil _

/-- The second slot stands for the second text. -/
theorem fill_second (first second : String) : (slotted first second).fill "$".toList = second.toList := by
  rw [toList_literal (show "$" = String.ofList ['$'] from rfl)]
  exact List.append_nil _

/-- A text without slots that is written out stays as it is. -/
theorem fill_literal {first second text : String} {chars : List Char}
    (h : text = String.ofList chars ∧ chars.all (fun c => !(['^', '$'].contains c)) = true) :
    (slotted first second).fill text.toList = text.toList := by
  rw [toList_literal h.1]
  refine Filling.fill_of_disjoint fun c hc => ?_
  simpa [slotted, Filling.slots] using List.all_eq_true.1 h.2 c hc

/-- No slot stands for the empty text, as long as neither text is empty. -/
theorem isVisible_slotted {first second : String} (hfirst : first ≠ "") (hsecond : second ≠ "") :
    (slotted first second).IsVisible := by
  intro entry hentry
  rcases List.mem_cons.1 hentry with rfl | hentry
  · simpa using hfirst
  · obtain rfl := List.mem_singleton.1 hentry
    simpa using hsecond

end TypedId.Emit
