import Mathlib.Data.List.TakeWhile
import TypedId.Text.Identifier

/-!
# Cutting and joining

Cutting a text at a separator and joining pieces by it undo each other, as long as no piece holds the separator
(`cutAt_intercalate`). A dotted path is therefore the same as the sequence of its names: `isDottedPath_joinDots` says
that names joined by points are a dotted path, and `qualify_joinDots` that putting a path inside a path joins all their
names.
-/

set_option autoImplicit false

namespace TypedId.Text

variable {separator : Char}

/-! ## Cutting at a separator -/

/-- There is at least one piece. -/
theorem cutAt_ne_nil (text : List Char) : cutAt separator text ≠ [] := by
  cases text with
  | nil => simp [cutAt]
  | cons c rest =>
    rw [cutAt]
    split
    · simp
    · split <;> simp

/-- A piece up to the first separator comes before the pieces of the rest. -/
theorem cutAt_append {piece : List Char} (rest : List Char) (h : separator ∉ piece) :
    cutAt separator (piece ++ separator :: rest) = piece :: cutAt separator rest := by
  induction piece with
  | nil => simp [cutAt]
  | cons c piece ih =>
    have hhead : c ≠ separator := fun heq => h (by simp [heq])
    have htail : separator ∉ piece := fun hmem => h (List.mem_cons_of_mem _ hmem)
    rw [List.cons_append, cutAt, if_neg hhead, ih htail]

/-- What stands in front of the first separator of a text and behind it is found again. -/
theorem append_separator_inj {first second behind rest : List Char} (hfirst : separator ∉ first)
    (hsecond : separator ∉ second) (h : first ++ separator :: behind = second ++ separator :: rest) :
    first = second ∧ behind = rest := by
  have hcut := congrArg (cutAt separator) h
  rw [cutAt_append _ hfirst, cutAt_append _ hsecond] at hcut
  obtain rfl := (List.cons.inj hcut).1
  exact ⟨rfl, (List.cons.inj (List.append_cancel_left h)).2⟩

/-- A text without the separator is one piece. -/
theorem cutAt_of_notMem {text : List Char} (h : separator ∉ text) : cutAt separator text = [text] := by
  induction text with
  | nil => rfl
  | cons c text ih =>
    have hhead : c ≠ separator := fun heq => h (by simp [heq])
    have htail : separator ∉ text := fun hmem => h (List.mem_cons_of_mem _ hmem)
    rw [cutAt, if_neg hhead, ih htail]

/-- Pieces without the separator are found again in what they are joined to. -/
theorem cutAt_intercalate {pieces : List (List Char)} (hne : pieces ≠ [])
    (h : ∀ piece ∈ pieces, separator ∉ piece) : cutAt separator ([separator].intercalate pieces) = pieces := by
  induction pieces with
  | nil => exact absurd rfl hne
  | cons piece rest ih =>
    have hpiece := h piece List.mem_cons_self
    cases rest with
    | nil => simpa using cutAt_of_notMem hpiece
    | cons next rest =>
      have hrest := ih (by simp) fun other hmem => h other (List.mem_cons_of_mem _ hmem)
      rw [List.intercalate_cons_cons, List.append_assoc, List.singleton_append, cutAt_append _ hpiece, hrest]

/-- What a text is cut into is joined to the text again. -/
theorem intercalate_cutAt (separator : Char) (text : List Char) :
    [separator].intercalate (cutAt separator text) = text := by
  induction text with
  | nil => rfl
  | cons c rest ih =>
    obtain ⟨piece, pieces, hcut⟩ := List.exists_cons_of_ne_nil (show cutAt separator rest ≠ [] from cutAt_ne_nil rest)
    rw [hcut] at ih
    rw [cutAt, hcut]
    split
    · rename_i hc
      rw [List.intercalate_cons_cons, ih, List.nil_append, hc, List.singleton_append]
    · cases pieces with
      | nil => simpa using ih
      | cons next more =>
        rw [List.intercalate_cons_cons] at ih ⊢
        rw [← ih, List.append_assoc, List.append_assoc, List.cons_append]

/-- No piece holds the separator, and its characters are those of the text. -/
theorem of_mem_cutAt {text piece : List Char} (h : piece ∈ cutAt separator text) :
    separator ∉ piece ∧ piece ⊆ text := by
  induction text generalizing piece with
  | nil =>
    obtain rfl : piece = [] := by simpa [cutAt] using h
    simp
  | cons c text ih =>
    rw [cutAt] at h
    split at h
    · rcases List.mem_cons.1 h with rfl | h
      · simp
      · exact ⟨(ih h).1, List.subset_cons_of_subset c (ih h).2⟩
    · rename_i hc
      split at h
      · rename_i hnil
        exact absurd hnil (cutAt_ne_nil text)
      · rename_i first others hcut
        rcases List.mem_cons.1 h with rfl | h
        · have hfirst := ih (show first ∈ cutAt separator text by rw [hcut]; exact List.mem_cons_self)
          refine ⟨fun hmem => ?_, List.cons_subset_cons c hfirst.2⟩
          rcases List.mem_cons.1 hmem with heq | hmem
          · exact hc heq.symm
          · exact hfirst.1 hmem
        · have hother := ih (show piece ∈ cutAt separator text by rw [hcut]; exact List.mem_cons_of_mem _ h)
          exact ⟨hother.1, List.subset_cons_of_subset c hother.2⟩

/-- A character of the text is a separator or in one of the pieces. -/
theorem mem_cutAt {text : List Char} {c : Char} (h : c ∈ text) :
    c = separator ∨ ∃ piece ∈ cutAt separator text, c ∈ piece := by
  induction text with
  | nil => exact absurd h (by simp)
  | cons d text ih =>
    have hhere : cutAt separator (d :: text) = [] :: cutAt separator text ∧ d = separator ∨
        ∃ piece pieces, cutAt separator text = piece :: pieces ∧
          cutAt separator (d :: text) = (d :: piece) :: pieces := by
      rw [cutAt]
      split
      · rename_i heq
        exact Or.inl ⟨rfl, heq⟩
      · obtain ⟨piece, pieces, hcut⟩ := List.exists_cons_of_ne_nil (show cutAt separator text ≠ [] from cutAt_ne_nil text)
        rw [hcut]
        exact Or.inr ⟨piece, pieces, rfl, rfl⟩
    rcases hhere with ⟨hcut, hd⟩ | ⟨first, others, hrest, hcut⟩
    · rcases List.mem_cons.1 h with rfl | h
      · exact Or.inl hd
      · refine (ih h).imp_right fun ⟨piece, hpiece, hc⟩ => ⟨piece, ?_, hc⟩
        rw [hcut]
        exact List.mem_cons_of_mem _ hpiece
    · rw [hcut]
      rcases List.mem_cons.1 h with rfl | h
      · exact Or.inr ⟨_, List.mem_cons_self, List.mem_cons_self⟩
      · refine (ih h).imp_right fun ⟨piece, hpiece, hc⟩ => ?_
        rw [hrest] at hpiece
        rcases List.mem_cons.1 hpiece with rfl | hpiece
        · exact ⟨_, List.mem_cons_self, List.mem_cons_of_mem _ hc⟩
        · exact ⟨piece, List.mem_cons_of_mem _ hpiece, hc⟩

/-- A character of joined pieces is in the separator or in one of the pieces. -/
theorem mem_intercalate {separator : List Char} {pieces : List (List Char)} {c : Char}
    (h : c ∈ separator.intercalate pieces) : c ∈ separator ∨ ∃ piece ∈ pieces, c ∈ piece := by
  induction pieces with
  | nil => exact absurd h (by simp)
  | cons piece rest ih =>
    cases rest with
    | nil => exact Or.inr ⟨piece, List.mem_cons_self, by simpa using h⟩
    | cons next rest =>
      rw [List.intercalate_cons_cons, List.append_assoc, List.mem_append, List.mem_append] at h
      rcases h with h | h | h
      · exact Or.inr ⟨piece, List.mem_cons_self, h⟩
      · exact Or.inl h
      · exact (ih h).imp_right fun ⟨other, hother, hc⟩ => ⟨other, List.mem_cons_of_mem _ hother, hc⟩

/-- What holds of the characters of the separator and of the pieces holds of those of the joined text. -/
theorem forall_mem_intercalate {P : Char → Prop} {separator : String} {pieces : List String}
    (hseparator : ∀ c ∈ separator.toList, P c) (hpieces : ∀ piece ∈ pieces, ∀ c ∈ piece.toList, P c) :
    ∀ c ∈ (separator.intercalate pieces).toList, P c := by
  intro c hc
  rw [String.toList_intercalate] at hc
  rcases mem_intercalate hc with hc | ⟨chars, hchars, hc⟩
  · exact hseparator c hc
  · obtain ⟨piece, hpiece, rfl⟩ := List.mem_map.1 hchars
    exact hpieces piece hpiece c hc

/-! ## Names -/

/-- An identifier is not empty and consists of characters that begin or continue one. -/
theorem isIdentifier_iff {name : String} :
    isIdentifier name = true ↔ ∃ c rest, name.toList = c :: rest ∧ Unicode.identifierStart.has c = true ∧
      ∀ d ∈ rest, Unicode.identifierContinue.has d = true := by
  rw [isIdentifier]
  cases name.toList with
  | nil => simp [isIdentifierChars]
  | cons c rest =>
    rw [isIdentifierChars, Bool.and_eq_true, List.all_eq_true]
    constructor
    · rintro ⟨hstart, hrest⟩
      exact ⟨c, rest, rfl, hstart, hrest⟩
    · rintro ⟨_, _, heq, hstart, hrest⟩
      cases heq
      exact ⟨hstart, hrest⟩

/-- A character that neither begins nor continues identifiers is in none. -/
theorem notMem_of_isIdentifier {name : String} (h : isIdentifier name = true) {c : Char}
    (hstart : Unicode.identifierStart.has c = false) (hcontinue : Unicode.identifierContinue.has c = false) :
    c ∉ name.toList := by
  obtain ⟨first, rest, hname, hfirst, hrest⟩ := isIdentifier_iff.1 h
  rw [hname]
  intro hmem
  rcases List.mem_cons.1 hmem with rfl | hmem
  · rw [hfirst] at hstart
    exact absurd hstart (by simp)
  · rw [hrest c hmem] at hcontinue
    exact absurd hcontinue (by simp)

/-- An identifier has no point. -/
theorem point_notMem_of_isIdentifier {name : String} (h : isIdentifier name = true) : '.' ∉ name.toList :=
  notMem_of_isIdentifier h (by decide) (by decide)

/-- An identifier is not empty. -/
theorem ne_empty_of_isIdentifier {name : String} (h : isIdentifier name = true) : name ≠ "" := by
  rintro rfl
  exact absurd h (by decide)

/-! ## Dotted paths -/

/-- Pieces are joined by single points. -/
theorem toList_joinDots (names : List String) :
    (joinDots names).toList = ['.'].intercalate (names.map String.toList) :=
  String.toList_intercalate

/-- Names without points are found again in the path that they are joined to. -/
theorem segments_joinDots {names : List String} (hne : names ≠ []) (h : ∀ name ∈ names, '.' ∉ name.toList) :
    segments (joinDots names) = names := by
  have hpieces : ∀ piece ∈ names.map String.toList, '.' ∉ piece := by
    intro piece hmem
    obtain ⟨name, hname, rfl⟩ := List.mem_map.1 hmem
    exact h name hname
  rw [segments, toList_joinDots, cutAt_intercalate (by simpa using hne) hpieces, List.map_map]
  simp [Function.comp_def]

/-- The pieces of a text between its points are joined to the text again. -/
theorem joinDots_segments (text : String) : joinDots (segments text) = text := by
  apply String.toList_injective
  rw [toList_joinDots, segments, List.map_map]
  simpa [Function.comp_def] using intercalate_cutAt '.' text.toList

/-- Identifiers joined by points are a dotted path. -/
theorem isDottedPath_joinDots {names : List String} (h : ∀ name ∈ names, isIdentifier name = true) :
    isDottedPath (joinDots names) = true := by
  rw [isDottedPath, Bool.or_eq_true]
  by_cases hne : names = []
  · left
    rw [hne]
    rfl
  · right
    rw [segments_joinDots hne fun name hname => point_notMem_of_isIdentifier (h name hname)]
    exact List.all_eq_true.2 h

/-- The pieces of a path between its points are identifiers, unless the path is empty. -/
theorem isIdentifier_of_mem_segments {path segment : String} (h : isDottedPath path = true) (hne : path ≠ "")
    (hmem : segment ∈ segments path) : isIdentifier segment = true := by
  rw [isDottedPath, Bool.or_eq_true] at h
  exact List.all_eq_true.1 (h.resolve_left (by simpa using hne)) segment hmem

/-- A character of a path that is no point is in one of its pieces. -/
theorem mem_segments {path : String} {c : Char} (h : c ∈ path.toList) :
    c = '.' ∨ ∃ segment ∈ segments path, c ∈ segment.toList := by
  refine (mem_cutAt h).imp_right fun ⟨piece, hpiece, hc⟩ => ?_
  exact ⟨String.ofList piece, List.mem_map_of_mem hpiece, by rwa [String.toList_ofList]⟩

/-- The last name of a path is the piece behind its last point. -/
theorem lastSegment_joinDots {names : List String} {last : String} (hlast : names.getLast? = some last)
    (h : '.' ∉ last.toList) : lastSegment (joinDots names) = last := by
  obtain ⟨front, rfl⟩ := List.getLast?_eq_some_iff.1 hlast
  have hkept : ∀ c ∈ last.toList.reverse, (c != '.') = true := by
    intro c hc
    rw [bne_iff_ne]
    rintro rfl
    exact h (List.mem_reverse.1 hc)
  have hbehind : ∃ before, (joinDots (front ++ [last])).toList.reverse = last.toList.reverse ++ before ∧
      ∀ c ∈ before.head?, c = '.' := by
    by_cases hne : front = []
    · exact ⟨[], by rw [hne]; simp [joinDots], by simp⟩
    · refine ⟨'.' :: (joinDots front).toList.reverse, ?_, by simp⟩
      rw [joinDots, String.intercalate_append_of_ne_nil hne (by simp)]
      simp [joinDots]
  obtain ⟨before, hreverse, hhead⟩ := hbehind
  have hstop : before.takeWhile (· != '.') = [] := by
    cases before with
    | nil => rfl
    | cons c rest => simp [hhead c (by simp)]
  rw [lastSegment, hreverse, List.takeWhile_append_of_pos hkept, hstop, List.append_nil, List.reverse_reverse,
    String.ofList_toList]

/-- Joining is empty only without names or with a single empty one. -/
theorem joinDots_cons_ne_empty {name : String} (rest : List String) (h : name ≠ "") : joinDots (name :: rest) ≠ "" := by
  intro hempty
  cases rest with
  | nil => exact h (by simpa [joinDots] using hempty)
  | cons next rest =>
    rw [joinDots, String.intercalate_cons_cons] at hempty
    have hlist := congrArg String.toList hempty
    simp at hlist

/-- A path inside a path joins all names. -/
theorem qualify_joinDots {outer inner : List String} (houter : ∀ name ∈ outer, name ≠ "") (hinner : inner ≠ []) :
    qualify (joinDots outer) (joinDots inner) = joinDots (outer ++ inner) := by
  cases outer with
  | nil => rfl
  | cons name rest =>
    have hne := joinDots_cons_ne_empty rest (houter name List.mem_cons_self)
    rw [qualify, if_neg (by simpa using hne)]
    exact (String.intercalate_append_of_ne_nil (by simp) hinner).symm

/-- Nothing stands in front of the last point of a text that begins with its only point. -/
theorem eq_nil_of_append_point {between last other : List Char} (hlast : '.' ∉ last)
    (h : '.' :: last = between ++ '.' :: other) : between = [] := by
  cases between with
  | nil => rfl
  | cons c between =>
    rw [(List.cons.inj h).2] at hlast
    simp at hlast

/-- What stands in front of the last point of a text and behind it is found again. -/
theorem append_point_inj {first second last other : List Char} (hlast : '.' ∉ last) (hother : '.' ∉ other)
    (h : first ++ '.' :: last = second ++ '.' :: other) : first = second ∧ last = other := by
  rcases List.append_eq_append_iff.1 h with ⟨between, hsecond, hbehind⟩ | ⟨between, hfirst, hbehind⟩
  · obtain rfl := eq_nil_of_append_point hlast hbehind
    exact ⟨by simpa using hsecond.symm, (List.cons.inj hbehind).2⟩
  · obtain rfl := eq_nil_of_append_point hother hbehind
    exact ⟨by simpa using hfirst, (List.cons.inj hbehind).2.symm⟩

/-- A name inside a namespace stands behind the namespace and a point. -/
theorem toList_qualify {space name : String} (h : space ≠ "") :
    (qualify space name).toList = space.toList ++ '.' :: name.toList := by
  rw [qualify, if_neg (by simpa using h)]
  simp

/-- A name without points and the namespace around it are found again in the full name. -/
theorem qualify_inj {space other name name' : String} (hname : '.' ∉ name.toList) (hname' : '.' ∉ name'.toList)
    (h : qualify space name = qualify other name') : space = other ∧ name = name' := by
  by_cases hspace : space = "" <;> by_cases hother : other = ""
  · subst hspace hother
    exact ⟨rfl, h⟩
  · subst hspace
    rw [show name = _ from h, toList_qualify hother] at hname
    simp at hname
  · subst hother
    rw [show name' = _ from h.symm, toList_qualify hspace] at hname'
    simp at hname'
  · have hsame := congrArg String.toList h
    rw [toList_qualify hspace, toList_qualify hother] at hsame
    obtain ⟨houter, hinner⟩ := append_point_inj hname hname' hsame
    exact ⟨String.toList_inj.1 houter, String.toList_inj.1 hinner⟩

end TypedId.Text
