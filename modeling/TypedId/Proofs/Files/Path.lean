import TypedId.Proofs.Files.Store
import TypedId.Proofs.Text.Segments

/-!
# Where a path leads

The names of a path are the steps that its text is walked by, from the working directory or from the root
(`walk_pieces_text`), as long as no name is empty, a single point or holds a slash. That is so for every path read from
a text (`isPlain_ofText`) and stays so behind a plain name (`IsPlain.child`). A plain name below a directory leads to
the place of that name there, both for looking it up and for writing a file (`locate_child_iff`, `fileLocation_child`).
-/

set_option autoImplicit false

namespace TypedId.Files

open Text

/-- A name that is a step on its own: it is not empty, not a single point and holds no slash. -/
structure IsPlainName (name : String) : Prop where
  ne_empty : name ≠ ""
  ne_point : name ≠ "."
  slash_notMem : '/' ∉ name.toList

namespace Path

/-- A path with one of the three roots whose names are steps on their own. -/
structure IsPlain (path : Path) : Prop where
  root : path.root = "" ∨ path.root = "/" ∨ path.root = "//"
  names : ∀ name ∈ path.names, IsPlainName name

variable {path : Path} {name : String}

/-- A path has one of three roots. -/
theorem rootOf_cases (slashes : Nat) : rootOf slashes = "" ∨ rootOf slashes = "/" ∨ rootOf slashes = "//" := by
  unfold rootOf
  split <;> simp

/-- The path of any text is plain. -/
theorem isPlain_ofText (text : String) : (ofText text).IsPlain where
  root := rootOf_cases _
  names := by
    intro name hname
    obtain ⟨hpiece, hkept⟩ := List.mem_filter.1 hname
    obtain ⟨piece, hcut, rfl⟩ := List.mem_map.1 hpiece
    simp only [Bool.and_eq_true, bne_iff_ne] at hkept
    refine ⟨hkept.1, hkept.2, ?_⟩
    rw [String.toList_ofList]
    exact (of_mem_cutAt hcut).1

/-- A plain path stays plain with a name that is a step on its own. -/
theorem IsPlain.child (hpath : path.IsPlain) (hname : IsPlainName name) : (path.child name).IsPlain where
  root := hpath.root
  names := by
    intro other hother
    rcases List.mem_append.1 hother with hother | hother
    · exact hpath.names other hother
    · rw [List.mem_singleton.1 hother]
      exact hname

/-- The location from which the names of a path are counted. -/
def origin (path : Path) : Location :=
  if path.root = "" then .working else ⟨.root, []⟩

/-- The location from which a path is counted has no names. -/
theorem names_origin : path.origin.names = [] := by
  rw [origin]
  split <;> rfl

/-- Names between slashes are cut apart at the slashes again. -/
theorem names_intercalate {names : List String} (hne : names ≠ []) (hnames : ∀ name ∈ names, IsPlainName name) :
    cutAt '/' ("/".intercalate names).toList = names.map String.toList := by
  rw [String.toList_intercalate]
  refine cutAt_intercalate (by simpa using hne) fun piece hpiece => ?_
  obtain ⟨name, hname, rfl⟩ := List.mem_map.1 hpiece
  exact (hnames name hname).slash_notMem

/-- The text of a path with names: slashes for the root and the names with slashes between them. -/
theorem text_of_names_ne_nil (hne : path.names ≠ []) : path.text = path.root ++ "/".intercalate path.names := by
  rw [text, if_neg]
  simp [hne]

/-- What the text of a path with names is cut into: an empty piece for each slash of the root, then the names. -/
theorem pieces_text (hpath : path.IsPlain) (hne : path.names ≠ []) :
    ∃ blanks, (∀ blank ∈ blanks, blank = "") ∧ pieces path.text = blanks ++ path.names := by
  have hnames := names_intercalate hne hpath.names
  have hmap : (path.names.map String.toList).map String.ofList = path.names := by
    rw [List.map_map]
    simp [Function.comp_def]
  rw [text_of_names_ne_nil hne, pieces, String.toList_append]
  rcases hpath.root with hroot | hroot | hroot
  · refine ⟨[], by simp, ?_⟩
    rw [hroot]
    change (cutAt '/' ("/".intercalate path.names).toList).map String.ofList = path.names
    rw [hnames, hmap]
  · refine ⟨[""], by simp, ?_⟩
    rw [hroot]
    change (cutAt '/' ([] ++ '/' :: ("/".intercalate path.names).toList)).map String.ofList = "" :: path.names
    rw [cutAt_append _ (by simp), hnames, List.map_cons, hmap]
  · refine ⟨["", ""], by simp, ?_⟩
    rw [hroot]
    change (cutAt '/' ([] ++ '/' :: ([] ++ '/' :: ("/".intercalate path.names).toList))).map String.ofList
      = "" :: "" :: path.names
    rw [cutAt_append _ (by simp), cutAt_append _ (by simp), hnames, List.map_cons, List.map_cons, hmap]

/-- The text of a path begins with a slash exactly if the path has a root. -/
theorem origin_text (hpath : path.IsPlain) : Store.origin path.text = path.origin := by
  by_cases hne : path.names = []
  · rw [Store.origin, origin, text, hne]
    rcases hpath.root with hroot | hroot | hroot <;> rw [hroot] <;> rfl
  · rw [Store.origin, origin, text_of_names_ne_nil hne, String.toList_append]
    rcases hpath.root with hroot | hroot | hroot
    · rw [hroot, if_pos rfl]
      obtain ⟨name, rest, hnames⟩ := List.exists_cons_of_ne_nil hne
      have hname := hpath.names name (by rw [hnames]; exact List.mem_cons_self)
      obtain ⟨c, tail, hchars⟩ := List.exists_cons_of_ne_nil fun hnil => hname.ne_empty (String.toList_eq_nil_iff.1 hnil)
      have hc : c ≠ '/' := by
        rintro rfl
        exact hname.slash_notMem (by rw [hchars]; exact List.mem_cons_self)
      have hhead : ("/".intercalate path.names).toList.head? = some c := by
        rw [hnames, String.toList_intercalate, List.map_cons, hchars]
        cases rest <;> simp [List.intercalate_cons_cons]
      change (if ("/".intercalate path.names).toList.head? = some '/' then _ else _) = _
      rw [hhead, if_neg (by simpa using hc)]
    · rw [hroot]
      rfl
    · rw [hroot]
      rfl

end Path

namespace Store

open Files.Path

variable {store made : Store} {path : Path} {name : String} {place : Location}

/-- Empty pieces and single points lead nowhere else. -/
theorem walk_blanks {blanks names : List String} (hblanks : ∀ blank ∈ blanks, blank = "" ∨ blank = ".")
    (hplace : store.entry? place = some .directory) :
    store.walk place (blanks ++ names) = store.walk place names := by
  induction blanks with
  | nil => rfl
  | cons blank rest ih =>
    have hstep : store.step place blank = .ok place := by
      rw [step_of_directory hplace, if_pos]
      rcases hblanks blank List.mem_cons_self with rfl | rfl <;> simp
    rw [List.cons_append, walk, hstep]
    exact ih fun other hother => hblanks other (List.mem_cons_of_mem _ hother)

/-- The text of a path is walked by its names. -/
theorem walk_pieces_text (hpath : path.IsPlain) :
    store.walk (Store.origin path.text) (pieces path.text) = store.walk path.origin path.names := by
  rw [origin_text hpath]
  have horigin : store.entry? path.origin = some .directory := entry?_of_names_nil names_origin
  by_cases hne : path.names = []
  · have hblanks : ∀ blank ∈ pieces path.text, blank = "" ∨ blank = "." := by
      rw [Path.text, hne]
      rcases hpath.root with hroot | hroot | hroot <;> rw [hroot] <;> decide
    have hwalk : store.walk path.origin (pieces path.text ++ []) = store.walk path.origin [] :=
      walk_blanks hblanks horigin
    rwa [List.append_nil, ← hne] at hwalk
  · obtain ⟨blanks, hblanks, hpieces⟩ := pieces_text hpath hne
    rw [hpieces]
    exact walk_blanks (fun blank hblank => Or.inl (hblanks blank hblank)) horigin

/-- The text of a path is not empty. -/
theorem text_ne_empty (hpath : path.IsPlain) : path.text ≠ "" := by
  by_cases hne : path.names = []
  · rw [Path.text, hne]
    rcases hpath.root with hroot | hroot | hroot <;> rw [hroot] <;> decide
  · obtain ⟨name, rest, hnames⟩ := List.exists_cons_of_ne_nil hne
    have hname := (hpath.names name (by rw [hnames]; exact List.mem_cons_self)).ne_empty
    rw [text_of_names_ne_nil hne, hnames]
    intro hempty
    obtain ⟨-, hjoined⟩ := String.append_eq_empty_iff.1 hempty
    cases rest with
    | nil => exact hname (by simpa using hjoined)
    | cons next rest =>
      rw [String.intercalate_cons_cons] at hjoined
      exact absurd (congrArg String.toList hjoined) (by simp)

/-- The text of a plain path leads where its names lead from its origin, unless it has a null character. -/
theorem locate_text (hpath : path.IsPlain) :
    store.locate path.text =
      if path.text.toList.contains (Char.ofNat 0) then .error .nullCharacter else store.walk path.origin path.names := by
  rw [locate, walk_pieces_text hpath]
  split
  · rfl
  · rw [if_neg]
    simpa using text_ne_empty hpath

/-- A path leads to a location if no null character is in the way and its names do. -/
theorem locate_text_iff (hpath : path.IsPlain) :
    store.locate path.text = .ok place ↔
      Char.ofNat 0 ∉ path.text.toList ∧ store.walk path.origin path.names = .ok place := by
  rw [locate_text hpath, List.contains_eq_mem]
  by_cases hnull : Char.ofNat 0 ∈ path.text.toList <;> simp [hnull]

/-! ## Names below a directory -/

/-- The null character is neither in the path nor in the name, or it is in the text of the name below the path. -/
theorem null_mem_child_iff (hpath : path.IsPlain) :
    Char.ofNat 0 ∈ (path.child name).text.toList ↔ Char.ofNat 0 ∈ path.text.toList ∨ Char.ofNat 0 ∈ name.toList := by
  have hchild : (path.child name).names ≠ [] := by simp [Path.child]
  rw [text_of_names_ne_nil hchild]
  by_cases hne : path.names = []
  · rw [Path.child, hne, Path.text, hne]
    rcases hpath.root with hroot | hroot | hroot <;> rw [hroot] <;> simp
  · rw [Path.child, text_of_names_ne_nil hne, String.intercalate_append_of_ne_nil hne (by simp)]
    simp [or_assoc]

/-- A plain name that is no pair of points leads from a directory to its place there. -/
theorem locate_child_iff (hpath : path.IsPlain) (hname : IsPlainName name) (hup : name ≠ "..")
    (hnull : Char.ofNat 0 ∉ name.toList) :
    store.locate (path.child name).text = .ok place ↔
      ∃ above, store.locate path.text = .ok above ∧ store.entry? above = some .directory ∧ place = above.child name := by
  have hstep {above : Location} (habove : store.entry? above = some .directory) :
      store.step above name = .ok (above.child name) := by
    rw [step_of_directory habove, if_neg (by simpa using ⟨hname.ne_empty, hname.ne_point⟩), if_neg hup]
  rw [locate_text_iff (hpath.child hname), null_mem_child_iff hpath]
  constructor
  · rintro ⟨hnot, hwalk⟩
    obtain ⟨above, habove, hlast⟩ := walk_append.1 hwalk
    obtain ⟨next, hnext, hnil⟩ := walk_cons.1 hlast
    have hdirectory := directory_of_step hnext
    refine ⟨above, (locate_text_iff hpath).2 ⟨fun h => hnot (Or.inl h), habove⟩, hdirectory, ?_⟩
    rw [hstep hdirectory] at hnext
    exact (Except.ok.inj hnil).symm.trans (Except.ok.inj hnext).symm
  · rintro ⟨above, habove, hdirectory, rfl⟩
    obtain ⟨hnot, hwalk⟩ := (locate_text_iff hpath).1 habove
    refine ⟨fun h => h.elim hnot hnull, ?_⟩
    exact walk_append.2 ⟨above, hwalk, walk_cons.2 ⟨_, hstep hdirectory, rfl⟩⟩

/-- The last piece is empty only if the text is empty or ends with the separator. -/
theorem getLast?_cutAt {separator : Char} {text : List Char} (h : (cutAt separator text).getLast? = some []) :
    text = [] ∨ text.getLast? = some separator := by
  induction text with
  | nil => exact Or.inl rfl
  | cons c rest ih =>
    right
    rw [List.getLast?_cons]
    have hcut : cutAt separator rest ≠ [] := cutAt_ne_nil rest
    have hrest (hlast : (cutAt separator rest).getLast? = some []) (hc : rest = [] → c = separator) :
        some (rest.getLast?.getD c) = some separator := by
      rcases ih hlast with hnil | hsome
      · rw [hnil, hc hnil]
        rfl
      · rw [hsome]
        rfl
    rw [cutAt] at h
    split at h
    · rename_i hc
      rw [List.getLast?_cons_of_ne_nil hcut] at h
      exact hrest h fun _ => hc
    · split at h
      · rename_i hnil
        exact absurd hnil hcut
      · rename_i piece pieces hpieces
        cases pieces with
        | nil => exact absurd h (by simp)
        | cons next more =>
          rw [List.getLast?_cons_cons] at h
          refine hrest (by rw [hpieces, List.getLast?_cons_cons, h]) fun hnil => ?_
          rw [hnil] at hpieces
          exact absurd hpieces (by simp [cutAt])

/-- A text that does not end with a slash leads to the same place for a file as for anything else. -/
theorem fileLocation_of_getLast? {text : String} (h : text.toList.getLast? ≠ some '/') :
    store.fileLocation text = store.locate text := by
  rw [fileLocation, locate]
  split
  · rfl
  · split
    · rfl
    · rename_i hempty
      cases hreverse : (pieces text).reverse with
      | nil =>
        have hcut : cutAt '/' text.toList = [] := by simpa [pieces] using hreverse
        exact absurd hcut (cutAt_ne_nil _)
      | cons last above =>
        have hlast : (pieces text).getLast? = some last := by rw [← List.head?_reverse, hreverse, List.head?_cons]
        have hne : last ≠ "" := by
          rintro rfl
          rw [pieces, List.getLast?_map, Option.map_eq_some_iff] at hlast
          obtain ⟨piece, hpiece, hnil⟩ := hlast
          obtain rfl : piece = [] := String.ofList_injective hnil
          rcases getLast?_cutAt hpiece with hnil | hslash
          · exact hempty (by simpa using hnil)
          · exact h hslash
        rw [List.dropWhile_cons_of_neg (by simpa using hne)]
        change (store.walk _ (last :: above).reverse).bind _ = _
        rw [← hreverse, List.reverse_reverse]
        cases store.walk (origin text) (pieces text) <;> rfl

/-- A file can be written where its text leads to only if no slash ends the text. -/
theorem locate_of_fileLocation {text : String} (h : store.fileLocation text = .ok place) :
    store.locate text = .ok place := by
  rw [← fileLocation_of_getLast?, h]
  intro hslash
  rw [fileLocation] at h
  split at h
  · exact absurd h (by simp)
  · split at h
    · exact absurd h (by simp)
    · split at h
      · exact absurd h (by simp)
      · generalize store.walk (origin text) _ = result at h
        cases result <;> exact absurd h (by simp [Except.bind])

/-- A file that has been written is found under its text. -/
theorem status_of_write {text : String} {bytes : List Nat} (h : store.write text bytes = (made, none)) :
    made.status text = .file bytes := by
  obtain ⟨place, hplace, hentry, rfl⟩ := write_spec.1 h
  have hkeeps : store.Keeps (store.put place (.file bytes)) := keeps_put hentry
  have hlocate := hkeeps.locate (locate_of_fileLocation hplace)
  rw [status_of_locate hlocate, entry?_put (names_ne_nil hentry), if_pos rfl]
  rfl

/-- A file with a plain name is written where the name leads to. -/
theorem fileLocation_child (path : Path) (hname : IsPlainName name) :
    store.fileLocation (path.child name).text = store.locate (path.child name).text := by
  apply fileLocation_of_getLast?
  have hfront : ∃ front, (path.child name).text = front ++ name := by
    rw [text_of_names_ne_nil (by simp [Path.child])]
    by_cases hne : path.names = []
    · exact ⟨path.root, by simp [Path.child, hne]⟩
    · refine ⟨path.root ++ ("/".intercalate path.names ++ "/"), ?_⟩
      rw [Path.child, String.intercalate_append_of_ne_nil hne (by simp)]
      simp [String.append_assoc]
  obtain ⟨front, htext⟩ := hfront
  have hchars : name.toList ≠ [] := fun hnil => hname.ne_empty (String.toList_eq_nil_iff.1 hnil)
  rw [htext, String.toList_append, List.getLast?_append, List.getLast?_eq_some_getLast hchars, Option.some_or]
  intro hslash
  apply hname.slash_notMem
  rw [← Option.some.inj hslash]
  exact List.getLast_mem hchars

end Store

end TypedId.Files
