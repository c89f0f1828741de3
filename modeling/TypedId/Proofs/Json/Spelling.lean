import Mathlib.Data.List.Basic
import TypedId.Proofs.Json.Strings

/-!
# Texts that spell JSON values

`Spells value text` says that a text spells a value that holds no numbers: strings as they are written, with any spaces
between the parts. Every such text is read as its value, however the spaces are laid out (`read_of_spells`). The
induction is on the fuel of the reader, for values, items and entries at once (`reads_spelled`).
-/

set_option autoImplicit false

namespace TypedId.Json

/-! ## Spaces -/

/-- Characters that may stand between the parts of a text. -/
def IsGap (gap : List Char) : Prop :=
  ∀ c ∈ gap, isSpace c = true

instance (gap : List Char) : Decidable (IsGap gap) :=
  List.decidableBAll (fun c => isSpace c = true) gap

/-- Two gaps one after the other are a gap. -/
theorem IsGap.append {gap more : List Char} (hgap : IsGap gap) (hmore : IsGap more) : IsGap (gap ++ more) :=
  List.forall_mem_append.2 ⟨hgap, hmore⟩

/-- A gap is skipped. -/
theorem skipSpace_gap {gap rest : List Char} (h : IsGap gap) : skipSpace (gap ++ rest) = skipSpace rest :=
  List.dropWhile_append_of_pos h

/-- A character that is no space is not skipped. -/
theorem skipSpace_cons {c : Char} {rest : List Char} (h : isSpace c = false) : skipSpace (c :: rest) = c :: rest :=
  List.dropWhile_cons_of_neg (by simp [h])

/-! ## Spelled values -/

mutual

/-- A text spells a value. -/
inductive Spells : Json → List Char → Prop where
  | null : Spells .null ['n', 'u', 'l', 'l']
  | yes : Spells (.bool true) ['t', 'r', 'u', 'e']
  | no : Spells (.bool false) ['f', 'a', 'l', 's', 'e']
  | string (text : String) : Spells (.string (.whole text)) (writeText (.whole text)).toList
  | emptyArray : Spells (.array []) ['[', ']']
  | array {items : List Json} {gap text : List Char} :
    IsGap gap → SpellsItems items text → Spells (.array items) ('[' :: (gap ++ text))
  | emptyObject : Spells (.object []) ['{', '}']
  | object {entries : List (Text × Json)} {gap text : List Char} :
    IsGap gap → (entries.map Prod.fst).Nodup → SpellsEntries entries text → Spells (.object entries) ('{' :: (gap ++ text))

/-- A text spells items up to the bracket that closes their array. -/
inductive SpellsItems : List Json → List Char → Prop where
  | last {item : Json} {text gap : List Char} : Spells item text → IsGap gap → SpellsItems [item] (text ++ (gap ++ [']']))
  | next {item : Json} {items : List Json} {text gap more : List Char} :
    Spells item text → IsGap gap → SpellsItems items more → SpellsItems (item :: items) (text ++ ',' :: (gap ++ more))

/-- A text spells entries up to the bracket that closes their object. -/
inductive SpellsEntries : List (Text × Json) → List Char → Prop where
  | last {key : String} {value : Json} {text space gap : List Char} : IsGap space → Spells value text → IsGap gap →
      SpellsEntries [(.whole key, value)]
        ((writeText (.whole key)).toList ++ ':' :: (space ++ (text ++ (gap ++ ['}']))))
  | next {key : String} {value : Json} {entries : List (Text × Json)} {text space gap more : List Char} :
    IsGap space → Spells value text → IsGap gap → SpellsEntries entries more →
      SpellsEntries ((.whole key, value) :: entries)
        ((writeText (.whole key)).toList ++ ':' :: (space ++ (text ++ ',' :: (gap ++ more))))

end

/-- The byte order mark, which no JSON text begins with. -/
def byteOrderMark : Char := Char.ofNat 0xFEFF

/-- The characters that a spelled value begins with. -/
def fronts : List Char :=
  ['n', 't', 'f', '"', '[', '{']

/-- No value begins with a space, a bracket that closes an array or a byte order mark. -/
theorem of_mem_fronts : ∀ c ∈ fronts, isSpace c = false ∧ c ≠ ']' ∧ c ≠ byteOrderMark :=
  List.forall_iff_forall_mem.1 (by decide)

/-- A spelled value begins with one of the characters for that. -/
theorem Spells.begins {value : Json} {text : List Char} (h : Spells value text) :
    ∃ c rest, text = c :: rest ∧ c ∈ fronts := by
  cases h with
  | null => exact ⟨_, _, rfl, by decide⟩
  | yes => exact ⟨_, _, rfl, by decide⟩
  | no => exact ⟨_, _, rfl, by decide⟩
  | string text =>
    obtain ⟨body, hbody, -⟩ := readString_writeText_whole text
    exact ⟨_, _, hbody, by decide⟩
  | emptyArray => exact ⟨_, _, rfl, by decide⟩
  | array _ _ => exact ⟨_, _, rfl, by decide⟩
  | emptyObject => exact ⟨_, _, rfl, by decide⟩
  | object _ _ _ => exact ⟨_, _, rfl, by decide⟩

/-- There are no spaces to skip in front of a spelled value. -/
theorem skipSpace_spells {value : Json} {text : List Char} (h : Spells value text) (rest : List Char) :
    skipSpace (text ++ rest) = text ++ rest := by
  obtain ⟨c, more, rfl, hfront⟩ := h.begins
  exact skipSpace_cons (of_mem_fronts c hfront).1

/-- Items begin with a value. -/
theorem SpellsItems.begins {items : List Json} {text : List Char} (h : SpellsItems items text) :
    ∃ c rest, text = c :: rest ∧ c ∈ fronts := by
  cases h with
  | last hitem _ =>
    obtain ⟨c, rest, rfl, hc⟩ := hitem.begins
    exact ⟨c, _, rfl, hc⟩
  | next hitem _ _ =>
    obtain ⟨c, rest, rfl, hc⟩ := hitem.begins
    exact ⟨c, _, rfl, hc⟩

/-- Entries begin with the quote of a key. -/
theorem SpellsEntries.begins {entries : List (Text × Json)} {text : List Char} (h : SpellsEntries entries text) :
    ∃ rest, text = '"' :: rest := by
  cases h with
  | @last key _ _ _ _ _ _ _ =>
    obtain ⟨body, hbody, -⟩ := readString_writeText_whole key
    exact ⟨_, by rw [hbody]; rfl⟩
  | @next key _ _ _ _ _ _ _ _ _ _ =>
    obtain ⟨body, hbody, -⟩ := readString_writeText_whole key
    exact ⟨_, by rw [hbody]; rfl⟩

/-! ## Reading spelled values -/

/-- A gap and the closing mark end the items. -/
theorem readSeparator_close {close : Char} {gap : List Char} (rest : List Char) (hgap : IsGap gap)
    (hclose : isSpace close = false) :
    readSeparator close (gap ++ close :: rest) = .ok (true, rest) := by
  rw [readSeparator, skipSpace_gap hgap, skipSpace_cons hclose]
  simp

/-- A comma and a gap lead to the next item. -/
theorem readSeparator_comma {close : Char} {gap : List Char} (rest : List Char) (hgap : IsGap gap)
    (hclose : close ≠ ',') :
    readSeparator close (',' :: (gap ++ rest)) = .ok (false, skipSpace rest) := by
  rw [readSeparator, skipSpace_cons (by decide)]
  simp [hclose.symm, skipSpace_gap hgap]

/-- A key is read as it is written, with a gap behind its colon. -/
theorem readKey_writeText (key : String) {space : List Char} (rest : List Char) (hspace : IsGap space) :
    readKey ((writeText (.whole key)).toList ++ ':' :: (space ++ rest)) = .ok (.whole key, skipSpace rest) := by
  obtain ⟨body, hbody, hread⟩ := readString_writeText_whole key
  rw [hbody, List.cons_append, readKey, hread]
  simp only [bind, Except.bind]
  rw [skipSpace_cons (by decide)]
  simp only [skipSpace_gap hspace]

/-- A new key comes last. -/
theorem put_of_notMem {entries : List (Text × Json)} {key : Text} (value : Json) (h : key ∉ entries.map Prod.fst) :
    put entries key value = entries ++ [(key, value)] := by
  induction entries with
  | nil => rfl
  | cons entry rest ih =>
    obtain ⟨k, v⟩ := entry
    rw [List.map_cons, List.mem_cons, not_or] at h
    rw [put, if_neg (Ne.symm h.1), ih h.2]
    rfl

/-- A key that is new among others comes behind those that have been read. -/
theorem put_of_nodup {before more : List (Text × Json)} {key : Text} {value : Json}
    (h : ((before ++ (key, value) :: more).map Prod.fst).Nodup) : put before key value = before ++ [(key, value)] := by
  refine put_of_notMem value fun hmem => ?_
  rw [List.map_append, List.nodup_append] at h
  exact h.2.2 key hmem key List.mem_cons_self rfl

/-- With this much fuel, spelled values of up to half as many characters are read. -/
def ReadsValues (fuel : Nat) : Prop :=
  ∀ {value : Json} {text : List Char} (rest : List Char), Spells value text → 2 * text.length ≤ fuel →
    readValue fuel (text ++ rest) = .ok (value, rest)

/-- With this much fuel, spelled items are read behind those that have been read. -/
def ReadsItems (fuel : Nat) : Prop :=
  ∀ {items : List Json} {text : List Char} (read : List Json) (rest : List Char), SpellsItems items text →
    2 * text.length ≤ fuel → readItems fuel read (text ++ rest) = .ok (.array (read.reverse ++ items), rest)

/-- With this much fuel, spelled entries with new keys are read behind those that have been read. -/
def ReadsEntries (fuel : Nat) : Prop :=
  ∀ {entries : List (Text × Json)} {text : List Char} (read : List (Text × Json)) (rest : List Char),
    SpellsEntries entries text → 2 * text.length ≤ fuel → ((read ++ entries).map Prod.fst).Nodup →
      readEntries fuel read (text ++ rest) = .ok (.object (read ++ entries), rest)

variable {fuel : Nat}

/-- With one more unit of fuel than for items and entries, values are read. -/
theorem readsValues_succ (hitems : ReadsItems fuel) (hentries : ReadsEntries fuel) : ReadsValues (fuel + 1) := by
  intro value text rest h hfuel
  cases h with
  | null => simp [readValue, readAtom]
  | yes => simp [readValue, readAtom]
  | no => simp [readValue, readAtom]
  | string text =>
    obtain ⟨body, hbody, hread⟩ := readString_writeText_whole text
    rw [hbody, List.cons_append, readValue]
    simp [hread, bind, Except.bind]
  | emptyArray => simp [readValue, skipSpace_cons (c := ']') (by decide)]
  | @array items gap text hgap hspelled =>
    obtain ⟨c, more, rfl, hfront⟩ := hspelled.begins
    obtain ⟨hspace, hclose, -⟩ := of_mem_fronts c hfront
    have hread := hitems [] rest hspelled (by simp at hfuel ⊢; omega)
    rw [List.cons_append, readValue, List.append_assoc, skipSpace_gap hgap, List.cons_append, skipSpace_cons hspace]
    rw [List.cons_append] at hread
    split
    · rename_i heq
      exact absurd (List.cons.inj heq).1 hclose
    · exact hread
  | emptyObject => simp [readValue, skipSpace_cons (c := '}') (by decide)]
  | @object entries gap text hgap hnodup hspelled =>
    obtain ⟨more, rfl⟩ := hspelled.begins
    have hread := hentries [] rest hspelled (by simp at hfuel ⊢; omega) hnodup
    rw [List.cons_append, readValue, List.append_assoc, skipSpace_gap hgap, List.cons_append,
      skipSpace_cons (by decide)]
    exact hread

/-- With one more unit of fuel than for values and items, items are read. -/
theorem readsItems_succ (hvalues : ReadsValues fuel) (hitems : ReadsItems fuel) : ReadsItems (fuel + 1) := by
  intro items text read rest h hfuel
  cases h with
  | @last item text gap hitem hgap =>
    have hvalue := hvalues (gap ++ ']' :: rest) hitem (by simp at hfuel; omega)
    have hclosed := readSeparator_close rest hgap (show isSpace ']' = false by decide)
    rw [readItems]
    simp [hvalue, hclosed, bind, Except.bind]
  | @next item items text gap more hitem hgap hspelled =>
    have hvalue := hvalues (',' :: (gap ++ (more ++ rest))) hitem (by simp at hfuel; omega)
    have hcomma := readSeparator_comma (more ++ rest) hgap (show ']' ≠ ',' by decide)
    have hmore := hitems (item :: read) rest hspelled (by simp at hfuel; omega)
    have hskip : skipSpace (more ++ rest) = more ++ rest := by
      obtain ⟨c, tail, rfl, hfront⟩ := hspelled.begins
      exact skipSpace_cons (of_mem_fronts c hfront).1
    rw [readItems]
    simp [hvalue, hcomma, hskip, hmore, bind, Except.bind]

/-- With one more unit of fuel than for values and entries, entries are read. -/
theorem readsEntries_succ (hvalues : ReadsValues fuel) (hentries : ReadsEntries fuel) : ReadsEntries (fuel + 1) := by
  intro entries text read rest h hfuel hnodup
  cases h with
  | @last key value text space gap hspace hvalue hgap =>
    have hkey := readKey_writeText key (text ++ (gap ++ '}' :: rest)) hspace
    have hskip := skipSpace_spells hvalue (gap ++ '}' :: rest)
    have hread := hvalues (gap ++ '}' :: rest) hvalue (by simp at hfuel; omega)
    have hclosed := readSeparator_close rest hgap (show isSpace '}' = false by decide)
    rw [readEntries]
    simp [hkey, hskip, hread, hclosed, put_of_nodup hnodup, bind, Except.bind]
  | @next key value entries text space gap more hspace hvalue hgap hspelled =>
    have hkey := readKey_writeText key (text ++ ',' :: (gap ++ (more ++ rest))) hspace
    have hskip := skipSpace_spells hvalue (',' :: (gap ++ (more ++ rest)))
    have hread := hvalues (',' :: (gap ++ (more ++ rest))) hvalue (by simp at hfuel; omega)
    have hcomma := readSeparator_comma (more ++ rest) hgap (show '}' ≠ ',' by decide)
    have hmore := hentries (read ++ [(.whole key, value)]) rest hspelled (by simp at hfuel; omega)
      (by rwa [List.append_assoc])
    have hquote : skipSpace (more ++ rest) = more ++ rest := by
      obtain ⟨tail, rfl⟩ := hspelled.begins
      exact skipSpace_cons (by decide)
    rw [readEntries]
    simp [hkey, hskip, hread, hcomma, put_of_nodup hnodup, hquote, hmore, bind, Except.bind]

/-- Fuel for twice the characters of a text is enough to read what it spells. -/
theorem reads_spelled (fuel : Nat) : ReadsValues fuel ∧ ReadsItems fuel ∧ ReadsEntries fuel := by
  induction fuel with
  | zero =>
    refine ⟨fun rest h hfuel => ?_, fun read rest h hfuel => ?_, fun read rest h hfuel _ => ?_⟩
    · obtain ⟨c, more, rfl, -⟩ := h.begins
      exact absurd hfuel (by simp)
    · obtain ⟨c, more, rfl, -⟩ := h.begins
      exact absurd hfuel (by simp)
    · obtain ⟨more, rfl⟩ := h.begins
      exact absurd hfuel (by simp)
  | succ fuel ih =>
    obtain ⟨hvalues, hitems, hentries⟩ := ih
    exact ⟨readsValues_succ hitems hentries, readsItems_succ hvalues hitems, readsEntries_succ hvalues hentries⟩

/-- A spelled value is read from its text, whatever spaces are around it. -/
theorem read_of_spells {value : Json} {text before behind : List Char} (h : Spells value text) (hbefore : IsGap before)
    (hbehind : IsGap behind) : read (before ++ (text ++ behind)) = .ok value := by
  obtain ⟨c, more, rfl, hfront⟩ := h.begins
  have hmark : ((before ++ (c :: more ++ behind)).head? == some byteOrderMark) = false := by
    cases before with
    | nil => simpa using (of_mem_fronts c hfront).2.2
    | cons d before =>
      have hspace := hbefore d List.mem_cons_self
      rw [List.cons_append, List.head?_cons]
      refine beq_eq_false_iff_ne.2 fun heq => ?_
      rw [Option.some.inj heq] at hspace
      exact absurd hspace (by decide)
  have hvalue := (reads_spelled (2 * (before ++ (c :: more ++ behind)).length + 2)).1 behind h (by simp; omega)
  have hend : skipSpace behind = [] := by
    rw [← List.append_nil behind, skipSpace_gap hbehind]
    rfl
  have hread : readChars (before ++ (c :: more ++ behind)) = .ok value := by
    rw [readChars, if_neg (by simpa [byteOrderMark] using hmark), skipSpace_gap hbefore, skipSpace_spells h, hvalue]
    simp only [bind, Except.bind, hend]
  rw [read, hread]

end TypedId.Json
