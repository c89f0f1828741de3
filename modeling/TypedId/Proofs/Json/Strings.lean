import Mathlib.Data.List.Basic
import TypedId.Json.Reader
import TypedId.Json.Writer

/-!
# Strings of JSON

A code point is written in one of three ways: by itself, by an escape, or by the escapes of a surrogate pair, which are
joined when they are read. Reading does not tell the two halves of a pair from two surrogates that stand side by side in a
string, so a string that is written is read with such surrogates joined (`readString_writeText`). One without surrogates
comes back (`readString_writeText_whole`). All that is written is ASCII (`isVisible_of_mem_writeText`).
-/

set_option autoImplicit false

namespace TypedId.Json

open TypedId.Text

/-! ## Numbers in escapes -/

/-- A hexadecimal digit is read as it is written. -/
theorem hexDigit?_digitChar : ∀ digit < 16, hexDigit? (Nat.digitChar digit) = some digit := by decide

/-- The four digits of a unit write its number. -/
theorem hexNumber?_hexDigits {unit : Nat} (h : unit < 0x10000) : hexNumber? (hexDigits 4 unit) = some unit := by
  have hdigit (n : Nat) : hexDigit? (Nat.digitChar (n % 16)) = some (n % 16) :=
    hexDigit?_digitChar _ (Nat.mod_lt _ (by decide))
  have hdigits : (hexDigits 4 unit).mapM hexDigit?
      = some [unit / 16 / 16 / 16 % 16, unit / 16 / 16 % 16, unit / 16 % 16, unit % 16] := by
    simp [hexDigits, hdigit]
  rw [hexNumber?, hdigits, Option.map_some, Option.some.injEq]
  simp only [valueOf, List.foldl_cons, List.foldl_nil]
  omega

/-- The four digits of an escape. -/
theorem hexDigits_four (unit : Nat) :
    hexDigits 4 unit = [Nat.digitChar (unit / 16 / 16 / 16 % 16), Nat.digitChar (unit / 16 / 16 % 16),
      Nat.digitChar (unit / 16 % 16), Nat.digitChar (unit % 16)] := by
  simp [hexDigits]

/-! ## Surrogates -/

/-- No character is a surrogate. -/
theorem isSurrogate_toNat (c : Char) : isSurrogate c.toNat = false := by
  have hvalid : c.toNat < 0xD800 ∨ 0xDFFF < c.toNat ∧ c.toNat < 0x110000 := c.valid
  rw [isSurrogate, Bool.and_eq_false_iff, decide_eq_false_iff_not, decide_eq_false_iff_not]
  omega

/-- The character of a valid code point has that code point. -/
theorem toNat_ofNat {point : Nat} (h : point.isValidChar) : (Char.ofNat point).toNat = point := by
  rw [Char.ofNat, dif_pos h]
  rfl

/-- A surrogate is the first half of a pair or the second. -/
theorem isSurrogate_iff {point : Nat} :
    isSurrogate point = true ↔ isHighSurrogate point = true ∨ isLowSurrogate point = true := by
  simp only [isSurrogate, isHighSurrogate, isLowSurrogate, Bool.and_eq_true, decide_eq_true_iff]
  omega

/-- The second half of a pair is not the first half of another. -/
theorem isHighSurrogate_of_isLowSurrogate {point : Nat} (h : isLowSurrogate point = true) :
    isHighSurrogate point = false := by
  rw [isLowSurrogate, Bool.and_eq_true, decide_eq_true_iff, decide_eq_true_iff] at h
  rw [isHighSurrogate, Bool.and_eq_false_iff, decide_eq_false_iff_not, decide_eq_false_iff_not]
  omega

/-- Code points with each high surrogate directly in front of a low one joined with it. -/
def joinPairs : List Nat → List Nat
  | [] => []
  | [point] => [point]
  | first :: second :: rest =>
    if isHighSurrogate first && isLowSurrogate second then joinSurrogates first second :: joinPairs rest
    else first :: joinPairs (second :: rest)

/-- Without surrogates there is nothing to join. -/
theorem joinPairs_of_not_isSurrogate {points : List Nat} (h : ∀ point ∈ points, isSurrogate point = false) :
    joinPairs points = points := by
  fun_induction joinPairs points with
  | case1 => rfl
  | case2 => rfl
  | case3 first second rest hpair _ =>
    rw [Bool.and_eq_true] at hpair
    have hfirst := isSurrogate_iff.2 (Or.inl hpair.1)
    exact absurd ((h first List.mem_cons_self).symm.trans hfirst) (by simp)
  | case4 first second rest _ ih => rw [ih fun point hpoint => h point (List.mem_cons_of_mem _ hpoint)]

/-- A code point that is no surrogate keeps those on its two sides apart. -/
theorem joinPairs_append_cons (before : List Nat) {point : Nat} (behind : List Nat) (h : isSurrogate point = false) :
    joinPairs (before ++ point :: behind) = joinPairs before ++ point :: joinPairs behind := by
  rw [← Bool.not_eq_true, isSurrogate_iff, not_or, Bool.not_eq_true, Bool.not_eq_true] at h
  obtain ⟨hhigh, hlow⟩ := h
  have hcons : joinPairs (point :: behind) = point :: joinPairs behind := by
    cases behind with
    | nil => rfl
    | cons second rest => rw [joinPairs, hhigh, Bool.false_and, if_neg (by simp)]
  fun_induction joinPairs before with
  | case1 => exact hcons
  | case2 first => rw [List.singleton_append, joinPairs, hlow, Bool.and_false, if_neg (by simp), hcons, List.singleton_append]
  | case3 first second rest hpair ih => rw [List.cons_append, List.cons_append, joinPairs, if_pos hpair, ih, List.cons_append]
  | case4 first second rest hpair ih =>
    rw [List.cons_append, List.cons_append, joinPairs, if_neg hpair, ← List.cons_append, ih, List.cons_append]

/-- Joined pairs are code points that exist. -/
theorem joinPairs_lt {points : List Nat} (h : ∀ point ∈ points, point < 0x110000) :
    ∀ point ∈ joinPairs points, point < 0x110000 := by
  fun_induction joinPairs points with
  | case1 => exact h
  | case2 => exact h
  | case3 high low rest hpair ih =>
    simp only [isHighSurrogate, isLowSurrogate, Bool.and_eq_true, decide_eq_true_iff] at hpair
    have hjoin : joinSurrogates high low < 0x110000 := by
      unfold joinSurrogates
      omega
    exact List.forall_mem_cons.2 ⟨hjoin, ih fun point hpoint => h point (by simp [hpoint])⟩
  | case4 first second rest _ ih =>
    exact List.forall_mem_cons.2 ⟨h first List.mem_cons_self, ih fun point hpoint => h point (List.mem_cons_of_mem _ hpoint)⟩

/-- Joining leaves nothing only of nothing. -/
theorem joinPairs_eq_nil_iff {points : List Nat} : joinPairs points = [] ↔ points = [] := by
  fun_cases joinPairs points <;> simp

/-- A string of code points that exist. One that can be written in characters is a text. -/
def Text.IsSound : Text → Prop
  | .whole _ => True
  | .torn points => (∃ point ∈ points, isSurrogate point = true) ∧ ∀ point ∈ points, point < 0x110000

instance (text : Text) : Decidable text.IsSound :=
  match text with
  | .whole _ => .isTrue trivial
  | .torn _ => inferInstanceAs (Decidable (_ ∧ _))

/-- A string with its pairs of surrogates joined. -/
def Text.joined (text : Text) : Text :=
  .ofPoints (joinPairs text.points)

/-- The code points of a sound string exist. -/
theorem Text.IsSound.lt {text : Text} (h : text.IsSound) : ∀ point ∈ text.points, point < 0x110000 := by
  cases text with
  | torn points => exact h.2
  | whole text =>
    refine List.forall_mem_map.2 fun c _ => ?_
    have hvalid : c.toNat < 0xD800 ∨ 0xDFFF < c.toNat ∧ c.toNat < 0x110000 := c.valid
    omega

/-- The code points of a text are no surrogates. -/
theorem not_isSurrogate_points (text : String) : ∀ point ∈ (Text.whole text).points, isSurrogate point = false :=
  List.forall_mem_map.2 fun c _ => isSurrogate_toNat c

/-- The string with the code points of a text is that text. -/
theorem ofPoints_toNat (text : String) : Text.ofPoints (text.toList.map Char.toNat) = .whole text := by
  have hnone : (text.toList.map Char.toNat).any isSurrogate = false := by
    rw [List.any_eq_false]
    exact fun point hpoint => by simp [not_isSurrogate_points text point hpoint]
  have hchars : (text.toList.map Char.toNat).map Char.ofNat = text.toList := by
    rw [List.map_map]
    exact (List.map_congr_left fun c _ => Char.ofNat_toNat c).trans (List.map_id _)
  rw [Text.ofPoints, hnone, hchars, String.ofList_toList]
  rfl

/-- A string has the code points that it was made of. -/
theorem Text.points_ofPoints {points : List Nat} (h : ∀ point ∈ points, point < 0x110000) :
    (Text.ofPoints points).points = points := by
  rw [ofPoints]
  split
  · rfl
  · rename_i hnone
    simp only [Bool.not_eq_true, List.any_eq_false] at hnone
    rw [Text.points, String.toList_ofList, List.map_map]
    refine (List.map_congr_left fun point hpoint => ?_).trans (List.map_id _)
    have hsurrogate : isSurrogate point = false := by simpa using hnone point hpoint
    rw [isSurrogate, Bool.and_eq_false_iff, decide_eq_false_iff_not, decide_eq_false_iff_not] at hsurrogate
    have hbound := h point hpoint
    exact toNat_ofNat (show point < 0xD800 ∨ 0xDFFF < point ∧ point < 0x110000 by omega)

/-- A string of code points that exist is sound. -/
theorem Text.isSound_ofPoints {points : List Nat} (h : ∀ point ∈ points, point < 0x110000) :
    (Text.ofPoints points).IsSound := by
  rw [ofPoints]
  split
  · rename_i hsome
    exact ⟨List.any_eq_true.1 hsome, h⟩
  · trivial

/-- A string of no code points is the empty text. -/
theorem Text.ofPoints_ne_torn_nil (points : List Nat) : Text.ofPoints points ≠ .torn [] := by
  rw [ofPoints]
  split
  · rename_i hsome
    rintro ⟨⟩
    exact absurd hsome (by simp)
  · simp

/-- The code points of a string with its pairs joined. -/
theorem Text.IsSound.points_joined {text : Text} (h : text.IsSound) : text.joined.points = joinPairs text.points :=
  points_ofPoints (joinPairs_lt h.lt)

/-- In a text there is nothing to join. -/
theorem Text.joined_whole (text : String) : (Text.whole text).joined = .whole text := by
  rw [joined, joinPairs_of_not_isSurrogate (not_isSurrogate_points text)]
  exact ofPoints_toNat text

/-! ## Code points -/

/-- Code points that have been read, of which the last is no high surrogate given by an escape. -/
def IsClosed (read : List (Nat × Bool)) : Prop :=
  ∀ high before, read = (high, true) :: before → isHighSurrogate high = false

/-- Only a low surrogate can be joined with what has been read. -/
theorem addPoint_eq_cons {read : List (Nat × Bool)} {point : Nat} (byNumber : Bool)
    (h : isLowSurrogate point = true → IsClosed read) : addPoint read point byNumber = (point, byNumber) :: read := by
  unfold addPoint
  split
  · rename_i high before
    rw [if_neg]
    intro hjoin
    simp only [Bool.and_eq_true] at hjoin
    exact absurd ((h hjoin.2 high before rfl).symm.trans hjoin.1.2) (by simp)
  · rfl

/-- A low surrogate is joined with the high one before it. -/
theorem addPoint_of_isHighSurrogate {high low : Nat} {read : List (Nat × Bool)} (hhigh : isHighSurrogate high = true)
    (hlow : isLowSurrogate low = true) :
    addPoint ((high, true) :: read) low true = (joinSurrogates high low, false) :: read := by
  rw [addPoint, if_pos]
  simp [hhigh, hlow]

/-- Four hexadecimal digits are read as the unit that they write. -/
theorem readString_escapeUnit {opening rest : List Char} {read : List (Nat × Bool)} {unit : Nat} (hunit : unit < 0x10000)
    (hrest : rest ≠ []) :
    readString opening read (escapeUnit unit ++ rest) = readString opening (addPoint read unit true) rest := by
  obtain ⟨c, more, rfl⟩ := List.exists_cons_of_ne_nil hrest
  have hnumber := hexNumber?_hexDigits hunit
  rw [hexDigits_four] at hnumber
  rw [escapeUnit, hexDigits_four]
  simp only [List.cons_append, List.nil_append, readString, hnumber]

/-- A letter behind a backslash is read as the code point that it escapes. -/
theorem readString_letter {opening rest : List Char} {read : List (Nat × Bool)} {letter : Char} {point : Nat}
    (hescaped : escaped? letter = some point) :
    readString opening read ('\\' :: letter :: rest) = readString opening (addPoint read point false) rest := by
  have hletter : letter ≠ 'u' := by
    rintro rfl
    exact absurd hescaped (by simp [escaped?])
  rw [readString.eq_def]
  simp [hletter, hescaped]

/-- A character that needs no escape is read as itself. -/
theorem readString_plain {opening rest : List Char} {read : List (Nat × Bool)} {c : Char} (hspace : 0x20 ≤ c.toNat)
    (hquote : c ≠ '"') (hslash : c ≠ '\\') :
    readString opening read (c :: rest) = readString opening (addPoint read c.toNat false) rest := by
  rw [readString.eq_def]
  simp [hslash, Nat.not_lt.2 hspace]

/-- Two surrogates join to the code point that their offsets make. -/
theorem joinSurrogates_add (high low : Nat) :
    joinSurrogates (0xD800 + high) (0xDC00 + low) = 0x10000 + high * 0x400 + low := by
  unfold joinSurrogates
  rw [Nat.add_sub_cancel_left, Nat.add_sub_cancel_left]

/-- The halves of a surrogate pair, and the code point that they join to. -/
theorem pair_of_point {point : Nat} (hleast : 0x10000 ≤ point) (hbound : point < 0x110000) :
    isHighSurrogate (0xD800 + (point - 0x10000) / 0x400) = true ∧
      isLowSurrogate (0xDC00 + (point - 0x10000) % 0x400) = true ∧
      joinSurrogates (0xD800 + (point - 0x10000) / 0x400) (0xDC00 + (point - 0x10000) % 0x400) = point := by
  rw [joinSurrogates_add]
  simp only [isHighSurrogate, isLowSurrogate, Bool.and_eq_true, decide_eq_true_iff]
  omega

/-- A written code point is read as itself, unless it is a low surrogate behind a high one. -/
theorem readString_escapePoint (opening : List Char) {rest : List Char} {read : List (Nat × Bool)} {point : Nat}
    (hbound : point < 0x110000) (happart : isLowSurrogate point = true → IsClosed read) (hrest : rest ≠ []) :
    ∃ byNumber, readString opening read (escapePoint point ++ rest)
      = readString opening ((point, byNumber) :: read) rest := by
  have hletter {letter : Char} (hescaped : escaped? letter = some point) :
      ∃ byNumber, readString opening read ('\\' :: letter :: rest)
        = readString opening ((point, byNumber) :: read) rest := by
    refine ⟨false, ?_⟩
    rw [readString_letter hescaped, addPoint_eq_cons _ happart]
  rw [escapePoint]
  -- seven characters have a letter of their own
  iterate 7
    split
    · rename_i hpoint
      exact hletter (by rw [hpoint]; rfl)
  rename_i hquote hslash _ _ _ _ _
  split
  · rename_i hplain
    rw [Bool.and_eq_true, decide_eq_true_iff, decide_eq_true_iff] at hplain
    have hcode : (Char.ofNat point).toNat = point := toNat_ofNat (Or.inl (by omega))
    refine ⟨false, ?_⟩
    rw [List.cons_append, List.nil_append, readString_plain (hcode.symm ▸ hplain.1), hcode, addPoint_eq_cons _ happart]
    · intro hchar
      rw [hchar] at hcode
      exact hquote hcode.symm
    · intro hchar
      rw [hchar] at hcode
      exact hslash hcode.symm
  split
  · rename_i hunit
    exact ⟨true, by rw [readString_escapeUnit hunit hrest, addPoint_eq_cons _ happart]⟩
  · -- a pair of surrogates
    rename_i hunit
    obtain ⟨hhigh, hlow, hjoin⟩ := pair_of_point (Nat.le_of_not_lt hunit) hbound
    have hopen (h : isLowSurrogate (0xD800 + (point - 0x10000) / 0x400) = true) : IsClosed read :=
      absurd (hhigh.symm.trans (isHighSurrogate_of_isLowSurrogate h)) (by simp)
    refine ⟨false, ?_⟩
    rw [List.append_assoc, readString_escapeUnit (by omega) (List.append_ne_nil_of_right_ne_nil _ hrest),
      addPoint_eq_cons _ hopen, readString_escapeUnit (by omega) hrest, addPoint_of_isHighSurrogate hhigh hlow, hjoin]

/-- A surrogate is written by the escape of its number. -/
theorem escapePoint_of_isSurrogate {point : Nat} (h : isSurrogate point = true) : escapePoint point = escapeUnit point := by
  rw [isSurrogate, Bool.and_eq_true, decide_eq_true_iff, decide_eq_true_iff] at h
  rw [escapePoint]
  iterate 7
    rw [if_neg (by omega)]
  rw [if_neg (by simp; omega), if_pos (by omega)]

/-- Two surrogates that are written one after the other are read as the code point of their pair. -/
theorem readString_pair (opening : List Char) {rest : List Char} (read : List (Nat × Bool)) {high low : Nat}
    (hhigh : isHighSurrogate high = true) (hlow : isLowSurrogate low = true) (hrest : rest ≠ []) :
    readString opening read (escapePoint high ++ (escapePoint low ++ rest))
      = readString opening ((joinSurrogates high low, false) :: read) rest := by
  have hunits : high < 0x10000 ∧ low < 0x10000 := by
    simp only [isHighSurrogate, isLowSurrogate, Bool.and_eq_true, decide_eq_true_iff] at hhigh hlow
    omega
  have hopen (h : isLowSurrogate high = true) : IsClosed read :=
    absurd (hhigh.symm.trans (isHighSurrogate_of_isLowSurrogate h)) (by simp)
  rw [escapePoint_of_isSurrogate (isSurrogate_iff.2 (Or.inl hhigh)),
    escapePoint_of_isSurrogate (isSurrogate_iff.2 (Or.inr hlow)),
    readString_escapeUnit hunits.1 (List.append_ne_nil_of_right_ne_nil _ hrest), addPoint_eq_cons _ hopen,
    readString_escapeUnit hunits.2 hrest, addPoint_of_isHighSurrogate hhigh hlow]

/-- Written code points are read up to the closing quote, with the pairs of surrogates among them joined. The first of
them must not make a pair with what has been read. -/
theorem readString_escapePoints (opening rest : List Char) {read : List (Nat × Bool)} {points : List Nat}
    (hbound : ∀ point ∈ points, point < 0x110000)
    (happart : ∀ low ∈ points.head?, isLowSurrogate low = true → IsClosed read) :
    readString opening read (points.flatMap escapePoint ++ '"' :: rest)
      = .ok (Text.ofPoints (read.reverse.map Prod.fst ++ joinPairs points), rest) := by
  have hquote (points : List Nat) : points.flatMap escapePoint ++ '"' :: rest ≠ [] :=
    List.append_ne_nil_of_right_ne_nil _ (List.cons_ne_nil _ _)
  fun_induction joinPairs points generalizing read with
  | case1 => rw [List.flatMap_nil, List.nil_append, List.append_nil, readString]
  | case2 point =>
    obtain ⟨byNumber, hread⟩ := readString_escapePoint opening (hbound point List.mem_cons_self)
      (happart point rfl) (hquote [])
    rw [List.flatMap_cons, List.append_assoc, hread, List.flatMap_nil, List.nil_append, readString]
    simp
  | case3 high low behind hpair ih =>
    rw [Bool.and_eq_true] at hpair
    have hclosed : IsClosed ((joinSurrogates high low, false) :: read) := fun _ _ h => by simp at h
    rw [List.flatMap_cons, List.flatMap_cons, List.append_assoc, List.append_assoc,
      readString_pair opening read hpair.1 hpair.2 (hquote behind),
      ih (fun point hpoint => hbound point (by simp [hpoint])) (fun _ _ _ => hclosed)]
    simp
  | case4 first second behind hpair ih =>
    obtain ⟨byNumber, hread⟩ := readString_escapePoint opening (hbound first List.mem_cons_self)
      (happart first rfl) (hquote (second :: behind))
    have hclosed (low : Nat) (hlow : low ∈ (second :: behind).head?) (h : isLowSurrogate low = true) :
        IsClosed ((first, byNumber) :: read) := by
      obtain rfl : second = low := by simpa using hlow
      intro high before hfront
      obtain rfl : first = high := (Prod.mk.inj (List.cons.inj hfront).1).1
      simpa [h] using hpair
    rw [List.flatMap_cons, List.append_assoc, hread,
      ih (fun point hpoint => hbound point (List.mem_cons_of_mem _ hpoint)) hclosed]
    simp

/-- A written string is a quote and what is read as that string with its pairs joined. -/
theorem readString_writeText {text : Text} (h : text.IsSound) :
    ∃ body, (writeText text).toList = '"' :: body ∧
      ∀ opening rest, readString opening [] (body ++ rest) = .ok (text.joined, rest) := by
  refine ⟨text.points.flatMap escapePoint ++ ['"'], ?_, fun opening rest => ?_⟩
  · rw [writeText, String.toList_ofList]
    rfl
  · rw [List.append_assoc]
    exact readString_escapePoints opening rest h.lt fun _ _ _ => fun _ _ hfront => absurd hfront (by simp)

/-- A written text is read as it is. -/
theorem readString_writeText_whole (text : String) :
    ∃ body, (writeText (.whole text)).toList = '"' :: body ∧
      ∀ opening rest, readString opening [] (body ++ rest) = .ok (.whole text, rest) := by
  have hread := readString_writeText (show (Text.whole text).IsSound from trivial)
  rwa [Text.joined_whole] at hread

/-! ## Characters of written strings -/

/-- A visible character of ASCII, or a blank. -/
def IsVisible (c : Char) : Prop :=
  0x20 ≤ c.toNat ∧ c.toNat < 0x7F

instance (c : Char) : Decidable (IsVisible c) :=
  inferInstanceAs (Decidable (_ ∧ _))

/-- Hexadecimal digits are visible. -/
theorem isVisible_digitChar : ∀ digit < 16, IsVisible (Nat.digitChar digit) := by decide

/-- An escape is written by visible characters. -/
theorem isVisible_escapeUnit (unit : Nat) : ∀ c ∈ escapeUnit unit, IsVisible c := by
  have hdigit (n : Nat) : IsVisible (Nat.digitChar (n % 16)) := isVisible_digitChar _ (Nat.mod_lt _ (by decide))
  have hmarks : IsVisible '\\' ∧ IsVisible 'u' := by decide
  rw [escapeUnit, hexDigits_four]
  simp [hdigit, hmarks]

/-- Escapes are written in ASCII. -/
theorem isVisible_escapePoint (point : Nat) : ∀ c ∈ escapePoint point, IsVisible c := by
  rw [escapePoint]
  -- seven characters have a letter of their own
  iterate 7
    split
    · exact List.forall_iff_forall_mem.1 (by decide)
  split
  · rename_i hplain
    rw [Bool.and_eq_true, decide_eq_true_iff, decide_eq_true_iff] at hplain
    intro c hc
    rw [List.mem_singleton.1 hc, IsVisible, toNat_ofNat (Or.inl (by omega))]
    exact hplain
  split
  · exact isVisible_escapeUnit point
  · exact List.forall_mem_append.2 ⟨isVisible_escapeUnit _, isVisible_escapeUnit _⟩

/-- A string is written in ASCII, whatever its characters are. -/
theorem isVisible_of_mem_writeText (text : Text) : ∀ c ∈ (writeText text).toList, IsVisible c := by
  rw [writeText, String.toList_ofList]
  have hquote : IsVisible '"' := by decide
  have hpoints : ∀ c ∈ text.points.flatMap escapePoint, IsVisible c := by
    intro c hc
    obtain ⟨point, -, hc⟩ := List.mem_flatMap.1 hc
    exact isVisible_escapePoint point c hc
  exact List.forall_mem_append.2 ⟨List.forall_mem_cons.2 ⟨hquote, hpoints⟩, List.forall_mem_singleton.2 hquote⟩

end TypedId.Json
