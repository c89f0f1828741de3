import Mathlib.Data.List.Forall2
import TypedId.Backing
import TypedId.Proofs.Text.Ascii

/-!
# Spellings of backing kinds

`Spells kind value` lists the ways in which a JSON value names a kind: by its number, by decimal digits of any script
behind a sign or none, or by its name, whatever the case of its letters; blanks may stand around the last two. Every
spelling chooses its kind (`ofValue_of_spells`).
-/

set_option autoImplicit false

namespace TypedId

namespace Text

/-! ## Blanks -/

/-- Characters that are stripped from the ends of a text. -/
def IsBlank (chars : List Char) : Prop :=
  ∀ c ∈ chars, Unicode.blank.has c = true

/-- Nothing is dropped in front of a character that is not in the class. -/
theorem dropWhile_of_forall_not {p : Char → Bool} {core rest : List Char} (hcore : ∀ c ∈ core, p c = false)
    (hne : core ≠ []) : (core ++ rest).dropWhile p = core ++ rest := by
  obtain ⟨c, more, rfl⟩ := List.exists_cons_of_ne_nil hne
  exact List.dropWhile_cons_of_neg (by simp [hcore c List.mem_cons_self])

/-- Blanks around a text without blanks are stripped. -/
theorem strip_blanks {before core behind : List Char} (hbefore : IsBlank before) (hbehind : IsBlank behind)
    (hcore : ∀ c ∈ core, Unicode.blank.has c = false) (hne : core ≠ []) :
    strip (String.ofList (before ++ (core ++ behind))) = String.ofList core := by
  have hfront : (before ++ (core ++ behind)).dropWhile Unicode.blank.has = core ++ behind := by
    rw [List.dropWhile_append_of_pos hbefore, dropWhile_of_forall_not hcore hne]
  have hback : (core ++ behind).reverse.dropWhile Unicode.blank.has = core.reverse := by
    have hreverse : (core.reverse ++ []).dropWhile Unicode.blank.has = core.reverse ++ [] :=
      dropWhile_of_forall_not (by simpa using hcore) (by simpa using hne)
    rw [List.reverse_append, List.dropWhile_append_of_pos (by simpa [IsBlank] using hbehind)]
    simpa using hreverse
  rw [strip, String.toList_ofList, hfront, hback, List.reverse_reverse]

/-! ## Letters -/

/-- A letter in lower case is that of an ASCII character only if the letter is one. -/
theorem toNat_lt_of_toLower {c : Char} (h : c.toLower.toNat < 0x80) : c.toNat < 0x80 := by
  unfold Char.toLower at h
  split at h
  · rename_i hupper
    have hbound : c.val.toNat ≤ 'Z'.val.toNat := UInt32.le_iff_toNat_le.1 hupper.2
    have hlast : 'Z'.val.toNat < 0x80 := by decide
    exact Nat.lt_of_le_of_lt hbound hlast
  · exact h

/-- On ASCII, lower case is the one of letters. -/
theorem lowerChars_of_code : ∀ code < 0x80, Unicode.lowerChars (Char.ofNat code) = [(Char.ofNat code).toLower] := by
  decide +kernel

/-- The lower case of a text in ASCII is that of its letters. -/
theorem lower_of_isAscii {chars : List Char} (h : IsAscii chars) :
    lower (String.ofList chars) = String.ofList (chars.map Char.toLower) := by
  have hafter (before : List Char) : lowerAfter before chars = chars.map Char.toLower := by
    induction chars generalizing before with
    | nil => rfl
    | cons c rest ih =>
      obtain ⟨hc, hrest⟩ := List.forall_mem_cons.1 h
      have hsigma : c ≠ 'Σ' := by
        rintro rfl
        exact absurd hc (by decide)
      have hlower := lowerChars_of_code c.toNat hc
      rw [Char.ofNat_toNat] at hlower
      rw [lowerAfter, if_neg hsigma, hlower, ih hrest, List.map_cons, List.singleton_append]
  rw [lower, String.toList_ofList, hafter]

/-- Two words have the same letters, whatever the case of those in ASCII. -/
def SameLetters (word other : String) : Prop :=
  word.toList.map Char.toLower = other.toList.map Char.toLower

/-! ## Digits -/

/-- No digit of any script is a blank. -/
theorem digit_notBlank : ∀ first ∈ Unicode.zeros, ∀ digit < 10, Unicode.blank.covers (first + digit) = false := by
  decide +kernel

/-- A decimal digit is no blank. -/
theorem notBlank_of_decimalDigit? {c : Char} {digit : Nat} (h : decimalDigit? c = some digit) :
    Unicode.blank.has c = false := by
  obtain ⟨first, hfirst, -⟩ := Option.map_eq_some_iff.1 h
  have hmem := List.mem_of_find?_eq_some hfirst
  have hrange := List.find?_some hfirst
  rw [Bool.and_eq_true, decide_eq_true_iff, decide_eq_true_iff] at hrange
  have hnot := digit_notBlank first hmem (c.toNat - first) (by omega)
  rwa [Nat.add_sub_of_le hrange.1] at hnot

/-- The digits of a numeral are all taken. -/
theorem takeDigits_eq {chars : List Char} {digits : List Nat}
    (h : List.Forall₂ (fun c digit => decimalDigit? c = some digit) chars digits) : takeDigits chars = (digits, []) := by
  induction h with
  | nil => rfl
  | cons hdigit _ ih => rw [takeDigits, hdigit, ih]

/-- The sign of a numeral. -/
def signOf (negative : Bool) : List Char :=
  if negative then ['-'] else []

/-- A number with the sign of a numeral. -/
def signed (negative : Bool) (value : Int) : Int :=
  if negative then -value else value

/-- A minus sign is no digit. -/
theorem ne_minus_of_decimalDigit? {c : Char} {digit : Nat} (h : decimalDigit? c = some digit) : c ≠ '-' := by
  have hnone : decimalDigit? '-' = none := by decide +kernel
  rintro rfl
  exact absurd h (by simp [hnone])

/-- Digits behind a sign are read as the number they write, unless there are too many. -/
theorem readDecimal_eq (negative : Bool) {chars : List Char} {digits : List Nat}
    (h : List.Forall₂ (fun c digit => decimalDigit? c = some digit) chars digits) (hne : digits ≠ []) :
    readDecimal (String.ofList (signOf negative ++ chars))
      = if digitLimit < digits.length then .error (.tooLong digits.length)
        else .ok (signed negative (valueOf 10 digits)) := by
  have htaken := takeDigits_eq h
  rw [readDecimal, String.toList_ofList]
  cases negative with
  | true => simp [signOf, signed, htaken, hne]
  | false =>
    cases h with
    | nil => exact absurd rfl hne
    | cons hdigit _ => simp [signOf, signed, ne_minus_of_decimalDigit? hdigit, htaken]

/-- Digits behind a sign are read as the number they write. -/
theorem readDecimal_digits (negative : Bool) {chars : List Char} {digits : List Nat}
    (h : List.Forall₂ (fun c digit => decimalDigit? c = some digit) chars digits) (hne : digits ≠ [])
    (hlimit : digits.length ≤ digitLimit) :
    readDecimal (String.ofList (signOf negative ++ chars)) = .ok (signed negative (valueOf 10 digits)) := by
  rw [readDecimal_eq negative h hne, if_neg (Nat.not_lt.2 hlimit)]

end Text

open Text

namespace BackingKind

/-- A value names a kind. -/
inductive Spells (kind : BackingKind) : Json → Prop where
  | number : Spells kind (.integer kind.number)
  | word {before word behind : List Char} : IsBlank before → SameLetters (String.ofList word) kind.markerName →
      IsBlank behind → Spells kind (.ofString (String.ofList (before ++ (word ++ behind))))
  | digits {before chars behind : List Char} {negative : Bool} {digits : List Nat} : IsBlank before →
      List.Forall₂ (fun c digit => decimalDigit? c = some digit) chars digits → digits ≠ [] →
      digits.length ≤ digitLimit → signed negative (valueOf 10 digits) = kind.number → IsBlank behind →
      Spells kind (.ofString (String.ofList (before ++ (signOf negative ++ chars ++ behind))))

/-- The number of a kind chooses that kind. -/
theorem ofInteger_number (kind : BackingKind) : ofInteger kind.number = kind := by
  cases kind <;> rfl

/-- The name that the marker has for a kind chooses that kind. -/
theorem ofWord_markerName (kind : BackingKind) : ofWord kind.markerName = kind := by
  cases kind <;> decide +kernel

/-- The small letters that names of kinds consist of. -/
theorem markerName_letters (kind : BackingKind) :
    kind.markerName ≠ "" ∧ ∀ c ∈ kind.markerName.toList.map Char.toLower, c.toNat < 0x80 ∧ c.isLower = true := by
  cases kind <;> exact ⟨by decide, List.forall_iff_forall_mem.1 (by decide)⟩

/-- A letter of ASCII is no blank, no digit and no minus sign. -/
theorem of_isLower_code : ∀ code < 0x80, (Char.ofNat code).toLower.isLower = true →
    Unicode.blank.covers code = false ∧ isDigit (Char.ofNat code) = false ∧ Char.ofNat code ≠ '-' := by
  decide +kernel

/-- A character of a word with the letters of a kind's name is a letter of ASCII. -/
theorem of_sameLetters {kind : BackingKind} {word : List Char} (h : SameLetters (String.ofList word) kind.markerName) :
    ∀ c ∈ word, c.toNat < 0x80 ∧ Unicode.blank.has c = false ∧ isDigit c = false ∧ c ≠ '-' := by
  intro c hc
  rw [SameLetters, String.toList_ofList] at h
  have hmem : c.toLower ∈ kind.markerName.toList.map Char.toLower := by
    rw [← h]
    exact List.mem_map_of_mem hc
  obtain ⟨hascii, hlower⟩ := kind.markerName_letters.2 _ hmem
  have hcode := toNat_lt_of_toLower hascii
  have hletter := of_isLower_code c.toNat hcode
  rw [Char.ofNat_toNat] at hletter
  exact ⟨hcode, hletter hlower⟩

/-- A word with the letters of the name of a kind is not empty. -/
theorem ne_nil_of_sameLetters {kind : BackingKind} {word : List Char}
    (h : SameLetters (String.ofList word) kind.markerName) : word ≠ [] := by
  rintro rfl
  rw [SameLetters, String.toList_ofList, List.map_nil] at h
  exact kind.markerName_letters.1 (String.toList_eq_nil_iff.1 (List.map_eq_nil_iff.1 h.symm))

/-- A word with the letters of a kind's name chooses the kind. -/
theorem ofWord_of_sameLetters {kind : BackingKind} {word : List Char}
    (h : SameLetters (String.ofList word) kind.markerName) : ofWord (String.ofList word) = kind := by
  have hword := lower_of_isAscii fun c hc => (of_sameLetters h c hc).1
  have hself : SameLetters (String.ofList kind.markerName.toList) kind.markerName := by
    rw [String.ofList_toList]
    rfl
  have hname := lower_of_isAscii fun c hc => (of_sameLetters hself c hc).1
  rw [SameLetters, String.toList_ofList] at h
  rw [h, ← hname, String.ofList_toList] at hword
  have hsame : ofWord (String.ofList word) = ofWord kind.markerName := by rw [ofWord, ofWord, hword]
  rw [hsame, ofWord_markerName]

/-- A text that begins with neither a minus sign nor a digit is not numeric. -/
theorem isNumeric_of_notDigit {c : Char} {rest : List Char} (hminus : c ≠ '-') (hdigit : isDigit c = false) :
    isNumeric (String.ofList (c :: rest)) = false := by
  rw [isNumeric, String.toList_ofList, List.dropWhile_cons_of_neg (by simpa using hminus)]
  simp [hdigit]

/-- Digits behind a sign count as a number. -/
theorem isNumeric_digits (negative : Bool) {chars : List Char} {digits : List Nat}
    (h : List.Forall₂ (fun c digit => decimalDigit? c = some digit) chars digits) (hne : digits ≠ []) :
    isNumeric (String.ofList (signOf negative ++ chars)) = true := by
  have hdigits : ∀ c ∈ chars, isDigit c = true := by
    clear hne
    induction h with
    | nil => simp
    | cons hdigit _ ih => exact List.forall_mem_cons.2 ⟨by simp [isDigit, hdigit], ih⟩
  have hsign : ∀ c ∈ signOf negative, (c == '-') = true := by
    cases negative <;> exact List.forall_iff_forall_mem.1 (by decide)
  cases h with
  | nil => exact absurd rfl hne
  | @cons c digit chars digits hdigit hrest =>
    have hminus := ne_minus_of_decimalDigit? hdigit
    rw [isNumeric, String.toList_ofList, List.dropWhile_append_of_pos hsign,
      List.dropWhile_cons_of_neg (by simpa using hminus)]
    simpa using hdigits

/-- The blanks around a name are stripped. -/
theorem strip_word {kind : BackingKind} {before word behind : List Char} (hbefore : IsBlank before)
    (hword : SameLetters (String.ofList word) kind.markerName) (hbehind : IsBlank behind) :
    strip (String.ofList (before ++ (word ++ behind))) = String.ofList word :=
  strip_blanks hbefore hbehind (fun c hc => (of_sameLetters hword c hc).2.1) (ne_nil_of_sameLetters hword)

/-- The blanks around a numeral are stripped. -/
theorem strip_numeral {before chars behind : List Char} {negative : Bool} {digits : List Nat} (hbefore : IsBlank before)
    (hdigits : List.Forall₂ (fun c digit => decimalDigit? c = some digit) chars digits) (hne : digits ≠ [])
    (hbehind : IsBlank behind) :
    strip (String.ofList (before ++ (signOf negative ++ chars ++ behind)))
      = String.ofList (signOf negative ++ chars) := by
  have hblank : ∀ c ∈ signOf negative ++ chars, Unicode.blank.has c = false := by
    have hsign : ∀ c ∈ signOf negative, Unicode.blank.has c = false := by
      cases negative <;> exact List.forall_iff_forall_mem.1 (by decide +kernel)
    refine List.forall_mem_append.2 ⟨hsign, ?_⟩
    clear hne
    induction hdigits with
    | nil => simp
    | cons hdigit _ ih => exact List.forall_mem_cons.2 ⟨notBlank_of_decimalDigit? hdigit, ih⟩
  refine strip_blanks hbefore hbehind hblank ?_
  intro hnil
  rw [(List.append_eq_nil_iff.1 hnil).2] at hdigits
  exact hne (List.forall₂_nil_left_iff.1 hdigits)

/-- Every spelling of a kind chooses it. -/
theorem ofValue_of_spells {kind : BackingKind} {value : Json} (h : Spells kind value) : ofValue value = .ok kind := by
  cases h with
  | number => exact congrArg Except.ok (ofInteger_number kind)
  | @word before word behind hbefore hword hbehind =>
    have hletters := of_sameLetters hword
    have hnumeric : isNumeric (String.ofList word) = false := by
      obtain ⟨c, rest, rfl⟩ := List.exists_cons_of_ne_nil (ne_nil_of_sameLetters hword)
      obtain ⟨-, -, hdigit, hminus⟩ := hletters c List.mem_cons_self
      exact isNumeric_of_notDigit hminus hdigit
    rw [Json.ofString, ofValue, ofText, strip_word hbefore hword hbehind, hnumeric]
    exact congrArg Except.ok (ofWord_of_sameLetters hword)
  | digits hbefore hdigits hne hlimit hvalue hbehind =>
    rw [Json.ofString, ofValue, ofText, strip_numeral hbefore hdigits hne hbehind, isNumeric_digits _ hdigits hne,
      if_pos rfl, readDecimal_digits _ hdigits hne hlimit, hvalue]
    exact congrArg Except.ok (ofInteger_number kind)

end BackingKind

end TypedId
