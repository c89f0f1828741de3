import Mathlib.Data.List.TakeWhile
import TypedId.Proofs.Backing
import TypedId.Proofs.Extraction
import TypedId.Proofs.Text.Lowering
import TypedId.Proofs.Unicode.Runs

/-!
# Selectors that choose a kind

What stands between the blanks of a text is either tried as a number, when it looks like one, or as a word. The two tests
of a number differ: `isNumeric` takes any number of minus signs and digits that no numeral uses, and knows no greatest
length, but `readDecimal` wants a numeral. A text between them is a false numeral (`IsFalseNumeral`), and it alone is an
error (`ofText_isError_iff`). Everything else chooses the kind that it spells, or the default
(`BackingSelector.resolves`). So selectors, arguments, declarations and JSON objects come to a kind unless they bring a
false numeral (`resolution_returns_unless_false_numeral`).
-/

set_option autoImplicit false

namespace TypedId

namespace Text

/-! ## Blanks -/

/-- A text is what is left of it between blanks. -/
theorem exists_blanks_strip (text : String) :
    ∃ before behind, IsBlank before ∧ IsBlank behind ∧ text.toList = before ++ ((strip text).toList ++ behind) := by
  have hblank (chars : List Char) : IsBlank (chars.takeWhile Unicode.blank.has) :=
    fun c hc => List.mem_takeWhile_imp hc
  refine ⟨text.toList.takeWhile Unicode.blank.has,
    ((text.toList.dropWhile Unicode.blank.has).reverse.takeWhile Unicode.blank.has).reverse, hblank _, ?_, ?_⟩
  · intro c hc
    exact hblank _ c (List.mem_reverse.1 hc)
  · rw [strip, String.toList_ofList, ← List.reverse_append, List.takeWhile_append_dropWhile, List.reverse_reverse,
      List.takeWhile_append_dropWhile]

/-- Digits that have no place in a numeral are no blanks. -/
theorem ornament_notBlank : ∀ run ∈ Unicode.ornamentalDigits, ∀ offset < run.2 + 1 - run.1,
    Unicode.blank.covers (run.1 + offset) = false := by
  decide +kernel

/-- No digit is a blank, be it of a numeral or an ornament. -/
theorem notBlank_of_isDigit {c : Char} (h : isDigit c = true) : Unicode.blank.has c = false := by
  rw [isDigit, Bool.or_eq_true] at h
  rcases h with hdigit | hornament
  · obtain ⟨digit, hdigit⟩ := Option.isSome_iff_exists.1 hdigit
    exact notBlank_of_decimalDigit? hdigit
  · obtain ⟨run, hrun, hfirst, hlast⟩ := Unicode.Runs.exists_of_covers hornament
    have hnot := ornament_notBlank run hrun (c.toNat - run.1) (by omega)
    rwa [Nat.add_sub_of_le hfirst] at hnot

/-- The minus sign is no digit. -/
theorem isDigit_minus : isDigit '-' = false := by decide +kernel

/-- A digit is no minus sign. -/
theorem ne_minus_of_isDigit {c : Char} (h : isDigit c = true) : c ≠ '-' := by
  rintro rfl
  rw [isDigit_minus] at h
  exact absurd h (by simp)

/-! ## Numerals -/

/-- What is taken are digits, and what is left does not begin with one. -/
theorem of_takeDigits {chars left : List Char} {digits : List Nat} (h : takeDigits chars = (digits, left)) :
    ∃ taken, chars = taken ++ left ∧ List.Forall₂ (fun c digit => decimalDigit? c = some digit) taken digits := by
  induction chars generalizing digits with
  | nil =>
    obtain ⟨rfl, rfl⟩ := Prod.mk.inj h
    exact ⟨[], rfl, .nil⟩
  | cons c rest ih =>
    rw [takeDigits] at h
    cases hdigit : decimalDigit? c with
    | none =>
      rw [hdigit] at h
      obtain ⟨rfl, rfl⟩ := Prod.mk.inj h
      exact ⟨[], rfl, .nil⟩
    | some digit =>
      rw [hdigit] at h
      obtain ⟨rfl, rfl⟩ := Prod.mk.inj h
      obtain ⟨taken, hrest, htaken⟩ := ih rfl
      refine ⟨c :: taken, ?_, .cons hdigit htaken⟩
      rw [List.cons_append, ← hrest]

/-- A numeral is digits behind one sign or none, and not too many of them. -/
theorem readDecimal_eq_ok_iff {text : String} {value : Int} :
    readDecimal text = .ok value ↔ ∃ negative chars digits, text = String.ofList (signOf negative ++ chars) ∧
      List.Forall₂ (fun c digit => decimalDigit? c = some digit) chars digits ∧ digits ≠ [] ∧
      digits.length ≤ digitLimit ∧ value = signed negative (valueOf 10 digits) := by
  constructor
  · intro h
    rw [readDecimal] at h
    split at h
    rename_i negative body hsign
    have hchars : text.toList = signOf negative ++ body := by
      split at hsign
      all_goals obtain ⟨rfl, rfl⟩ := Prod.mk.inj hsign
      · assumption
      · rfl
    split at h
    rename_i digits left htaken
    split at h
    · exact absurd h (by simp)
    · rename_i hlimit
      split at h
      · exact absurd h (by simp)
      · rename_i hwhole
        obtain ⟨hne, rfl⟩ : digits ≠ [] ∧ left = [] := by simpa using hwhole
        obtain ⟨taken, hbody, hdigits⟩ := of_takeDigits htaken
        rw [List.append_nil] at hbody
        refine ⟨negative, taken, digits, ?_, hdigits, hne, Nat.le_of_not_lt hlimit, ?_⟩
        · rw [← hbody, ← hchars, String.ofList_toList]
        · cases negative <;> exact (Except.ok.inj h).symm
  · rintro ⟨negative, chars, digits, rfl, hdigits, hne, hlimit, rfl⟩
    exact readDecimal_digits negative hdigits hne hlimit

/-! ## Letters -/

/-- Lower case leads into ASCII from within, but for the sign for kelvin. -/
theorem ascii_partner : ∀ run ∈ Unicode.capitals, run.target < 0x80 →
    run.last < 0x80 ∨ run.first = run.last ∧ run.target = 'k'.toNat := by
  decide +kernel

/-- Only a character of ASCII has a lower case in ASCII, the sign of the kelvin apart. -/
theorem toNat_lt_of_lowerChars {c : Char} (h : ∀ d ∈ Unicode.lowerChars c, d.toNat < 0x80 ∧ d ≠ 'k') :
    c.toNat < 0x80 := by
  rw [Unicode.lowerChars] at h
  split at h
  · exact absurd (h (Char.ofNat 0x307) (by simp)).1 (by decide)
  · obtain ⟨hascii, hkelvin⟩ := h _ (List.mem_singleton_self _)
    rw [Unicode.toNat_lowered] at hascii
    rcases Unicode.lowerIn_cases Unicode.capitals c.toNat with hsame | ⟨run, hrun, hcovers, hmoved⟩
    · rwa [hsame] at hascii
    · simp only [Unicode.CaseRun.covers, Bool.and_eq_true, decide_eq_true_eq] at hcovers
      rcases ascii_partner run hrun (by omega) with hlast | ⟨hone, htarget⟩
      · omega
      · have hfirst : c.toNat - run.first = 0 := by omega
        rw [hmoved, htarget, hfirst] at hkelvin
        exact absurd rfl hkelvin

/-- A text is of ASCII if its lower case is and has no letter `k`. -/
theorem isAscii_of_lowerAfter {before chars : List Char}
    (h : ∀ d ∈ lowerAfter before chars, d.toNat < 0x80 ∧ d ≠ 'k') : IsAscii chars := by
  induction chars generalizing before with
  | nil => exact fun c hc => absurd hc (by simp)
  | cons c rest ih =>
    rw [lowerAfter, List.forall_mem_append] at h
    obtain ⟨hc, hrest⟩ := h
    refine List.forall_mem_cons.2 ⟨?_, ih hrest⟩
    split at hc
    · have hsigma := (List.forall_mem_singleton.1 hc).1
      split at hsigma <;> exact absurd hsigma (by decide)
    · exact toNat_lt_of_lowerChars hc

/-- A text in any case is a word in ASCII without the letter `k` only if it has the same letters. -/
theorem sameLetters_of_lower {text word : String} (h : lower text = lower word)
    (hword : ∀ d ∈ word.toList.map Char.toLower, d.toNat < 0x80 ∧ d ≠ 'k') : SameLetters text word := by
  have hlower : lower word = String.ofList (word.toList.map Char.toLower) := by
    have hascii : IsAscii word.toList := fun c hc => toNat_lt_of_toLower (hword _ (List.mem_map_of_mem hc)).1
    rw [← lower_of_isAscii hascii, String.ofList_toList]
  have hascii : IsAscii text.toList := by
    refine @isAscii_of_lowerAfter [] _ fun d hd => hword d ?_
    have hmem : d ∈ (lower text).toList := by rwa [lower, String.toList_ofList]
    rwa [h, hlower, String.toList_ofList] at hmem
  have htext := lower_of_isAscii hascii
  rw [String.ofList_toList, h, hlower] at htext
  exact (String.ofList_injective htext).symm

end Text

open Text

namespace BackingKind

/-! ## Numbers -/

/-- What looks like a number are digits behind minus signs. -/
theorem isNumeric_iff {chars : List Char} :
    isNumeric (String.ofList chars) = true ↔ ∃ signs digits, chars = List.replicate signs '-' ++ digits ∧
      digits ≠ [] ∧ ∀ c ∈ digits, isDigit c = true := by
  rw [isNumeric, String.toList_ofList]
  simp only [Bool.and_eq_true, Bool.not_eq_true', List.all_eq_true]
  constructor
  · rintro ⟨hne, hdigits⟩
    have hsigns : chars.takeWhile (· == '-') = List.replicate (chars.takeWhile (· == '-')).length '-' := by
      refine List.eq_replicate_iff.2 ⟨rfl, fun c hc => ?_⟩
      simpa using List.mem_takeWhile_imp hc
    refine ⟨(chars.takeWhile (· == '-')).length, chars.dropWhile (· == '-'), ?_, by simpa using hne, hdigits⟩
    rw [← hsigns, List.takeWhile_append_dropWhile]
  · rintro ⟨signs, digits, rfl, hne, hdigits⟩
    have hbare : (List.replicate signs '-' ++ digits).dropWhile (· == '-') = digits := by
      obtain ⟨c, rest, rfl⟩ := List.exists_cons_of_ne_nil hne
      have hminus := ne_minus_of_isDigit (hdigits c List.mem_cons_self)
      rw [List.dropWhile_append_of_pos (by simp), List.dropWhile_cons_of_neg (by simpa using hminus)]
    rw [hbare]
    exact ⟨by simpa using hne, hdigits⟩

/-- What looks like a number between blanks and is no numeral: there are several minus signs, a digit that no numeral
uses, or too many digits. -/
inductive IsFalseNumeral : String → Prop where
  | intro {before digits behind : List Char} {signs : Nat} : IsBlank before → IsBlank behind → digits ≠ [] →
      (∀ c ∈ digits, isDigit c = true) →
      1 < signs ∨ (∃ c ∈ digits, decimalDigit? c = none) ∨ digitLimit < digits.length →
      IsFalseNumeral (String.ofList (before ++ (List.replicate signs '-' ++ digits ++ behind)))

/-- Digits that a numeral uses have their values. -/
theorem exists_digits {chars : List Char} (h : ∀ c ∈ chars, decimalDigit? c ≠ none) :
    ∃ digits, List.Forall₂ (fun c digit => decimalDigit? c = some digit) chars digits := by
  induction chars with
  | nil => exact ⟨[], .nil⟩
  | cons c rest ih =>
    obtain ⟨hc, hrest⟩ := List.forall_mem_cons.1 h
    obtain ⟨digit, hdigit⟩ := Option.ne_none_iff_exists'.1 hc
    obtain ⟨digits, hdigits⟩ := ih hrest
    exact ⟨digit :: digits, .cons hdigit hdigits⟩

/-- The characters of a numeral are minus signs, one at most, and digits of numerals, not too many. -/
theorem of_readDecimal {signs : Nat} {digits : List Char} {value : Int} (hdigits : ∀ c ∈ digits, isDigit c = true)
    (h : readDecimal (String.ofList (List.replicate signs '-' ++ digits)) = .ok value) :
    signs ≤ 1 ∧ (∀ c ∈ digits, decimalDigit? c ≠ none) ∧ digits.length ≤ digitLimit := by
  obtain ⟨negative, chars, values, htext, hvalues, -, hlimit, -⟩ := readDecimal_eq_ok_iff.1 h
  have hchars : ∀ c ∈ chars, decimalDigit? c ≠ none := by
    intro c hc
    obtain ⟨digit, -, hdigit⟩ := exists_of_mem_right hvalues.flip hc
    simp [hdigit]
  have hsame : List.replicate signs '-' ++ digits = signOf negative ++ chars := String.ofList_injective htext
  have hminus : '-' ∉ chars := fun hc => hchars _ hc (by decide +kernel)
  have hminus_digits : '-' ∉ digits := fun hc => ne_minus_of_isDigit (hdigits _ hc) rfl
  have hsigns : signs = (signOf negative).count '-' := by
    have hcount := congrArg (List.count '-') hsame
    rwa [List.count_append, List.count_append, List.count_eq_zero_of_not_mem hminus,
      List.count_eq_zero_of_not_mem hminus_digits, List.count_replicate_self, Nat.add_zero, Nat.add_zero] at hcount
  have hlength : signs = (signOf negative).length := by
    rw [hsigns]
    cases negative <;> rfl
  obtain ⟨-, rfl⟩ := List.append_inj hsame (by rw [List.length_replicate, hlength])
  refine ⟨?_, hchars, hvalues.length_eq ▸ hlimit⟩
  rw [hlength]
  cases negative <;> decide

/-- A text is an error exactly if it is a false numeral. -/
theorem ofText_isError_iff {text : String} : (∃ error, ofText text = .error error) ↔ IsFalseNumeral text := by
  constructor
  · rintro ⟨error, herror⟩
    rw [ofText] at herror
    split at herror
    · rename_i hnumeric
      obtain ⟨before, behind, hbefore, hbehind, htext⟩ := exists_blanks_strip text
      rw [← String.ofList_toList (s := strip text)] at hnumeric
      obtain ⟨signs, digits, hstrip, hne, hdigits⟩ := isNumeric_iff.1 hnumeric
      rw [hstrip] at htext
      rw [← String.ofList_toList (s := text), htext]
      refine .intro hbefore hbehind hne hdigits ?_
      -- otherwise the digits stand behind one sign or none and are read
      by_contra! ⟨hsigns, hvalues, hlimit⟩
      obtain ⟨values, hvalues⟩ := exists_digits hvalues
      have hsign : List.replicate signs '-' = signOf (signs == 1) := by
        obtain rfl | rfl : signs = 0 ∨ signs = 1 := by omega
        · rfl
        · rfl
      have hread : readDecimal (strip text) = .ok (signed (signs == 1) (valueOf 10 values)) := by
        rw [← String.ofList_toList (s := strip text), hstrip, hsign]
        refine readDecimal_digits _ hvalues ?_ (hvalues.length_eq ▸ hlimit)
        rintro rfl
        exact hne (List.forall₂_nil_right_iff.1 hvalues)
      rw [hread] at herror
      exact absurd herror (by simp [Except.map])
    · exact absurd herror (by simp)
  · rintro ⟨hbefore, hbehind, hne, hdigits, hfalse⟩
    rename_i before digits behind signs
    have hcore : ∀ c ∈ List.replicate signs '-' ++ digits, Unicode.blank.has c = false := by
      refine List.forall_mem_append.2 ⟨fun c hc => ?_, fun c hc => notBlank_of_isDigit (hdigits c hc)⟩
      rw [List.eq_of_mem_replicate hc]
      decide
    rw [ofText, strip_blanks hbefore hbehind hcore (by simp [hne]), isNumeric_iff.2 ⟨signs, digits, rfl, hne, hdigits⟩,
      if_pos rfl]
    cases hread : readDecimal (String.ofList (List.replicate signs '-' ++ digits)) with
    | error error => exact ⟨error, rfl⟩
    | ok value =>
      obtain ⟨hsigns, hvalues, hlimit⟩ := of_readDecimal hdigits hread
      rcases hfalse with hmany | ⟨c, hc, hnone⟩ | hlong
      · omega
      · exact absurd hnone (hvalues c hc)
      · omega

/-! ## What is chosen -/

/-- A choice comes to the kind that is spelled, to the default where none is spelled, or to an error where what is given
is wrong. -/
structure Resolves (result : Except NumeralError BackingKind) (Spelled : BackingKind → Prop) (Wrong : Prop) :
    Prop where
  returns : (∃ kind, result = .ok kind) ↔ ¬ Wrong
  chosen : ∀ kind, result = .ok kind ↔ Spelled kind ∨ kind = default ∧ (∀ other, ¬ Spelled other) ∧ ¬ Wrong

/-- It is enough that kinds that are spelled are chosen and that no other is but the default. -/
theorem Resolves.intro {result : Except NumeralError BackingKind} {Spelled : BackingKind → Prop} {Wrong : Prop}
    (hspelled : ∀ kind, Spelled kind → result = .ok kind)
    (hchosen : ∀ kind, result = .ok kind → kind ≠ default → Spelled kind)
    (herror : (∃ error, result = .error error) ↔ Wrong) : Resolves result Spelled Wrong := by
  have hreturns : (∃ kind, result = .ok kind) ↔ ¬ Wrong := by rw [exists_ok_iff_not_error, herror]
  refine ⟨hreturns, fun kind => ⟨fun hkind => ?_, ?_⟩⟩
  · have hsame {other : BackingKind} (hother : Spelled other) : kind = other :=
      Except.ok.inj (hkind.symm.trans (hspelled other hother))
    by_cases hself : Spelled kind
    · exact Or.inl hself
    · have hdefault : kind = default := by
        by_contra hne
        exact hself (hchosen kind hkind hne)
      exact Or.inr ⟨hdefault, fun other hother => hself (hsame hother ▸ hother), hreturns.1 ⟨kind, hkind⟩⟩
  · rintro (hself | ⟨rfl, hnone, htrue⟩)
    · exact hspelled kind hself
    · obtain ⟨kind, hkind⟩ := hreturns.2 htrue
      by_cases hdefault : kind = default
      · rw [hkind, hdefault]
      · exact absurd (hchosen kind hkind hdefault) (hnone kind)

/-- A number that chooses a kind other than the default is that of the kind. -/
theorem of_ofInteger {number : Int} {kind : BackingKind} (h : ofInteger number = kind) (hkind : kind ≠ default) :
    number = kind.number := by
  rw [ofInteger] at h
  cases hfound : ofNumber? number with
  | none =>
    rw [hfound] at h
    exact absurd h.symm hkind
  | some found =>
    rw [hfound] at h
    obtain rfl : found = kind := h
    have hnumber := List.find?_some hfound
    exact (beq_iff_eq.1 hnumber).symm

/-- A word that chooses a kind other than the default is the name of the kind, in any case. -/
theorem of_ofWord {word : String} {kind : BackingKind} (h : ofWord word = kind) (hkind : kind ≠ default) :
    SameLetters word kind.markerName := by
  rw [ofWord] at h
  cases hfound : all.find? fun kind => lower kind.markerName == lower word with
  | none =>
    rw [hfound] at h
    exact absurd h.symm hkind
  | some found =>
    rw [hfound] at h
    obtain rfl : found = kind := h
    have hlower := List.find?_some hfound
    refine sameLetters_of_lower (beq_iff_eq.1 hlower).symm fun d hd => ?_
    refine ⟨(found.markerName_letters.2 d hd).1, ?_⟩
    rintro rfl
    revert hd
    cases found <;> decide

/-- What a value is wrong by: it is a text that is a false numeral. -/
def IsFalse : Json → Prop
  | .string (.whole text) => IsFalseNumeral text
  | _ => False

/-- A value is an error exactly if it is a false numeral. -/
theorem ofValue_isError_iff {value : Json} : (∃ error, ofValue value = .error error) ↔ IsFalse value := by
  unfold ofValue
  split
  · simp [IsFalse]
  · exact ofText_isError_iff
  · rename_i hinteger hstring
    refine ⟨fun ⟨error, herror⟩ => absurd herror (by simp), fun hfalse => ?_⟩
    unfold IsFalse at hfalse
    split at hfalse
    · exact absurd rfl (hstring _)
    · exact hfalse.elim

/-- A text that chooses a kind other than the default spells it. -/
theorem spells_of_ofText {text : String} {kind : BackingKind} (h : ofText text = .ok kind) (hkind : kind ≠ default) :
    Spells kind (.ofString text) := by
  obtain ⟨before, behind, hbefore, hbehind, htext⟩ := exists_blanks_strip text
  rw [← String.ofList_toList (s := text), htext]
  rw [ofText] at h
  split at h
  · obtain ⟨value, hread, hvalue⟩ := map_eq_ok_iff.1 h
    obtain ⟨negative, chars, digits, hstrip, hdigits, hne, hlimit, rfl⟩ := readDecimal_eq_ok_iff.1 hread
    rw [hstrip, String.toList_ofList]
    exact .digits hbefore hdigits hne hlimit (of_ofInteger hvalue hkind) hbehind
  · have hletters := of_ofWord (Except.ok.inj h) hkind
    rw [← String.ofList_toList (s := strip text)] at hletters
    exact .word hbefore hletters hbehind

/-- A value that chooses a kind other than the default spells it. -/
theorem spells_of_ofValue {value : Json} {kind : BackingKind} (h : ofValue value = .ok kind) (hkind : kind ≠ default) :
    Spells kind value := by
  unfold ofValue at h
  split at h
  · rw [of_ofInteger (Except.ok.inj h) hkind]
    exact .number
  · exact spells_of_ofText h hkind
  · exact absurd (Except.ok.inj h).symm hkind

end BackingKind

/-! ## Selectors and arguments -/

/-- A selector is a false numeral. -/
def BackingSelector.IsFalse : BackingSelector → Prop
  | .kind _ => False
  | .value given => BackingKind.IsFalse given

/-- A selector is a kind or spells one. -/
inductive BackingSelector.Spells : BackingSelector → BackingKind → Prop where
  | kind (kind : BackingKind) : Spells (.kind kind) kind
  | value {given : Json} {kind : BackingKind} : kind.Spells given → Spells (.value given) kind

/-- A selector ends in an error exactly if it carries a false numeral. -/
theorem BackingSelector.resolve_isError_iff {selector : BackingSelector} :
    (∃ error, selector.resolve = .error error) ↔ selector.IsFalse := by
  cases selector with
  | kind kind => simp [resolve, IsFalse]
  | value given => exact BackingKind.ofValue_isError_iff

/-- A selector comes to the kind that it spells, to the default or to an error. -/
theorem BackingSelector.resolves (selector : BackingSelector) :
    BackingKind.Resolves selector.resolve selector.Spells selector.IsFalse := by
  refine .intro (fun kind hspells => ?_) (fun kind hkind hne => ?_) resolve_isError_iff
  · cases hspells with
    | kind => rfl
    | value hspells => exact BackingKind.ofValue_of_spells hspells
  · cases selector with
    | kind chosen =>
      obtain rfl := Except.ok.inj hkind
      exact .kind _
    | value given => exact .value (BackingKind.spells_of_ofValue hkind hne)

/-- An argument carries a false numeral where an integer belongs. -/
def AttributeArgument.IsFalse (argument : AttributeArgument) : Prop :=
  argument.kind = .integer ∧ BackingKind.IsFalse argument.value

/-- An argument spells a kind as an integer would, or names it exactly behind the last point of a member. -/
inductive AttributeArgument.Spells (argument : AttributeArgument) (kind : BackingKind) : Prop where
  | integer : argument.kind = .integer → kind.Spells argument.value → Spells argument kind
  | member {text : Json.Text} : argument.kind = .member → argument.value = .string text →
      lastPart? text = some kind.markerName → Spells argument kind

/-- An argument ends in an error exactly if it carries a false numeral. -/
theorem AttributeArgument.backingKind_isError_iff {argument : AttributeArgument} :
    (∃ error, argument.backingKind = .error error) ↔ argument.IsFalse := by
  unfold backingKind
  split
  · rename_i hkind
    rw [BackingKind.ofValue_isError_iff, IsFalse, hkind]
    exact (and_iff_right rfl).symm
  · rename_i hkind _
    simp [IsFalse, hkind]
  · rename_i hinteger _
    have hkind : argument.kind ≠ .integer := fun hkind => hinteger hkind
    simp [IsFalse, hkind]

/-- An argument that comes to another kind than the default spells that kind. -/
theorem AttributeArgument.spells_of_backingKind {argument : AttributeArgument} {kind : BackingKind}
    (h : argument.backingKind = .ok kind) (hkind : kind ≠ BackingKind.default) : argument.Spells kind := by
  unfold backingKind at h
  split at h
  · rename_i hinteger
    exact .integer hinteger (BackingKind.spells_of_ofValue h hkind)
  · rename_i text hmember hvalue
    refine .member hmember hvalue ?_
    cases hpart : lastPart? text with
    | none =>
      rw [hpart] at h
      exact absurd (Except.ok.inj h).symm hkind
    | some part =>
      rw [hpart, Option.bind_some] at h
      cases hfound : BackingKind.ofMarkerName? part with
      | none =>
        rw [hfound] at h
        exact absurd (Except.ok.inj h).symm hkind
      | some found =>
        rw [hfound] at h
        obtain rfl : found = kind := Except.ok.inj h
        have hname := List.find?_some hfound
        rw [beq_iff_eq.1 hname]
  · exact absurd (Except.ok.inj h).symm hkind

/-- An argument comes to the kind that it spells. -/
theorem AttributeArgument.backingKind_of_spells {argument : AttributeArgument} {kind : BackingKind}
    (h : argument.Spells kind) : argument.backingKind = .ok kind := by
  unfold backingKind
  cases h with
  | integer hkind hspells =>
    rw [hkind]
    exact BackingKind.ofValue_of_spells hspells
  | member hkind hvalue hpart =>
    simp only [hkind, hvalue, hpart, Option.bind_some]
    cases kind <;> rfl

/-- An argument comes to the kind that it spells, to the default or to an error. -/
theorem AttributeArgument.resolves (argument : AttributeArgument) :
    BackingKind.Resolves argument.backingKind argument.Spells argument.IsFalse :=
  .intro (fun _ => backingKind_of_spells) (fun _ => spells_of_backingKind) backingKind_isError_iff

/-! ## Declarations and JSON objects -/

/-- A declaration is to be expanded, and the argument that states its kind carries a false numeral. -/
def TypeDeclaration.IsFalse (declaration : TypeDeclaration) : Prop :=
  declaration.IsMarked ∧ ∃ marker argument, declaration.marker? = some marker ∧
    marker.arguments.find? AttributeArgument.statesBacking = some argument ∧ argument.IsFalse

/-- A declaration ends in an error exactly if it is to be expanded and carries a false numeral. -/
theorem TypeDeclaration.descriptor?_isError_iff {declaration : TypeDeclaration} :
    (∃ error, declaration.descriptor? = .error error) ↔ declaration.IsFalse := by
  by_cases hmarked : declaration.IsMarked
  · obtain ⟨marker, hmarker, hdescriptor⟩ := descriptor?_of_isMarked hmarked
    have hmap : (∃ error, declaration.descriptor? = .error error) ↔ ∃ error, marker.backingKind = .error error := by
      rw [hdescriptor]
      cases marker.backingKind <;> simp [Except.map]
    rw [hmap, AttributeUse.backingKind]
    cases hfound : marker.arguments.find? AttributeArgument.statesBacking with
    | none => simp [IsFalse, hmarker, hfound]
    | some argument =>
      rw [AttributeArgument.backingKind_isError_iff]
      simp [IsFalse, hmarked, hmarker, hfound]
  · rw [descriptor?_of_not_isMarked hmarked]
    simp [IsFalse, hmarked]

/-- Declarations have descriptors exactly if none of them carries a false numeral. -/
theorem exists_descriptorsOf_iff {declarations : List TypeDeclaration} :
    (∃ ids, descriptorsOf declarations = .ok ids) ↔ ∀ declaration ∈ declarations, ¬ declaration.IsFalse := by
  rw [descriptorsOf, exists_map_eq_ok_iff, exists_mapM_eq_ok_iff]
  simp only [exists_ok_iff_not_error, TypeDeclaration.descriptor?_isError_iff]

/-- The entries of an object give a name and a namespace, but the kind is a false numeral. -/
def IsFalseObject (entries : List (Json.Text × Json)) : Prop :=
  (∃ name, ((Json.lookup? entries "name").getD .null).identifier? = some name) ∧
    (∃ space, (spaceEntry entries).dottedPath? = some space) ∧
    BackingKind.IsFalse ((Json.lookup? entries "backing_kind").getD .null)

/-- An object is an error for its kind exactly if that is a false numeral; its name and namespace are looked at first. -/
theorem ofJson_isNumeralError_iff {entries : List (Json.Text × Json)} :
    (∃ error, Descriptor.ofJson (.object entries) = .error (.numeral error)) ↔ IsFalseObject entries := by
  rw [Descriptor.ofJson, descriptorOfEntries, IsFalseObject, ← BackingKind.ofValue_isError_iff]
  cases ((Json.lookup? entries "name").getD .null).identifier? with
  | none => simp
  | some name =>
    cases (spaceEntry entries).dottedPath? with
    | none => simp
    | some space =>
      cases BackingKind.ofValue ((Json.lookup? entries "backing_kind").getD .null) with
      | error error => simp
      | ok kind => simp

/-- Selectors and arguments come to the kind that they spell, else to the default, unless they bring a false numeral.
They, declarations and objects are an error exactly if they bring one. -/
theorem resolution_returns_unless_false_numeral (selector : BackingSelector) (argument : AttributeArgument)
    (declaration : TypeDeclaration) (declarations : List TypeDeclaration) (name space : String) (isPublic : Bool)
    (entries : List (Json.Text × Json)) :
    BackingKind.Resolves selector.resolve selector.Spells selector.IsFalse ∧
    BackingKind.Resolves argument.backingKind argument.Spells argument.IsFalse ∧
    ((∃ found, declaration.descriptor? = .ok found) ↔ ¬ declaration.IsFalse) ∧
    ((∃ ids, descriptorsOf declarations = .ok ids) ↔ ∀ declaration ∈ declarations, ¬ declaration.IsFalse) ∧
    ((∃ id, Descriptor.ofSelector name space selector isPublic = .ok id) ↔ ¬ selector.IsFalse) ∧
    ((∃ error, Descriptor.ofJson (.object entries) = .error (.numeral error)) ↔ IsFalseObject entries) := by
  refine ⟨selector.resolves, argument.resolves, ?_, exists_descriptorsOf_iff, ?_, ofJson_isNumeralError_iff⟩
  · rw [exists_ok_iff_not_error, TypeDeclaration.descriptor?_isError_iff]
  · rw [← selector.resolves.returns, Descriptor.ofSelector]
    exact exists_map_eq_ok_iff

/-- Two minus signs in front of a digit are no numeral, although they are taken for one. -/
theorem not_every_selector_resolves : ¬ ∀ selector : BackingSelector, ∃ kind, selector.resolve = .ok kind := by
  intro h
  obtain ⟨kind, hkind⟩ := h (.value (.ofString "--1"))
  have herror : (BackingSelector.value (.ofString "--1")).resolve = .error (.malformed 10 "--1") := by decide +kernel
  rw [herror] at hkind
  exact absurd hkind (by simp)

end TypedId
