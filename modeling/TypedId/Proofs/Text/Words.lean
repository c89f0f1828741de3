import TypedId.Proofs.Text.Lowering
import TypedId.Proofs.Text.Segments

/-!
# Words of compound names

An underscore comes in between two letters or digits of ASCII only, and never next to a capital sigma or to a character
that is skipped around one. So the sigmas of a name find the same neighbours with the underscores as without
(`filter_lowerAfter_separateWords`), and snake case is lower case but for underscores. It leaves no capitals of ASCII, and
without these no word begins: snake case taken twice is snake case (`snakeCase_only_separates`).

No word begins next to a point either, so that the names of a dotted path may be taken one by one, as long as no sigma looks
beyond its name (`snakeCase_joinDots`).
-/

set_option autoImplicit false

namespace TypedId.Text

open Unicode

/-! ## Letters and digits of ASCII -/

/-- In ASCII no character that is skipped around a sigma is a letter or a digit, and none that is its own lower case is a
capital. -/
theorem ascii_classes : ∀ code < 0x80,
    (caseIgnorable.covers code = true → (Char.ofNat code).isAlphanum = false) ∧
      (lowerChars (Char.ofNat code) = [Char.ofNat code] → (Char.ofNat code).isUpper = false) := by
  decide +kernel

/-- A letter or digit of ASCII is a capital, a small letter or a digit. -/
theorem isAlphanum_eq (c : Char) : c.isAlphanum = (c.isUpper || c.isLower || c.isDigit) := rfl

/-- Letters and digits are taken from ASCII. -/
theorem toNat_lt_of_isAlphanum {c : Char} (h : c.isAlphanum = true) : c.toNat < 0x80 := by
  have hlast : c.val ≤ 'z'.val := by
    rw [isAlphanum_eq, Bool.or_eq_true, Bool.or_eq_true] at h
    rcases h with (hupper | hlower) | hdigit
    · exact UInt32.le_trans (of_decide_eq_true hupper : c.val ≥ 'A'.val ∧ c.val ≤ 'Z'.val).2 (by decide)
    · exact of_decide_eq_true (Bool.and_eq_true_iff.1 hlower).2
    · exact UInt32.le_trans (of_decide_eq_true (Bool.and_eq_true_iff.1 hdigit).2) (by decide)
  exact Nat.lt_of_le_of_lt (UInt32.le_iff_toNat_le.1 hlast) (by decide)

/-- A capital is a letter or digit. -/
theorem isAlphanum_of_isUpper {c : Char} (h : c.isUpper = true) : c.isAlphanum = true := by
  rw [isAlphanum_eq, h, Bool.true_or, Bool.true_or]

/-- No letter or digit is skipped when the neighbours of a sigma are sought. -/
theorem isAlphanum_of_caseIgnorable {c : Char} (h : caseIgnorable.has c = true) : c.isAlphanum = false := by
  refine Bool.eq_false_iff.2 fun halnum => ?_
  have hclass := (ascii_classes c.toNat (toNat_lt_of_isAlphanum halnum)).1 h
  rw [Char.ofNat_toNat, halnum] at hclass
  exact absurd hclass (by simp)

/-- A capital of ASCII is not its own lower case. -/
theorem isUpper_of_lowerChars {c : Char} (h : lowerChars c = [c]) : c.isUpper = false := by
  refine Bool.eq_false_iff.2 fun hupper => ?_
  have hclass := (ascii_classes c.toNat (toNat_lt_of_isAlphanum (isAlphanum_of_isUpper hupper))).2
  rw [Char.ofNat_toNat, hupper] at hclass
  exact absurd (hclass h) (by simp)

/-! ## Where words begin -/

/-- Behind a character that is neither a letter nor a digit of ASCII the words are those of the rest alone. -/
theorem separateWords_of_not_isAlphanum {before : Char} (h : before.isAlphanum = false) (text : List Char) :
    separateWords before text = wordsOf text := by
  rw [isAlphanum_eq, Bool.or_eq_false_iff, Bool.or_eq_false_iff] at h
  obtain ⟨⟨hupper, hlower⟩, hdigit⟩ := h
  cases text with
  | nil => rfl
  | cons c rest =>
    have hinside : beginsWord before rest = false := by simp [beginsWord, hupper, hlower, hdigit]
    rw [separateWords, hinside, Bool.and_false, wordsOf]
    rfl

/-- The first character of a text begins a word as it would behind an underscore. -/
theorem wordsOf_eq (text : List Char) : wordsOf text = separateWords '_' text :=
  (separateWords_of_not_isAlphanum (by decide) text).symm

/-- A text without capitals is one word. -/
theorem wordsOf_of_forall {text : List Char} (h : ∀ c ∈ text, c.isUpper = false) : wordsOf text = text := by
  have hseparate (before : Char) : separateWords before text = text := by
    induction text generalizing before with
    | nil => rfl
    | cons c rest ih =>
      obtain ⟨hc, hrest⟩ := List.forall_mem_cons.1 h
      rw [separateWords, hc, Bool.false_and, ih hrest]
      rfl
  rw [wordsOf_eq, hseparate]

/-! ## Lower case among words -/

/-- Up to the first character that is not skipped no underscore comes in. -/
theorem nearestIsCased_wordsOf (text : List Char) : nearestIsCased (wordsOf text) = nearestIsCased text := by
  induction text with
  | nil => rfl
  | cons c rest ih =>
    rw [wordsOf, nearestIsCased, nearestIsCased]
    cases hskipped : caseIgnorable.has c with
    | true => rw [separateWords_of_not_isAlphanum (isAlphanum_of_caseIgnorable hskipped), ih]
    | false => rfl

/-- Lower case is taken alike with and without underscores between the words, since what stands before is of one sort in
both. -/
theorem filter_lowerAfter_separateWords {marked before : List Char} (h : nearestIsCased marked = nearestIsCased before)
    (last : Char) (text : List Char) :
    (lowerAfter marked (separateWords last text)).filter (· != '_') = (lowerAfter before text).filter (· != '_') := by
  induction text generalizing marked before last with
  | nil => rfl
  | cons c rest ih =>
    -- a character behind what is marked becomes the same as without marks, and so does the rest behind it
    have hcons {marked : List Char} (hnext : nearestIsCased (c :: marked) = nearestIsCased (c :: before))
        (hsigma : c = 'Σ' → nearestIsCased marked = nearestIsCased before) :
        (lowerAfter marked (c :: separateWords c rest)).filter (· != '_')
          = (lowerAfter before (c :: rest)).filter (· != '_') := by
      rw [lowerAfter, lowerAfter, List.filter_append, List.filter_append, ih hnext]
      split
      · rename_i hc
        have hbehind : separateWords c rest = wordsOf rest := separateWords_of_not_isAlphanum (by rw [hc]; decide) rest
        rw [endsWord, endsWord, hsigma hc, hbehind, nearestIsCased_wordsOf]
      · rfl
    rw [separateWords]
    split
    · rename_i hbegins
      have hupper : c.isUpper = true := (Bool.and_eq_true_iff.1 hbegins).1
      have hkept : caseIgnorable.has c = false := by
        refine Bool.eq_false_iff.2 fun hskipped => ?_
        have halnum := isAlphanum_of_caseIgnorable hskipped
        rw [isAlphanum_of_isUpper hupper] at halnum
        exact absurd halnum (by simp)
      -- what stands before a capital of ASCII is not looked at from behind it
      have hmark : (lowerAfter marked ('_' :: c :: separateWords c rest)).filter (· != '_')
          = (lowerAfter ('_' :: marked) (c :: separateWords c rest)).filter (· != '_') := rfl
      rw [hmark]
      apply hcons
      · simp only [nearestIsCased, hkept, Bool.false_eq_true, if_false]
      · rintro rfl
        exact absurd hupper (by decide)
    · apply hcons
      · rw [nearestIsCased, nearestIsCased, h]
      · intro _
        exact h

/-! ## Snake case -/

/-- A text with its underscores deleted. -/
def withoutUnderscores (text : String) : String :=
  String.ofList (text.toList.filter (· != '_'))

/-- The characters of a snake case are their own lower case. -/
theorem lowerChars_of_mem_snakeCase {name : String} {c : Char} (h : c ∈ (snakeCase name).toList) : lowerChars c = [c] := by
  rw [snakeCase, lower, String.toList_ofList] at h
  exact lowerChars_of_mem_lowerAfter h

/-- Snake case puts underscores into a lower case and changes nothing else. It holds no capitals of ASCII, and its own snake
case is itself. -/
theorem snakeCase_only_separates (name : String) :
    withoutUnderscores (snakeCase name) = withoutUnderscores (lower name) ∧
      (∀ c ∈ (snakeCase name).toList, c.isUpper = false) ∧
      snakeCase (snakeCase name) = snakeCase name := by
  have hupper : ∀ c ∈ (snakeCase name).toList, c.isUpper = false := fun c hc =>
    isUpper_of_lowerChars (lowerChars_of_mem_snakeCase hc)
  refine ⟨?_, hupper, ?_⟩
  · rw [withoutUnderscores, withoutUnderscores, snakeCase, lower, lower, String.toList_ofList, String.toList_ofList,
      String.toList_ofList, wordsOf_eq, filter_lowerAfter_separateWords rfl]
  · calc
      snakeCase (snakeCase name) = lower (String.ofList (wordsOf (snakeCase name).toList)) := rfl
      _ = lower (snakeCase name) := by rw [wordsOf_of_forall hupper, String.ofList_toList]
      _ = snakeCase name := by rw [snakeCase, lower_lower]

example : snakeCase "HTTPΛόγοΣ.IdΣ" = "httpλόγοσ.idς" := by decide

/-! ## Names joined by points -/

/-- Words do not reach over a point. -/
theorem wordsOf_append_point (front behind : List Char) :
    wordsOf (front ++ '.' :: behind) = wordsOf front ++ '.' :: wordsOf behind := by
  have hseparate (before : Char) :
      separateWords before (front ++ '.' :: behind) = separateWords before front ++ '.' :: wordsOf behind := by
    induction front generalizing before with
    | nil =>
      have hpoint : separateWords '.' behind = wordsOf behind := separateWords_of_not_isAlphanum (by decide) behind
      exact congrArg ('.' :: ·) hpoint
    | cons c front ih =>
      -- whether a word begins depends on the next character only, and a point is as good as none
      have hbegins : beginsWord before (front ++ '.' :: behind) = beginsWord before front := by
        cases front <;> rfl
      rw [List.cons_append, separateWords, separateWords, hbegins, ih]
      split <;> rfl
  rw [wordsOf_eq, wordsOf_eq front, hseparate]

/-- Without sigmas characters are lowered one by one. -/
theorem lowerAfter_of_notMem {text : List Char} (h : 'Σ' ∉ text) (before : List Char) :
    lowerAfter before text = text.flatMap lowerChars := by
  induction text generalizing before with
  | nil => rfl
  | cons c rest ih =>
    rw [List.mem_cons, not_or] at h
    rw [lowerAfter, if_neg (Ne.symm h.1), ih h.2, List.flatMap_cons]

/-- Without a capital sigma the words are lowered character by character. -/
theorem toList_snakeCase {name : String} (h : 'Σ' ∉ name.toList) :
    (snakeCase name).toList = (wordsOf name.toList).flatMap lowerChars := by
  have hwords : 'Σ' ∉ wordsOf name.toList := by
    intro hmem
    rw [wordsOf_eq] at hmem
    rcases mem_separateWords hmem with hmem | hmark
    · exact h hmem
    · exact absurd hmark (by decide)
  rw [snakeCase, lower, String.toList_ofList, String.toList_ofList, lowerAfter_of_notMem hwords]

/-- A point separates what is done to the parts on its two sides, where no sigma looks past it. -/
theorem snakeCase_append_point {front behind : String} (hfront : 'Σ' ∉ front.toList) (hbehind : 'Σ' ∉ behind.toList) :
    snakeCase (front ++ "." ++ behind) = snakeCase front ++ "." ++ snakeCase behind := by
  have hchars : (front ++ "." ++ behind).toList = front.toList ++ '.' :: behind.toList := by simp
  have hjoined : 'Σ' ∉ (front ++ "." ++ behind).toList := by
    rw [hchars, List.mem_append, List.mem_cons]
    rintro (hmem | hpoint | hmem)
    · exact hfront hmem
    · exact absurd hpoint (by decide)
    · exact hbehind hmem
  apply String.toList_injective
  rw [toList_snakeCase hjoined, hchars, wordsOf_append_point, List.flatMap_append, List.flatMap_cons, String.toList_append,
    String.toList_append, toList_snakeCase hfront, toList_snakeCase hbehind, List.append_assoc]
  rfl

/-- The first of several pieces stands in front of a point. -/
theorem joinDots_cons_cons (name next : String) (rest : List String) :
    joinDots (name :: next :: rest) = name ++ "." ++ joinDots (next :: rest) :=
  String.intercalate_cons_cons

/-- Names without sigmas may be joined by points before snake case is taken or after that. -/
theorem snakeCase_joinDots {names : List String} (h : ∀ name ∈ names, 'Σ' ∉ name.toList) :
    snakeCase (joinDots names) = joinDots (names.map snakeCase) := by
  induction names with
  | nil => rfl
  | cons name rest ih =>
    obtain ⟨hname, hrest⟩ := List.forall_mem_cons.1 h
    cases rest with
    | nil => simp [joinDots]
    | cons next rest =>
      have hbehind : 'Σ' ∉ (joinDots (next :: rest)).toList := by
        have hall : ∀ c ∈ (joinDots (next :: rest)).toList, c ≠ 'Σ' := by
          apply forall_mem_intercalate
          · simp
          · intro other hother c hc heq
            exact hrest other hother (heq ▸ hc)
        intro hmem
        exact hall _ hmem rfl
      rw [joinDots_cons_cons, snakeCase_append_point hname hbehind, ih hrest]
      exact (joinDots_cons_cons _ _ _).symm

/-- A text with underscores for its points. -/
def underscored (text : String) : String :=
  String.ofList (text.toList.map fun c => if c = '.' then '_' else c)

/-- Names without points are joined by underscores when the points of their path become such. -/
theorem underscored_joinDots {names : List String} (h : ∀ name ∈ names, '.' ∉ name.toList) :
    underscored (joinDots names) = "_".intercalate names := by
  have happend (front behind : String) : underscored (front ++ behind) = underscored front ++ underscored behind := by
    rw [underscored, String.toList_append, List.map_append, String.ofList_append]
    rfl
  have hname {name : String} (hpoint : '.' ∉ name.toList) : underscored name = name := by
    have hsame : ∀ c ∈ name.toList, (if c = '.' then '_' else c) = c := by
      intro c hc
      apply if_neg
      rintro rfl
      exact hpoint hc
    rw [underscored, List.map_congr_left hsame, List.map_id', String.ofList_toList]
  induction names with
  | nil => rfl
  | cons name rest ih =>
    obtain ⟨hfirst, hrest⟩ := List.forall_mem_cons.1 h
    cases rest with
    | nil => simp [joinDots, hname hfirst]
    | cons next rest =>
      rw [joinDots_cons_cons, happend, happend, hname hfirst, ih hrest, String.intercalate_cons_cons]
      rfl

end TypedId.Text
