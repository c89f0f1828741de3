import TypedId.Proofs.Selector

/-!
# Kinds that are chosen on purpose

A selector chooses a kind other than the default only if it is meant to (`BackingSelector.Intends`): it is the kind, its
number, or a text that between blanks writes the number without a sign or the name. For these kinds the spellings of
`BackingKind.Spells` come down to that (`spells_ofString_iff`), since no negative number is the number of a kind. So no
character of such a text is anything but a blank, a decimal digit or a letter of ASCII (`BackingKind.Writes.of_mem`).
-/

set_option autoImplicit false

namespace TypedId

open Text

namespace BackingKind

variable {kind : BackingKind} {text : String}

/-- A text consists of decimal digits of any scripts, not too many, with the number of a kind as their value, or it is
the name of the kind in any case. -/
inductive Writes (kind : BackingKind) : String → Prop where
  | numeral {chars : List Char} {digits : List Nat} :
      List.Forall₂ (fun c digit => decimalDigit? c = some digit) chars digits → digits ≠ [] →
      digits.length ≤ digitLimit → valueOf 10 digits = kind.number → Writes kind (String.ofList chars)
  | name {word : String} : SameLetters word kind.markerName → Writes kind word

/-- The number of a kind other than the default has no sign. -/
theorem of_signed_eq_number (hkind : kind ≠ default) {negative : Bool} {value : Nat}
    (h : signed negative value = kind.number) : negative = false ∧ value = kind.number := by
  have hpositive : 0 < kind.number := by
    cases kind with
    | guid => exact absurd rfl hkind
    | int | long | string => decide
  cases negative with
  | false => exact ⟨rfl, Int.ofNat_inj.1 h⟩
  | true =>
    have hnegative : -(value : Int) = kind.number := h
    omega

/-- A text spells a kind other than the default if it writes the kind between blanks. -/
theorem spells_ofString_iff (hkind : kind ≠ default) : kind.Spells (.ofString text) ↔ kind.Writes (strip text) := by
  constructor
  · intro h
    generalize hvalue : Json.ofString text = value at h
    cases h with
    | number => exact absurd hvalue (by simp [Json.ofString])
    | word hbefore hword hbehind =>
      obtain rfl := Json.Text.whole.inj (Json.string.inj hvalue)
      rw [strip_word hbefore hword hbehind]
      exact .name hword
    | digits hbefore hdigits hne hlimit hnumber hbehind =>
      obtain rfl := Json.Text.whole.inj (Json.string.inj hvalue)
      obtain ⟨rfl, hsame⟩ := of_signed_eq_number hkind hnumber
      rw [strip_numeral hbefore hdigits hne hbehind]
      exact .numeral hdigits hne hlimit hsame
  · intro h
    obtain ⟨before, behind, hbefore, hbehind, htext⟩ := exists_blanks_strip text
    rw [← String.ofList_toList (s := text), htext]
    generalize strip text = core at h
    cases h with
    | @numeral chars digits hdigits hne hlimit hnumber =>
      have hspells : kind.Spells (.ofString (String.ofList (before ++ (signOf false ++ chars ++ behind)))) :=
        .digits hbefore hdigits hne hlimit (congrArg Int.ofNat hnumber) hbehind
      rwa [String.toList_ofList]
    | name hword => exact .word hbefore (by rwa [String.ofList_toList]) hbehind

/-- What writes a kind consists of decimal digits or of letters of ASCII. -/
theorem Writes.of_mem (h : kind.Writes text) {c : Char} (hc : c ∈ text.toList) :
    (∃ digit, decimalDigit? c = some digit) ∨ c.isAlpha = true := by
  cases h with
  | numeral hdigits =>
    rw [String.toList_ofList] at hc
    obtain ⟨digit, -, hdigit⟩ := exists_of_mem_right hdigits.flip hc
    exact Or.inl ⟨digit, hdigit⟩
  | name hword =>
    have hmem : c.toLower ∈ kind.markerName.toList.map Char.toLower := by
      rw [← hword]
      exact List.mem_map_of_mem hc
    have hlower := (kind.markerName_letters.2 _ hmem).2
    refine Or.inr (Bool.or_eq_true_iff.2 ?_)
    unfold Char.toLower at hlower
    split at hlower
    · rename_i hupper
      refine Or.inl ?_
      unfold Char.isUpper
      simpa using hupper
    · exact Or.inr hlower

/-- A sign is no blank, no digit and no letter, and neither is an underscore. -/
theorem foreign_sign : ∀ c ∈ ['-', '+', '_'],
    Unicode.blank.has c = false ∧ decimalDigit? c = none ∧ c.isAlpha = false :=
  List.forall_iff_forall_mem.1 (by decide +kernel)

end BackingKind

/-- A selector is a kind, the number of one, or a text that writes one between blanks. -/
inductive BackingSelector.Intends : BackingSelector → BackingKind → Prop where
  | kind {kind : BackingKind} : Intends (.kind kind) kind
  | number {kind : BackingKind} : Intends (.value (.integer kind.number)) kind
  | text {text : String} {kind : BackingKind} : kind.Writes (strip text) → Intends (.value (.ofString text)) kind

variable {selector : BackingSelector} {kind : BackingKind}

/-- Beside the default, a selector spells exactly the kinds that it is meant to choose. -/
theorem BackingSelector.spells_iff_intends (hkind : kind ≠ .default) : selector.Spells kind ↔ selector.Intends kind := by
  constructor
  · rintro (_ | hspells)
    · exact .kind
    · rename_i given
      have hgiven := hspells
      cases hspells with
      | number => exact .number
      | word => exact .text ((BackingKind.spells_ofString_iff hkind).1 hgiven)
      | digits => exact .text ((BackingKind.spells_ofString_iff hkind).1 hgiven)
  · rintro (_ | _ | hwrites)
    · exact .kind _
    · exact .value .number
    · exact .value ((BackingKind.spells_ofString_iff hkind).2 hwrites)

/-- A selector chooses a kind other than the default exactly if it is meant to. So a value that chooses one is its number
or a text of blanks, decimal digits and letters of ASCII, without a sign and without an underscore. -/
theorem resolve_eq_ok_iff_intends (selector : BackingSelector) (hkind : kind ≠ .default) :
    (selector.resolve = .ok kind ↔ selector.Intends kind) ∧
    ∀ given, (BackingSelector.value given).resolve = .ok kind →
      given = .integer kind.number ∨ ∃ text, given = .ofString text ∧
        (∀ c ∈ text.toList, Unicode.blank.has c = true ∨ (∃ digit, decimalDigit? c = some digit) ∨ c.isAlpha = true) ∧
        ∀ c ∈ ['-', '+', '_'], c ∉ text.toList := by
  have hiff (selector : BackingSelector) : selector.resolve = .ok kind ↔ selector.Intends kind := by
    rw [selector.resolves.chosen, BackingSelector.spells_iff_intends hkind]
    exact or_iff_left fun hdefault => hkind hdefault.1
  refine ⟨hiff selector, fun given hgiven => ?_⟩
  generalize hvalue : BackingSelector.value given = value at hgiven
  cases (hiff value).1 hgiven with
  | kind => exact absurd hvalue (by simp)
  | number => exact Or.inl (BackingSelector.value.inj hvalue)
  | @text text _ hwrites =>
    have hchars : ∀ c ∈ text.toList,
        Unicode.blank.has c = true ∨ (∃ digit, decimalDigit? c = some digit) ∨ c.isAlpha = true := by
      intro c hc
      obtain ⟨before, behind, hbefore, hbehind, htext⟩ := exists_blanks_strip text
      rw [htext, List.mem_append, List.mem_append] at hc
      rcases hc with hc | hc | hc
      · exact Or.inl (hbefore c hc)
      · exact Or.inr (hwrites.of_mem hc)
      · exact Or.inl (hbehind c hc)
    refine Or.inr ⟨text, BackingSelector.value.inj hvalue, hchars, fun c hc hmem => ?_⟩
    obtain ⟨hblank, hdigit, halpha⟩ := BackingKind.foreign_sign c hc
    rcases hchars c hmem with h | ⟨digit, h⟩ | h
    · exact absurd (hblank.symm.trans h) (by simp)
    · exact absurd (hdigit.symm.trans h) (by simp)
    · exact absurd (halpha.symm.trans h) (by simp)

/-- Digits of two scripts between blanks choose a kind by their value; digits behind a plus sign do not. -/
theorem resolve_mixed_digits :
    BackingKind.long ≠ .default ∧ (BackingSelector.value (.ofString " ０٢\n")).resolve = .ok .long ∧
      (BackingSelector.value (.ofString "+2")).resolve ≠ .ok .long := by
  have hlong : BackingKind.long ≠ .default := by decide
  obtain ⟨hiff, hvalues⟩ := resolve_eq_ok_iff_intends (.value (.ofString " ０٢\n")) hlong
  refine ⟨hlong, hiff.2 (.text ?_), fun hplus => ?_⟩
  · have hstrip : strip " ０٢\n" = String.ofList ['０', '٢'] := by decide +kernel
    have hdigits : List.Forall₂ (fun c digit => decimalDigit? c = some digit) ['０', '٢'] [0, 2] :=
      .cons (by decide +kernel) (.cons (by decide +kernel) .nil)
    rw [hstrip]
    exact .numeral hdigits (by simp) (by decide) (by decide)
  · rcases hvalues _ hplus with hnumber | ⟨text, htext, -, hsigns⟩
    · exact absurd hnumber (by simp [Json.ofString])
    · obtain rfl := Json.Text.whole.inj (Json.string.inj htext)
      exact absurd (hsigns '+' (by simp)) (by decide)

end TypedId
