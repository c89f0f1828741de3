import Mathlib.Data.List.TakeDrop
import TypedId.Proofs.Json.Spelling
import TypedId.Proofs.Text.Segments

/-!
# Values on one line

What is written on one line of a value without fractions is read as that value with the pairs of surrogates in its strings
joined (`read_line`). An integer is the one part that does not tell by itself where it ends, so it is read only in front of
what cannot continue it (`EndsNumber`); in arrays and objects a comma or a bracket comes next. The induction follows the value, with fuel for twice the characters
of its text. All characters of the line are visible ones of ASCII or blanks (`isLine_line`).
-/

set_option autoImplicit false

namespace TypedId.Json

/-! ## Integers -/

/-- A text does not begin with what would continue a number. -/
def EndsNumber (rest : List Char) : Prop :=
  ∀ c, rest.head? = some c → c.isDigit = false ∧ c ≠ '.' ∧ c ≠ 'e' ∧ c ≠ 'E'

/-- A character that is no part of a number ends it. -/
theorem endsNumber_cons {c : Char} (rest : List Char) (h : c.isDigit = false ∧ c ≠ '.' ∧ c ≠ 'e' ∧ c ≠ 'E') :
    EndsNumber (c :: rest) := by
  intro d hd
  rwa [← Option.some.inj hd]

/-- Only zero is written with a zero in front. -/
theorem toDigits_eq_zero_cons {number : Nat} {more : List Char} (h : Nat.toDigits 10 number = '0' :: more) :
    more = [] := by
  induction number using Nat.strong_induction_on generalizing more with
  | _ number ih =>
    rw [Nat.toDigits_eq_if (by decide)] at h
    split at h
    · exact (List.cons.inj h).2.symm
    · rename_i hlarge
      cases hfront : Nat.toDigits 10 (number / 10) with
      | nil => exact absurd hfront Nat.toDigits_ne_nil
      | cons c rest =>
        rw [hfront, List.cons_append] at h
        obtain rfl := (List.cons.inj h).1
        obtain rfl := ih (number / 10) (by omega) hfront
        have hzero : number / 10 = 0 := by
          rw [← Nat.ofDigitChars_ten_toDigits (n := number / 10), hfront]
          rfl
        omega

/-- The digits of a number are read as the number. -/
theorem digitsValue_toDigits (number : Nat) : digitsValue (Nat.toDigits 10 number) = number := by
  have hvalue := Nat.ofDigitChars_ten_toDigits (n := number)
  rw [Nat.ofDigitChars_eq_foldl] at hvalue
  rw [digitsValue, TypedId.Text.valueOf, List.foldl_map]
  simpa only [Nat.mul_comm] using hvalue

/-- Digits are read up to what ends the number. -/
theorem spanDigits_append {digits rest : List Char} (hdigits : ∀ c ∈ digits, c.isDigit = true) (hrest : EndsNumber rest) :
    spanDigits (digits ++ rest) = (digits, rest) := by
  rw [spanDigits, List.span_eq_takeWhile_dropWhile, List.takeWhile_append_of_pos hdigits,
    List.dropWhile_append_of_pos hdigits]
  cases rest with
  | nil => simp
  | cons c rest => simp [(hrest c rfl).1]

/-- The digits of a number are read. -/
theorem readUnsigned_toDigits (here : List Char) (negative : Bool) {number : Nat} {rest : List Char}
    (hlimit : (Nat.toDigits 10 number).length ≤ TypedId.Text.digitLimit) (hrest : EndsNumber rest) :
    readUnsigned here negative (Nat.toDigits 10 number ++ rest)
      = .ok (.integer (if negative then -(number : Int) else number), rest) := by
  have hdigits : ∀ c ∈ Nat.toDigits 10 number, c.isDigit = true :=
    fun c hc => Nat.isDigit_of_mem_toDigits (by decide) (by decide) hc
  have hfraction : readFraction? rest = none := by
    unfold readFraction?
    split
    · exact absurd rfl (hrest '.' rfl).2.1
    · rfl
  have hexponent : readExponent? rest = none := by
    cases rest with
    | nil => rfl
    | cons c more =>
      obtain ⟨-, -, hsmall, hlarge⟩ := hrest c rfl
      simp [readExponent?, hsmall, hlarge]
  unfold readUnsigned
  split
  rename_i whole left hwhole
  obtain ⟨rfl, rfl⟩ : whole = Nat.toDigits 10 number ∧ left = rest := by
    split at hwhole
    · rename_i more hzero
      obtain ⟨rfl, rfl⟩ := Prod.mk.inj hwhole
      cases hfront : Nat.toDigits 10 number with
      | nil => exact absurd hfront Nat.toDigits_ne_nil
      | cons c digits =>
        rw [hfront, List.cons_append] at hzero
        obtain ⟨rfl, rfl⟩ := List.cons.inj hzero
        rw [toDigits_eq_zero_cons hfront]
        exact ⟨rfl, rfl⟩
    · exact Prod.mk.inj (hwhole.symm.trans (spanDigits_append hdigits hrest))
  simp [hfraction, hexponent, Nat.toDigits_ne_nil, Nat.not_lt.2 hlimit, digitsValue_toDigits]

/-- A digit is none of the characters that are not digits. -/
theorem ne_of_isDigit {c d : Char} (hc : c.isDigit = true) (hd : d.isDigit = false) : c ≠ d := by
  rintro rfl
  exact absurd (hd.symm.trans hc) (by simp)

/-- What begins with a digit is read as a number, not as a word. -/
theorem readAtom_of_isDigit {c : Char} {rest : List Char} (h : c.isDigit = true) :
    readAtom (c :: rest) = readUnsigned (c :: rest) false (c :: rest) ∧
      readAtom ('-' :: c :: rest) = readUnsigned ('-' :: c :: rest) true (c :: rest) := by
  constructor
  · rw [readAtom]
    -- no word begins with a digit
    all_goals
      intro _ hfront
      exact absurd (List.cons.inj hfront).1 (ne_of_isDigit h (by decide))
  · rw [readAtom]
    intro _ hfront
    exact absurd (List.cons.inj hfront).1 (ne_of_isDigit h (by decide))

/-- An integer is written as its digits, behind a sign if it is negative. -/
theorem toList_toString (value : Int) :
    ∃ c digits, Nat.toDigits 10 value.natAbs = c :: digits ∧ c.isDigit = true ∧
      (toString value).toList = if value < 0 then '-' :: c :: digits else c :: digits := by
  obtain ⟨c, digits, hfront⟩ := List.exists_cons_of_ne_nil (Nat.toDigits_ne_nil (n := value.natAbs) (b := 10))
  have hc : c.isDigit = true := Nat.isDigit_of_mem_toDigits (by decide) (by decide) (hfront ▸ List.mem_cons_self)
  have htext (number : Nat) : (toString number).toList = Nat.toDigits 10 number := by
    rw [Nat.toString_eq_ofList_toDigits, String.toList_ofList]
  refine ⟨c, digits, hfront, hc, ?_⟩
  rw [← hfront]
  cases value with
  | ofNat number => exact htext number
  | negSucc number =>
    have hminus : toString (Int.negSucc number) = "-" ++ toString (number + 1) := rfl
    rw [hminus, String.toList_append, htext, if_pos (Int.negSucc_lt_zero number)]
    rfl

/-- An integer is read. -/
theorem readAtom_toString {value : Int} {rest : List Char}
    (hlimit : (Nat.toDigits 10 value.natAbs).length ≤ TypedId.Text.digitLimit) (hrest : EndsNumber rest) :
    readAtom ((toString value).toList ++ rest) = .ok (.integer value, rest) := by
  obtain ⟨c, digits, hfront, hc, htext⟩ := toList_toString value
  obtain ⟨hbare, hsigned⟩ := @readAtom_of_isDigit c (digits ++ rest) hc
  have hread (here : List Char) (negative : Bool) := readUnsigned_toDigits here negative hlimit hrest
  rw [hfront] at hread
  rw [htext]
  split
  · rename_i hnegative
    have hvalue : -(value.natAbs : Int) = value := by omega
    rw [List.cons_append, List.cons_append, hsigned, ← List.cons_append, hread, if_pos rfl, hvalue]
  · rename_i hpositive
    have hvalue : (value.natAbs : Int) = value := by omega
    rw [List.cons_append, hbare, ← List.cons_append, hread, if_neg (by simp), hvalue]

/-- An integer with no more digits than the limit is read as it is written. -/
theorem readValue_toString (fuel : Nat) {value : Int} {rest : List Char}
    (hlimit : (Nat.toDigits 10 value.natAbs).length ≤ TypedId.Text.digitLimit) (hrest : EndsNumber rest) :
    readValue (fuel + 1) ((toString value).toList ++ rest) = .ok (.integer value, rest) := by
  have hread := readAtom_toString hlimit hrest
  obtain ⟨c, digits, -, hc, htext⟩ := toList_toString value
  rw [htext] at hread ⊢
  by_cases hnegative : value < 0
  · rw [if_pos hnegative] at hread ⊢
    exact hread
  · rw [if_neg hnegative, List.cons_append] at hread ⊢
    rw [readValue, hread]
    -- a digit opens no string, object or array
    all_goals
      intro _ hfront
      exact absurd (List.cons.inj hfront).1 (ne_of_isDigit hc (by decide))

/-! ## Exact values -/

mutual

/-- A value holds no fraction, no code points that do not exist and no integer of too many digits, and the keys of each of
its objects are texts and differ. -/
def IsExact : Json → Prop
  | .null => True
  | .bool _ => True
  | .integer value => (Nat.toDigits 10 value.natAbs).length ≤ TypedId.Text.digitLimit
  | .float _ => False
  | .string text => text.IsSound
  | .array items => AreExact items
  | .object entries => (entries.map Prod.fst).Nodup ∧ AreExactEntries entries

/-- All items are exact. -/
def AreExact : List Json → Prop
  | [] => True
  | item :: rest => IsExact item ∧ AreExact rest

/-- All entries have whole keys and exact values. -/
def AreExactEntries : List (Text × Json) → Prop
  | [] => True
  | (key, value) :: rest => (∃ whole, key = .whole whole) ∧ IsExact value ∧ AreExactEntries rest

end

mutual

/-- A value with the pairs of surrogates in its strings joined. -/
def joined : Json → Json
  | .string text => .string text.joined
  | .array items => .array (joinedItems items)
  | .object entries => .object (joinedEntries entries)
  | .null => .null
  | .bool value => .bool value
  | .integer value => .integer value
  | .float value => .float value

/-- Items with the pairs in their strings joined. -/
def joinedItems : List Json → List Json
  | [] => []
  | item :: rest => joined item :: joinedItems rest

/-- Entries with the pairs in the strings of their values joined. -/
def joinedEntries : List (Text × Json) → List (Text × Json)
  | [] => []
  | (key, value) :: rest => (key, joined value) :: joinedEntries rest

end

/-- The keys stay as they are. -/
theorem map_fst_joinedEntries (entries : List (Text × Json)) :
    (joinedEntries entries).map Prod.fst = entries.map Prod.fst := by
  induction entries with
  | nil => rfl
  | cons entry rest ih => rw [joinedEntries, List.map_cons, ih, List.map_cons]

/-- A text begins with neither a space nor a bracket that closes an array. -/
def Starts (text : List Char) : Prop :=
  ∃ c rest, text = c :: rest ∧ isSpace c = false ∧ c ≠ ']' ∧ c ≠ byteOrderMark

/-- What follows a text does not change how it begins. -/
theorem Starts.append {text : List Char} (h : Starts text) (more : List Char) : Starts (text ++ more) := by
  obtain ⟨c, rest, rfl, hc⟩ := h
  exact ⟨c, rest ++ more, rfl, hc⟩

/-- There are no spaces to skip in front of a text that does not begin with one. -/
theorem Starts.skipSpace {text : List Char} (h : Starts text) : skipSpace text = text := by
  obtain ⟨c, rest, rfl, hspace, -⟩ := h
  exact skipSpace_cons hspace

/-- A text with a first character that is neither a space nor a closing bracket. -/
theorem starts_cons {c : Char} (rest : List Char) (h : isSpace c = false ∧ c ≠ ']' ∧ c ≠ byteOrderMark) :
    Starts (c :: rest) :=
  ⟨c, rest, rfl, h⟩

/-- A string begins with its quote. -/
theorem starts_writeText (text : Text) : Starts (writeText text).toList := by
  rw [writeText, String.toList_ofList]
  exact starts_cons _ (by decide)

/-- An integer begins with a digit or a minus sign. -/
theorem starts_toString (value : Int) : Starts (toString value).toList := by
  obtain ⟨c, digits, -, hc, htext⟩ := toList_toString value
  rw [htext]
  split
  · exact starts_cons _ (by decide)
  · have hother : ∀ d ∈ [' ', '\t', '\n', '\r', ']', byteOrderMark], d.isDigit = false :=
      List.forall_iff_forall_mem.1 (by decide)
    have hne : ∀ d ∈ [' ', '\t', '\n', '\r', ']', byteOrderMark], c ≠ d := fun d hd => ne_of_isDigit hc (hother d hd)
    refine starts_cons _ ⟨?_, hne _ (by simp), hne _ (by simp)⟩
    simp [isSpace, hne]

/-- An exact value is written with a visible character in front. -/
theorem starts_line {value : Json} (h : IsExact value) : Starts (line value).toList := by
  cases value with
  | null => exact starts_cons _ (by decide)
  | bool value => cases value <;> exact starts_cons _ (by decide)
  | integer value => exact starts_toString value
  | float value => exact absurd h (by simp [IsExact])
  | string text => exact starts_writeText text
  | array items =>
    rw [line, String.toList_append, String.toList_append]
    exact starts_cons _ (by decide)
  | object entries =>
    rw [line, String.toList_append, String.toList_append]
    exact starts_cons _ (by decide)

/-! ## Reading lines -/

/-- The items of an array with commas between them. -/
def itemsText (items : List Json) : List Char :=
  (", ".intercalate (lineItems items)).toList

/-- The entries of an object with commas between them. -/
def entriesText (entries : List (Text × Json)) : List Char :=
  (", ".intercalate (lineEntries entries)).toList

/-- A single item is written without a separator. -/
theorem itemsText_singleton (item : Json) : itemsText [item] = (line item).toList := by
  simp [itemsText, lineItems]

/-- The first of several items stands in front of a comma and a blank. -/
theorem itemsText_cons_cons (item second : Json) (rest : List Json) :
    itemsText (item :: second :: rest) = (line item).toList ++ ',' :: ' ' :: itemsText (second :: rest) := by
  rw [itemsText, lineItems, lineItems, String.intercalate_cons_cons]
  simp [itemsText, lineItems]

/-- A single entry is written without a separator. -/
theorem entriesText_singleton (key : Text) (value : Json) :
    entriesText [(key, value)] = (writeText key).toList ++ ':' :: ' ' :: (line value).toList := by
  simp [entriesText, lineEntries]

/-- The first of several entries stands in front of a comma and a blank. -/
theorem entriesText_cons_cons (key : Text) (value : Json) (second : Text × Json) (rest : List (Text × Json)) :
    entriesText ((key, value) :: second :: rest)
      = (writeText key).toList ++ ':' :: ' ' :: ((line value).toList ++ ',' :: ' ' :: entriesText (second :: rest)) := by
  rw [entriesText, lineEntries, lineEntries, String.intercalate_cons_cons]
  simp [entriesText, lineEntries]

/-- Items do not begin with a space or a closing bracket. -/
theorem starts_itemsText {item : Json} (rest : List Json) (h : IsExact item) : Starts (itemsText (item :: rest)) := by
  cases rest with
  | nil =>
    rw [itemsText_singleton]
    exact starts_line h
  | cons second rest =>
    rw [itemsText_cons_cons]
    exact (starts_line h).append _

/-- Entries begin with the quote of a key. -/
theorem quote_entriesText (entry : Text × Json) (rest : List (Text × Json)) :
    ∃ more, entriesText (entry :: rest) = '"' :: more := by
  obtain ⟨key, value⟩ := entry
  have hkey : (writeText key).toList = '"' :: (key.points.flatMap escapePoint ++ ['"']) := by
    rw [writeText, String.toList_ofList]
    rfl
  cases rest with
  | nil => exact ⟨_, by rw [entriesText_singleton, hkey]; rfl⟩
  | cons second rest => exact ⟨_, by rw [entriesText_cons_cons, hkey]; rfl⟩

/-- No number goes on behind a comma or a bracket. -/
theorem endsNumber_separator (rest : List Char) :
    EndsNumber (',' :: rest) ∧ EndsNumber (']' :: rest) ∧ EndsNumber ('}' :: rest) :=
  ⟨endsNumber_cons rest (by decide), endsNumber_cons rest (by decide), endsNumber_cons rest (by decide)⟩

mutual

/-- A value is read from its line, with the pairs in its strings joined. -/
theorem readValue_line : (value : Json) → IsExact value → ∀ (fuel : Nat) (rest : List Char),
    2 * (line value).toList.length ≤ fuel + 1 → EndsNumber rest →
      readValue (fuel + 1) ((line value).toList ++ rest) = .ok (joined value, rest)
  | .null, _ => by simp [line, joined, readValue, readAtom]
  | .bool true, _ => by simp [line, joined, readValue, readAtom]
  | .bool false, _ => by simp [line, joined, readValue, readAtom]
  | .integer value, h => by
    intro fuel rest _ hrest
    exact readValue_toString fuel h hrest
  | .float _, h => h.elim
  | .string text, h => by
    intro fuel rest _ _
    obtain ⟨body, hbody, hread⟩ := readString_writeText (show text.IsSound from h)
    rw [line, hbody, List.cons_append, readValue]
    simp [hread, joined, bind, Except.bind]
  | .array [], _ => by simp [line, lineItems, joined, joinedItems, readValue, skipSpace_cons (c := ']') (by decide)]
  | .array (item :: items), h => by
    intro fuel rest hfuel _
    have hline : (line (.array (item :: items))).toList = '[' :: (itemsText (item :: items) ++ [']']) := by
      simp [line, itemsText]
    have hstarts := starts_itemsText items h.1
    rw [hline] at hfuel ⊢
    obtain ⟨less, rfl⟩ : ∃ less, fuel = less + 1 := ⟨fuel - 1, by simp at hfuel; omega⟩
    have hread := readItems_line (item :: items) h (List.cons_ne_nil _ _) less [] rest (by simp at hfuel; omega)
    rw [List.cons_append, readValue, List.append_assoc, List.singleton_append, (hstarts.append _).skipSpace]
    obtain ⟨c, more, hfront, -, hclose, -⟩ := hstarts
    rw [hfront, List.cons_append] at hread ⊢
    split
    · rename_i heq
      exact absurd (List.cons.inj heq).1 hclose
    · exact hread
  | .object [], _ => by simp [line, lineEntries, joined, joinedEntries, readValue, skipSpace_cons (c := '}') (by decide)]
  | .object (entry :: entries), ⟨hnodup, h⟩ => by
    intro fuel rest hfuel _
    have hline : (line (.object (entry :: entries))).toList = '{' :: (entriesText (entry :: entries) ++ ['}']) := by
      simp [line, entriesText]
    rw [hline] at hfuel ⊢
    obtain ⟨less, rfl⟩ : ∃ less, fuel = less + 1 := ⟨fuel - 1, by simp at hfuel; omega⟩
    have hread := readEntries_line (entry :: entries) h (List.cons_ne_nil _ _) less [] rest (by simp at hfuel; omega)
      (by rwa [List.nil_append, map_fst_joinedEntries])
    obtain ⟨more, hfront⟩ := quote_entriesText entry entries
    rw [List.cons_append, readValue, List.append_assoc, List.singleton_append, hfront, List.cons_append,
      skipSpace_cons (by decide)]
    rw [hfront] at hread
    exact hread

/-- Items are read behind those that have been read. -/
theorem readItems_line : (items : List Json) → AreExact items → items ≠ [] → ∀ (fuel : Nat) (before : List Json)
    (rest : List Char), 2 * (itemsText items).length + 1 ≤ fuel →
      readItems (fuel + 1) before (itemsText items ++ ']' :: rest) = .ok (.array (before.reverse ++ joinedItems items), rest)
  | [], _ => fun hne => absurd rfl hne
  | [item], ⟨hitem, _⟩ => by
    intro _ fuel before rest hfuel
    rw [itemsText_singleton] at hfuel ⊢
    obtain ⟨less, rfl⟩ : ∃ less, fuel = less + 1 := ⟨fuel - 1, by omega⟩
    have hread := readValue_line item hitem less (']' :: rest) (by omega) (endsNumber_separator rest).2.1
    have hclosed := readSeparator_close rest (show IsGap [] by simp [IsGap]) (show isSpace ']' = false by decide)
    rw [List.nil_append] at hclosed
    rw [readItems]
    simp [hread, hclosed, joinedItems, bind, Except.bind]
  | item :: second :: more, ⟨hitem, hmore⟩ => by
    intro _ fuel before rest hfuel
    rw [itemsText_cons_cons] at hfuel ⊢
    simp only [List.length_append, List.length_cons] at hfuel
    obtain ⟨less, rfl⟩ : ∃ less, fuel = less + 1 := ⟨fuel - 1, by omega⟩
    have hread := readValue_line item hitem less (',' :: ' ' :: (itemsText (second :: more) ++ ']' :: rest)) (by omega)
      (endsNumber_separator _).1
    have hcomma := readSeparator_comma (itemsText (second :: more) ++ ']' :: rest) (show IsGap [' '] by decide)
      (show ']' ≠ ',' by decide)
    have hskip := ((starts_itemsText more hmore.1).append (']' :: rest)).skipSpace
    have hrest := readItems_line (second :: more) hmore (List.cons_ne_nil _ _) less (joined item :: before) rest (by omega)
    rw [List.singleton_append, hskip] at hcomma
    rw [readItems]
    simp [hread, hcomma, hrest, joinedItems, bind, Except.bind]

/-- Entries with new keys are read behind those that have been read. -/
theorem readEntries_line : (entries : List (Text × Json)) → AreExactEntries entries → entries ≠ [] → ∀ (fuel : Nat)
    (before : List (Text × Json)) (rest : List Char), 2 * (entriesText entries).length + 1 ≤ fuel →
      ((before ++ joinedEntries entries).map Prod.fst).Nodup →
        readEntries (fuel + 1) before (entriesText entries ++ '}' :: rest)
          = .ok (.object (before ++ joinedEntries entries), rest)
  | [], _ => fun hne => absurd rfl hne
  | [(_, value)], ⟨⟨key, rfl⟩, hvalue, _⟩ => by
    intro _ fuel before rest hfuel hnodup
    rw [entriesText_singleton] at hfuel ⊢
    simp only [List.length_append, List.length_cons] at hfuel
    obtain ⟨less, rfl⟩ : ∃ less, fuel = less + 1 := ⟨fuel - 1, by omega⟩
    have hkey := readKey_writeText key ((line value).toList ++ '}' :: rest) (show IsGap [' '] by decide)
    have hskip := ((starts_line hvalue).append ('}' :: rest)).skipSpace
    have hread := readValue_line value hvalue less ('}' :: rest) (by omega) (endsNumber_separator rest).2.2
    have hclosed := readSeparator_close rest (show IsGap [] by simp [IsGap]) (show isSpace '}' = false by decide)
    rw [List.singleton_append, hskip] at hkey
    rw [List.nil_append] at hclosed
    rw [readEntries]
    simp [hkey, hread, hclosed, put_of_nodup hnodup, joinedEntries, bind, Except.bind]
  | (_, value) :: second :: more, ⟨⟨key, rfl⟩, hvalue, hmore⟩ => by
    intro _ fuel before rest hfuel hnodup
    rw [entriesText_cons_cons] at hfuel ⊢
    simp only [List.length_append, List.length_cons] at hfuel
    obtain ⟨less, rfl⟩ : ∃ less, fuel = less + 1 := ⟨fuel - 1, by omega⟩
    have hkey := readKey_writeText key ((line value).toList ++ ',' :: ' ' :: (entriesText (second :: more) ++ '}' :: rest))
      (show IsGap [' '] by decide)
    have hskip := ((starts_line hvalue).append (',' :: ' ' :: (entriesText (second :: more) ++ '}' :: rest))).skipSpace
    have hread := readValue_line value hvalue less (',' :: ' ' :: (entriesText (second :: more) ++ '}' :: rest)) (by omega)
      (endsNumber_separator _).1
    have hcomma := readSeparator_comma (entriesText (second :: more) ++ '}' :: rest) (show IsGap [' '] by decide)
      (show '}' ≠ ',' by decide)
    have hquote : skipSpace (entriesText (second :: more) ++ '}' :: rest) = entriesText (second :: more) ++ '}' :: rest := by
      obtain ⟨tail, htail⟩ := quote_entriesText second more
      rw [htail]
      exact skipSpace_cons (by decide)
    have hrest := readEntries_line (second :: more) hmore (List.cons_ne_nil _ _) less (before ++ [(.whole key, joined value)]) rest
      (by omega) (by rwa [List.append_assoc])
    rw [List.singleton_append, hskip] at hkey
    rw [List.singleton_append, hquote] at hcomma
    rw [readEntries]
    simp [hkey, hread, hcomma, hrest, put_of_nodup hnodup, joinedEntries, bind, Except.bind]

end

/-- An exact value is read from its line, with the pairs in its strings joined. -/
theorem read_line {value : Json} (h : IsExact value) : read (line value).toList = .ok (joined value) := by
  have hstarts := starts_line h
  have hvalue := readValue_line value h (2 * (line value).toList.length + 1) [] (by omega) (by simp [EndsNumber])
  rw [List.append_nil] at hvalue
  have hmark : ((line value).toList.head? == some byteOrderMark) = false := by
    obtain ⟨c, rest, hfront, -, -, hmark⟩ := hstarts
    rw [hfront, List.head?_cons]
    simpa using hmark
  have hread : readChars (line value).toList = .ok (joined value) := by
    rw [readChars, if_neg (by simpa [byteOrderMark] using hmark), hstarts.skipSpace, hvalue]
    rfl
  rw [read, hread]

/-! ## Characters of a line -/

/-- All characters of a text are visible. -/
def IsLine (text : String) : Prop :=
  ∀ c ∈ text.toList, IsVisible c

instance (text : String) : Decidable (IsLine text) :=
  List.decidableBAll IsVisible text.toList

/-- Two visible texts are visible one after the other. -/
theorem IsLine.append {text more : String} (htext : IsLine text) (hmore : IsLine more) : IsLine (text ++ more) := by
  rw [IsLine, String.toList_append]
  exact List.forall_mem_append.2 ⟨htext, hmore⟩

/-- Visible pieces are visible with a visible separator between them. -/
theorem isLine_intercalate {separator : String} {pieces : List String} (hseparator : IsLine separator)
    (hpieces : ∀ piece ∈ pieces, IsLine piece) : IsLine (separator.intercalate pieces) :=
  TypedId.Text.forall_mem_intercalate hseparator hpieces

/-- Digits are visible. -/
theorem isVisible_of_isDigit {c : Char} (h : c.isDigit = true) : IsVisible c := by
  rw [Char.isDigit, Bool.and_eq_true, decide_eq_true_iff, decide_eq_true_iff] at h
  have hleast : 48 ≤ c.toNat := UInt32.le_iff_toNat_le.1 h.1
  have hmost : c.toNat ≤ 57 := UInt32.le_iff_toNat_le.1 h.2
  exact ⟨by omega, by omega⟩

/-- An integer is written by visible characters. -/
theorem isLine_toString (value : Int) : IsLine (toString value) := by
  obtain ⟨c, digits, hfront, -, htext⟩ := toList_toString value
  have hdigits : ∀ d ∈ c :: digits, IsVisible d := by
    rw [← hfront]
    exact fun d hd => isVisible_of_isDigit (Nat.isDigit_of_mem_toDigits (by decide) (by decide) hd)
  rw [IsLine, htext]
  split
  · exact List.forall_mem_cons.2 ⟨by decide, hdigits⟩
  · exact hdigits

mutual

/-- An exact value is written in visible characters of ASCII. -/
theorem isLine_line : (value : Json) → IsExact value → IsLine (line value)
  | .null, _ => by rw [line]; decide
  | .bool true, _ => by rw [line]; decide
  | .bool false, _ => by rw [line]; decide
  | .integer value, _ => isLine_toString value
  | .float _, h => h.elim
  | .string text, _ => isVisible_of_mem_writeText text
  | .array items, h => by
    have hitems := isLine_intercalate (show IsLine ", " by decide) (isLine_lineItems items h)
    exact ((show IsLine "[" by decide).append hitems).append (by decide)
  | .object entries, ⟨_, h⟩ => by
    have hentries := isLine_intercalate (show IsLine ", " by decide) (isLine_lineEntries entries h)
    exact ((show IsLine "\x7b" by decide).append hentries).append (by decide)

/-- The items of an exact value are written by visible characters. -/
theorem isLine_lineItems : (items : List Json) → AreExact items → ∀ piece ∈ lineItems items, IsLine piece
  | [], _ => by simp [lineItems]
  | item :: rest, ⟨hitem, hrest⟩ => by
    rw [lineItems, List.forall_mem_cons]
    exact ⟨isLine_line item hitem, isLine_lineItems rest hrest⟩

/-- The entries of an exact value are written by visible characters. -/
theorem isLine_lineEntries : (entries : List (Text × Json)) → AreExactEntries entries →
    ∀ piece ∈ lineEntries entries, IsLine piece
  | [], _ => by simp [lineEntries]
  | (key, value) :: rest, ⟨_, hvalue, hrest⟩ => by
    rw [lineEntries, List.forall_mem_cons]
    have hkey := IsLine.append (isVisible_of_mem_writeText key) (show IsLine ": " by decide)
    exact ⟨hkey.append (isLine_line value hvalue), isLine_lineEntries rest hrest⟩

end

end TypedId.Json
