import Mathlib.Data.List.Infix
import TypedId.Text.Identifier

/-!
# Texts with slots

A slot is a character that stands for a text. Filling the slots changes nothing that the texts for them have no part in:
the characters of a sort that neither slots nor their texts belong to stay as they are (`filter_fill`), and so does what a
text begins and ends with in regard to such a sort (`takeWhile_fill`, `any_getLast?_fill`). How often a pattern stands in
a filled text can be read off before it is filled, where every place decides this without looking into a slot
(`occurrences_fill`).
-/

set_option autoImplicit false

namespace TypedId.Text

/-- Slots with the texts for them. -/
abbrev Filling := List (Char × List Char)

namespace Filling

variable {filling : Filling} {sort : Char → Bool} {text : List Char} {c : Char}

/-- What stands in the place of a character: the text for a slot, any other character itself. -/
def put (filling : Filling) (c : Char) : List Char :=
  (filling.lookup c).getD [c]

/-- A text with its slots filled. -/
def fill (filling : Filling) (text : List Char) : List Char :=
  text.flatMap filling.put

/-- The empty text has no slots. -/
@[simp]
theorem fill_nil (filling : Filling) : filling.fill [] = [] := rfl

/-- The first character is filled on its own. -/
@[simp]
theorem fill_cons (filling : Filling) (c : Char) (text : List Char) :
    filling.fill (c :: text) = filling.put c ++ filling.fill text :=
  List.flatMap_cons

/-- Texts one after the other are filled one after the other. -/
@[simp]
theorem fill_append (filling : Filling) (front behind : List Char) :
    filling.fill (front ++ behind) = filling.fill front ++ filling.fill behind :=
  List.flatMap_append

/-- The slots. -/
def slots (filling : Filling) : List Char :=
  filling.map Prod.fst

/-- A character is no slot and stands for itself, or it is one. -/
theorem put_cases (filling : Filling) (c : Char) :
    c ∉ filling.slots ∧ filling.put c = [c] ∨ (c, filling.put c) ∈ filling := by
  rw [put]
  cases hlookup : filling.lookup c with
  | none =>
    refine Or.inl ⟨fun hmem => ?_, rfl⟩
    obtain ⟨entry, hentry, rfl⟩ := List.mem_map.1 hmem
    simpa using List.lookup_eq_none_iff.1 hlookup entry hentry
  | some chars =>
    obtain ⟨before, behind, hfilling, -⟩ := List.lookup_eq_some_iff.1 hlookup
    rw [hfilling]
    exact Or.inr (by simp)

/-- A character that is no slot stands for itself. -/
theorem put_of_notMem (h : c ∉ filling.slots) : filling.put c = [c] :=
  ((put_cases filling c).resolve_right fun hmem => h (List.mem_map_of_mem hmem)).2

/-- A slot stands for a text that is given for it. -/
theorem put_mem (h : c ∈ filling.slots) : (c, filling.put c) ∈ filling :=
  (put_cases filling c).resolve_left fun hother => hother.1 h

/-- A text without slots stays as it is. -/
theorem fill_of_disjoint (h : ∀ c ∈ text, c ∉ filling.slots) : filling.fill text = text := by
  induction text with
  | nil => rfl
  | cons c rest ih =>
    obtain ⟨hc, hrest⟩ := List.forall_mem_cons.1 h
    rw [fill_cons, put_of_notMem hc, ih hrest, List.singleton_append]

/-! ## Characters of a sort -/

/-- Neither the slots nor the characters of the texts for them are of a sort. -/
def Avoids (filling : Filling) (sort : Char → Bool) : Prop :=
  ∀ entry ∈ filling, sort entry.1 = false ∧ ∀ c ∈ entry.2, sort c = false

/-- Slots and texts without characters of a sort have none of a narrower sort. -/
theorem Avoids.mono {part : Char → Bool} (h : filling.Avoids sort) (hpart : ∀ c, part c = true → sort c = true) :
    filling.Avoids part := by
  have hnot {c : Char} (hc : sort c = false) : part c = false :=
    Bool.eq_false_iff.2 fun hpartc => absurd (hpart c hpartc) (by simp [hc])
  intro entry hentry
  obtain ⟨hslot, hchars⟩ := h entry hentry
  exact ⟨hnot hslot, fun c hc => hnot (hchars c hc)⟩

/-- No slot stands for the empty text. -/
def IsVisible (filling : Filling) : Prop :=
  ∀ entry ∈ filling, entry.2 ≠ []

/-- The characters of the sort stay, in their order. -/
theorem filter_fill (h : filling.Avoids sort) (text : List Char) :
    (filling.fill text).filter sort = text.filter sort := by
  induction text with
  | nil => rfl
  | cons c rest ih =>
    rw [fill_cons, List.filter_append, ih]
    rcases put_cases filling c with ⟨-, hput⟩ | hmem
    · rw [hput, ← List.filter_append, List.singleton_append]
    · obtain ⟨hslot, hchars⟩ := h _ hmem
      rw [List.filter_eq_nil_iff.2 fun d hd => by simp [hchars d hd], List.filter_cons_of_neg (by simp [hslot]),
        List.nil_append]

/-- A character that neither a text nor the filling has is not in the filled text. -/
theorem notMem_fill (h : filling.Avoids (· == c)) (htext : c ∉ text) : c ∉ filling.fill text := fun hmem => by
  have hfilter : c ∈ (filling.fill text).filter (· == c) := List.mem_filter.2 ⟨hmem, beq_self_eq_true c⟩
  rw [filter_fill h] at hfilter
  exact htext (List.mem_filter.1 hfilter).1

/-- No character stands for the empty text. -/
theorem put_ne_nil (h : filling.IsVisible) (c : Char) : filling.put c ≠ [] := by
  rcases put_cases filling c with ⟨-, hput⟩ | hmem
  · simp [hput]
  · exact h _ hmem

/-- Only the empty text becomes empty. -/
theorem fill_eq_nil_iff (h : filling.IsVisible) : filling.fill text = [] ↔ text = [] := by
  cases text with
  | nil => simp
  | cons c rest => simp [put_ne_nil h c]

/-- A filled text begins with what its first character stands for. -/
theorem head?_fill (h : filling.IsVisible) (text : List Char) :
    (filling.fill text).head? = text.head?.bind fun c => (filling.put c).head? := by
  cases text with
  | nil => rfl
  | cons c rest =>
    rw [fill_cons, List.head?_append_of_ne_nil _ (put_ne_nil h c)]
    rfl

/-- All of what a character stands for is of the sort only if the character is. -/
theorem sort_of_mem_put (h : filling.Avoids sort) {d : Char} (hd : d ∈ filling.put c) : sort d = sort c := by
  rcases put_cases filling c with ⟨-, hput⟩ | hmem
  · rw [hput] at hd
    rw [List.mem_singleton.1 hd]
  · obtain ⟨hslot, hchars⟩ := h _ hmem
    rw [hslot, hchars d hd]

/-- The characters of the sort in front stay, and no more of them come there. -/
theorem takeWhile_fill (h : filling.Avoids sort) (hvisible : filling.IsVisible) (text : List Char) :
    (filling.fill text).takeWhile sort = text.takeWhile sort := by
  induction text with
  | nil => rfl
  | cons c rest ih =>
    rw [fill_cons]
    cases hc : sort c with
    | true =>
      have hslot : c ∉ filling.slots := fun hmem => by
        rw [(h _ (put_mem hmem)).1] at hc
        exact absurd hc (by simp)
      rw [put_of_notMem hslot, List.singleton_append, List.takeWhile_cons_of_pos hc, List.takeWhile_cons_of_pos hc, ih]
    | false =>
      -- what stands for the character is not empty, and its first character stops the search as well
      obtain ⟨d, chars, hput⟩ := List.exists_cons_of_ne_nil (put_ne_nil hvisible c)
      have hd : sort d = false := hc ▸ sort_of_mem_put h (by rw [hput]; exact List.mem_cons_self)
      rw [hput, List.cons_append, List.takeWhile_cons_of_neg (by simp [hd]), List.takeWhile_cons_of_neg (by simp [hc])]

/-- All characters are of a sort that filling avoids if and only if those of the filled text are. -/
theorem all_fill (h : filling.Avoids sort) (hvisible : filling.IsVisible) (text : List Char) :
    (filling.fill text).all sort = text.all sort := by
  have hput (c : Char) : (filling.put c).all sort = sort c := by
    obtain ⟨d, chars, hchars⟩ := List.exists_cons_of_ne_nil (put_ne_nil hvisible c)
    cases hc : sort c with
    | true => exact List.all_eq_true.2 fun other hother => hc ▸ sort_of_mem_put h hother
    | false =>
      have hd : sort d = false := hc ▸ sort_of_mem_put h (by rw [hchars]; exact List.mem_cons_self)
      rw [hchars, List.all_cons, hd, Bool.false_and]
  induction text with
  | nil => rfl
  | cons c rest ih => rw [fill_cons, List.all_append, List.all_cons, hput, ih]

/-- A filled text ends with a character of the sort exactly if it did before. -/
theorem any_getLast?_fill (h : filling.Avoids sort) (hvisible : filling.IsVisible) (text : List Char) :
    (filling.fill text).getLast?.any sort = text.getLast?.any sort := by
  rcases List.eq_nil_or_concat text with rfl | ⟨front, c, rfl⟩
  · rfl
  · obtain ⟨chars, d, hput⟩ := (List.eq_nil_or_concat (filling.put c)).resolve_left (put_ne_nil hvisible c)
    have hd : sort d = sort c := sort_of_mem_put h (by simp [hput])
    rw [List.concat_eq_append, fill_append, fill_cons, fill_nil, List.append_nil, hput, List.concat_eq_append,
      ← List.append_assoc, List.getLast?_concat, List.getLast?_concat]
    exact hd

end Filling

/-! ## Places where a pattern stands -/

/-- How often a pattern stands in a text. -/
def occurrences (pattern text : List Char) : Nat :=
  text.tails.countP pattern.isPrefixOf

section Occurrences

variable {pattern before behind text word : List Char} {slots : List Char} {stop : Char} {filling : Filling}

/-- A pattern stands in a text as often as behind the first character, and once more if it stands at the front. -/
theorem occurrences_cons (pattern : List Char) (c : Char) (text : List Char) :
    occurrences pattern (c :: text) = occurrences pattern text + if pattern.isPrefixOf (c :: text) then 1 else 0 := by
  rw [occurrences, List.tails_cons, List.countP_cons]
  rfl

/-- A pattern stands in a text that holds it. -/
theorem occurrences_pos (pattern front behind : List Char) : 0 < occurrences pattern (front ++ (pattern ++ behind)) := by
  rw [occurrences, List.countP_pos_iff]
  exact ⟨pattern ++ behind, (List.mem_tails _ _).2 (List.suffix_append _ _),
    List.isPrefixOf_iff_prefix.2 (List.prefix_append _ _)⟩

/-- A pattern without a separator stands in front of it if at all. -/
theorem isPrefixOf_append_cons {separator : Char} (h : separator ∉ pattern) (front behind : List Char) :
    pattern.isPrefixOf (front ++ separator :: behind) = pattern.isPrefixOf front := by
  induction pattern generalizing front with
  | nil => simp
  | cons p pattern ih =>
    rw [List.mem_cons, not_or] at h
    cases front with
    | nil =>
      rw [List.nil_append, List.isPrefixOf_cons_cons, beq_eq_false_iff_ne.2 (Ne.symm h.1), Bool.false_and]
      rfl
    | cons c front => rw [List.cons_append, List.isPrefixOf_cons_cons, List.isPrefixOf_cons_cons, ih h.2]

/-- A pattern without a separator stands in front of it or behind it. -/
theorem occurrences_append_cons {separator : Char} (h : separator ∉ pattern) (front behind : List Char) :
    occurrences pattern (front ++ separator :: behind) = occurrences pattern front + occurrences pattern behind := by
  induction front with
  | nil =>
    have hprefix := isPrefixOf_append_cons h [] behind
    rw [List.nil_append] at hprefix ⊢
    rw [occurrences_cons, hprefix, Nat.add_comm]
    cases pattern <;> rfl
  | cons c front ih =>
    have hprefix := isPrefixOf_append_cons h (c :: front) behind
    rw [List.cons_append] at hprefix ⊢
    rw [occurrences_cons, occurrences_cons, hprefix, ih]
    omega

/-- A word in front adds no place if it lacks a character of the pattern and what is left of the pattern behind the word
does not follow. -/
theorem occurrences_append (hword : stop ∉ word)
    (h : ∀ left, left <:+ before → left ≠ before → ¬ left ++ stop :: behind <+: text) :
    occurrences (before ++ stop :: behind) (word ++ text) = occurrences (before ++ stop :: behind) text := by
  induction word with
  | nil => rfl
  | cons c word ih =>
    have hnone : ¬ before ++ stop :: behind <+: (c :: word) ++ text := by
      rintro ⟨rest, hrest⟩
      rw [List.append_assoc] at hrest
      rcases List.append_eq_append_iff.1 hrest with ⟨more, hmore, hbehind⟩ | ⟨left, hleft, htext⟩
      · -- the stop would have to be in the word, unless the word ends in front of it
        cases more with
        | nil =>
          refine h [] (List.nil_suffix) ?_ ⟨rest, by simpa using hbehind⟩
          rintro rfl
          exact absurd hmore (by simp)
        | cons d more =>
          obtain ⟨rfl, -⟩ := List.cons.inj hbehind
          exact hword (by rw [hmore]; simp)
      · refine h left ⟨c :: word, hleft.symm⟩ ?_ ⟨rest, by rw [htext, List.append_assoc]⟩
        rintro rfl
        exact absurd (congrArg List.length hleft) (by simp only [List.length_append, List.length_cons]; omega)
    rw [List.cons_append, occurrences_cons, ih fun hmem => hword (List.mem_cons_of_mem _ hmem),
      if_neg (by simpa using hnone), Nat.add_zero]

/-- What a text ends with and is not the text itself is one of its shorter endings. -/
theorem mem_tail_tails {left : List Char} (h : left <:+ before) (hne : left ≠ before) : left ∈ before.tails.tail := by
  cases before with
  | nil => exact absurd (List.suffix_nil.1 h) hne
  | cons c rest =>
    rw [List.tails_cons, List.tail_cons, List.mem_tails]
    exact (List.suffix_cons_iff.1 h).resolve_left hne

/-- Whether a pattern stands at the front of a text, unless a slot has a say in it. -/
def stands? (slots : List Char) : List Char → List Char → Option Bool
  | [], _ => some true
  | _ :: _, [] => some false
  | p :: pattern, c :: text =>
    if slots.contains c then none else if p = c then stands? slots pattern text else some false

/-- A pattern stands at the front of the filled text as it is decided without a look into the slots. -/
theorem isPrefixOf_fill {answer : Bool} (h : stands? filling.slots pattern text = some answer) :
    pattern.isPrefixOf (filling.fill text) = answer := by
  induction pattern generalizing text with
  | nil => simpa [stands?] using h
  | cons p pattern ih =>
    cases text with
    | nil => simpa [stands?] using h
    | cons c text =>
      rw [stands?] at h
      split at h
      · exact absurd h (by simp)
      · rename_i hslot
        rw [Filling.fill_cons, Filling.put_of_notMem (by simpa using hslot), List.singleton_append,
          List.isPrefixOf_cons_cons]
        split at h
        · rename_i heq
          rw [heq, beq_self_eq_true, Bool.true_and, ih h]
        · rename_i hne
          rw [beq_eq_false_iff_ne.2 hne, Bool.false_and]
          exact Option.some.inj h

/-- How often a pattern stands in a text behind what is counted already, unless a slot has a say in it. The texts for the
slots lack the stop, a character of the pattern, so that a place in them ends in front of it. -/
def standings? (slots before : List Char) (stop : Char) (behind : List Char) (count : Nat) : List Char → Option Nat
  | [] => some count
  | c :: text =>
    if slots.contains c then
      if before.tails.tail.all (fun left => stands? slots (left ++ stop :: behind) text == some false) then
        standings? slots before stop behind count text
      else none
    else
      match stands? slots (before ++ stop :: behind) (c :: text) with
      | some answer => standings? slots before stop behind (if answer then count + 1 else count) text
      | none => none

/-- A pattern stands in the filled text as often as it is counted without a look into the slots. -/
theorem occurrences_fill (hfilling : filling.Avoids (· == stop)) {count total : Nat}
    (h : standings? filling.slots before stop behind count text = some total) :
    count + occurrences (before ++ stop :: behind) (filling.fill text) = total := by
  induction text generalizing count with
  | nil =>
    have hnone : occurrences (before ++ stop :: behind) [] = 0 := by cases before <;> rfl
    rw [Filling.fill_nil, hnone]
    exact Option.some.inj h
  | cons c text ih =>
    rw [standings?] at h
    split at h
    · rename_i hslot
      split at h
      · -- a place in the text for the slot would go on behind it with some of what is left of the pattern
        rename_i hlefts
        have hword : stop ∉ filling.put c := fun hstop => by
          simpa using (hfilling _ (Filling.put_mem (by simpa using hslot))).2 _ hstop
        rw [Filling.fill_cons, occurrences_append hword, ih h]
        intro left hleft hne hstands
        have hnone := List.all_eq_true.1 hlefts left (mem_tail_tails hleft hne)
        rw [← List.isPrefixOf_iff_prefix, isPrefixOf_fill (beq_iff_eq.1 hnone)] at hstands
        exact absurd hstands (by simp)
      · exact absurd h (by simp)
    · rename_i hslot
      split at h
      · rename_i answer hanswer
        have hput := isPrefixOf_fill hanswer
        rw [Filling.fill_cons, Filling.put_of_notMem (by simpa using hslot), List.singleton_append] at hput ⊢
        rw [occurrences_cons, hput, ← ih h]
        cases answer with
        | false => simp
        | true => simp; omega
      · exact absurd h (by simp)

end Occurrences

end TypedId.Text
