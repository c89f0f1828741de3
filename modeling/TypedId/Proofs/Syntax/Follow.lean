import TypedId.Proofs.Grammar.Context
import TypedId.Syntax.Place

/-!
# What may follow at a place

Which terminals a place takes decides how readings of one text can part. Behind a name or an integer only
punctuation follows (`Place.followsWord_of_next?`), so a word is never cut short by what comes next. A name and a
keyword are taken at the same place in three situations only (`Place.word_of_next?_name`): where a dotted name begins,
behind `using` and behind `record`. Behind a `global` that begins a dotted name only two colons follow
(`Place.eq_doubleColon_of_global`), which no other reading can take.
-/

set_option autoImplicit false

namespace TypedId.Syntax

open Grammar

/-- Whether a terminal is punctuation that may stand behind a word. -/
def followsWord : Terminal → Bool
  | .mark .leftBrace => true
  | .mark .rightBrace => true
  | .mark .leftParen => true
  | .mark .rightParen => true
  | .mark .leftSquare => true
  | .mark .rightSquare => true
  | .mark .semicolon => true
  | .mark .comma => true
  | .mark .dot => true
  | .mark .colon => true
  | .mark .equal => true
  | _ => false

/-- Punctuation does not continue a word. -/
theorem isNameRest_of_followsWord {terminal : Terminal} {c : Char} (h : followsWord terminal = true)
    (hopens : terminal.opens c = true) : isNameRest c = false := by
  cases terminal with
  | mark word =>
    simp only [Terminal.opens, beq_iff_eq] at hopens
    cases word <;> simp only [followsWord, Bool.false_eq_true] at h <;> rw [← Option.some.inj hopens] <;> decide
  | _ => simp [followsWord] at h

/-- Two colons do not follow a word. -/
theorem not_followsWord_doubleColon : followsWord (.mark .doubleColon) = false :=
  rfl

/-- A name or an integer, which ends in a character that may continue a word. -/
def IsOpenEnded (terminal : Terminal) : Prop :=
  terminal = .name ∨ terminal = .integer

/-! ## Qualified names -/

namespace PathPlace

variable {place next after : PathPlace} {terminal : Terminal}

/-- Behind a name only a point follows. -/
theorem followsWord_of_next? {word : Terminal} (hword : IsOpenEnded word) (h : place.next? word = some next)
    (hafter : next.next? terminal = some after) : followsWord terminal = true := by
  have hnext : next = .single ∨ next = .named := by
    rcases hword with rfl | rfl <;> cases place <;> simp [next?] at h <;> simp [← h]
  unfold next? at hafter
  split at hafter <;> simp_all [followsWord]

/-- A name begins or goes on where no mark is taken but `global` at its start. -/
theorem word_of_next?_name {word : Mark} {other : PathPlace} (h : place.next? (.mark word) = some next)
    (hname : place.next? .name = some other) : word = .globalWord := by
  cases place <;> simp [next?] at hname <;> cases word <;> simp [next?] at h
  rfl

/-- The word `global` is the root of a name. -/
theorem eq_root_of_global (h : place.next? (.mark .globalWord) = some next) : next = .root := by
  cases place <;> simp [next?] at h
  exact h.symm

/-- Behind the root only two colons follow. -/
theorem eq_doubleColon_of_root (h : root.next? terminal = some after) : terminal = .mark .doubleColon := by
  unfold next? at h
  split at h <;> simp_all

/-- A name takes no colon. -/
theorem next?_colon (place : PathPlace) : place.next? (.mark .colon) = none := by
  cases place <;> rfl

/-- A name takes no modifier. -/
theorem next?_modifier (place : PathPlace) : place.next? .modifier = none := by
  cases place <;> rfl

/-- A name does not take the word `record`. -/
theorem next?_record (place : PathPlace) : place.next? (.mark .recordWord) = none := by
  cases place <;> rfl

end PathPlace

/-! ## Arguments -/

namespace ArgumentPlace

variable {place next after : ArgumentPlace} {terminal : Terminal}

/-- Behind a member only punctuation follows, if its name does not go on otherwise. -/
theorem followsWord_of_member {first : Bool} {path : PathPlace} (h : (member first path).next? terminal = some after)
    (hpath : ∀ other, path.next? terminal = some other → followsWord terminal = true) : followsWord terminal = true := by
  simp only [next?] at h
  split at h
  · rename_i hsign
    unfold isLabelSign at hsign
    split at hsign <;> simp_all [followsWord]
  · obtain ⟨other, hother, -⟩ := Option.map_eq_some_iff.1 h
    exact hpath other hother

/-- Behind the target of a cast only punctuation follows, if its name does not go on otherwise. -/
theorem followsWord_of_cast {path : PathPlace} (h : (cast path).next? terminal = some after)
    (hpath : ∀ other, path.next? terminal = some other → followsWord terminal = true) : followsWord terminal = true := by
  simp only [next?] at h
  split at h
  · rename_i hparen
    rw [hparen]
    rfl
  · obtain ⟨other, hother, -⟩ := Option.map_eq_some_iff.1 h
    exact hpath other hother

/-- An operand that begins with a name or an integer is a member that begins with a name or a literal. -/
theorem operandPlace?_of_isOpenEnded {first : Bool} {word : Terminal} (hword : IsOpenEnded word)
    (h : operandPlace? first word = some next) : next = .member first .single ∨ next = .literal := by
  rcases hword with rfl | rfl
  · exact Or.inl (Option.some.inj h).symm
  · exact Or.inr (Option.some.inj h).symm

/-- Behind a name or an integer only punctuation follows. -/
theorem followsWord_of_next? {word : Terminal} (hword : IsOpenEnded word) (h : place.next? word = some next)
    (hafter : next.next? terminal = some after) : followsWord terminal = true := by
  have hparen : word ≠ .mark .rightParen := by rcases hword with rfl | rfl <;> simp
  have hsign : isLabelSign word = false := by rcases hword with rfl | rfl <;> rfl
  have hoperand (first : Bool) (h : operandPlace? first word = some next) : followsWord terminal = true := by
    rcases operandPlace?_of_isOpenEnded hword h with rfl | rfl
    · refine followsWord_of_member hafter fun other hother => ?_
      exact PathPlace.followsWord_of_next? (Or.inl rfl) (show PathPlace.start.next? .name = some .single from rfl) hother
    · simp [next?] at hafter
  cases place with
  | start => exact hoperand true h
  | operand => exact hoperand false h
  | cast path =>
    simp only [next?, if_neg hparen] at h
    obtain ⟨path', hpath, rfl⟩ := Option.map_eq_some_iff.1 h
    exact followsWord_of_cast hafter fun other hother => PathPlace.followsWord_of_next? hword hpath hother
  | member first path =>
    simp only [next?, hsign] at h
    obtain ⟨path', hpath, rfl⟩ := Option.map_eq_some_iff.1 h
    exact followsWord_of_member hafter fun other hother => PathPlace.followsWord_of_next? hword hpath hother
  | literal => simp [next?] at h

/-- Where an argument takes a name, it takes no other word than `global`. -/
theorem word_of_next?_name {word : Mark} {other : ArgumentPlace} (hword : word.isWord = true)
    (h : place.next? (.mark word) = some next) (hname : place.next? .name = some other) : word = .globalWord := by
  have hparen : word ≠ .rightParen ∧ word ≠ .leftParen := by
    constructor <;> rintro rfl <;> exact absurd hword (by decide)
  have hsign : isLabelSign (.mark word) = false := by
    cases word <;> first | rfl | exact absurd hword (by decide)
  have hoperand (first : Bool) (h : operandPlace? first (.mark word) = some next) : word = .globalWord := by
    unfold operandPlace? at h
    split at h
    · simp_all
    · simp_all
    · simp_all
    · obtain ⟨path, hpath, -⟩ := Option.map_eq_some_iff.1 h
      exact PathPlace.word_of_next?_name hpath (show PathPlace.start.next? .name = some .single from rfl)
  cases place with
  | start => exact hoperand true h
  | operand => exact hoperand false h
  | cast path =>
    simp only [next?, Terminal.mark.injEq, if_neg hparen.1] at h
    simp only [next?, reduceCtorEq, if_false] at hname
    obtain ⟨path', hpath, -⟩ := Option.map_eq_some_iff.1 h
    obtain ⟨path'', hpath', -⟩ := Option.map_eq_some_iff.1 hname
    exact PathPlace.word_of_next?_name hpath hpath'
  | member first path =>
    simp only [next?, hsign] at h
    simp only [next?, show isLabelSign .name = false from rfl] at hname
    obtain ⟨path', hpath, -⟩ := Option.map_eq_some_iff.1 h
    obtain ⟨path'', hpath', -⟩ := Option.map_eq_some_iff.1 hname
    exact PathPlace.word_of_next?_name hpath hpath'
  | literal => simp [next?] at h

/-- Behind `global` an argument takes nothing but two colons, and it may not end there. -/
theorem eq_doubleColon_of_global (h : place.next? (.mark .globalWord) = some next) :
    next.isComplete = false ∧ next ≠ .start ∧
      ∀ terminal after, next.next? terminal = some after → terminal = .mark .doubleColon := by
  have hmember (first : Bool) (hnext : next = .member first .root) : next.isComplete = false ∧ next ≠ .start ∧
      ∀ terminal after, next.next? terminal = some after → terminal = .mark .doubleColon := by
    subst hnext
    refine ⟨rfl, by simp, fun terminal after hafter => ?_⟩
    simp only [next?] at hafter
    split at hafter
    · simp at hafter
    · obtain ⟨path, hpath, -⟩ := Option.map_eq_some_iff.1 hafter
      exact PathPlace.eq_doubleColon_of_root hpath
  cases place with
  | start => exact hmember true (Option.some.inj h).symm
  | operand => exact hmember false (Option.some.inj h).symm
  | cast path =>
    simp only [next?, Terminal.mark.injEq, reduceCtorEq, if_false] at h
    obtain ⟨path', hpath, rfl⟩ := Option.map_eq_some_iff.1 h
    rw [PathPlace.eq_root_of_global hpath]
    refine ⟨rfl, by simp, fun terminal after hafter => ?_⟩
    simp only [next?] at hafter
    split at hafter
    · simp [PathPlace.isComplete] at hafter
    · obtain ⟨path, hpath, -⟩ := Option.map_eq_some_iff.1 hafter
      exact PathPlace.eq_doubleColon_of_root hpath
  | member first path =>
    simp only [next?, show isLabelSign (.mark .globalWord) = false from rfl] at h
    obtain ⟨path', hpath, heq⟩ := Option.map_eq_some_iff.1 h
    exact hmember first (by rw [← heq, PathPlace.eq_root_of_global hpath])
  | literal => simp [next?] at h

/-- A colon makes the first name of an argument its label. -/
theorem next?_colon (h : place.next? (.mark .colon) = some next) : place = .member true .single ∧ next = .operand := by
  cases place with
  | cast path => simp [next?, PathPlace.next?_colon] at h
  | member first path =>
    simp [next?, isLabelSign] at h
    obtain ⟨⟨rfl, rfl⟩, rfl⟩ := h
    exact ⟨rfl, rfl⟩
  | _ => simp [next?, operandPlace?, PathPlace.next?_colon] at h

/-- An argument takes no modifier. -/
theorem next?_modifier (place : ArgumentPlace) : place.next? .modifier = none := by
  cases place <;> simp [next?, operandPlace?, PathPlace.next?_modifier, isLabelSign]

/-- An argument does not take the word `record`. -/
theorem next?_record (place : ArgumentPlace) : place.next? (.mark .recordWord) = none := by
  cases place <;> simp [next?, operandPlace?, PathPlace.next?_record, isLabelSign]

end ArgumentPlace

/-! ## Attributes -/

namespace AttributePlace

variable {place next after : AttributePlace} {terminal : Terminal}

/-- An attribute goes on inside its name or an argument, or with the punctuation of a list of arguments. -/
theorem next?_cases (h : place.next? terminal = some next) :
    (∃ path path', place = .inName path ∧ path.next? terminal = some path' ∧ next = .inName path') ∨
    (∃ first part part', place = .inArgument first part ∧ part.next? terminal = some part' ∧
      next = .inArgument first part') ∨
    (∃ path, terminal = .mark .leftParen ∧ place = .inName path ∧ next = .inArgument true .start) ∨
    (∃ first part, terminal = .mark .comma ∧ place = .inArgument first part ∧ part.isComplete = true ∧
      next = .inArgument false .start) ∨
    (∃ first part, terminal = .mark .rightParen ∧ place = .inArgument first part ∧
      (part.isComplete = true ∨ part = .start) ∧ next = .closed) := by
  cases place with
  | inName path =>
    simp only [next?] at h
    split at h
    · rename_i hparen
      obtain ⟨-, h⟩ := Option.ite_none_right_eq_some.1 h
      exact Or.inr (Or.inr (Or.inl ⟨path, hparen, rfl, (Option.some.inj h).symm⟩))
    · obtain ⟨path', hpath, rfl⟩ := Option.map_eq_some_iff.1 h
      exact Or.inl ⟨path, path', rfl, hpath, rfl⟩
  | inArgument first part =>
    simp only [next?] at h
    split at h
    · rename_i part' hpart
      exact Or.inr (Or.inl ⟨first, part, part', rfl, hpart, (Option.some.inj h).symm⟩)
    · unfold argumentEnd? at h
      split at h
      · obtain ⟨hcomplete, h⟩ := Option.ite_none_right_eq_some.1 h
        exact Or.inr (Or.inr (Or.inr (Or.inl ⟨first, part, rfl, rfl, hcomplete, (Option.some.inj h).symm⟩)))
      · obtain ⟨hcomplete, h⟩ := Option.ite_none_right_eq_some.1 h
        have hpart : part.isComplete = true ∨ part = .start := by
          simp only [Bool.or_eq_true, Bool.and_eq_true, decide_eq_true_eq] at hcomplete
          exact hcomplete.imp_right And.right
        exact Or.inr (Or.inr (Or.inr (Or.inr ⟨first, part, rfl, rfl, hpart, (Option.some.inj h).symm⟩)))
      · simp at h
  | closed => simp [next?] at h

/-- Behind a name or an integer only punctuation follows. -/
theorem followsWord_of_next? {word : Terminal} (hword : IsOpenEnded word) (h : place.next? word = some next)
    (hafter : next.next? terminal = some after) : followsWord terminal = true := by
  have hmark (mark : Mark) : word ≠ .mark mark := by rcases hword with rfl | rfl <;> simp
  rcases next?_cases h with ⟨path, path', rfl, hpath, rfl⟩ | ⟨first, part, part', rfl, hpart, rfl⟩ |
    ⟨_, hparen, -⟩ | ⟨_, _, hcomma, -⟩ | ⟨_, _, hparen, -⟩
  · rcases next?_cases hafter with ⟨_, path'', heq, hnext, -⟩ | ⟨_, _, _, heq, -⟩ | ⟨_, rfl, -⟩ | ⟨_, _, rfl, -⟩ |
      ⟨_, _, rfl, -⟩
    · rw [← AttributePlace.inName.inj heq] at hnext
      exact PathPlace.followsWord_of_next? hword hpath hnext
    · simp at heq
    all_goals rfl
  · rcases next?_cases hafter with ⟨_, _, heq, -⟩ | ⟨_, _, part'', heq, hnext, -⟩ | ⟨_, rfl, -⟩ | ⟨_, _, rfl, -⟩ |
      ⟨_, _, rfl, -⟩
    · simp at heq
    · rw [← (AttributePlace.inArgument.inj heq).2] at hnext
      exact ArgumentPlace.followsWord_of_next? hword hpart hnext
    all_goals rfl
  · exact absurd hparen (hmark _)
  · exact absurd hcomma (hmark _)
  · exact absurd hparen (hmark _)

/-- Where an attribute takes a name, it takes no other word than `global`. -/
theorem word_of_next?_name {word : Mark} {other : AttributePlace} (hword : word.isWord = true)
    (h : place.next? (.mark word) = some next) (hname : place.next? .name = some other) : word = .globalWord := by
  have hmark (mark : Mark) (hmark : mark.isWord = false) : Terminal.mark word ≠ .mark mark := by
    rintro heq
    rw [Terminal.mark.inj heq, hmark] at hword
    simp at hword
  rcases next?_cases hname with ⟨path, path', rfl, hpath, -⟩ | ⟨first, part, part', rfl, hpart, -⟩ | ⟨_, heq, -⟩ |
    ⟨_, _, heq, -⟩ | ⟨_, _, heq, -⟩
  · rcases next?_cases h with ⟨_, path'', heq, hnext, -⟩ | ⟨_, _, _, heq, -⟩ | ⟨_, heq, -⟩ | ⟨_, _, heq, -⟩ |
      ⟨_, _, heq, -⟩
    · rw [← AttributePlace.inName.inj heq] at hnext
      exact PathPlace.word_of_next?_name hnext hpath
    · simp at heq
    all_goals exact absurd heq (hmark _ (by decide))
  · rcases next?_cases h with ⟨_, _, heq, -⟩ | ⟨_, _, part'', heq, hnext, -⟩ | ⟨_, heq, -⟩ | ⟨_, _, heq, -⟩ |
      ⟨_, _, heq, -⟩
    · simp at heq
    · rw [← (AttributePlace.inArgument.inj heq).2] at hnext
      exact ArgumentPlace.word_of_next?_name hword hnext hpart
    all_goals exact absurd heq (hmark _ (by decide))
  all_goals simp at heq

/-- Behind `global` an attribute takes nothing but two colons, and it may not end there. -/
theorem eq_doubleColon_of_global (h : place.next? (.mark .globalWord) = some next) :
    next.isComplete = false ∧ next ≠ .inName .start ∧
      ∀ terminal after, next.next? terminal = some after → terminal = .mark .doubleColon := by
  rcases next?_cases h with ⟨path, path', rfl, hpath, rfl⟩ | ⟨first, part, part', rfl, hpart, rfl⟩ | ⟨_, heq, -⟩ |
    ⟨_, _, heq, -⟩ | ⟨_, _, heq, -⟩
  · rw [PathPlace.eq_root_of_global hpath]
    refine ⟨rfl, by simp, fun terminal after hafter => ?_⟩
    simp only [next?] at hafter
    split at hafter
    · simp [PathPlace.isComplete] at hafter
    · obtain ⟨path'', hnext, -⟩ := Option.map_eq_some_iff.1 hafter
      exact PathPlace.eq_doubleColon_of_root hnext
  · obtain ⟨hcomplete, hstart, honly⟩ := ArgumentPlace.eq_doubleColon_of_global hpart
    refine ⟨rfl, by simp, fun terminal after hafter => ?_⟩
    rcases next?_cases hafter with ⟨_, _, heq, -⟩ | ⟨_, _, part'', heq, hnext, -⟩ | ⟨_, -, heq, -⟩ |
      ⟨_, _, -, heq, hend, -⟩ | ⟨_, _, -, heq, hend, -⟩
    · simp at heq
    · rw [← (AttributePlace.inArgument.inj heq).2] at hnext
      exact honly terminal part'' hnext
    · simp at heq
    · rw [← (AttributePlace.inArgument.inj heq).2, hcomplete] at hend
      simp at hend
    · rw [← (AttributePlace.inArgument.inj heq).2, hcomplete] at hend
      exact absurd (hend.resolve_left (by simp)) hstart
  all_goals simp at heq

/-- A colon is the sign of a label. -/
theorem next?_colon (h : place.next? (.mark .colon) = some next) :
    ∃ first, place = .inArgument first (.member true .single) ∧ next = .inArgument first .operand := by
  rcases next?_cases h with ⟨path, path', rfl, hpath, -⟩ | ⟨first, part, part', rfl, hpart, rfl⟩ | ⟨_, heq, -⟩ |
    ⟨_, _, heq, -⟩ | ⟨_, _, heq, -⟩
  · simp [PathPlace.next?_colon] at hpath
  · obtain ⟨rfl, rfl⟩ := ArgumentPlace.next?_colon hpart
    exact ⟨first, rfl, rfl⟩
  all_goals simp at heq

/-- An attribute takes no modifier. -/
theorem next?_modifier (place : AttributePlace) : place.next? .modifier = none := by
  rw [Option.eq_none_iff_forall_ne_some]
  intro next h
  rcases next?_cases h with ⟨path, path', rfl, hpath, -⟩ | ⟨first, part, part', rfl, hpart, -⟩ | ⟨_, heq, -⟩ |
    ⟨_, _, heq, -⟩ | ⟨_, _, heq, -⟩
  · simp [PathPlace.next?_modifier] at hpath
  · simp [ArgumentPlace.next?_modifier] at hpart
  all_goals simp at heq

/-- An attribute does not take the word `record`. -/
theorem next?_record (place : AttributePlace) : place.next? (.mark .recordWord) = none := by
  rw [Option.eq_none_iff_forall_ne_some]
  intro next h
  rcases next?_cases h with ⟨path, path', rfl, hpath, -⟩ | ⟨first, part, part', rfl, hpart, -⟩ | ⟨_, heq, -⟩ |
    ⟨_, _, heq, -⟩ | ⟨_, _, heq, -⟩
  · simp [PathPlace.next?_record] at hpath
  · simp [ArgumentPlace.next?_record] at hpart
  all_goals simp at heq

end AttributePlace

/-! ## Sections -/

namespace SectionPlace

variable {place next after : SectionPlace} {terminal : Terminal}

/-- A section goes on inside an attribute or with a comma. -/
theorem next?_cases (h : place.next? terminal = some next) :
    (∃ part, place.place.next? terminal = some part ∧ next = ⟨place.first, part⟩) ∨
    (terminal = .mark .comma ∧ place.place.isComplete = true ∧ next = ⟨false, .inName .start⟩) := by
  simp only [next?] at h
  split at h
  · rename_i part hpart
    exact Or.inl ⟨part, hpart, (Option.some.inj h).symm⟩
  · obtain ⟨hcomma, h⟩ := Option.ite_none_right_eq_some.1 h
    simp only [Bool.and_eq_true, decide_eq_true_eq] at hcomma
    exact Or.inr ⟨hcomma.1, hcomma.2, (Option.some.inj h).symm⟩

/-- Behind a name or an integer only punctuation follows. -/
theorem followsWord_of_next? {word : Terminal} (hword : IsOpenEnded word) (h : place.next? word = some next)
    (hafter : next.next? terminal = some after) : followsWord terminal = true := by
  rcases next?_cases h with ⟨part, hpart, rfl⟩ | ⟨rfl, -⟩
  · rcases next?_cases hafter with ⟨part', hpart', -⟩ | ⟨rfl, -⟩
    · exact AttributePlace.followsWord_of_next? hword hpart hpart'
    · rfl
  · rcases hword with heq | heq <;> simp at heq

/-- Where a section takes a name, it takes no other word than `global`. -/
theorem word_of_next?_name {word : Mark} {other : SectionPlace} (hword : word.isWord = true)
    (h : place.next? (.mark word) = some next) (hname : place.next? .name = some other) : word = .globalWord := by
  rcases next?_cases hname with ⟨part, hpart, -⟩ | ⟨heq, -⟩
  · rcases next?_cases h with ⟨part', hpart', -⟩ | ⟨heq, -⟩
    · exact AttributePlace.word_of_next?_name hword hpart' hpart
    · rw [Terminal.mark.inj heq] at hword
      exact absurd hword (by decide)
  · simp at heq

/-- Behind `global` a section takes nothing but two colons, and it may not end there. -/
theorem eq_doubleColon_of_global (h : place.next? (.mark .globalWord) = some next) :
    next.isComplete = false ∧ ∀ terminal after, next.next? terminal = some after → terminal = .mark .doubleColon := by
  rcases next?_cases h with ⟨part, hpart, rfl⟩ | ⟨heq, -⟩
  · obtain ⟨hcomplete, hstart, honly⟩ := AttributePlace.eq_doubleColon_of_global hpart
    refine ⟨by simp [isComplete, hcomplete, hstart], fun terminal after hafter => ?_⟩
    rcases next?_cases hafter with ⟨part', hpart', -⟩ | ⟨-, hend, -⟩
    · exact honly terminal part' hpart'
    · rw [hcomplete] at hend
      simp at hend
  · simp at heq

/-- Behind a colon a section takes no further colon, and two colons not in place of it. -/
theorem colon_unique (h : place.next? (.mark .colon) = some next) :
    place.next? (.mark .doubleColon) = none ∧ next.next? (.mark .colon) = none ∧
      next.next? (.mark .doubleColon) = none := by
  rcases next?_cases h with ⟨part, hpart, rfl⟩ | ⟨heq, -⟩
  · obtain ⟨first, hplace, rfl⟩ := AttributePlace.next?_colon hpart
    rw [next?, hplace]
    exact ⟨rfl, rfl, rfl⟩
  · simp at heq

/-- A section takes no modifier. -/
theorem next?_modifier (place : SectionPlace) : place.next? .modifier = none := by
  simp [next?, AttributePlace.next?_modifier]

/-- A section does not take the word `record`. -/
theorem next?_record (place : SectionPlace) : place.next? (.mark .recordWord) = none := by
  simp [next?, AttributePlace.next?_record]

end SectionPlace

/-! ## Declarations -/

namespace DeclarationPlace

variable {place next after : DeclarationPlace} {terminal : Terminal}

/-- How a declaration goes on. -/
theorem next?_cases (h : place.next? terminal = some next) :
    (∃ part part', place = .inSection part ∧ part.next? terminal = some part' ∧ next = .inSection part') ∨
    (∃ part, terminal = .mark .rightSquare ∧ place = .inSection part ∧ part.isComplete = true ∧ next = .head false) ∨
    (∃ modified, place = .head modified ∧ terminal ≠ .name) ∨
    ((terminal = .mark .structWord ∨ terminal = .mark .classWord) ∧ place = .record ∧ next = .kind) ∨
    (terminal = .name ∧ (place = .record ∨ place = .kind) ∧ next = .named) ∨
    (terminal = .mark .leftBrace ∧ place = .named ∧ next = .opened) := by
  cases place with
  | inSection part =>
    simp only [next?] at h
    split at h
    · rename_i part' hpart
      exact Or.inl ⟨part, part', rfl, hpart, (Option.some.inj h).symm⟩
    · obtain ⟨hend, h⟩ := Option.ite_none_right_eq_some.1 h
      simp only [Bool.and_eq_true, decide_eq_true_eq] at hend
      exact Or.inr (Or.inl ⟨part, hend.1, rfl, hend.2, (Option.some.inj h).symm⟩)
  | head modified =>
    refine Or.inr (Or.inr (Or.inl ⟨modified, rfl, ?_⟩))
    rintro rfl
    simp [next?] at h
  | opened => simp [next?] at h
  | _ =>
    unfold next? at h
    split at h <;> simp_all

/-- Behind a name or an integer only punctuation follows. -/
theorem followsWord_of_next? {word : Terminal} (hword : IsOpenEnded word) (h : place.next? word = some next)
    (hafter : next.next? terminal = some after) : followsWord terminal = true := by
  rcases next?_cases h with ⟨part, part', rfl, hpart, rfl⟩ | ⟨_, rfl, -⟩ | ⟨modified, rfl, hname⟩ | ⟨rfl | rfl, -⟩ |
    ⟨-, -, rfl⟩ | ⟨rfl, -⟩
  · rcases next?_cases hafter with ⟨_, part'', heq, hnext, -⟩ | ⟨_, rfl, -⟩ | ⟨_, heq, -⟩ | ⟨-, heq, -⟩ |
      ⟨-, heq | heq, -⟩ | ⟨-, heq, -⟩
    · rw [← DeclarationPlace.inSection.inj heq] at hnext
      exact SectionPlace.followsWord_of_next? hword hpart hnext
    · rfl
    all_goals simp at heq
  · rcases hword with heq | heq <;> simp at heq
  · rcases hword with rfl | rfl
    · exact absurd rfl hname
    · simp [next?] at h
  · rcases hword with heq | heq <;> simp at heq
  · rcases hword with heq | heq <;> simp at heq
  · unfold next? at hafter
    split at hafter <;> simp_all [followsWord]
  · rcases hword with heq | heq <;> simp at heq

/-- Where a declaration takes a name, it takes no other word than `global`, or it stands behind `record`. -/
theorem word_of_next?_name {word : Mark} {other : DeclarationPlace} (hword : word.isWord = true)
    (h : place.next? (.mark word) = some next) (hname : place.next? .name = some other) :
    word = .globalWord ∨ ((word = .structWord ∨ word = .classWord) ∧ place = .record) := by
  rcases next?_cases h with ⟨part, part', rfl, hpart, rfl⟩ | ⟨_, heq, -⟩ | ⟨modified, rfl, -⟩ | ⟨hkind, rfl, -⟩ |
    ⟨heq, -⟩ | ⟨heq, -⟩
  · rcases next?_cases hname with ⟨_, part'', heq, hnext, -⟩ | ⟨_, heq, -⟩ | ⟨_, heq, -⟩ | ⟨-, heq, -⟩ |
      ⟨-, heq | heq, -⟩ | ⟨-, heq, -⟩
    · rw [← DeclarationPlace.inSection.inj heq] at hnext
      exact Or.inl (SectionPlace.word_of_next?_name hword hpart hnext)
    all_goals simp at heq
  · rw [Terminal.mark.inj heq] at hword
    exact absurd hword (by decide)
  · simp [next?] at hname
  · simp only [Terminal.mark.injEq] at hkind
    exact Or.inr ⟨hkind, rfl⟩
  · simp at heq
  · rw [Terminal.mark.inj heq] at hword
    exact absurd hword (by decide)

/-- Behind `global` a declaration takes nothing but two colons, and it may not end there. -/
theorem eq_doubleColon_of_global (h : place.next? (.mark .globalWord) = some next) :
    (∀ terminal, next.ends terminal = false) ∧
      ∀ terminal after, next.next? terminal = some after → terminal = .mark .doubleColon := by
  rcases next?_cases h with ⟨part, part', rfl, hpart, rfl⟩ | ⟨_, heq, -⟩ | ⟨modified, rfl, -⟩ | ⟨heq | heq, -⟩ |
    ⟨heq, -⟩ | ⟨heq, -⟩
  · obtain ⟨hcomplete, honly⟩ := SectionPlace.eq_doubleColon_of_global hpart
    refine ⟨fun terminal => rfl, fun terminal after hafter => ?_⟩
    rcases next?_cases hafter with ⟨_, part'', heq, hnext, -⟩ | ⟨_, -, heq, hend, -⟩ | ⟨_, heq, -⟩ | ⟨-, heq, -⟩ |
      ⟨-, heq | heq, -⟩ | ⟨-, heq, -⟩
    · rw [← DeclarationPlace.inSection.inj heq] at hnext
      exact honly terminal part'' hnext
    · rw [← DeclarationPlace.inSection.inj heq, hcomplete] at hend
      simp at hend
    all_goals simp at heq
  · simp at heq
  · simp [next?] at h
  all_goals simp at heq

/-- Behind a colon a declaration takes no further colon, and two colons not in place of it. -/
theorem colon_unique (h : place.next? (.mark .colon) = some next) :
    place.next? (.mark .doubleColon) = none ∧ next.next? (.mark .colon) = none ∧
      next.next? (.mark .doubleColon) = none := by
  rcases next?_cases h with ⟨part, part', rfl, hpart, rfl⟩ | ⟨_, heq, -⟩ | ⟨modified, rfl, -⟩ | ⟨heq | heq, -⟩ |
    ⟨heq, -⟩ | ⟨heq, -⟩
  · obtain ⟨hdouble, hcolon, hnext⟩ := SectionPlace.colon_unique hpart
    simp [next?, hdouble, hcolon, hnext]
  · simp at heq
  · simp [next?] at h
  all_goals simp at heq

/-- Where a declaration takes a modifier, it takes no name. -/
theorem next?_modifier (h : place.next? .modifier = some next) : ∃ modified, place = .head modified := by
  rcases next?_cases h with ⟨part, part', rfl, hpart, -⟩ | ⟨_, heq, -⟩ | ⟨modified, rfl, -⟩ | ⟨heq | heq, -⟩ |
    ⟨heq, -⟩ | ⟨heq, -⟩
  · simp [SectionPlace.next?_modifier] at hpart
  · simp at heq
  · exact ⟨modified, rfl⟩
  all_goals simp at heq

/-- A declaration is behind `record` just after that word. -/
theorem record_iff (h : place.next? terminal = some next) : next = .record ↔ terminal = .mark .recordWord := by
  cases place with
  | inSection part =>
    rcases next?_cases h with ⟨_, part', heq, hpart, rfl⟩ | ⟨_, rfl, heq, -, rfl⟩ | ⟨_, heq, -⟩ | ⟨-, heq, -⟩ |
      ⟨-, heq | heq, -⟩ | ⟨-, heq, -⟩
    · refine ⟨by simp, ?_⟩
      rintro rfl
      simp [SectionPlace.next?_record] at hpart
    · simp
    all_goals simp at heq
  | opened => simp [next?] at h
  | _ =>
    unfold next? at h
    split at h <;> simp_all [eq_comm]

end DeclarationPlace

/-! ## Using directives -/

namespace UsingPlace

variable {place next after : UsingPlace} {terminal : Terminal}

/-- How a directive goes on. -/
theorem next?_cases (h : place.next? terminal = some next) :
    (terminal = .mark .usingWord ∧ place = .global ∧ next = .target false false .start) ∨
    (terminal = .mark .staticWord ∧ place = .target false false .start ∧ next = .target true false .start) ∨
    (∃ isStatic, terminal = .mark .equal ∧ place = .target isStatic false .single ∧
      next = .target isStatic true .start) ∨
    (∃ isStatic aliased path path', place = .target isStatic aliased path ∧ path.next? terminal = some path' ∧
      next = .target isStatic aliased path') := by
  unfold next? at h
  split at h
  · exact Or.inl ⟨rfl, rfl, (Option.some.inj h).symm⟩
  · simp at h
  · obtain ⟨hfresh, h⟩ := Option.ite_none_right_eq_some.1 h
    simp only [Bool.and_eq_true, decide_eq_true_eq, Bool.not_eq_true'] at hfresh
    obtain ⟨⟨rfl, rfl⟩, rfl⟩ := hfresh
    exact Or.inr (Or.inl ⟨rfl, rfl, (Option.some.inj h).symm⟩)
  · obtain ⟨hfresh, h⟩ := Option.ite_none_right_eq_some.1 h
    simp only [Bool.and_eq_true, decide_eq_true_eq, Bool.not_eq_true'] at hfresh
    obtain ⟨rfl, rfl⟩ := hfresh
    exact Or.inr (Or.inr (Or.inl ⟨_, rfl, rfl, (Option.some.inj h).symm⟩))
  · obtain ⟨path', hpath, rfl⟩ := Option.map_eq_some_iff.1 h
    exact Or.inr (Or.inr (Or.inr ⟨_, _, _, path', rfl, hpath, rfl⟩))

/-- Behind a name or an integer only punctuation follows. -/
theorem followsWord_of_next? {word : Terminal} (hword : IsOpenEnded word) (h : place.next? word = some next)
    (hafter : next.next? terminal = some after) : followsWord terminal = true := by
  rcases next?_cases h with ⟨rfl, -⟩ | ⟨rfl, -⟩ | ⟨_, rfl, -⟩ | ⟨isStatic, aliased, path, path', rfl, hpath, rfl⟩
  · rcases hword with heq | heq <;> simp at heq
  · rcases hword with heq | heq <;> simp at heq
  · rcases hword with heq | heq <;> simp at heq
  · rcases next?_cases hafter with ⟨-, heq, -⟩ | ⟨-, heq, -⟩ | ⟨_, rfl, -⟩ | ⟨_, _, _, path'', heq, hnext, -⟩
    · simp at heq
    · rw [(UsingPlace.target.inj heq).2.2] at hpath
      rcases hword with rfl | rfl <;> cases path <;> simp [PathPlace.next?] at hpath
    · rfl
    · rw [← (UsingPlace.target.inj heq).2.2] at hnext
      exact PathPlace.followsWord_of_next? hword hpath hnext

/-- Where a directive takes a name, it takes no other word than `global`, or it is where `static` may stand. -/
theorem word_of_next?_name {word : Mark} {other : UsingPlace} (hword : word.isWord = true)
    (h : place.next? (.mark word) = some next) (hname : place.next? .name = some other) :
    word = .globalWord ∨ (word = .staticWord ∧ place = .target false false .start) := by
  rcases next?_cases hname with ⟨heq, -⟩ | ⟨heq, -⟩ | ⟨_, heq, -⟩ | ⟨_, _, path, path', rfl, hpath, -⟩
  · simp at heq
  · simp at heq
  · simp at heq
  · rcases next?_cases h with ⟨-, heq, -⟩ | ⟨heq, hplace, -⟩ | ⟨_, heq, -⟩ | ⟨_, _, _, path'', heq, hnext, -⟩
    · simp at heq
    · exact Or.inr ⟨Terminal.mark.inj heq, hplace⟩
    · rw [Terminal.mark.inj heq] at hword
      exact absurd hword (by decide)
    · rw [← (UsingPlace.target.inj heq).2.2] at hnext
      exact Or.inl (PathPlace.word_of_next?_name hnext hpath)

/-- Behind `global` the target takes nothing but two colons, and it may not end there. -/
theorem eq_doubleColon_of_global (h : place.next? (.mark .globalWord) = some next) :
    (∀ terminal, next.ends terminal = false) ∧
      ∀ terminal after, next.next? terminal = some after → terminal = .mark .doubleColon := by
  rcases next?_cases h with ⟨heq, -⟩ | ⟨heq, -⟩ | ⟨_, heq, -⟩ | ⟨isStatic, aliased, path, path', rfl, hpath, rfl⟩
  · simp at heq
  · simp at heq
  · simp at heq
  · rw [PathPlace.eq_root_of_global hpath]
    refine ⟨fun terminal => ?_, fun terminal after hafter => ?_⟩
    · cases hend : (target isStatic aliased .root).ends terminal with
      | false => rfl
      | true =>
        unfold ends at hend
        split at hend
        · rename_i heq
          rw [← (UsingPlace.target.inj heq).2.2] at hend
          exact hend.symm
        · simp at hend
    · rcases next?_cases hafter with ⟨-, heq, -⟩ | ⟨-, heq, -⟩ | ⟨_, -, heq, -⟩ | ⟨_, _, _, path'', heq, hnext, -⟩
      · simp at heq
      · simp at heq
      · simp at heq
      · rw [← (UsingPlace.target.inj heq).2.2] at hnext
        exact PathPlace.eq_doubleColon_of_root hnext

/-- A directive takes neither a colon nor a modifier. -/
theorem next?_colon_modifier (place : UsingPlace) :
    place.next? (.mark .colon) = none ∧ place.next? .modifier = none := by
  cases place <;> simp [next?, PathPlace.next?_colon, PathPlace.next?_modifier]

/-- Behind the word `static` a directive takes a name, and it may not end there. -/
theorem next?_of_static (h : (target true false .start).next? terminal = some next) :
    (terminal = .name ∧ next = .target true false .single) ∨
      (terminal = .mark .globalWord ∧ next = .target true false .root) := by
  cases terminal with
  | mark word =>
    cases word <;> simp [next?, PathPlace.next?] at h
    simp [h]
  | name =>
    simp [next?, PathPlace.next?] at h
    simp [h]
  | _ => simp [next?, PathPlace.next?] at h

end UsingPlace

/-! ## Files -/

namespace Place

variable {place next after : Place} {terminal : Terminal}

/-- Where only a new member or punctuation around members may follow. -/
theorem next?_between {afterBrace : Bool} (h : place.focus = .between afterBrace) :
    place.next? .name = none ∧ place.next? .integer = none ∧ place.next? (.mark .staticWord) = none ∧
      place.next? (.mark .colon) = none := by
  simp [next?, h, betweenNext?, DeclarationPlace.next?]

/-- A directive goes on or ends with a semicolon. -/
theorem next?_inUsing {part : UsingPlace} (hfocus : place.focus = .inUsing part)
    (h : place.next? terminal = some next) :
    (∃ part', part.next? terminal = some part' ∧ next = { place with focus := .inUsing part' }) ∨
    (terminal = .mark .semicolon ∧ part.ends terminal = true ∧ next = { place with focus := .between false }) := by
  simp only [next?, hfocus] at h
  split at h
  · rename_i part' hpart
    exact Or.inl ⟨part', hpart, (Option.some.inj h).symm⟩
  · obtain ⟨hend, h⟩ := Option.ite_none_right_eq_some.1 h
    refine Or.inr ⟨?_, hend, (Option.some.inj h).symm⟩
    unfold UsingPlace.ends at hend
    split at hend
    · rfl
    · simp at hend

/-- The name of a namespace goes on or ends with a brace or a semicolon. -/
theorem next?_inNamespace {path : PathPlace} (hfocus : place.focus = .inNamespace path)
    (h : place.next? terminal = some next) :
    (∃ path', path.next? terminal = some path' ∧ next = { place with focus := .inNamespace path' }) ∨
    ((terminal = .mark .leftBrace ∨ terminal = .mark .semicolon) ∧ path.isComplete = true ∧
      next.focus = .between false) := by
  simp only [next?, hfocus, namespaceNext?] at h
  split at h
  · obtain ⟨hcomplete, h⟩ := Option.ite_none_right_eq_some.1 h
    refine Or.inr ⟨Or.inl rfl, hcomplete, ?_⟩
    rw [← Option.some.inj h]
  · obtain ⟨hcomplete, h⟩ := Option.ite_none_right_eq_some.1 h
    simp only [Bool.and_eq_true] at hcomplete
    refine Or.inr ⟨Or.inr rfl, hcomplete.1.1.1, ?_⟩
    rw [← Option.some.inj h]
  · obtain ⟨path', hpath, rfl⟩ := Option.map_eq_some_iff.1 h
    exact Or.inl ⟨path', hpath, rfl⟩

/-- A declaration goes on or ends with a semicolon or a brace. -/
theorem next?_inDeclaration {part : DeclarationPlace} (hfocus : place.focus = .inDeclaration part)
    (h : place.next? terminal = some next) :
    (∃ part', part.next? terminal = some part' ∧ next = { place with focus := .inDeclaration part' }) ∨
    ((terminal = .mark .semicolon ∨ terminal = .mark .rightBrace) ∧ part.ends terminal = true ∧
      next.focus = .between (terminal = .mark .rightBrace)) := by
  simp only [next?, hfocus] at h
  split at h
  · rename_i part' hpart
    exact Or.inl ⟨part', hpart, (Option.some.inj h).symm⟩
  · obtain ⟨hend, h⟩ := Option.ite_none_right_eq_some.1 h
    refine Or.inr ⟨?_, hend, ?_⟩
    · unfold DeclarationPlace.ends at hend
      split at hend
      · exact Or.inl rfl
      · exact Or.inr rfl
      · simp at hend
    · rw [← Option.some.inj h]

/-- Behind a name or an integer only punctuation follows. -/
theorem followsWord_of_next? {word : Terminal} (hword : IsOpenEnded word) (h : place.next? word = some next)
    (hafter : next.next? terminal = some after) : followsWord terminal = true := by
  have hmark (mark : Mark) : word ≠ .mark mark := by rcases hword with rfl | rfl <;> simp
  cases hfocus : place.focus with
  | between afterBrace =>
    rcases hword with rfl | rfl
    · simp [(next?_between hfocus).1] at h
    · simp [(next?_between hfocus).2.1] at h
  | inUsing part =>
    rcases next?_inUsing hfocus h with ⟨part', hpart, rfl⟩ | ⟨heq, -⟩
    · rcases next?_inUsing rfl hafter with ⟨part'', hnext, -⟩ | ⟨rfl, -⟩
      · exact UsingPlace.followsWord_of_next? hword hpart hnext
      · rfl
    · exact absurd heq (hmark _)
  | inNamespace path =>
    rcases next?_inNamespace hfocus h with ⟨path', hpath, rfl⟩ | ⟨heq | heq, -⟩
    · rcases next?_inNamespace rfl hafter with ⟨path'', hnext, -⟩ | ⟨rfl | rfl, -⟩
      · exact PathPlace.followsWord_of_next? hword hpath hnext
      · rfl
      · rfl
    · exact absurd heq (hmark _)
    · exact absurd heq (hmark _)
  | inDeclaration part =>
    rcases next?_inDeclaration hfocus h with ⟨part', hpart, rfl⟩ | ⟨heq | heq, -⟩
    · rcases next?_inDeclaration rfl hafter with ⟨part'', hnext, -⟩ | ⟨rfl | rfl, -⟩
      · exact DeclarationPlace.followsWord_of_next? hword hpart hnext
      · rfl
      · rfl
    · exact absurd heq (hmark _)
    · exact absurd heq (hmark _)

/-- A name and another word are taken at the same place in three situations only. -/
theorem word_of_next?_name {word : Mark} {other : Place} (hword : word.isWord = true)
    (h : place.next? (.mark word) = some next) (hname : place.next? .name = some other) :
    word = .globalWord ∨ (word = .staticWord ∧ place.focus = .inUsing (.target false false .start)) ∨
      ((word = .structWord ∨ word = .classWord) ∧ place.focus = .inDeclaration .record) := by
  have hmark (mark : Mark) (hmark : mark.isWord = false) : Terminal.mark word ≠ .mark mark := by
    rintro heq
    rw [Terminal.mark.inj heq, hmark] at hword
    simp at hword
  cases hfocus : place.focus with
  | between afterBrace => simp [(next?_between hfocus).1] at hname
  | inUsing part =>
    rcases next?_inUsing hfocus h with ⟨part', hpart, -⟩ | ⟨heq, -⟩
    · rcases next?_inUsing hfocus hname with ⟨part'', hnext, -⟩ | ⟨heq, -⟩
      · rcases UsingPlace.word_of_next?_name hword hpart hnext with hglobal | ⟨hstatic, rfl⟩
        · exact Or.inl hglobal
        · exact Or.inr (Or.inl ⟨hstatic, rfl⟩)
      · simp at heq
    · exact absurd heq (hmark _ (by decide))
  | inNamespace path =>
    rcases next?_inNamespace hfocus h with ⟨path', hpath, -⟩ | ⟨heq | heq, -⟩
    · rcases next?_inNamespace hfocus hname with ⟨path'', hnext, -⟩ | ⟨heq | heq, -⟩
      · exact Or.inl (PathPlace.word_of_next?_name hpath hnext)
      · simp at heq
      · simp at heq
    · exact absurd heq (hmark _ (by decide))
    · exact absurd heq (hmark _ (by decide))
  | inDeclaration part =>
    rcases next?_inDeclaration hfocus h with ⟨part', hpart, -⟩ | ⟨heq | heq, -⟩
    · rcases next?_inDeclaration hfocus hname with ⟨part'', hnext, -⟩ | ⟨heq | heq, -⟩
      · rcases DeclarationPlace.word_of_next?_name hword hpart hnext with hglobal | ⟨hkind, rfl⟩
        · exact Or.inl hglobal
        · exact Or.inr (Or.inr ⟨hkind, rfl⟩)
      · simp at heq
      · simp at heq
    · exact absurd heq (hmark _ (by decide))
    · exact absurd heq (hmark _ (by decide))

/-- Behind a `global` in place of a name nothing follows but two colons. -/
theorem eq_doubleColon_of_global {other : Place} (h : place.next? (.mark .globalWord) = some next)
    (hname : place.next? .name = some other) :
    next.isFinal = false ∧ ∀ terminal after, next.next? terminal = some after → terminal = .mark .doubleColon := by
  cases hfocus : place.focus with
  | between afterBrace => simp [(next?_between hfocus).1] at hname
  | inUsing part =>
    rcases next?_inUsing hfocus h with ⟨part', hpart, rfl⟩ | ⟨heq, -⟩
    · obtain ⟨hends, honly⟩ := UsingPlace.eq_doubleColon_of_global hpart
      refine ⟨rfl, fun terminal after hafter => ?_⟩
      rcases next?_inUsing rfl hafter with ⟨part'', hnext, -⟩ | ⟨-, hend, -⟩
      · exact honly terminal part'' hnext
      · rw [hends] at hend
        simp at hend
    · simp at heq
  | inNamespace path =>
    rcases next?_inNamespace hfocus h with ⟨path', hpath, rfl⟩ | ⟨heq | heq, -⟩
    · rw [PathPlace.eq_root_of_global hpath]
      refine ⟨rfl, fun terminal after hafter => ?_⟩
      rcases next?_inNamespace rfl hafter with ⟨path'', hnext, -⟩ | ⟨-, hcomplete, -⟩
      · exact PathPlace.eq_doubleColon_of_root hnext
      · simp [PathPlace.isComplete] at hcomplete
    · simp at heq
    · simp at heq
  | inDeclaration part =>
    rcases next?_inDeclaration hfocus h with ⟨part', hpart, rfl⟩ | ⟨heq | heq, -⟩
    · obtain ⟨hends, honly⟩ := DeclarationPlace.eq_doubleColon_of_global hpart
      refine ⟨rfl, fun terminal after hafter => ?_⟩
      rcases next?_inDeclaration rfl hafter with ⟨part'', hnext, -⟩ | ⟨-, hend, -⟩
      · exact honly terminal part'' hnext
      · rw [hends] at hend
        simp at hend
    · simp at heq
    · simp at heq

/-- Behind a colon no further colon follows, and two colons may not stand in place of it. -/
theorem colon_unique (h : place.next? (.mark .colon) = some next) :
    place.next? (.mark .doubleColon) = none ∧ next.next? (.mark .colon) = none ∧
      next.next? (.mark .doubleColon) = none := by
  cases hfocus : place.focus with
  | between afterBrace => simp [(next?_between hfocus).2.2.2] at h
  | inUsing part =>
    rcases next?_inUsing hfocus h with ⟨part', hpart, -⟩ | ⟨heq, -⟩
    · simp [(UsingPlace.next?_colon_modifier part).1] at hpart
    · simp at heq
  | inNamespace path =>
    rcases next?_inNamespace hfocus h with ⟨path', hpath, -⟩ | ⟨heq | heq, -⟩
    · simp [PathPlace.next?_colon] at hpath
    · simp at heq
    · simp at heq
  | inDeclaration part =>
    rcases next?_inDeclaration hfocus h with ⟨part', hpart, rfl⟩ | ⟨heq | heq, -⟩
    · obtain ⟨hdouble, hcolon, hnext⟩ := DeclarationPlace.colon_unique hpart
      simp [next?, hfocus, hdouble, hcolon, hnext, DeclarationPlace.ends]
    · simp at heq
    · simp at heq

/-- Where a modifier may stand, neither a name nor the word `static` is taken. -/
theorem name_static_of_modifier (h : place.next? .modifier = some next) :
    place.next? .name = none ∧ place.next? (.mark .staticWord) = none := by
  cases hfocus : place.focus with
  | between afterBrace => exact ⟨(next?_between hfocus).1, (next?_between hfocus).2.2.1⟩
  | inUsing part =>
    rcases next?_inUsing hfocus h with ⟨part', hpart, -⟩ | ⟨heq, -⟩
    · simp [(UsingPlace.next?_colon_modifier part).2] at hpart
    · simp at heq
  | inNamespace path =>
    rcases next?_inNamespace hfocus h with ⟨path', hpath, -⟩ | ⟨heq | heq, -⟩
    · simp [PathPlace.next?_modifier] at hpath
    · simp at heq
    · simp at heq
  | inDeclaration part =>
    rcases next?_inDeclaration hfocus h with ⟨part', hpart, -⟩ | ⟨heq | heq, -⟩
    · obtain ⟨modified, rfl⟩ := DeclarationPlace.next?_modifier hpart
      simp [next?, hfocus, DeclarationPlace.next?, DeclarationPlace.ends]
    · simp at heq
    · simp at heq

/-- A file is read behind `record` just after that word. -/
theorem record_iff (h : place.next? terminal = some next) :
    next.focus = .inDeclaration .record ↔ terminal = .mark .recordWord := by
  cases hfocus : place.focus with
  | between afterBrace =>
    cases terminal with
    | mark word =>
      cases word <;> simp [next?, hfocus, betweenNext?, DeclarationPlace.next?] at h
      all_goals first | simp [← h.2] | simp [← h]
    | modifier =>
      simp [next?, hfocus, betweenNext?, DeclarationPlace.next?] at h
      simp [← h]
    | _ => simp [next?, hfocus, betweenNext?, DeclarationPlace.next?] at h
  | inUsing part =>
    rcases next?_inUsing hfocus h with ⟨part', hpart, rfl⟩ | ⟨rfl, -, rfl⟩
    · refine ⟨by simp, ?_⟩
      rintro rfl
      rcases UsingPlace.next?_cases hpart with ⟨heq, -⟩ | ⟨heq, -⟩ | ⟨_, heq, -⟩ | ⟨_, _, _, _, -, hpath, -⟩
      · simp at heq
      · simp at heq
      · simp at heq
      · simp [PathPlace.next?_record] at hpath
    · simp
  | inNamespace path =>
    rcases next?_inNamespace hfocus h with ⟨path', hpath, rfl⟩ | ⟨heq, -, hnext⟩
    · refine ⟨by simp, ?_⟩
      rintro rfl
      simp [PathPlace.next?_record] at hpath
    · rcases heq with rfl | rfl <;> simp [hnext]
  | inDeclaration part =>
    rcases next?_inDeclaration hfocus h with ⟨part', hpart, rfl⟩ | ⟨heq, -, hnext⟩
    · simpa using DeclarationPlace.record_iff hpart
    · rcases heq with rfl | rfl <;> simp [hnext]

/-- Behind `record` stand the words `struct` and `class` or a name. -/
theorem next?_of_record (hfocus : place.focus = .inDeclaration .record) (h : place.next? terminal = some next) :
    ((terminal = .mark .structWord ∨ terminal = .mark .classWord) ∧
      next = { place with focus := .inDeclaration .kind }) ∨
    (terminal = .name ∧ next = { place with focus := .inDeclaration .named }) := by
  rcases next?_inDeclaration hfocus h with ⟨part', hpart, rfl⟩ | ⟨heq | heq, hend, -⟩
  · unfold DeclarationPlace.next? at hpart
    split at hpart <;> simp_all
  · rw [heq] at hend
    simp [DeclarationPlace.ends] at hend
  · rw [heq] at hend
    simp [DeclarationPlace.ends] at hend

/-- Behind the word `static` of a directive only a name follows. -/
theorem next?_of_static (hfocus : place.focus = .inUsing (.target true false .start))
    (h : place.next? terminal = some next) :
    (terminal = .name ∧ next = { place with focus := .inUsing (.target true false .single) }) ∨
      (terminal = .mark .globalWord ∧ next = { place with focus := .inUsing (.target true false .root) }) := by
  rcases next?_inUsing hfocus h with ⟨part, hpart, rfl⟩ | ⟨rfl, hend, -⟩
  · rcases UsingPlace.next?_of_static hpart with ⟨rfl, rfl⟩ | ⟨rfl, rfl⟩
    · exact Or.inl ⟨rfl, rfl⟩
    · exact Or.inr ⟨rfl, rfl⟩
  · simp [UsingPlace.ends, PathPlace.isComplete] at hend

/-- Behind the words of a kind only a name follows. -/
theorem next?_of_kind (hfocus : place.focus = .inDeclaration .kind) (h : place.next? terminal = some next) :
    terminal = .name ∧ next = { place with focus := .inDeclaration .named } := by
  rcases next?_inDeclaration hfocus h with ⟨part', hpart, rfl⟩ | ⟨heq | heq, hend, -⟩
  · unfold DeclarationPlace.next? at hpart
    split at hpart <;> simp_all
  · rw [heq] at hend
    simp [DeclarationPlace.ends] at hend
  · rw [heq] at hend
    simp [DeclarationPlace.ends] at hend

end Place

end TypedId.Syntax
