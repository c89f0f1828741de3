import Mathlib.Data.List.TakeWhile
import TypedId.Text.Snake

/-!
# What lower case is made of

Lower case replaces a character by characters no lower than the letter `a`, or leaves it as it is: `mem_lower`. So no
punctuation and no control character comes into a text by taking its lower case or its snake case (`mem_snakeCase`).
What lower case is made of has itself for its lower case, so that a text is lowered only once (`lower_lower`).
-/

set_option autoImplicit false

namespace TypedId.Unicode

/-- The least code point that lower case puts in the place of another one. -/
def leastLower : Nat := 0x61

/-- The partners of a run of capitals are valid code points, and none is below the letter `a`. -/
def CaseRun.isSound (run : CaseRun) : Bool :=
  leastLower ≤ run.target &&
    (run.target + (run.last - run.first) < 0xD800 ||
      (0xE000 ≤ run.target && run.target + (run.last - run.first) < 0x110000))

/-- The partners of all runs of capitals are valid code points from the letter `a` on. -/
theorem capitals_sound : ∀ run ∈ capitals, run.isSound = true := by decide +kernel

/-- A code point stays as it is or is moved along with its run. -/
theorem lowerIn_cases (runs : List CaseRun) (code : Nat) :
    lowerIn runs code = code ∨
      ∃ run ∈ runs, run.covers code = true ∧ lowerIn runs code = run.target + (code - run.first) := by
  induction runs with
  | nil => exact Or.inl rfl
  | cons run rest ih =>
    rw [lowerIn]
    split
    · exact Or.inl rfl
    · split
      · rename_i hcovers
        exact Or.inr ⟨run, List.mem_cons_self, hcovers, rfl⟩
      · rcases ih with h | ⟨other, hmem, h⟩
        · exact Or.inl h
        · exact Or.inr ⟨other, List.mem_cons_of_mem _ hmem, h⟩

/-- The partner of a code point that is moved along with a run of capitals is a character and not below the letter `a`. -/
theorem partner_of_covers {run : CaseRun} (hrun : run ∈ capitals) {code : Nat} (hcovers : run.covers code = true) :
    Nat.isValidChar (run.target + (code - run.first)) ∧ leastLower ≤ run.target + (code - run.first) := by
  have hsound := capitals_sound run hrun
  simp only [CaseRun.isSound, Bool.and_eq_true, Bool.or_eq_true, decide_eq_true_eq] at hsound
  simp only [CaseRun.covers, Bool.and_eq_true, decide_eq_true_eq] at hcovers
  rw [Nat.isValidChar]
  omega

/-- The lower case of a character is the character with the code point that its own is moved to. -/
theorem toNat_lowered (c : Char) : (Char.ofNat (lowerIn capitals c.toNat)).toNat = lowerIn capitals c.toNat := by
  rcases lowerIn_cases capitals c.toNat with hsame | ⟨run, hrun, hcovers, hmoved⟩
  · rw [hsame, Char.ofNat_toNat]
  · rw [hmoved, Char.ofNat, dif_pos (partner_of_covers hrun hcovers).1]
    rfl

/-- A character stays in lower case, or what replaces it is not below the letter `a`. -/
theorem mem_lowerChars {c d : Char} (h : d ∈ lowerChars c) : d = c ∨ leastLower ≤ d.toNat := by
  rw [lowerChars] at h
  split at h
  · right
    simp only [List.mem_cons, List.not_mem_nil, or_false] at h
    rcases h with rfl | rfl <;> decide
  · obtain rfl := List.mem_singleton.1 h
    rw [toNat_lowered]
    rcases lowerIn_cases capitals c.toNat with hsame | ⟨run, hrun, hcovers, hmoved⟩
    · left
      rw [hsame, Char.ofNat_toNat]
    · right
      rw [hmoved]
      exact (partner_of_covers hrun hcovers).2

/-! ## Lower case of what lower case is made of -/

/-- Whether no partner of a run of capitals is in another run: that one lies below them, or holds every second code point
only and the partners are those between. -/
def CaseRun.passes (run other : CaseRun) : Bool :=
  other.last.blt run.target ||
    (other.step.beq 2 && (run.step.beq 2 || run.first.beq run.last) && ((run.target + other.first) % 2).beq 1)

/-- Whether the partners of a run of capitals are in none of the runs, up to the first that begins beyond them. -/
def CaseRun.misses (run : CaseRun) : List CaseRun → Bool
  | [] => true
  | other :: rest =>
    (run.target + (run.last - run.first)).blt other.first || (run.passes other && run.misses rest)

/-- No partner of a capital is a capital. -/
theorem capitals_miss : (capitals.all fun run => run.misses capitals) = true := by decide +kernel

/-- No partner of a capital is the capital I with a dot above. -/
theorem partners_ne_dottedCapitalI : (capitals.all fun run =>
    (run.target + (run.last - run.first)).blt dottedCapitalI.toNat || dottedCapitalI.toNat.blt run.target) = true := by
  decide

/-- A partner of a capital is not in a run that is passed. -/
theorem not_covers_of_passes {run other : CaseRun} (h : run.passes other = true) {code : Nat}
    (hcovers : run.covers code = true) : other.covers (run.target + (code - run.first)) = false := by
  simp only [CaseRun.passes, Bool.or_eq_true, Bool.and_eq_true, Nat.blt_eq, Nat.beq_eq] at h
  simp only [CaseRun.covers, Bool.and_eq_true, decide_eq_true_eq, beq_iff_eq] at hcovers
  refine Bool.eq_false_iff.2 fun hother => ?_
  simp only [CaseRun.covers, Bool.and_eq_true, decide_eq_true_eq, beq_iff_eq] at hother
  rcases h with hbelow | ⟨⟨hstep, hrun⟩, hparity⟩
  · omega
  · rw [hstep] at hother
    rcases hrun with hrun | hrun
    · rw [hrun] at hcovers
      omega
    · omega

/-- A partner that is in none of the runs is moved no further by them. -/
theorem lowerIn_of_misses {run : CaseRun} {code : Nat} (hcovers : run.covers code = true) {runs : List CaseRun}
    (h : run.misses runs = true) :
    lowerIn runs (run.target + (code - run.first)) = run.target + (code - run.first) := by
  induction runs with
  | nil => rfl
  | cons other rest ih =>
    rw [CaseRun.misses, Bool.or_eq_true, Nat.blt_eq, Bool.and_eq_true] at h
    rw [lowerIn]
    rcases h with hbeyond | ⟨hpasses, hrest⟩
    · simp only [CaseRun.covers, Bool.and_eq_true, decide_eq_true_eq] at hcovers
      exact if_pos (by omega)
    · rw [not_covers_of_passes hpasses hcovers, ih hrest]
      split <;> rfl

/-- The partner of a capital is its own lower case. -/
theorem lowerIn_partner {run : CaseRun} (hrun : run ∈ capitals) {code : Nat} (hcovers : run.covers code = true) :
    lowerIn capitals (run.target + (code - run.first)) = run.target + (code - run.first) :=
  lowerIn_of_misses hcovers (List.all_eq_true.1 capitals_miss run hrun)

/-- A character that a lower case is made of is its own lower case. -/
theorem lowerChars_of_mem {c d : Char} (h : d ∈ lowerChars c) : lowerChars d = [d] := by
  rw [lowerChars] at h
  split at h
  · simp only [List.mem_cons, List.not_mem_nil, or_false] at h
    rcases h with rfl | rfl <;> decide
  · rename_i hc
    obtain rfl := List.mem_singleton.1 h
    have hcode := toNat_lowered c
    rcases lowerIn_cases capitals c.toNat with hsame | ⟨run, hrun, hcovers, hmoved⟩
    · rw [hsame, Char.ofNat_toNat, lowerChars, if_neg hc, hsame, Char.ofNat_toNat]
    · have hne : Char.ofNat (lowerIn capitals c.toNat) ≠ dottedCapitalI := by
        intro heq
        have hapart := List.all_eq_true.1 partners_ne_dottedCapitalI run hrun
        rw [← heq, hcode, hmoved, Bool.or_eq_true, Nat.blt_eq, Nat.blt_eq] at hapart
        simp only [CaseRun.covers, Bool.and_eq_true, decide_eq_true_eq] at hcovers
        omega
      rw [lowerChars, if_neg hne, hcode, hmoved, lowerIn_partner hrun hcovers]

end TypedId.Unicode

namespace TypedId.Text

open Unicode

/-- A character in lower case stands in the text or is not below the letter `a`. -/
theorem mem_lowerAfter {before text : List Char} {d : Char} (h : d ∈ lowerAfter before text) :
    d ∈ text ∨ leastLower ≤ d.toNat := by
  induction text generalizing before with
  | nil => exact absurd h (by simp [lowerAfter])
  | cons c rest ih =>
    rcases List.mem_append.1 h with h | h
    · split at h
      · right
        obtain rfl := List.mem_singleton.1 h
        split <;> decide
      · rcases mem_lowerChars h with rfl | hleast
        · exact Or.inl List.mem_cons_self
        · exact Or.inr hleast
    · rcases ih h with hrest | hleast
      · exact Or.inl (List.mem_cons_of_mem _ hrest)
      · exact Or.inr hleast

/-- The characters of a lower case are characters of the text or not below the letter `a`. -/
theorem mem_lower {text : String} {d : Char} (h : d ∈ (lower text).toList) :
    d ∈ text.toList ∨ leastLower ≤ d.toNat := by
  rw [lower, String.toList_ofList] at h
  exact mem_lowerAfter h

/-- Characters in lower case are their own lower case. -/
theorem lowerChars_of_mem_lowerAfter {before text : List Char} {d : Char} (h : d ∈ lowerAfter before text) :
    lowerChars d = [d] := by
  induction text generalizing before with
  | nil => exact absurd h (by simp [lowerAfter])
  | cons c rest ih =>
    rcases List.mem_append.1 h with h | h
    · split at h
      · obtain rfl := List.mem_singleton.1 h
        split <;> decide
      · exact lowerChars_of_mem h
    · exact ih h

/-- Characters that are their own lower case stay, whatever stands around them. -/
theorem lowerAfter_of_forall {text : List Char} (h : ∀ c ∈ text, lowerChars c = [c]) (before : List Char) :
    lowerAfter before text = text := by
  induction text generalizing before with
  | nil => rfl
  | cons c rest ih =>
    obtain ⟨hc, hrest⟩ := List.forall_mem_cons.1 h
    have hsigma : c ≠ 'Σ' := by
      rintro rfl
      exact absurd hc (by decide)
    rw [lowerAfter, if_neg hsigma, hc, ih hrest, List.singleton_append]

/-- Lower case of a lower case is that lower case. -/
theorem lower_lower (text : String) : lower (lower text) = lower text := by
  have hlowered : ∀ c ∈ lowerAfter [] text.toList, lowerChars c = [c] := fun c hc => lowerChars_of_mem_lowerAfter hc
  rw [lower, lower, String.toList_ofList, lowerAfter_of_forall hlowered]

/-- Separating words adds underscores only. -/
theorem mem_separateWords {before d : Char} {text : List Char} (h : d ∈ separateWords before text) :
    d ∈ text ∨ d = '_' := by
  induction text generalizing before with
  | nil => exact absurd h (by simp [separateWords])
  | cons c rest ih =>
    rw [separateWords] at h
    have hrest (hmem : d ∈ c :: separateWords c rest) : d ∈ c :: rest ∨ d = '_' := by
      rcases List.mem_cons.1 hmem with rfl | hmem
      · exact Or.inl List.mem_cons_self
      · rcases ih hmem with hmem | hmem
        · exact Or.inl (List.mem_cons_of_mem _ hmem)
        · exact Or.inr hmem
    split at h
    · rcases List.mem_cons.1 h with rfl | h
      · exact Or.inr rfl
      · exact hrest h
    · exact hrest h

/-- The characters of a name in snake case are characters of the name, underscores or not below the letter `a`. -/
theorem mem_snakeCase {name : String} {d : Char} (h : d ∈ (snakeCase name).toList) :
    d ∈ name.toList ∨ d = '_' ∨ leastLower ≤ d.toNat := by
  rcases mem_lower h with hword | hleast
  · rw [String.toList_ofList] at hword
    cases hname : name.toList with
    | nil => simp [hname, wordsOf] at hword
    | cons c rest =>
      rw [hname, wordsOf] at hword
      rcases List.mem_cons.1 hword with rfl | hword
      · exact Or.inl List.mem_cons_self
      · rcases mem_separateWords hword with hmem | hmem
        · exact Or.inl (List.mem_cons_of_mem _ hmem)
        · exact Or.inr (Or.inl hmem)
  · exact Or.inr (Or.inr hleast)

end TypedId.Text
