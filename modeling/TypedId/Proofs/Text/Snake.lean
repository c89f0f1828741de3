import TypedId.Proofs.Text.Lowering
import TypedId.Proofs.Text.Segments
import TypedId.Proofs.Unicode.Runs

/-!
# Snake case of identifiers

The lower case of a letter is a letter, so an identifier stays one in snake case (`isIdentifier_snakeCase`): underscores
come in behind its first character only. Identifiers with underscores between them are again an identifier
(`isIdentifier_intercalate`).
-/

set_option autoImplicit false

namespace TypedId.Unicode

/-! ## Runs that lower case stays in -/

/-- Whether the lower case of whatever lies in the runs does so too: for each run of capitals, all partners lie in them
or no capital does. -/
def Runs.keepsLower (runs : Runs) : Bool :=
  capitals.all fun run =>
    runs.coversAll run.target (run.target + (run.last - run.first)) ||
      runs.all fun other => other.2.blt run.first || run.last.blt other.1

/-- Runs that lower case stays in have the lower case of each of their code points. -/
theorem Runs.covers_lowerIn {runs : Runs} (hascend : runs.ascendBehind 0 = true) (hkeeps : runs.keepsLower = true)
    {code : Nat} (h : runs.covers code = true) : runs.covers (lowerIn capitals code) = true := by
  rcases lowerIn_cases capitals code with hsame | ⟨run, hrun, hcovers, hmoved⟩
  · rwa [hsame]
  · simp only [CaseRun.covers, Bool.and_eq_true, decide_eq_true_eq] at hcovers
    have hpartners := List.all_eq_true.1 hkeeps run hrun
    rw [Bool.or_eq_true] at hpartners
    rcases hpartners with hall | hnone
    · rw [hmoved]
      exact covers_of_coversAll hascend hall (by omega) (by omega)
    · obtain ⟨other, hother, hfirst, hlast⟩ := exists_of_covers h
      have hapart := List.all_eq_true.1 hnone other hother
      rw [Bool.or_eq_true, Nat.blt_eq, Nat.blt_eq] at hapart
      omega

/-- The underscore and what stands for a capital sigma or a capital i with a dot are characters of identifiers. -/
theorem continue_of_made : ['_', 'i', Char.ofNat 0x307, 'σ', 'ς'].all identifierContinue.has = true := by
  decide

/-- The letters that lower case makes without a partner may begin an identifier. -/
theorem start_of_made : ['i', 'σ', 'ς'].all identifierStart.has = true := by
  decide

/-- The runs of characters that begin an identifier ascend. -/
theorem ascend_identifierStart : identifierStart.ascendBehind 0 = true := by decide +kernel

/-- The runs of characters that an identifier goes on with ascend. -/
theorem ascend_identifierContinue : identifierContinue.ascendBehind 0 = true := by decide +kernel

/-- What may begin an identifier may stand further on in one. -/
theorem identifierStart_within : identifierStart.within identifierContinue = true := by decide +kernel

/-- Lower case stays in what may begin an identifier. -/
theorem keepsLower_identifierStart : identifierStart.keepsLower = true := by decide +kernel

/-- Lower case stays in what an identifier goes on with. -/
theorem keepsLower_identifierContinue : identifierContinue.keepsLower = true := by decide +kernel

/-- What begins an identifier continues one, too. -/
theorem continue_of_start {c : Char} (h : identifierStart.has c = true) : identifierContinue.has c = true :=
  Runs.covers_mono identifierStart_within ascend_identifierContinue h

/-- The characters that a character of an identifier becomes in lower case are such characters. -/
theorem continue_of_mem_lowerChars {c d : Char} (h : identifierContinue.has c = true) (hd : d ∈ lowerChars c) :
    identifierContinue.has d = true := by
  rw [lowerChars] at hd
  split at hd
  · simp only [List.mem_cons, List.not_mem_nil, or_false] at hd
    rcases hd with rfl | rfl <;> exact List.all_eq_true.1 continue_of_made _ (by simp)
  · rw [List.mem_singleton.1 hd, Runs.has, toNat_lowered]
    exact Runs.covers_lowerIn ascend_identifierContinue keepsLower_identifierContinue h

/-- What a character that begins an identifier becomes in lower case begins one. -/
theorem exists_start_of_lowerChars {c : Char} (h : identifierStart.has c = true) :
    ∃ d rest, lowerChars c = d :: rest ∧ identifierStart.has d = true := by
  rw [lowerChars]
  split
  · exact ⟨'i', _, rfl, List.all_eq_true.1 start_of_made _ (by simp)⟩
  · refine ⟨_, [], rfl, ?_⟩
    rw [Runs.has, toNat_lowered]
    exact Runs.covers_lowerIn ascend_identifierStart keepsLower_identifierStart h

end TypedId.Unicode

namespace TypedId.Text

open Unicode

/-! ## Identifiers -/

/-- All characters of an identifier continue one. -/
theorem continue_of_mem {name : String} (h : isIdentifier name = true) {c : Char} (hc : c ∈ name.toList) :
    identifierContinue.has c = true := by
  obtain ⟨first, rest, hname, hfirst, hrest⟩ := isIdentifier_iff.1 h
  rw [hname] at hc
  rcases List.mem_cons.1 hc with rfl | hc
  · exact continue_of_start hfirst
  · exact hrest c hc

/-- An identifier goes on with the lower case of what it goes on with. -/
theorem continue_of_mem_lowerAfter {before chars : List Char} {d : Char}
    (h : ∀ c ∈ chars, identifierContinue.has c = true) (hd : d ∈ lowerAfter before chars) :
    identifierContinue.has d = true := by
  induction chars generalizing before with
  | nil => exact absurd hd (by simp [lowerAfter])
  | cons c rest ih =>
    obtain ⟨hc, hrest⟩ := List.forall_mem_cons.1 h
    rcases List.mem_append.1 hd with hd | hd
    · split at hd
      · obtain rfl := List.mem_singleton.1 hd
        split <;> exact List.all_eq_true.1 continue_of_made _ (by simp)
      · exact continue_of_mem_lowerChars hc hd
    · exact ih hrest hd

/-- An identifier is one in lower case. -/
theorem isIdentifier_lower {name : String} (h : isIdentifier name = true) : isIdentifier (lower name) = true := by
  obtain ⟨first, rest, hname, hfirst, hrest⟩ := isIdentifier_iff.1 h
  obtain ⟨d, more, hlower, hd⟩ : ∃ d more, lowerAfter [] name.toList = d :: more ∧ identifierStart.has d = true := by
    rw [hname, lowerAfter]
    split
    · refine ⟨_, _, rfl, ?_⟩
      split <;> exact List.all_eq_true.1 start_of_made _ (by simp)
    · obtain ⟨d, others, hchars, hd⟩ := exists_start_of_lowerChars hfirst
      exact ⟨d, others ++ lowerAfter [first] rest, by rw [hchars, List.cons_append], hd⟩
  rw [isIdentifier_iff, lower, String.toList_ofList]
  refine ⟨d, more, hlower, hd, fun e he => ?_⟩
  refine @continue_of_mem_lowerAfter [] _ _ (fun c hc => continue_of_mem h hc) ?_
  rw [hlower]
  exact List.mem_cons_of_mem _ he

/-- An identifier is one in snake case. -/
theorem isIdentifier_snakeCase {name : String} (h : isIdentifier name = true) :
    isIdentifier (snakeCase name) = true := by
  obtain ⟨first, rest, hname, hfirst, hrest⟩ := isIdentifier_iff.1 h
  apply isIdentifier_lower
  rw [isIdentifier_iff, String.toList_ofList, hname, wordsOf]
  refine ⟨first, _, rfl, hfirst, fun d hd => ?_⟩
  rcases mem_separateWords hd with hd | rfl
  · exact hrest d hd
  · exact List.all_eq_true.1 continue_of_made _ (by simp)

/-- Identifiers with underscores between them are an identifier. -/
theorem isIdentifier_intercalate {names : List String} (hne : names ≠ [])
    (h : ∀ name ∈ names, isIdentifier name = true) : isIdentifier ("_".intercalate names) = true := by
  obtain ⟨name, rest, rfl⟩ := List.exists_cons_of_ne_nil hne
  obtain ⟨hname, hrest⟩ := List.forall_mem_cons.1 h
  obtain ⟨first, chars, hchars, hfirst, hcontinue⟩ := isIdentifier_iff.1 hname
  cases rest with
  | nil => simpa using hname
  | cons next rest =>
    rw [isIdentifier_iff, String.intercalate_cons_cons, String.toList_append, String.toList_append, hchars]
    refine ⟨first, _, rfl, hfirst, fun d hd => ?_⟩
    rcases List.mem_append.1 hd with hd | hd
    · rcases List.mem_append.1 hd with hd | hd
      · exact hcontinue d hd
      · obtain rfl : d = '_' := by simpa using hd
        exact List.all_eq_true.1 continue_of_made _ (by simp)
    · rw [String.toList_intercalate] at hd
      rcases mem_intercalate hd with hd | ⟨piece, hpiece, hd⟩
      · obtain rfl : d = '_' := by simpa using hd
        exact List.all_eq_true.1 continue_of_made _ (by simp)
      · obtain ⟨other, hother, rfl⟩ := List.mem_map.1 hpiece
        exact continue_of_mem (hrest other hother) hd

end TypedId.Text
