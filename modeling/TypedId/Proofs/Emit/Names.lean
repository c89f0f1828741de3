import TypedId.Proofs.Emit.Line
import TypedId.Proofs.Emit.OutputName
import TypedId.Proofs.Text.Brackets
import TypedId.Proofs.Text.Indentation
import TypedId.Proofs.Unicode.Runs

/-!
# Names in sources

Names and namespaces hold none of the characters that give a source its form (`isFormal`), so they may be put into the
slots of a template (`avoids_slotted`).
-/

set_option autoImplicit false

namespace TypedId.Emit

open Text Unicode

variable {id : Descriptor} {c : Char} {name space : String}

/-- The characters that give a source its form: brackets, colons and blanks, line feeds among them. -/
def isFormal (c : Char) : Bool :=
  isBracket c || c == ':' || blank.has c

/-- No code point is both a blank and part of identifiers. -/
theorem identifier_of_blank (h : blank.has c = true) :
    identifierStart.has c = false ∧ identifierContinue.has c = false := by
  -- blanks come in few and short runs, so each of their code points is looked up
  have hall : (blank.all fun run => (List.range' run.1 (run.2 + 1 - run.1)).all fun code =>
      !identifierStart.covers code && !identifierContinue.covers code) = true := by
    decide +kernel
  obtain ⟨run, hrun, hfirst, hlast⟩ := Runs.exists_of_covers h
  have hcode := List.all_eq_true.1 (List.all_eq_true.1 hall run hrun) c.toNat
    (by rw [List.mem_range'_1]; omega)
  simpa [Runs.has] using hcode

/-- No identifier has a character that gives a source its form. -/
theorem identifier_of_isFormal (h : isFormal c = true) :
    identifierStart.has c = false ∧ identifierContinue.has c = false := by
  rw [isFormal, Bool.or_eq_true, Bool.or_eq_true] at h
  rcases h with (h | h) | h
  · have hall : ∀ d ∈ ['(', ')', '[', ']', '\x7b', '\x7d'],
        identifierStart.has d = false ∧ identifierContinue.has d = false :=
      List.forall_iff_forall_mem.1 (by decide)
    exact hall c (by simpa [isBracket] using h)
  · obtain rfl := beq_iff_eq.1 h
    decide
  · exact identifier_of_blank h

/-- Texts for slots without characters that give form have no brackets. -/
theorem avoids_isBracket {filling : Filling} (h : filling.Avoids isFormal) : filling.Avoids isBracket :=
  h.mono fun c hc => by rw [isFormal, hc, Bool.true_or, Bool.true_or]

/-- Texts for slots without characters that give form have no blanks. -/
theorem avoids_blank {filling : Filling} (h : filling.Avoids isFormal) : filling.Avoids blank.has :=
  h.mono fun c hc => by rw [isFormal, hc, Bool.or_true]

/-- Texts for slots without characters that give form lack each of these characters. -/
theorem avoids_formal {filling : Filling} (h : filling.Avoids isFormal) (hc : isFormal c = true) :
    filling.Avoids (· == c) :=
  h.mono fun _ hd => beq_iff_eq.1 hd ▸ hc

/-- Two texts may stand in slots if neither has a character that gives form. -/
theorem avoids_slotted {first second : String} (hfirst : ∀ c ∈ first.toList, isFormal c = false)
    (hsecond : ∀ c ∈ second.toList, isFormal c = false) : (slotted first second).Avoids isFormal := by
  intro entry hentry
  rcases List.mem_cons.1 hentry with rfl | hentry
  · exact ⟨show isFormal '^' = false by decide, hfirst⟩
  · obtain rfl := List.mem_singleton.1 hentry
    exact ⟨show isFormal '$' = false by decide, hsecond⟩

/-- No character of an identifier gives a source its form. -/
theorem notFormal_of_isIdentifier (h : isIdentifier name = true) (hc : c ∈ name.toList) : isFormal c = false := by
  refine Bool.eq_false_iff.2 fun hformal => ?_
  obtain ⟨hstart, hcontinue⟩ := identifier_of_isFormal hformal
  exact notMem_of_isIdentifier h hstart hcontinue hc

/-- No character of a dotted path gives a source its form. -/
theorem notFormal_of_isDottedPath (h : isDottedPath space = true) (hc : c ∈ space.toList) : isFormal c = false := by
  have hne : space ≠ "" := by
    rintro rfl
    exact absurd hc (by simp)
  rcases mem_segments hc with rfl | ⟨segment, hsegment, hc⟩
  · decide
  · exact notFormal_of_isIdentifier (isIdentifier_of_mem_segments h hne hsegment) hc

/-- No character of a full name gives a source its form. -/
theorem notFormal_of_mem_fullName (h : id.IsNamed) (hc : c ∈ id.fullName.toList) : isFormal c = false := by
  rcases mem_fullName hc with rfl | ⟨part, hpart, hc⟩
  · decide
  · exact notFormal_of_isIdentifier (isIdentifier_of_mem_nameParts h hpart) hc

/-- A full name is not empty. -/
theorem fullName_ne_empty (h : id.IsNamed) : id.fullName ≠ "" := by
  rw [Descriptor.fullName, qualify]
  split
  · exact ne_empty_of_isIdentifier h.name
  · intro hempty
    simpa using congrArg String.toList hempty

end TypedId.Emit
