import Mathlib.Data.List.Chain
import TypedId.Proofs.Text.Filling
import TypedId.Unicode.Blank

/-!
# Indentation

A line that ends in a colon opens a block, one step deeper than the line. Slots may be filled with texts that hold neither
blanks nor colons: the blocks stay as they are (`IsBlockIndented.fill`).
-/

set_option autoImplicit false

namespace TypedId.Text

open Unicode

variable {lines : List (List Char)} {filling : Filling}

/-- The blanks at the front of a line. -/
def indent (line : List Char) : List Char :=
  line.takeWhile blank.has

/-- Whether a line opens a block. -/
def endsInColon (line : List Char) : Bool :=
  line.getLast?.any (· == ':')

/-- The lines that are not blank. -/
def visibleLines (lines : List (List Char)) : List (List Char) :=
  lines.filter fun line => !line.all blank.has

/-- A line is followed by one that is four blanks deeper if it opens a block, and else by one that is no deeper. -/
def LeadsTo (line next : List Char) : Prop :=
  if endsInColon line then (indent next).length = (indent line).length + 4
  else (indent next).length ≤ (indent line).length

instance : DecidableRel LeadsTo :=
  fun _ _ => inferInstanceAs (Decidable (ite _ _ _))

/-- Lines are indented by blocks: in steps of four spaces, deeper exactly behind a line that opens a block, and with a
line in every block. -/
structure IsBlockIndented (lines : List (List Char)) : Prop where
  steps : ∀ line ∈ lines, indent line = List.replicate (indent line).length ' ' ∧ 4 ∣ (indent line).length
  first : ∀ line ∈ (visibleLines lines).head?, indent line = []
  leadsTo : (visibleLines lines).IsChain LeadsTo
  last : ∀ line ∈ (visibleLines lines).getLast?, endsInColon line = false

instance (lines : List (List Char)) : Decidable (IsBlockIndented lines) :=
  decidable_of_iff
    ((∀ line ∈ lines, indent line = List.replicate (indent line).length ' ' ∧ 4 ∣ (indent line).length) ∧
      (∀ line ∈ (visibleLines lines).head?, indent line = []) ∧ (visibleLines lines).IsChain LeadsTo ∧
      ∀ line ∈ (visibleLines lines).getLast?, endsInColon line = false)
    ⟨fun ⟨hsteps, hfirst, hleadsTo, hlast⟩ => ⟨hsteps, hfirst, hleadsTo, hlast⟩,
      fun h => ⟨h.steps, h.first, h.leadsTo, h.last⟩⟩

/-- Lines that are indented by blocks are so one after the other. -/
theorem IsBlockIndented.append {others : List (List Char)} (h : IsBlockIndented lines) (hothers : IsBlockIndented others) :
    IsBlockIndented (lines ++ others) := by
  have hvisible : visibleLines (lines ++ others) = visibleLines lines ++ visibleLines others := List.filter_append _ _
  refine ⟨List.forall_mem_append.2 ⟨h.steps, hothers.steps⟩, ?_, ?_, ?_⟩
  · rw [hvisible, List.head?_append]
    intro line hline
    rcases Option.or_eq_some_iff.1 hline with hline | ⟨-, hline⟩
    · exact h.first line hline
    · exact hothers.first line hline
  · -- the first lines end outside of every block, and the others begin at the margin
    rw [hvisible, List.isChain_append]
    refine ⟨h.leadsTo, hothers.leadsTo, fun line hline next hnext => ?_⟩
    rw [LeadsTo, h.last line hline, hothers.first next hnext]
    exact Nat.zero_le _
  · rw [hvisible, List.getLast?_append]
    intro line hline
    rcases Option.or_eq_some_iff.1 hline with hline | ⟨-, hline⟩
    · exact hothers.last line hline
    · exact h.last line hline

/-- Slots in the lines may be filled. -/
theorem IsBlockIndented.fill (h : IsBlockIndented lines) (hvisible : filling.IsVisible) (hblank : filling.Avoids blank.has)
    (hcolon : filling.Avoids (· == ':')) : IsBlockIndented (lines.map filling.fill) := by
  have hindent (line : List Char) : indent (filling.fill line) = indent line :=
    Filling.takeWhile_fill hblank hvisible line
  have hends (line : List Char) : endsInColon (filling.fill line) = endsInColon line :=
    Filling.any_getLast?_fill hcolon hvisible line
  have hlines : visibleLines (lines.map filling.fill) = (visibleLines lines).map filling.fill := by
    rw [visibleLines, List.filter_map]
    refine congrArg _ (List.filter_congr fun line _ => ?_)
    rw [Function.comp_apply, Filling.all_fill hblank hvisible]
  refine ⟨List.forall_mem_map.2 fun line hline => ?_, ?_, ?_, ?_⟩
  · rw [hindent]
    exact h.steps line hline
  · rw [hlines, List.head?_map]
    rintro _ hline
    obtain ⟨line, hfirst, rfl⟩ := Option.map_eq_some_iff.1 hline
    rw [hindent]
    exact h.first line hfirst
  · rw [hlines, List.isChain_map]
    refine h.leadsTo.imp fun line next hnext => ?_
    rwa [LeadsTo, hends, hindent, hindent]
  · rw [hlines, List.getLast?_map]
    rintro _ hline
    obtain ⟨line, hlast, rfl⟩ := Option.map_eq_some_iff.1 hline
    rw [hends]
    exact h.last line hlast

end TypedId.Text
