import TypedId.Proofs.Extraction
import TypedId.Scan.Declarations

/-!
# Repeated names

Declarations are refused for the first of their full names that has occurred before (`distinct_eq_error_iff`), and
without such a name they are listed as they are (`distinct_eq_ok_iff`).
-/

set_option autoImplicit false

namespace TypedId

/-- A name has occurred before, and no name in front of it has. -/
def FirstRepeated (names : List String) (name : String) : Prop :=
  ∃ before behind, names = before ++ name :: behind ∧ before.Nodup ∧ name ∈ before

/-- The first repeated item behind others is in the list or among the others. -/
theorem firstRepeated?_eq_some_iff_of_seen {seen names : List String} {name : String} :
    firstRepeated? seen names = some name ↔
      ∃ before behind, names = before ++ name :: behind ∧ before.Nodup ∧ (∀ other ∈ before, other ∉ seen) ∧
        (name ∈ before ∨ name ∈ seen) := by
  induction names generalizing seen with
  | nil => simp [firstRepeated?]
  | cons first rest ih =>
    rw [firstRepeated?, List.contains_eq_mem]
    by_cases hseen : first ∈ seen
    · rw [if_pos (by simpa using hseen), Option.some.injEq]
      constructor
      · rintro rfl
        exact ⟨[], rest, rfl, List.nodup_nil, by simp, Or.inr hseen⟩
      · rintro ⟨before, behind, hlist, -, hnew, -⟩
        cases before with
        | nil => exact (List.cons.inj hlist).1
        | cons other before =>
          rw [(List.cons.inj hlist).1] at hseen
          exact absurd hseen (hnew other List.mem_cons_self)
    · rw [if_neg (by simpa using hseen), ih]
      constructor
      · rintro ⟨before, behind, rfl, hnodup, hnew, hname⟩
        have hfirst : first ∉ before := fun hmem => hnew first hmem List.mem_cons_self
        refine ⟨first :: before, behind, rfl, List.nodup_cons.2 ⟨hfirst, hnodup⟩, ?_, ?_⟩
        · exact List.forall_mem_cons.2 ⟨hseen, fun other hmem hold => hnew other hmem (List.mem_cons_of_mem _ hold)⟩
        · rw [List.mem_cons] at hname ⊢
          tauto
      · rintro ⟨before, behind, hlist, hnodup, hnew, hname⟩
        cases before with
        | nil =>
          rw [← (List.cons.inj hlist).1] at hname
          exact absurd (hname.resolve_left List.not_mem_nil) hseen
        | cons other before =>
          obtain ⟨rfl, rfl⟩ := List.cons.inj hlist
          obtain ⟨hother, hnodup⟩ := List.nodup_cons.1 hnodup
          refine ⟨before, behind, rfl, hnodup, fun item hmem => ?_, ?_⟩
          · rw [List.mem_cons, not_or]
            refine ⟨?_, hnew item (List.mem_cons_of_mem _ hmem)⟩
            rintro rfl
            exact hother hmem
          · rw [List.mem_cons] at hname ⊢
            tauto

/-- The first name that has occurred before is found. -/
theorem firstRepeated?_eq_some_iff {names : List String} {name : String} :
    firstRepeated? [] names = some name ↔ FirstRepeated names name := by
  rw [firstRepeated?_eq_some_iff_of_seen]
  simp [FirstRepeated]

/-- No name is found exactly if all names differ. -/
theorem firstRepeated?_eq_none_iff_nodup {names : List String} : firstRepeated? [] names = none ↔ names.Nodup := by
  rw [firstRepeated?_eq_none_iff]
  simp

/-- A list that names something twice has a first repeated name. -/
theorem exists_firstRepeated {names : List String} (h : ¬ names.Nodup) : ∃ name, FirstRepeated names name := by
  cases hfound : firstRepeated? [] names with
  | none => exact absurd (firstRepeated?_eq_none_iff_nodup.1 hfound) h
  | some name => exact ⟨name, firstRepeated?_eq_some_iff.1 hfound⟩

namespace Scan

open Syntax

variable {declarations found : List TypeDeclaration} {text : List Char} {file : File}

/-- A repeated type is a repeated full name. -/
theorem repeatedName?_eq (declarations : List TypeDeclaration) :
    repeatedName? (declarations.map fun declaration => (declaration.space, declaration.name))
      = firstRepeated? [] (declarations.map TypeDeclaration.fullName) := by
  rw [repeatedName?, List.map_map]
  rfl

/-- Declarations are passed on as they are, exactly if their full names differ. -/
theorem distinct_eq_ok_iff :
    distinct declarations = .ok found ↔ found = declarations ∧ (declarations.map TypeDeclaration.fullName).Nodup := by
  rw [distinct, repeatedName?_eq, ← firstRepeated?_eq_none_iff_nodup]
  cases firstRepeated? [] (declarations.map TypeDeclaration.fullName) <;> simp [eq_comm]

/-- Declarations are refused for the first full name that has occurred before. -/
theorem distinct_eq_error_iff {error : ScanError} :
    distinct declarations = .error error ↔
      ∃ name, error = .repeated name ∧ FirstRepeated (declarations.map TypeDeclaration.fullName) name := by
  simp only [distinct, repeatedName?_eq, ← firstRepeated?_eq_some_iff]
  cases firstRepeated? [] (declarations.map TypeDeclaration.fullName) <;> simp [eq_comm]

/-- The full names of scanned declarations are different. -/
theorem nodup_of_scan (h : scan text = .ok found) : (found.map TypeDeclaration.fullName).Nodup := by
  obtain ⟨declarations, -, hdistinct⟩ := bind_eq_ok_iff.1 h
  obtain ⟨rfl, hnodup⟩ := distinct_eq_ok_iff.1 hdistinct
  exact hnodup

/-- A text that is read as a file is scanned by listing what the file declares and looking for repeated names. -/
theorem scan_of_readFile (h : readFile text = .ok file) :
    scan text = ((declarationsOf file).mapError .numeral).bind distinct := by
  rw [scan, readDeclarations, h]

/-- Scanned declarations are those of the file that the text is read as, and their full names are different. -/
theorem scan_eq_ok_iff (h : readFile text = .ok file) :
    scan text = .ok found ↔ declarationsOf file = .ok found ∧ (found.map TypeDeclaration.fullName).Nodup := by
  rw [scan_of_readFile h, bind_eq_ok_iff]
  simp only [mapError_eq_ok_iff, distinct_eq_ok_iff]
  constructor
  · rintro ⟨declarations, hdeclarations, rfl, hnodup⟩
    exact ⟨hdeclarations, hnodup⟩
  · rintro ⟨hdeclarations, hnodup⟩
    exact ⟨found, hdeclarations, rfl, hnodup⟩

end Scan

end TypedId
