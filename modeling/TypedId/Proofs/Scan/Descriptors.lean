import TypedId.Proofs.Scan.Marking
import TypedId.Proofs.Selector

/-!
# Descriptors of scanned declarations

An integer in a declaration file is converted when the file is scanned, so no false numeral is left in its declarations
and they always have descriptors (`exists_descriptorsOf`).
-/

set_option autoImplicit false

namespace TypedId.Scan

open Syntax

/-- An integer among the arguments of a scanned attribute is a number, not the text of one. -/
theorem not_isFalse_of_argumentOf {argument : Argument} {said : AttributeArgument} (h : argumentOf argument = .ok said) :
    ¬ said.IsFalse := by
  rintro ⟨hkind, hfalse⟩
  unfold argumentOf at h
  split at h
  · obtain rfl := Except.ok.inj h
    exact absurd hkind (by simp)
  · obtain ⟨value, -, rfl⟩ := map_eq_ok_iff.1 h
    exact hfalse
  · obtain rfl := Except.ok.inj h
    exact absurd hkind (by simp)

/-- No declaration of a file carries a false numeral. -/
theorem not_isFalse_of_declarationsOf {file : File} {declarations : List TypeDeclaration}
    (h : declarationsOf file = .ok declarations) : ∀ said ∈ declarations, ¬ said.IsFalse := by
  rintro said hmem ⟨-, marker, argument, hmarker, hargument, hfalse⟩
  obtain ⟨⟨space, declaration⟩, -, hdeclaration⟩ := exists_of_mem_right (mapM_eq_ok_iff.1 h) hmem
  obtain ⟨attr, -, hattr⟩ := exists_of_mem_right (attributes_said hdeclaration) (List.mem_of_find?_eq_some hmarker)
  obtain ⟨written, -, hwritten⟩ := exists_of_mem_right (of_attributeOf hattr).2 (List.mem_of_find?_eq_some hargument)
  exact not_isFalse_of_argumentOf hwritten hfalse

/-- What the declarations of a file say always has descriptors. -/
theorem exists_descriptorsOf {file : File} {declarations : List TypeDeclaration}
    (h : declarationsOf file = .ok declarations) : ∃ ids, descriptorsOf declarations = .ok ids :=
  exists_descriptorsOf_iff.2 (not_isFalse_of_declarationsOf h)

/-- No scanned declaration carries a false numeral. -/
theorem not_isFalse_of_scan {text : List Char} {declarations : List TypeDeclaration} (h : scan text = .ok declarations) :
    ∀ said ∈ declarations, ¬ said.IsFalse := by
  obtain ⟨file, -, hsaid⟩ := of_scan h
  exact not_isFalse_of_declarationsOf hsaid

end TypedId.Scan
