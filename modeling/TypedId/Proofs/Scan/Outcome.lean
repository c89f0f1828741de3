import Mathlib.Data.List.Nodup
import TypedId.Proofs.Scan.Acceptance
import TypedId.Proofs.Scan.Failure
import TypedId.Proofs.Scan.Made
import TypedId.Proofs.Scan.Naming
import TypedId.Proofs.Scan.Repetition

/-!
# Outcomes of a scan

A scan ends in one of five ways (`Outcome`): in two it fails on a text that is no declaration file, then on the first
integer literal that is not converted, then on the first repeated name, and otherwise it lists declarations. Each text has
exactly the outcome that its scan has (`scan_outcomes`).
-/

set_option autoImplicit false

namespace TypedId.Scan

open Grammar Syntax Text

/-- Declarations have different names or stand in different namespaces. -/
def HasDistinctNames (declarations : List TypeDeclaration) : Prop :=
  (declarations.map fun declaration => (declaration.space, declaration.name)).Nodup

/-- How a scan of a text ends. -/
inductive Outcome (text : List Char) : Except ScanError (List TypeDeclaration) → Prop where
  | unexpectedCharacter {before rest : List Char} {found : Char} {expected : List Terminal} :
    (∀ file : File, ¬ Cut text file.tokens) → readFile text = .error (.unexpectedCharacter before found rest expected) →
      Outcome text (.error (.malformed (.unexpectedCharacter before found rest expected)))
  | unexpectedEnd {expected : List Terminal} :
    (∀ file : File, ¬ Cut text file.tokens) → readFile text = .error (.unexpectedEnd expected) →
      Outcome text (.error (.malformed (.unexpectedEnd expected)))
  | unconverted {file : File} {error : NumeralError} :
    readFile text = .ok file → FirstRefused file.tokens error → made file = .error (.numeral error) →
      Outcome text (.error (.numeral error))
  | repeated {file : File} {declarations : List TypeDeclaration} {fullName : String} :
    readFile text = .ok file → Convertible file.tokens → made file = .ok declarations →
      FirstRepeated (declarations.map TypeDeclaration.fullName) fullName → Outcome text (.error (.repeated fullName))
  | listed {file : File} {declarations : List TypeDeclaration} :
    readFile text = .ok file → Convertible file.tokens → made file = .ok declarations → HasDistinctNames declarations →
      Outcome text (.ok declarations)

variable {text : List Char} {file : File} {declarations : List TypeDeclaration}

/-- A file is refused for a numeral exactly if it is that of the first literal that is not converted. -/
theorem made_eq_error_iff {error : NumeralError} :
    made file = .error (.numeral error) ↔ FirstRefused file.tokens error := by
  rw [made_eq, ← declarationsOf_eq_error_iff]
  cases declarationsOf file <;> simp [Except.mapError]

/-- A file is made into its declarations. -/
theorem made_eq_ok_iff : made file = .ok declarations ↔ declarationsOf file = .ok declarations := by
  rw [made_eq, mapError_eq_ok_iff]

/-- Declarations of a file with different full names are those with different names or different namespaces. -/
theorem nodup_fullNames_iff (hread : readFile text = .ok file) (h : declarationsOf file = .ok declarations) :
    (declarations.map TypeDeclaration.fullName).Nodup ↔ HasDistinctNames declarations := by
  have hnames := isIdentifier_of_declarationsOf (HasIdentifiers.of_cut (cut_of_readFile hread)) h
  have hfull : declarations.map TypeDeclaration.fullName
      = (declarations.map fun declaration => (declaration.space, declaration.name)).map fun placed =>
          qualify placed.1 placed.2 := by
    rw [List.map_map]
    rfl
  -- Full names are the same only if names and namespaces are, since no name holds a point.
  rw [HasDistinctNames, hfull]
  refine ⟨List.Nodup.of_map _, List.Nodup.map_on ?_⟩
  simp only [List.forall_mem_map]
  intro first hfirst second hsecond hsame
  have hpoint (declaration : TypeDeclaration) (hmem : declaration ∈ declarations) : '.' ∉ declaration.name.toList :=
    point_notMem_of_isIdentifier (hnames declaration hmem).1
  obtain ⟨hspace, hname⟩ := qualify_inj (hpoint first hfirst) (hpoint second hsecond) hsame
  rw [hspace, hname]

/-- A text that is refused for its syntax cannot be cut into the tokens of a file. -/
theorem not_cut_of_readFile {error : SyntaxError} (h : readFile text = .error error) (file : File) :
    ¬ Cut text file.tokens := by
  intro hcut
  obtain ⟨found, hfound⟩ := exists_readFile_of_cut hcut
  rw [h] at hfound
  cases hfound

/-- Every text has the outcome that its scan has. -/
theorem outcome_scan (text : List Char) : Outcome text (scan text) := by
  cases hread : readFile text with
  | error error =>
    rw [scan_malformed_iff.2 hread]
    cases error with
    | unexpectedCharacter before found rest expected =>
      exact .unexpectedCharacter (not_cut_of_readFile hread) hread
    | unexpectedEnd expected => exact .unexpectedEnd (not_cut_of_readFile hread) hread
  | ok file =>
    rw [scan_of_readFile hread]
    cases hsaid : declarationsOf file with
    | error error =>
      have hrefused := declarationsOf_eq_error_iff.1 hsaid
      exact .unconverted hread hrefused (made_eq_error_iff.2 hrefused)
    | ok declarations =>
      have hconvertible := exists_declarationsOf_iff.1 ⟨declarations, hsaid⟩
      have hmade := made_eq_ok_iff.2 hsaid
      by_cases hnodup : (declarations.map TypeDeclaration.fullName).Nodup
      · have hdistinct : distinct declarations = .ok declarations := distinct_eq_ok_iff.2 ⟨rfl, hnodup⟩
        rw [Except.mapError, Except.bind, hdistinct]
        exact .listed hread hconvertible hmade ((nodup_fullNames_iff hread hsaid).1 hnodup)
      · obtain ⟨name, hname⟩ := exists_firstRepeated hnodup
        have hdistinct : distinct declarations = .error (.repeated name) := distinct_eq_error_iff.2 ⟨name, rfl, hname⟩
        rw [Except.mapError, Except.bind, hdistinct]
        exact .repeated hread hconvertible hmade hname

/-- A text has no other outcome. -/
theorem scan_of_outcome {result : Except ScanError (List TypeDeclaration)} (h : Outcome text result) :
    scan text = result := by
  cases h with
  | unexpectedCharacter _ hread => exact scan_malformed_iff.2 hread
  | unexpectedEnd _ hread => exact scan_malformed_iff.2 hread
  | unconverted hread hrefused _ =>
    rw [scan_of_readFile hread, declarationsOf_eq_error_iff.2 hrefused]
    rfl
  | repeated hread _ hmade hname =>
    rw [scan_of_readFile hread, made_eq_ok_iff.1 hmade]
    exact distinct_eq_error_iff.2 ⟨_, rfl, hname⟩
  | listed hread _ hmade hdistinct =>
    have hsaid := made_eq_ok_iff.1 hmade
    exact (scan_eq_ok_iff hread).2 ⟨hsaid, (nodup_fullNames_iff hread hsaid).2 hdistinct⟩

/-- A scan ends in exactly one of five ways, of which each excludes those before it: the text goes on or ends where no
declaration file does, an integer literal is not converted, a full name is declared twice, or all declarations are
listed. The declarations are made from the tree of the tokens, and there no rule ever finds several parts where it wants
one, or none where it needs one. -/
theorem scan_outcomes :
    (∀ text result, scan text = result ↔ Outcome text result) ∧
      ∀ file : File, file.tree.leaves = file.tokens ∧ made file ≠ .error .several ∧ made file ≠ .error .missing := by
  refine ⟨fun text result => ⟨?_, scan_of_outcome⟩, fun file => ⟨file.leaves_tree, ?_⟩⟩
  · rintro rfl
    exact outcome_scan text
  · rw [made_eq]
    cases declarationsOf file <;> simp [Except.mapError]

/-- All five outcomes occur; a literal that is not converted is reported before a name that is repeated in front of it. -/
theorem five_scan_outcomes :
    Outcome "struct A x".toList
        (.error (.malformed (.unexpectedCharacter "struct A ".toList 'x' [] [.mark .leftBrace, .mark .semicolon]))) ∧
      Outcome "struct A".toList (.error (.malformed (.unexpectedEnd [.mark .leftBrace, .mark .semicolon]))) ∧
      Outcome "struct A;struct A;[X(0x_)]class B;".toList (.error (.numeral (.malformed 16 ""))) ∧
      Outcome "struct A;struct A;".toList (.error (.repeated "A")) ∧
      Outcome "struct A;".toList (.ok [⟨"A", "", .structType, [], []⟩]) := by
  refine ⟨?_, ?_, ?_, ?_, ?_⟩
  · exact (scan_outcomes.1 _ _).1 (scan_malformed_iff.2 (by rfl))
  · exact (scan_outcomes.1 _ _).1 (scan_malformed_iff.2 (by rfl))
  · have hread : readFile "struct A;struct A;[X(0x_)]class B;".toList = .ok ⟨[], .plain
        [.type ⟨⟨[], []⟩, .structType, "A", .semicolon⟩, .type ⟨⟨[], []⟩, .structType, "A", .semicolon⟩,
          .type ⟨⟨[⟨⟨.ofName "X", some [⟨none, [], .integer "0x_"⟩]⟩, [], false⟩], []⟩, .classType, "B", .semicolon⟩]⟩ := by
      rfl
    exact (scan_outcomes.1 _ _).1 (scan_of_readFile hread)
  · have hread : readFile "struct A;struct A;".toList = .ok ⟨[], .plain
        [.type ⟨⟨[], []⟩, .structType, "A", .semicolon⟩, .type ⟨⟨[], []⟩, .structType, "A", .semicolon⟩]⟩ := by rfl
    exact (scan_outcomes.1 _ _).1 (scan_of_readFile hread)
  · have hread : readFile "struct A;".toList = .ok (bareFile .structType "A") := by rfl
    exact (scan_outcomes.1 _ _).1 ((scan_eq_ok_iff hread).2 ⟨rfl, List.nodup_singleton _⟩)

end TypedId.Scan
