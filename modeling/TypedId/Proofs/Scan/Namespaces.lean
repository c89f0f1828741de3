import TypedId.Proofs.Scan.Concatenation

/-!
# Spellings of namespaces

A namespace is the same whether its path is written in one block or split over blocks inside each other, in braces or
for the rest of the file, rooted or not (`SameSpaces`). Files that differ in this alone have the same declarations
(`File.SameSpaces.placed_eq`), so texts of them have the same outcome (`scan_of_sameSpaces`). In particular this holds of
the four ways to put a text of directives and members into the namespace of two paths (`namespaces_are_interchangeable`).
-/

set_option autoImplicit false

namespace TypedId

open Text Grammar

namespace Syntax

/-- Members that differ only in the ways in which namespaces are written, and in directives and semicolons. -/
inductive SameSpaces : List Member → List Member → Prop where
  | refl (members : List Member) : SameSpaces members members
  | symm {members other : List Member} : SameSpaces members other → SameSpaces other members
  | trans {members middle other : List Member} : SameSpaces members middle → SameSpaces middle other →
      SameSpaces members other
  /-- The same type in front of both. -/
  | type {members other : List Member} (declaration : Declaration) : SameSpaces members other →
      SameSpaces (.type declaration :: members) (.type declaration :: other)
  /-- Blocks of the same names in front of both, whether their paths are rooted or not. -/
  | space {members other inner otherInner : List Member} {path otherPath : QualifiedName} {usings otherUsings : List Using}
    {semicolon otherSemicolon : Bool} : path.names = otherPath.names → SameSpaces inner otherInner →
      SameSpaces members other →
      SameSpaces (.space path usings inner semicolon :: members)
        (.space otherPath otherUsings otherInner otherSemicolon :: other)
  /-- A block of a path that is split, and a block in a block of its parts. -/
  | split {members inner : List Member} {path front back : QualifiedName} {usings frontUsings backUsings : List Using}
    {semicolon frontSemicolon backSemicolon : Bool} : path.names = front.names ++ back.names →
      SameSpaces (.space path usings inner semicolon :: members)
        (.space front frontUsings [.space back backUsings inner backSemicolon] frontSemicolon :: members)

/-- The members of a file, where a namespace for its rest counts as a block around what follows. -/
def File.members (file : File) : List Member :=
  match file.body with
  | .plain members => members
  | .space path usings members => [.space path usings members false]

/-- Files that differ only in the ways in which namespaces are written, and in directives and semicolons. -/
def File.SameSpaces (file other : File) : Prop :=
  Syntax.SameSpaces file.members other.members

/-- Members with the same namespaces have the same declarations in the same places. -/
theorem SameSpaces.placedMembers_eq {members other : List Member} (h : SameSpaces members other) (outer : List String) :
    placedMembers outer members = placedMembers outer other := by
  induction h generalizing outer with
  | refl => rfl
  | symm _ ih => exact (ih outer).symm
  | trans _ _ ih ih' => exact (ih outer).trans (ih' outer)
  | type declaration _ ih => rw [placedMembers, placedMembers, ih outer]
  | space hnames _ _ ih ih' =>
    rw [placedMembers, placedMembers, Member.placed, Member.placed, hnames, ih, ih' outer]
  | split hnames =>
    simp only [placedMembers, Member.placed, hnames, List.append_assoc, List.append_nil]

/-- The declarations of a file are those of its members, the namespace of the file being one of them. -/
theorem File.placed_eq (file : File) : file.placed = placedMembers [] file.members := by
  obtain ⟨usings, members | ⟨path, inner, members⟩⟩ := file
  · rfl
  · simp [File.placed, File.members, placedMembers, Member.placed]

/-- Files with the same namespaces have the same declarations in them. -/
theorem File.SameSpaces.placed_eq {file other : File} (h : file.SameSpaces other) : file.placed = other.placed := by
  rw [file.placed_eq, other.placed_eq]
  exact SameSpaces.placedMembers_eq h []

end Syntax

namespace Scan

open Syntax

variable {file other : File} {text otherText : List Char}

/-- Texts of files with the same namespaces are scanned with the same outcome. -/
theorem scan_of_sameSpaces (h : file.SameSpaces other) (htext : WholeCut none text file.tokens)
    (hother : WholeCut none otherText other.tokens) : scan text = scan otherText := by
  have hsame : declarationsOf file = declarationsOf other := by
    rw [declarationsOf, declarationsOf, flatten_eq (.of_cut htext.cut), flatten_eq (.of_cut hother.cut), h.placed_eq]
  rw [scan, scan, readDeclarations_of_wholeCut htext, readDeclarations_of_wholeCut hother, hsame]

/-- A text of a file is not malformed. -/
theorem scan_ne_malformed (h : WholeCut none text file.tokens) (error : SyntaxError) :
    scan text ≠ .error (.malformed error) := by
  rw [scan, readDeclarations_of_wholeCut h]
  cases declarationsOf file with
  | error numeral => simp [Except.mapError, Except.bind]
  | ok declarations =>
    intro hdistinct
    obtain ⟨name, hname, -⟩ := distinct_eq_error_iff.1 hdistinct
    exact absurd hname (by simp)

/-! ## Four ways to write a namespace -/

/-- Texts with line ends between them. -/
def lines (texts : List (List Char)) : List Char :=
  ['\n'].intercalate texts

/-- Texts with line ends between them are cut like each by itself. -/
theorem wholeCut_lines {texts : List (List Char)} {parts : List (List Token)}
    (h : List.Forall₂ (WholeCut none) texts parts) (hend : ∀ tokens ∈ parts, tokens.getLast? ≠ some (.mark .recordWord)) :
    WholeCut none (lines texts) parts.flatten := by
  induction h with
  | nil => exact .nil none
  | @cons text tokens texts parts htext hrest ih =>
    obtain ⟨hfirst, hend⟩ := List.forall_mem_cons.1 hend
    cases hrest with
    | nil => simpa [lines, List.intercalate] using htext
    | @cons second _ more _ _ _ =>
      have hlines : lines (text :: second :: more) = text ++ '\n' :: lines (second :: more) := by
        simp [lines, List.intercalate]
      rw [hlines, List.flatten_cons]
      exact htext.line (ih hend) (by simpa using hfirst)

/-- A text opens a block of a namespace with some names. -/
def Opens (names : List String) (text : List Char) : Prop :=
  ∃ path : QualifiedName, path.names = names ∧ WholeCut none text (openingTokens path)

/-- A text declares a namespace with some names for the rest of a file. -/
def Declares (names : List String) (text : List Char) : Prop :=
  ∃ path : QualifiedName, path.names = names ∧ WholeCut none text (headerTokens path)

/-- A text closes a block. -/
def Closes (text : List Char) : Prop :=
  ∃ semicolon, WholeCut none text (.mark .rightBrace :: semicolonTokens semicolon)

/-- The end of a namespace does not end with the word for records. -/
theorem getLast?_closing (semicolon : Bool) :
    (Token.mark .rightBrace :: semicolonTokens semicolon).getLast? ≠ some (.mark .recordWord) := by
  cases semicolon <;> decide

/-- The opening of a namespace does not end with the word for records. -/
theorem getLast?_opening (path : QualifiedName) : (openingTokens path).getLast? ≠ some (.mark .recordWord) := by
  rw [openingTokens, List.getLast?_concat]
  simp

/-- The declaration of a namespace for the rest of a file does not end with the word for records. -/
theorem getLast?_header (path : QualifiedName) : (headerTokens path).getLast? ≠ some (.mark .recordWord) := by
  rw [headerTokens, List.getLast?_concat]
  simp

/-- The first tokens of a file are cut out of a text that shows them with blanks in front. -/
theorem wholeCut_spacedText {file : File} {tokens behind : List Token} (h : file.tokens = tokens ++ behind)
    (hspelled : ∀ token ∈ tokens, token.IsSpelled) : WholeCut none (spacedText tokens) tokens := by
  obtain ⟨after, hread, -⟩ := Reading.reads_file file
  rw [h] at hread
  obtain ⟨middle, hfront, -⟩ := Reads.append_iff.1 hread
  exact Layout.wholeCut (layout_spacedText none tokens) hspelled (by simp) hfront

/-- A path of names is spelled. -/
theorem isSpelled_path {path : QualifiedName} (h : ∀ name ∈ path.names, IsName name.toList) :
    ∀ token ∈ path.tokens, token.IsSpelled := by
  obtain ⟨hhead, htail⟩ := List.forall_mem_cons.1 h
  refine List.forall_mem_append.2 ⟨?_, List.forall_mem_cons.2 ⟨hhead, fun token htoken => ?_⟩⟩
  · cases path.rooted <;> simp [rootTokens, Token.IsSpelled]
  · obtain ⟨name, hname, htoken⟩ := List.mem_flatMap.1 htoken
    rcases List.mem_pair.1 htoken with rfl | rfl
    · trivial
    · exact htail name hname

/-- Every namespace can be opened. -/
theorem opens_spacedText (path : QualifiedName) (h : ∀ name ∈ path.names, IsName name.toList) :
    Opens path.names (spacedText (openingTokens path)) := by
  have htokens : (⟨[], .plain [.space path [] [] false]⟩ : File).tokens = openingTokens path ++ [.mark .rightBrace] := by
    simp [File.tokens, FileBody.tokens, membersTokens, Member.tokens, usingsTokens, semicolonTokens]
  have hspelled : ∀ token ∈ openingTokens path, token.IsSpelled := by
    simpa [openingTokens, or_imp, forall_and, Token.IsSpelled] using isSpelled_path h
  exact ⟨path, rfl, wholeCut_spacedText htokens hspelled⟩

/-- Every namespace can be declared for the rest of a file. -/
theorem declares_spacedText (path : QualifiedName) (h : ∀ name ∈ path.names, IsName name.toList) :
    Declares path.names (spacedText (headerTokens path)) := by
  have htokens : (⟨[], .space path [] []⟩ : File).tokens = headerTokens path ++ [] := by
    simp [File.tokens, FileBody.tokens, membersTokens, usingsTokens]
  have hspelled : ∀ token ∈ headerTokens path, token.IsSpelled := by
    simpa [headerTokens, or_imp, forall_and, Token.IsSpelled] using isSpelled_path h
  exact ⟨path, rfl, wholeCut_spacedText htokens hspelled⟩

/-- A brace closes a block. -/
theorem closes_brace : Closes Mark.rightBrace.text.toList :=
  ⟨false, @WholeCut.token none (.mark .rightBrace) Mark.rightBrace.text.toList [] [] rfl (by simp) (.nil _)⟩

/-- The ways of writing a namespace are interchangeable. Texts of files that differ in them alone have the same outcome,
whatever their layout. Where a text of directives and members is put into the namespace of two paths, the outcome is the
same for one block of both paths, for a block in a block, for both paths declared for the rest of the file, and for a
block of the second behind the first declared for the rest of the file. -/
theorem namespaces_are_interchangeable :
    (∀ (file other : File) (text otherText : List Char), file.SameSpaces other → WholeCut none text file.tokens →
      WholeCut none otherText other.tokens → scan text = scan otherText ∧ ∀ error, scan text ≠ .error (.malformed error)) ∧
    ∀ (front back : List String) (body : List Char) (usings : List Using) (members : List Member),
      readFile body = .ok ⟨usings, .plain members⟩ →
      ∀ openBoth openFront openBack headBoth headFront close lastClose : List Char,
        Opens (front ++ back) openBoth → Opens front openFront → Opens back openBack → Declares (front ++ back) headBoth →
        Declares front headFront → Closes close → Closes lastClose →
          (∀ error, scan (lines [openBoth, body, close]) ≠ .error (.malformed error)) ∧
          scan (lines [openFront, openBack, body, close, lastClose]) = scan (lines [openBoth, body, close]) ∧
          scan (lines [headBoth, body]) = scan (lines [openBoth, body, close]) ∧
          scan (lines [headFront, openBack, body, close]) = scan (lines [openBoth, body, close]) := by
  refine ⟨fun file other text otherText hsame htext hother =>
    ⟨scan_of_sameSpaces hsame htext hother, scan_ne_malformed htext⟩, ?_⟩
  intro front back body usings members hread openBoth openFront openBack headBoth headFront close lastClose
  rintro ⟨both, hboth, hopenBoth⟩ ⟨outer, houter, hopenFront⟩ ⟨inner, hinner, hopenBack⟩ ⟨filed, hfiled, hheadBoth⟩
    ⟨lead, hlead, hheadFront⟩ ⟨semicolon, hclose⟩ ⟨lastSemicolon, hlastClose⟩
  have hbody := wholeCut_of_readFile hread
  have hends := (⟨usings, .plain members⟩ : File).getLast?_tokens
  have hblock : WholeCut none (lines [openBoth, body, close])
      (⟨[], .plain [.space both usings members semicolon]⟩ : File).tokens := by
    have hlines := wholeCut_lines (.cons hopenBoth (.cons hbody (.cons hclose .nil)))
      (by simp [getLast?_opening, getLast?_closing, hends])
    simpa [File.tokens, FileBody.tokens, membersTokens, Member.tokens, usingsTokens] using hlines
  have hnested : WholeCut none (lines [openFront, openBack, body, close, lastClose])
      (⟨[], .plain [.space outer [] [.space inner usings members semicolon] lastSemicolon]⟩ : File).tokens := by
    have hlines := wholeCut_lines (.cons hopenFront (.cons hopenBack (.cons hbody (.cons hclose (.cons hlastClose .nil)))))
      (by simp [getLast?_opening, getLast?_closing, hends])
    simpa [File.tokens, FileBody.tokens, membersTokens, Member.tokens, usingsTokens] using hlines
  have hheaded : WholeCut none (lines [headBoth, body]) (⟨[], .space filed usings members⟩ : File).tokens := by
    have hlines := wholeCut_lines (.cons hheadBoth (.cons hbody .nil)) (by simp [getLast?_header, hends])
    simpa [File.tokens, FileBody.tokens, usingsTokens] using hlines
  have hmixed : WholeCut none (lines [headFront, openBack, body, close])
      (⟨[], .space lead [] [.space inner usings members semicolon]⟩ : File).tokens := by
    have hlines := wholeCut_lines (.cons hheadFront (.cons hopenBack (.cons hbody (.cons hclose .nil))))
      (by simp [getLast?_header, getLast?_opening, getLast?_closing, hends])
    simpa [File.tokens, FileBody.tokens, membersTokens, Member.tokens, usingsTokens] using hlines
  have hsplit : both.names = outer.names ++ inner.names := by rw [hboth, houter, hinner]
  have hheadSplit : both.names = lead.names ++ inner.names := by rw [hboth, hlead, hinner]
  refine ⟨scan_ne_malformed hblock, ?_, ?_, ?_⟩
  · refine (scan_of_sameSpaces ?_ hblock hnested).symm
    exact SameSpaces.split hsplit
  · refine scan_of_sameSpaces ?_ hheaded hblock
    exact SameSpaces.space (hfiled.trans hboth.symm) (.refl _) (.refl _)
  · refine (scan_of_sameSpaces ?_ hblock hmixed).symm
    exact SameSpaces.split hheadSplit

/-- A struct in the namespace `A.B`, written in four ways and once more on a single line. -/
theorem four_ways_to_A_B :
    let close := Mark.rightBrace.text.toList
    let block := lines [spacedText (openingTokens ⟨false, "A", ["B"]⟩), "struct X;".toList, close]
    scan block = .ok [bareStruct "X" "A.B"] ∧
      scan "namespace global::A\x7bnamespace B\x7bstruct X;\x7d\x7d".toList = scan block ∧
      scan (lines [spacedText (openingTokens ⟨false, "A", []⟩), spacedText (openingTokens ⟨true, "B", []⟩),
        "struct X;".toList, close, close]) = scan block ∧
      scan (lines [spacedText (headerTokens ⟨false, "A", ["B"]⟩), "struct X;".toList]) = scan block ∧
      scan (lines [spacedText (headerTokens ⟨false, "A", []⟩), spacedText (openingTokens ⟨true, "B", []⟩),
        "struct X;".toList, close]) = scan block := by
  intro close block
  have hbody : readFile "struct X;".toList = .ok ⟨[], .plain [.type ⟨⟨[], []⟩, .structType, "X", .semicolon⟩]⟩ := by rfl
  have htext : block = " namespace A . B \x7b\nstruct X;\n\x7d".toList := by rfl
  have hblock : readFile " namespace A . B \x7b\nstruct X;\n\x7d".toList = .ok ⟨[], .plain [.space ⟨false, "A", ["B"]⟩ []
      [.type ⟨⟨[], []⟩, .structType, "X", .semicolon⟩] false]⟩ := by rfl
  have hA : ∀ name ∈ ["A"], IsName name.toList := by decide
  have hB : ∀ name ∈ ["B"], IsName name.toList := by decide
  have hboth : ∀ name ∈ ["A"] ++ ["B"], IsName name.toList := List.forall_mem_append.2 ⟨hA, hB⟩
  have hnested : readFile "namespace global::A\x7bnamespace B\x7bstruct X;\x7d\x7d".toList
      = .ok ⟨[], .plain [.space ⟨true, "A", []⟩ [] [.space ⟨false, "B", []⟩ []
        [.type ⟨⟨[], []⟩, .structType, "X", .semicolon⟩] false] false]⟩ := by rfl
  refine ⟨?_, ?_, ?_⟩
  · rw [htext]
    exact (scan_eq_ok_iff hblock).2 ⟨rfl, List.nodup_singleton _⟩
  · rw [htext]
    refine (namespaces_are_interchangeable.1 _ _ _ _ ?_ (wholeCut_of_readFile hnested) (wholeCut_of_readFile hblock)).1
    exact .symm (.split rfl)
  have hfour := namespaces_are_interchangeable.2 ["A"] ["B"] _ _ _ hbody _ _ _ _ _ _ _
    (opens_spacedText ⟨false, "A", ["B"]⟩ hboth) (opens_spacedText ⟨false, "A", []⟩ hA)
    (opens_spacedText ⟨true, "B", []⟩ hB) (declares_spacedText ⟨false, "A", ["B"]⟩ hboth)
    (declares_spacedText ⟨false, "A", []⟩ hA) closes_brace closes_brace
  exact hfour.2

end Scan

end TypedId
