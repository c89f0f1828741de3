import TypedId.Proofs.Scan.Descriptors
import TypedId.Proofs.Scan.Line
import TypedId.Proofs.Scan.Repetition

/-!
# Files one behind the other

Members behind a file are read as more members of it (`wholeCut_extended`), so they stand in the namespace that the file
declares for its rest. Scanning a file and a text of members behind it gives the declarations of both, those of the
second inside that namespace (`scan_lines`), and likewise for their descriptors.
-/

set_option autoImplicit false

namespace TypedId

open Text Grammar

/-! ## Inside a namespace -/

/-- A namespace inside another. -/
def within (outer space : String) : String :=
  if space.isEmpty then outer else qualify outer space

/-- A declaration inside a namespace. -/
def TypeDeclaration.inside (outer : String) (declaration : TypeDeclaration) : TypeDeclaration :=
  { declaration with space := within outer declaration.space }

/-- A descriptor inside a namespace. -/
def Descriptor.inside (outer : String) (id : Descriptor) : Descriptor :=
  { id with space := within outer id.space }

/-- The descriptor of a declaration inside a namespace is its descriptor inside the namespace. -/
theorem descriptor?_inside (outer : String) (declaration : TypeDeclaration) :
    (declaration.inside outer).descriptor? = declaration.descriptor?.map (Option.map (Descriptor.inside outer)) := by
  rw [TypeDeclaration.descriptor?, TypeDeclaration.descriptor?, show (declaration.inside outer).marker?
    = declaration.marker? from rfl, show (declaration.inside outer).kind = declaration.kind from rfl]
  cases declaration.marker? with
  | none => rfl
  | some marker =>
    cases declaration.kind.isPlainStruct with
    | false => rfl
    | true => cases hkind : marker.backingKind with
      | error error => simp [hkind, Except.map]
      | ok kind =>
        simp only [hkind, Except.map]
        rfl

/-- The descriptors of two lists of declarations are those of both, one behind the other. -/
theorem descriptorsOf_append {first second : List TypeDeclaration} {ids others : List Descriptor}
    (hfirst : descriptorsOf first = .ok ids) (hsecond : descriptorsOf second = .ok others) :
    descriptorsOf (first ++ second) = .ok (ids ++ others) := by
  obtain ⟨found, hfound, rfl⟩ := map_eq_ok_iff.1 hfirst
  obtain ⟨more, hmore, rfl⟩ := map_eq_ok_iff.1 hsecond
  refine map_eq_ok_iff.2 ⟨found ++ more, mapM_eq_ok_iff.2 ?_, List.filterMap_append⟩
  exact List.rel_append (mapM_eq_ok_iff.1 hfound) (mapM_eq_ok_iff.1 hmore)

/-- The descriptors of declarations inside a namespace are their descriptors inside the namespace. -/
theorem descriptorsOf_inside (outer : String) {declarations : List TypeDeclaration} {ids : List Descriptor}
    (h : descriptorsOf declarations = .ok ids) :
    descriptorsOf (declarations.map (TypeDeclaration.inside outer)) = .ok (ids.map (Descriptor.inside outer)) := by
  obtain ⟨found, hfound, rfl⟩ := map_eq_ok_iff.1 h
  refine map_eq_ok_iff.2 ⟨found.map (Option.map (Descriptor.inside outer)), mapM_eq_ok_iff.2 ?_, ?_⟩
  · rw [List.forall₂_map_left_iff, List.forall₂_map_right_iff]
    refine (mapM_eq_ok_iff.1 hfound).imp fun declaration id hid => ?_
    rw [descriptor?_inside, hid]
    rfl
  · rw [List.filterMap_map, List.map_filterMap]
    rfl

/-! ## More members -/

namespace Syntax

/-- A file with more members at its end. -/
def File.extended (file : File) (members : List Member) : File :=
  match file.body with
  | .plain own => ⟨file.usings, .plain (own ++ members)⟩
  | .space path usings own => ⟨file.usings, .space path usings (own ++ members)⟩

/-- The names of the namespace that a file declares for its rest, none if it declares no such namespace. -/
def File.outer (file : File) : List String :=
  match file.body with
  | .plain _ => []
  | .space path _ _ => path.names

/-- Members one after the other have their tokens one after the other. -/
theorem membersTokens_members (first second : List Member) :
    membersTokens (first ++ second) = membersTokens first ++ membersTokens second := by
  induction first with
  | nil => rfl
  | cons member rest ih => rw [List.cons_append, membersTokens, membersTokens, ih, List.append_assoc]

/-- More members have their tokens behind those of the file. -/
theorem File.tokens_extended (file : File) (members : List Member) :
    (file.extended members).tokens = file.tokens ++ membersTokens members := by
  obtain ⟨usings, own | ⟨path, inner, own⟩⟩ := file <;>
    simp [extended, File.tokens, FileBody.tokens, membersTokens_members]

/-- Members one after the other have their declarations one after the other. -/
theorem placedMembers_append (outer : List String) (first second : List Member) :
    placedMembers outer (first ++ second) = placedMembers outer first ++ placedMembers outer second := by
  induction first with
  | nil => rfl
  | cons member rest ih => rw [List.cons_append, placedMembers, placedMembers, ih, List.append_assoc]

mutual

/-- Namespaces around a member that are further out stand in front of the inner ones. -/
theorem Member.placed_append (outer inner : List String) :
    (member : Member) → member.placed (outer ++ inner)
      = (member.placed inner).map fun (names, declaration) => (outer ++ names, declaration)
  | .type _ => rfl
  | .space path _ members _ => by
    rw [Member.placed, Member.placed, List.append_assoc]
    exact placedMembers_inside outer (inner ++ path.names) members

/-- Inside a namespace the names of that namespace stand in front. -/
theorem placedMembers_inside (outer inner : List String) :
    (members : List Member) → placedMembers (outer ++ inner) members
      = (placedMembers inner members).map fun (names, declaration) => (outer ++ names, declaration)
  | [] => rfl
  | member :: rest => by
    rw [placedMembers, placedMembers, List.map_append, Member.placed_append outer inner member,
      placedMembers_inside outer inner rest]

end

/-- More members at the end of a file are placed inside the namespace that the file has to its end. -/
theorem File.placed_extended (file : File) (members : List Member) :
    (file.extended members).placed
      = file.placed ++ (placedMembers [] members).map fun (names, declaration) => (file.outer ++ names, declaration) := by
  have hinside := placedMembers_inside file.outer [] members
  rw [List.append_nil] at hinside
  rw [← hinside]
  obtain ⟨usings, own | ⟨path, inner, own⟩⟩ := file <;> exact placedMembers_append _ _ _

/-- A file does not end with the word `record`. -/
theorem File.getLast?_tokens (file : File) : file.tokens.getLast? ≠ some (.mark .recordWord) := by
  intro hlast
  obtain ⟨front, htokens⟩ := List.getLast?_eq_some_iff.1 hlast
  obtain ⟨after, hread, hfinish⟩ := Reading.reads_file file
  rw [htokens] at hread
  obtain ⟨middle, -, hrecord⟩ := Reads.append_iff.1 hread
  obtain ⟨next, hnext, hnil⟩ := Reads.cons_iff.1 hrecord
  obtain rfl : next = after := Option.some.inj hnil
  have hfocus := (Scan.Stage.record_iff_of_next? hnext).2 rfl
  have hfinal := Reading.isSome_finish? next
  rw [hfinish, Place.isFinal, hfocus] at hfinal
  exact absurd hfinal (by simp)

end Syntax

namespace Scan

open Syntax

variable {first second : List Char} {file : File} {members : List Member} {found more : List TypeDeclaration}

/-- Members behind a file are members of it. -/
theorem wholeCut_extended (hfirst : WholeCut none first file.tokens)
    (hsecond : WholeCut none second (membersTokens members)) :
    WholeCut none (first ++ '\n' :: second) (file.extended members).tokens := by
  rw [file.tokens_extended members]
  refine hfirst.line hsecond ?_
  rw [Option.or_none]
  exact file.getLast?_tokens

/-- A path inside a path is a namespace inside a namespace. -/
theorem joinDots_append {outer inner : List String} (houter : ∀ name ∈ outer, isIdentifier name = true)
    (hinner : ∀ name ∈ inner, isIdentifier name = true) :
    joinDots (outer ++ inner) = within (joinDots outer) (joinDots inner) := by
  have hne {names : List String} (h : ∀ name ∈ names, isIdentifier name = true) : ∀ name ∈ names, name ≠ "" :=
    fun name hname => ne_empty_of_isIdentifier (h name hname)
  cases inner with
  | nil =>
    rw [List.append_nil]
    rfl
  | cons name rest =>
    have hspace := joinDots_cons_ne_empty rest (hne hinner name List.mem_cons_self)
    rw [within, if_neg (by simpa using hspace), qualify_joinDots (hne houter) (by simp)]

/-- What a declaration says inside a namespace. -/
theorem declarationOf_inside {space outer : String} {declaration : Declaration} {said : TypeDeclaration}
    (h : declarationOf space declaration = .ok said) :
    declarationOf (within outer space) declaration = .ok (said.inside outer) := by
  obtain ⟨attributes, hattributes, rfl⟩ := map_eq_ok_iff.1 h
  exact map_eq_ok_iff.2 ⟨attributes, hattributes, rfl⟩

/-- The declarations of more members follow those of a file, inside the namespace that it declares for its rest. -/
theorem declarationsOf_extended (hnames : HasIdentifiers file.tokens) (hmembers : HasIdentifiers (membersTokens members))
    (hfound : declarationsOf file = .ok found) (hmore : declarationsOf ⟨[], .plain members⟩ = .ok more) :
    declarationsOf (file.extended members) = .ok (found ++ more.map (.inside (joinDots file.outer))) := by
  have hplain : HasIdentifiers (⟨[], .plain members⟩ : File).tokens := hmembers
  have hextended : HasIdentifiers (file.extended members).tokens := by
    rw [file.tokens_extended members]
    intro name hname
    exact (List.mem_append.1 hname).elim (hnames name) (hmembers name)
  have houter : ∀ name ∈ file.outer, isIdentifier name = true := by
    obtain ⟨usings, own | ⟨path, inner, own⟩⟩ := file
    · simp [File.outer]
    · exact (hnames.mono (subset_body_path rfl)).names
  rw [declarationsOf_eq_ok_iff hextended, file.placed_extended members]
  refine List.rel_append ((declarationsOf_eq_ok_iff hnames).1 hfound) ?_
  rw [List.forall₂_map_left_iff, List.forall₂_map_right_iff]
  have hsecond := (declarationsOf_eq_ok_iff hplain).1 hmore
  refine ((List.forall₂_and_left _ _).2 ⟨fun placed hplaced => hplaced, hsecond⟩).imp ?_
  rintro ⟨names, declaration⟩ said ⟨hplaced, hsaid⟩
  have hinner := (isIdentifier_of_mem_filePlaced hplain hplaced).1
  show declarationOf (joinDots (file.outer ++ names)) declaration = _
  rw [joinDots_append houter hinner]
  exact declarationOf_inside hsaid

/-- Scanning goes through two texts one behind the other. Where both are scanned by themselves and the second has
neither leading directives nor a namespace for its whole rest, the declarations of the second follow those of the first,
inside the namespace that the first declares for its rest. If their full names are different, they are what is found,
and the first repeated one is reported otherwise. The descriptors follow each other in the same way. -/
theorem scan_lines (hfirst : scan first = .ok found) (hsecond : scan second = .ok more) (hfile : readFile first = .ok file)
    (hmembers : readFile second = .ok ⟨[], .plain members⟩) :
    ∃ joined, joined = found ++ more.map (.inside (joinDots file.outer)) ∧
      ((joined.map TypeDeclaration.fullName).Nodup → scan (first ++ '\n' :: second) = .ok joined) ∧
      (¬ (joined.map TypeDeclaration.fullName).Nodup → ∃ name, FirstRepeated (joined.map TypeDeclaration.fullName) name ∧
        scan (first ++ '\n' :: second) = .error (.repeated name)) ∧
      ∃ ids others, descriptorsOf found = .ok ids ∧ descriptorsOf more = .ok others ∧
        descriptorsOf joined = .ok (ids ++ others.map (.inside (joinDots file.outer))) := by
  have hdeclarations := ((scan_eq_ok_iff hfile).1 hfirst).1
  have hothers := ((scan_eq_ok_iff hmembers).1 hsecond).1
  have hwholeFirst := wholeCut_of_readFile hfile
  have hwholeSecond : WholeCut none second (membersTokens members) := wholeCut_of_readFile hmembers
  have hjoined := declarationsOf_extended (.of_cut hwholeFirst.cut) (.of_cut hwholeSecond.cut) hdeclarations hothers
  have hscan : scan (first ++ '\n' :: second) = distinct (found ++ more.map (.inside (joinDots file.outer))) := by
    rw [scan, readDeclarations_of_wholeCut (wholeCut_extended hwholeFirst hwholeSecond), hjoined]
    rfl
  obtain ⟨ids, hids⟩ := exists_descriptorsOf hdeclarations
  obtain ⟨others, hmore⟩ := exists_descriptorsOf hothers
  refine ⟨_, rfl, fun hnodup => ?_, fun hrepeated => ?_, ids, others, hids, hmore, ?_⟩
  · rw [hscan]
    exact distinct_eq_ok_iff.2 ⟨rfl, hnodup⟩
  · obtain ⟨name, hname⟩ := exists_firstRepeated hrepeated
    refine ⟨name, hname, ?_⟩
    rw [hscan]
    exact distinct_eq_error_iff.2 ⟨name, rfl, hname⟩
  · exact descriptorsOf_append hids (descriptorsOf_inside _ hmore)

/-- A struct without anything else. -/
def bareStruct (name space : String) : TypeDeclaration :=
  ⟨name, space, .structType, [], []⟩

/-- Behind a namespace for the rest of a file one more struct is found in it, unless it repeats the one that is there. -/
theorem scan_lines_of_space :
    scan "namespace N;struct A;\nstruct B;".toList = .ok [bareStruct "A" "N", bareStruct "B" "N"] ∧
      scan "namespace N;struct A;\nstruct A;".toList = .error (.repeated "N.A") := by
  have hfile : readFile "namespace N;struct A;".toList
      = .ok ⟨[], .space ⟨false, "N", []⟩ [] [.type ⟨⟨[], []⟩, .structType, "A", .semicolon⟩]⟩ := by rfl
  have hmembersA : readFile "struct A;".toList
      = .ok ⟨[], .plain [.type ⟨⟨[], []⟩, .structType, "A", .semicolon⟩]⟩ := by rfl
  have hmembersB : readFile "struct B;".toList
      = .ok ⟨[], .plain [.type ⟨⟨[], []⟩, .structType, "B", .semicolon⟩]⟩ := by rfl
  have hfirst : scan "namespace N;struct A;".toList = .ok [bareStruct "A" "N"] :=
    (scan_eq_ok_iff hfile).2 ⟨rfl, List.nodup_singleton _⟩
  have hsecondA : scan "struct A;".toList = .ok [bareStruct "A" ""] :=
    (scan_eq_ok_iff hmembersA).2 ⟨rfl, List.nodup_singleton _⟩
  have hsecondB : scan "struct B;".toList = .ok [bareStruct "B" ""] :=
    (scan_eq_ok_iff hmembersB).2 ⟨rfl, List.nodup_singleton _⟩
  constructor
  · obtain ⟨joined, rfl, hdistinct, -⟩ := scan_lines hfirst hsecondB hfile hmembersB
    exact hdistinct (by decide)
  · obtain ⟨joined, rfl, -, hrepeated, -⟩ := scan_lines hfirst hsecondA hfile hmembersA
    obtain ⟨name, hname, hscan⟩ := hrepeated (by decide)
    have hsame := (firstRepeated?_eq_some_iff.2 hname).symm.trans (by rfl : _ = some "N.A")
    rw [Option.some.inj hsame] at hscan
    exact hscan

end Scan

end TypedId
