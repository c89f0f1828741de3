import TypedId.Proofs.Results
import TypedId.Proofs.Scan.Acceptance
import TypedId.Proofs.Scan.Repetition
import TypedId.Proofs.Text.Segments
import TypedId.Scan.Declarations

/-!
# Names of scanned declarations

`File.placed` lists the declarations of a file with the names of the namespaces around each, outermost first, where
`flatten` carries the namespace as one text: the two agree (`flatten_eq`), since no name holds a point. The names in a
file that is scanned are words of letters, digits and underscores, so a scanned declaration has an identifier for its
name and a dotted path for its namespace (`isIdentifier_of_scan`).
-/

set_option autoImplicit false

namespace TypedId

/-! ## Words are identifiers -/

namespace Grammar

/-- Where the code points end that a word may have. -/
def wordBound : Nat := 128

/-- A character that continues a word is a letter, a digit or an underscore of the Latin script. -/
theorem toNat_lt_wordBound {c : Char} (h : isNameRest c = true) : c.toNat < wordBound := by
  simp only [isNameRest, Char.isAlphanum, Char.isDigit, Bool.or_eq_true, beq_iff_eq, isAlpha_iff, Bool.and_eq_true,
    decide_eq_true_eq, UInt32.le_iff_toNat_le, ge_iff_le] at h
  have hbound : 'z'.val.toNat < wordBound ∧ 'Z'.val.toNat < wordBound ∧ '9'.val.toNat < wordBound ∧
      '_'.toNat < wordBound := by decide
  have hcode : c.toNat = c.val.toNat := rfl
  rcases h with ((⟨-, h⟩ | ⟨-, h⟩) | ⟨-, h⟩) | rfl
  · omega
  · omega
  · have hnine : (57 : UInt32).toNat = 57 := rfl
    have hlimit : wordBound = 128 := rfl
    omega
  · exact hbound.2.2.2

/-- What begins a name of the grammar may begin an identifier, code by code. -/
theorem identifierStart_of_code : ∀ code < wordBound, isNameStart (Char.ofNat code) = true →
    Unicode.identifierStart.covers code = true := by
  decide +kernel

/-- What a name of the grammar goes on with may stand in an identifier, code by code. -/
theorem identifierContinue_of_code : ∀ code < wordBound, isNameRest (Char.ofNat code) = true →
    Unicode.identifierContinue.covers code = true := by
  decide +kernel

/-- A word is an identifier. -/
theorem isIdentifier_of_isName {name : String} (h : IsName name.toList) : Text.isIdentifier name = true := by
  obtain ⟨c, rest, hname, hstart, hrest⟩ := h
  refine Text.isIdentifier_iff.2 ⟨c, rest, hname, ?_, fun d hd => ?_⟩
  · refine identifierStart_of_code c.toNat (toNat_lt_wordBound (isNameRest_of_isNameStart hstart)) ?_
    rwa [Char.ofNat_toNat]
  · refine identifierContinue_of_code d.toNat (toNat_lt_wordBound (hrest d hd)) ?_
    rw [Char.ofNat_toNat]
    exact hrest d hd

/-- The names among the tokens that a text is cut into are words. -/
theorem Cut.isName {text : List Char} {tokens : List Token} (h : Cut text tokens) {name : String}
    (hname : .name name ∈ tokens) : IsName name.toList := by
  induction h with
  | nil => exact absurd hname (by simp)
  | ignore _ _ ih => exact ih hname
  | @token terminal lexeme rest tokens hlexeme _ ih =>
    rcases List.mem_cons.1 hname with hsame | hname
    · obtain rfl : terminal = .name := by
        have hterminal := congrArg Token.terminal hsame
        rwa [Terminal.terminal_token, eq_comm] at hterminal
      obtain rfl : name = String.ofList lexeme := Token.name.inj hsame
      rw [String.toList_ofList]
      exact (name?_append_eq_left_iff.1 hlexeme).1
    · exact ih hname

end Grammar

/-! ## Declarations with the namespaces around them -/

namespace Syntax

open Grammar Text

mutual

/-- The declarations of a member, each with the names of the namespaces around it. -/
def Member.placed (outer : List String) : Member → List (List String × Declaration)
  | .type declaration => [(outer, declaration)]
  | .space path _ members _ => placedMembers (outer ++ path.names) members

/-- The declarations of members, each with the names of the namespaces around it. -/
def placedMembers (outer : List String) : List Member → List (List String × Declaration)
  | [] => []
  | member :: rest => member.placed outer ++ placedMembers outer rest

end

/-- The declarations of a file, each with the names of the namespaces around it. -/
def File.placed (file : File) : List (List String × Declaration) :=
  match file.body with
  | .plain members => placedMembers [] members
  | .space path _ members => placedMembers path.names members

/-- The names of a path are among its tokens. -/
theorem mem_tokens_of_mem_names {path : QualifiedName} {name : String} (h : name ∈ path.names) :
    .name name ∈ path.tokens := by
  rw [QualifiedName.tokens, List.mem_append, List.mem_cons]
  rcases List.mem_cons.1 h with rfl | htail
  · exact Or.inr (Or.inl rfl)
  · refine Or.inr (Or.inr (List.mem_flatMap.2 ⟨name, htail, ?_⟩))
    simp

/-- All names among tokens are identifiers. -/
def HasIdentifiers (tokens : List Token) : Prop :=
  ∀ name, .name name ∈ tokens → isIdentifier name = true

/-- Tokens have identifiers for names if more tokens do. -/
theorem HasIdentifiers.mono {tokens more : List Token} (h : HasIdentifiers more) (hsubset : tokens ⊆ more) :
    HasIdentifiers tokens :=
  fun name hname => h name (hsubset hname)

/-- The names of a path are identifiers if those among its tokens are. -/
theorem HasIdentifiers.names {path : QualifiedName} (h : HasIdentifiers path.tokens) :
    ∀ name ∈ path.names, isIdentifier name = true :=
  fun name hname => h name (mem_tokens_of_mem_names hname)

/-- The name of a declaration is an identifier if those among its tokens are. -/
theorem HasIdentifiers.declaration {declaration : Declaration} (h : HasIdentifiers declaration.tokens) :
    isIdentifier declaration.name = true :=
  h _ (List.mem_append_right _ List.mem_cons_self)

/-- The tokens of the name of a namespace are among those of the namespace. -/
theorem subset_space_path (path : QualifiedName) (usings : List Using) (members : List Member) (semicolon : Bool) :
    path.tokens ⊆ (Member.space path usings members semicolon).tokens := by
  intro token htoken
  refine List.mem_append_left _ (List.mem_append_left _ (List.mem_append_left _ ?_))
  exact List.mem_cons_of_mem _ htoken

/-- The tokens of the members of a namespace are among those of the namespace. -/
theorem subset_space_members (path : QualifiedName) (usings : List Using) (members : List Member) (semicolon : Bool) :
    membersTokens members ⊆ (Member.space path usings members semicolon).tokens := fun _ htoken =>
  List.mem_append_left _ (List.mem_append_right _ (List.mem_append_right _ htoken))

/-- The names that a text is cut into are identifiers. -/
theorem HasIdentifiers.of_cut {text : List Char} {tokens : List Token} (h : Cut text tokens) : HasIdentifiers tokens :=
  fun _ hname => isIdentifier_of_isName (h.isName hname)

/-- The namespace inside a namespace has the names of both. -/
theorem qualify_path {outer : List String} (houter : ∀ name ∈ outer, isIdentifier name = true) (path : QualifiedName) :
    qualify (joinDots outer) path.text = joinDots (outer ++ path.names) :=
  qualify_joinDots (fun name hname => ne_empty_of_isIdentifier (houter name hname)) (List.cons_ne_nil _ _)

end Syntax

namespace Scan

open Grammar Syntax Text

mutual

/-- A member has the declarations that are placed in it, the names of their namespaces joined by points. -/
theorem flattenMember_eq {outer : List String} (houter : ∀ name ∈ outer, isIdentifier name = true) :
    (member : Member) → HasIdentifiers member.tokens →
      flattenMember (joinDots outer) member
        = (member.placed outer).map fun (names, declaration) => (joinDots names, declaration)
  | .type _, _ => rfl
  | .space path usings members semicolon, h => by
    have hpath := (h.mono (subset_space_path path usings members semicolon)).names
    rw [flattenMember, Member.placed, qualify_path houter]
    refine flattenMembers_eq ?_ members (h.mono (subset_space_members path usings members semicolon))
    exact List.forall_mem_append.2 ⟨houter, hpath⟩

/-- Members have the declarations that are placed in them, the names of their namespaces joined by points. -/
theorem flattenMembers_eq {outer : List String} (houter : ∀ name ∈ outer, isIdentifier name = true) :
    (members : List Member) → HasIdentifiers (membersTokens members) →
      flattenMembers (joinDots outer) members
        = (placedMembers outer members).map fun (names, declaration) => (joinDots names, declaration)
  | [], _ => rfl
  | member :: rest, h => by
    have hfirst := flattenMember_eq houter member (h.mono (List.subset_append_left _ _))
    have hrest := flattenMembers_eq houter rest (h.mono (List.subset_append_right _ _))
    rw [flattenMembers, placedMembers, List.map_append, hfirst, hrest]

end

mutual

/-- What is placed in a member has identifiers for names. -/
theorem isIdentifier_of_mem_placed {outer names : List String} {declaration : Declaration}
    (houter : ∀ name ∈ outer, isIdentifier name = true) :
    (member : Member) → HasIdentifiers member.tokens → (names, declaration) ∈ member.placed outer →
      (∀ name ∈ names, isIdentifier name = true) ∧ isIdentifier declaration.name = true
  | .type _, h, hmem => by
    obtain ⟨rfl, rfl⟩ := Prod.mk.inj (List.mem_singleton.1 hmem)
    exact ⟨houter, h.declaration⟩
  | .space path usings members semicolon, h, hmem => by
    have hpath := (h.mono (subset_space_path path usings members semicolon)).names
    refine isIdentifier_of_mem_placedMembers ?_ members (h.mono (subset_space_members path usings members semicolon)) hmem
    exact List.forall_mem_append.2 ⟨houter, hpath⟩

/-- What is placed in members has identifiers for names. -/
theorem isIdentifier_of_mem_placedMembers {outer names : List String} {declaration : Declaration}
    (houter : ∀ name ∈ outer, isIdentifier name = true) :
    (members : List Member) → HasIdentifiers (membersTokens members) → (names, declaration) ∈ placedMembers outer members →
      (∀ name ∈ names, isIdentifier name = true) ∧ isIdentifier declaration.name = true
  | [], _, hmem => absurd hmem (by simp [placedMembers])
  | member :: rest, h, hmem => by
    rcases List.mem_append.1 hmem with hmem | hmem
    · exact isIdentifier_of_mem_placed houter member (h.mono (List.subset_append_left _ _)) hmem
    · exact isIdentifier_of_mem_placedMembers houter rest (h.mono (List.subset_append_right _ _)) hmem

end

variable {file : File}

/-- The tokens of the name of a file's namespace are among those of the file. -/
theorem subset_body_path {path : QualifiedName} {usings : List Using} {members : List Member}
    (h : file.body = .space path usings members) : path.tokens ⊆ file.tokens := by
  intro token htoken
  rw [File.tokens, h]
  exact List.mem_append_right _ (List.mem_append_left _ (List.mem_append_left _ (List.mem_cons_of_mem _ htoken)))

/-- The tokens of the members of a file's namespace are among those of the file. -/
theorem subset_body_members {path : QualifiedName} {usings : List Using} {members : List Member}
    (h : file.body = .space path usings members) : membersTokens members ⊆ file.tokens := by
  intro token htoken
  rw [File.tokens, h]
  exact List.mem_append_right _ (List.mem_append_right _ (List.mem_append_right _ htoken))

/-- The tokens of the members of a file without a namespace are among those of the file. -/
theorem subset_plain_members {members : List Member} (h : file.body = .plain members) :
    membersTokens members ⊆ file.tokens := by
  intro token htoken
  rw [File.tokens, h]
  exact List.mem_append_right _ htoken

/-- The namespace of a declaration is the names around it with points between them. -/
theorem flatten_eq (h : HasIdentifiers file.tokens) :
    flatten file = file.placed.map fun (names, declaration) => (joinDots names, declaration) := by
  rw [flatten, File.placed]
  cases hbody : file.body with
  | plain members =>
    have houter : ∀ name ∈ ([] : List String), isIdentifier name = true := by simp
    exact flattenMembers_eq houter members (h.mono (subset_plain_members hbody))
  | space path usings members =>
    have houter := (h.mono (subset_body_path hbody)).names
    exact flattenMembers_eq houter members (h.mono (subset_body_members hbody))

/-- What the declarations of a file say, each in the namespace of the names around it. -/
theorem declarationsOf_eq_ok_iff (h : HasIdentifiers file.tokens) {declarations : List TypeDeclaration} :
    declarationsOf file = .ok declarations ↔
      List.Forall₂ (fun placed said => declarationOf (joinDots placed.1) placed.2 = .ok said) file.placed declarations := by
  rw [declarationsOf, flatten_eq h, mapM_eq_ok_iff, List.forall₂_map_left_iff]

/-- All names in and around the declarations of a file are identifiers. -/
theorem isIdentifier_of_mem_filePlaced (h : HasIdentifiers file.tokens) {names : List String} {declaration : Declaration}
    (hmem : (names, declaration) ∈ file.placed) :
    (∀ name ∈ names, isIdentifier name = true) ∧ isIdentifier declaration.name = true := by
  rw [File.placed] at hmem
  cases hbody : file.body with
  | plain members =>
    rw [hbody] at hmem
    have houter : ∀ name ∈ ([] : List String), isIdentifier name = true := by simp
    exact isIdentifier_of_mem_placedMembers houter members (h.mono (subset_plain_members hbody)) hmem
  | space path usings members =>
    rw [hbody] at hmem
    have houter := (h.mono (subset_body_path hbody)).names
    exact isIdentifier_of_mem_placedMembers houter members (h.mono (subset_body_members hbody)) hmem

/-- What a declaration says has its name and namespace. -/
theorem of_declarationOf {space : String} {declaration : Declaration} {said : TypeDeclaration}
    (h : declarationOf space declaration = .ok said) :
    said.name = declaration.name ∧ said.space = space ∧ said.kind = kindOf declaration.kind ∧
      said.modifiers = declaration.modifiers ∧ declaration.attributes.mapM attributeOf = .ok said.attributes := by
  rw [declarationOf] at h
  obtain ⟨attributes, hattributes, rfl⟩ := map_eq_ok_iff.1 h
  exact ⟨rfl, rfl, rfl, rfl, hattributes⟩

/-- Scanned declarations are what the declarations of a file say that the text is cut into. -/
theorem of_scan {text : List Char} {declarations : List TypeDeclaration} (h : scan text = .ok declarations) :
    ∃ file : File, Cut text file.tokens ∧ declarationsOf file = .ok declarations := by
  obtain ⟨found, hread, hdistinct⟩ := bind_eq_ok_iff.1 h
  obtain ⟨rfl, -⟩ := distinct_eq_ok_iff.1 hdistinct
  rw [readDeclarations] at hread
  split at hread
  · exact absurd hread (by simp)
  · rename_i file hfile
    exact ⟨file, cut_of_readFile hfile, mapError_eq_ok_iff.1 hread⟩

/-- What the declarations of a file say has identifiers for names and dotted paths for namespaces. -/
theorem isIdentifier_of_declarationsOf (h : HasIdentifiers file.tokens) {declarations : List TypeDeclaration}
    (hsaid : declarationsOf file = .ok declarations) :
    ∀ declaration ∈ declarations, isIdentifier declaration.name = true ∧ isDottedPath declaration.space = true := by
  intro said hmem
  obtain ⟨⟨names, declaration⟩, hplaced, hdeclaration⟩ :=
    exists_of_mem_right ((declarationsOf_eq_ok_iff h).1 hsaid) hmem
  obtain ⟨houter, hname⟩ := isIdentifier_of_mem_filePlaced h hplaced
  obtain ⟨hsaidName, hsaidSpace, -⟩ := of_declarationOf hdeclaration
  rw [hsaidName, hsaidSpace]
  exact ⟨hname, isDottedPath_joinDots houter⟩

/-- A scanned declaration has an identifier for its name and a dotted path for its namespace. -/
theorem isIdentifier_of_scan {text : List Char} {declarations : List TypeDeclaration} (h : scan text = .ok declarations) :
    ∀ declaration ∈ declarations, isIdentifier declaration.name = true ∧ isDottedPath declaration.space = true := by
  obtain ⟨file, hcut, hsaid⟩ := of_scan h
  exact isIdentifier_of_declarationsOf (HasIdentifiers.of_cut hcut) hsaid

end Scan

end TypedId
