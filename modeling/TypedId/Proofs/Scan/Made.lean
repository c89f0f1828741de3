import TypedId.Proofs.Scan.Construction

/-!
# Declarations made from the tree of a file

On the tree of a file every rule finds the parts that it needs. So the declarations that are made from it are those that
the file has, and only an integer literal can be refused (`made_eq`).
-/

set_option autoImplicit false

namespace TypedId.Scan

open Grammar Syntax Text

variable {α : Type} {trees : List Tree} {result : Except NumeralError α} {partsOf : α → List Part}

/-! ## Attributes -/

/-- A path is made into its text. -/
theorem makes_path (path : QualifiedName) : Makes path.tree (.ok path.text) .path := by
  have hroot : (rootTokens path.rooted).filterMap tokenPart? = [] := by cases path.rooted <;> rfl
  have htail : (path.tail.flatMap fun name => [Token.mark .dot, .name name]).filterMap tokenPart?
      = path.tail.map fun name => .token (.name name) := by
    induction path.tail with
    | nil => rfl
    | cons name rest ih => rw [List.flatMap_cons, List.filterMap_append, ih]; rfl
  have hnames : path.tokens.filterMap tokenPart? = path.names.map fun name => .token (.name name) := by
    rw [QualifiedName.tokens, List.filterMap_append, hroot, List.filterMap_cons, htail]
    rfl
  have htexts : ((path.names.map fun name => Part.token (.name name)).filterMap Part.token?).map Token.text
      = path.names := by
    rw [List.filterMap_map, List.map_filterMap]
    exact List.filterMap_some
  have hmake : Rule.path.make (path.names.map fun name => .token (.name name)) = .ok (.path path.text) := by
    rw [Rule.make, htexts]
    rfl
  rw [Makes, QualifiedName.tree, Tree.make, makeAll_leafTrees, hnames]
  exact congrArg (Except.map fun part => [part]) hmake

/-- Marks around a qualified name make no parts. -/
theorem makeAll_marked (first last : Mark) (path : QualifiedName) :
    makeAll [.leaf (.mark first), path.tree, .leaf (.mark last)] = .ok [.path path.text] := by
  rw [makeAll, makeAll, makes_path]
  rfl

/-- The part that says the value of an argument. -/
def valuePart (said : AttributeArgument) : Part :=
  .value said.kind said.value

/-- An operand is made into the value of the argument. -/
theorem makes_operand (argument : Argument) : Makes argument.operand.tree (argumentOf argument) valuePart := by
  obtain ⟨label, casts, operand⟩ := argument
  cases operand with
  | member path =>
    rw [Makes, Operand.tree, Tree.make, makeAll, makes_path]
    rfl
  | string text => rfl
  | integer text =>
    have hmake : Tree.make (.node .integer [.leaf (.integer text)])
        = (((literalValue text).mapError .numeral).map fun number => Part.value .integer (.integer number)).map
            fun part => [part] := rfl
    have hsaid : argumentOf ⟨label, casts, .integer text⟩
        = (literalValue text).map fun value => ⟨label.map Label.name, .integer, .integer value⟩ := rfl
    rw [Makes, Operand.tree, hmake, hsaid]
    cases literalValue text <;> rfl

/-- Casts make no difference. -/
theorem makes_castTree (argument : Argument) (casts : List QualifiedName) :
    Makes (castTree casts argument.operand.tree) (argumentOf argument) valuePart := by
  induction casts with
  | nil => exact makes_operand argument
  | cons path rest ih =>
    exact Makes.node (ih.single.prepend (makeAll_marked .leftParen .rightParen path)) fun said _ => rfl

/-- An argument is made into what it says. -/
theorem makes_argument (argument : Argument) : Makes argument.tree (argumentOf argument) .argument := by
  have hlabel : ((argument.label.map Label.tokens).getD []).filterMap tokenPart?
      = (argument.label.map fun label => Part.token (.name label.name)).toList := by
    cases argument.label with
    | none => rfl
    | some label =>
      obtain ⟨name, sign⟩ := label
      cases sign <;> rfl
  have hbefore := (makeAll_leafTrees _).trans (congrArg Except.ok hlabel)
  refine Makes.node ((makes_castTree argument argument.casts).single.prepend hbefore) fun said hsaid => ?_
  obtain ⟨name, kind, value⟩ := said
  obtain rfl : name = _ := name_of_argumentOf hsaid
  cases argument.label <;> rfl

/-- Arguments in brackets are made into what each of them says. -/
theorem makes_argumentsTree (arguments : List Argument) :
    Makes (argumentsTree arguments) (arguments.mapM argumentOf) .arguments := by
  have harguments : MakesAll (commaTrees (arguments.map Argument.tree)) (arguments.mapM argumentOf)
      (List.map .argument) := (makeAll_commaTrees _).trans (MakesAll.map makes_argument arguments)
  have hleft : makeAll [.leaf (.mark .leftParen)] = .ok [] := rfl
  have hright : makeAll [.leaf (.mark .rightParen)] = .ok [] := rfl
  refine Makes.node ((harguments.prepend hleft).append hright) fun said _ => ?_
  rw [List.append_nil, List.nil_append, Rule.make, filterMap_made Part.argument? .argument fun _ => rfl]

/-- An attribute is made into what it says. -/
theorem makes_attribute (attr : Attribute) : Makes attr.tree (attributeOf attr) .attribute := by
  obtain ⟨name, - | arguments⟩ := attr
  · rw [Makes, Attribute.tree, Tree.make, makeAll, makes_path]
    rfl
  · have hname : makeAll [name.tree] = .ok [.path name.text] := (makes_path name).single
    have hnode : Makes (.node .attribute ([name.tree] ++ [argumentsTree arguments])) (arguments.mapM argumentOf)
        fun said => .attribute ⟨name.text, said⟩ :=
      Makes.node ((makes_argumentsTree arguments).single.prepend hname) fun said _ => rfl
    rw [Makes, attributeOf, map_map]
    exact hnode

/-- A section is made into what its attributes say. -/
theorem makes_section (part : Section) : Makes part.tree (part.attributes.mapM attributeOf) .attributes := by
  have hattributes : MakesAll (commaTrees (part.attributes.map Attribute.tree)) (part.attributes.mapM attributeOf)
      (List.map .attribute) := (makeAll_commaTrees _).trans (MakesAll.map makes_attribute part.attributes)
  have hleft : makeAll [.leaf (.mark .leftSquare)] = .ok [] := rfl
  have hcomma : makeAll (leafTrees (if part.trailingComma then [.mark .comma] else [])) = .ok [] := by
    cases part.trailingComma <;> rfl
  have hright : makeAll [.leaf (.mark .rightSquare)] = .ok [] := rfl
  refine Makes.node (((hattributes.prepend hleft).append hcomma).append hright) fun said _ => ?_
  rw [List.append_nil, List.append_nil, List.nil_append, Rule.make,
    filterMap_made Part.attribute? .attribute fun _ => rfl]

/-! ## Declarations -/

/-- Modifiers are made into their words. -/
theorem makeAll_modifiers (words : List String) : makeAll (words.map modifierTree) = .ok (words.map .modifier) := by
  induction words with
  | nil => rfl
  | cons word rest ih => rw [List.map_cons, makeAll, ih]; rfl

/-- The words for a kind are made into the kind. -/
theorem makes_kind (kind : KindWords) :
    Makes (.node (.kind (kindOf kind)) (leafTrees kind.tokens)) (.ok (kindOf kind)) .kind := by
  cases kind <;> rfl

/-- The parts below the node of a declaration. -/
def declarationParts (sections : List (List AttributeUse)) (words : List String) (kind : TypeKind) (name : String) :
    List Part :=
  sections.map .attributes ++ words.map .modifier ++ [.kind kind, .token (.name name)]

/-- The parts of a declaration make one in no namespace. -/
theorem make_declarationParts (sections : List (List AttributeUse)) (words : List String) (kind : TypeKind)
    (name : String) : Rule.declaration.make (declarationParts sections words kind name)
      = .ok (.declaration ⟨name, "", kind, words, sections.flatten⟩) := by
  have hselect {β : Type} (select : Part → Option β) : (declarationParts sections words kind name).filterMap select
      = (sections.map Part.attributes).filterMap select ++ (words.map Part.modifier).filterMap select
        ++ [Part.kind kind, Part.token (.name name)].filterMap select := by
    rw [declarationParts, List.filterMap_append, List.filterMap_append]
  -- Of what a selection finds in sections, modifiers and the rest, at most one is not empty.
  have hname := hselect Part.token?
  have hkind := hselect Part.kind?
  have hwords := hselect Part.modifier?
  have hsections := hselect Part.attributes?
  rw [filterMap_others _ Part.attributes fun _ => rfl, filterMap_others _ Part.modifier fun _ => rfl] at hname hkind
  rw [filterMap_others _ Part.attributes fun _ => rfl, filterMap_made Part.modifier? .modifier fun _ => rfl] at hwords
  rw [filterMap_made Part.attributes? .attributes fun _ => rfl, filterMap_others _ Part.modifier fun _ => rfl]
    at hsections
  rw [Rule.make, need_of_filterMap hname, need_of_filterMap hkind, hwords, hsections]
  simp [Except.bind, Except.map, Part.modifier?, Part.attributes?, Token.text]

/-- A declaration is made into what it says in no namespace. -/
theorem makes_declaration (declaration : Declaration) :
    Makes declaration.tree (declarationOf "" declaration) .declaration := by
  obtain ⟨⟨sections, modifiers⟩, kind, name, body⟩ := declaration
  have hbody : body.tokens.filterMap tokenPart? = [] := by
    obtain - | (- | -) := body <;> rfl
  have hbehind : makeAll (.node (.kind (kindOf kind)) (leafTrees kind.tokens)
      :: .leaf (.name name) :: leafTrees body.tokens) = .ok [.kind (kindOf kind), .token (.name name)] := by
    rw [makeAll, makeAll, makeAll_leafTrees, hbody, makes_kind]
    rfl
  have hchildren := ((MakesAll.map makes_section sections).append (makeAll_modifiers modifiers)).append hbehind
  have hnode := Makes.node hchildren fun said _ => make_declarationParts said modifiers (kindOf kind) name
  rw [Makes, declarationOf, Declaration.attributes, mapM_flatMap, map_map, map_map]
  exact hnode

/-- A using directive is made into the text of its target. -/
theorem makes_using (directive : Using) : Makes directive.tree (.ok directive.target.text) .directive := by
  obtain ⟨isGlobal, isStatic, newName, target⟩ := directive
  have hbefore : makeAll (leafTrees (usingTokens isGlobal isStatic newName))
      = .ok ((newName.map fun name => Part.token (.name name)).toList) := by
    rw [makeAll_leafTrees]
    cases isGlobal <;> cases isStatic <;> cases newName <;> rfl
  have htarget : MakesAll [target.tree, .leaf (.mark .semicolon)] (.ok target.text) fun text => [.path text] := by
    rw [MakesAll, makeAll, makes_path]
    rfl
  refine Makes.node (htarget.prepend hbefore) fun text _ => ?_
  cases newName <;> rfl

/-- Directives may stand before other trees. -/
theorem MakesAll.behind_usings (usings : List Using) (h : MakesAll trees result partsOf) :
    MakesAll (usings.map Using.tree ++ trees) result fun value =>
      (usings.map fun directive => directive.target.text).map .directive ++ partsOf value := by
  refine h.prepend ?_
  induction usings with
  | nil => rfl
  | cons directive rest ih => rw [List.map_cons, makeAll, makes_using, ih]; rfl

/-! ## Members -/

mutual

/-- The part that a member is made into. -/
def memberPart : Member → Except NumeralError Part
  | .type declaration => (declarationOf "" declaration).map .declaration
  | .space path _ members _ => (memberParts members).map (.space path.text)

/-- The parts that members are made into. -/
def memberParts : List Member → Except NumeralError (List Part)
  | [] => .ok []
  | member :: rest => (memberPart member).bind fun part => (memberParts rest).map (part :: ·)

end

/-- Whether a part is a declaration or a namespace. -/
def Part.isMember : Part → Bool
  | .declaration _ => true
  | .space _ _ => true
  | _ => false

/-- A member is made into a part for members. -/
theorem isMember_of_memberPart {member : Member} {part : Part} (h : memberPart member = .ok part) :
    part.isMember = true := by
  cases member with
  | type declaration =>
    rw [memberPart] at h
    obtain ⟨said, -, rfl⟩ := map_eq_ok_iff.1 h
    rfl
  | space path usings members semicolon =>
    rw [memberPart] at h
    obtain ⟨parts, -, rfl⟩ := map_eq_ok_iff.1 h
    rfl

/-- Members are made into parts for members. -/
theorem isMember_of_memberParts {members : List Member} {parts : List Part} (h : memberParts members = .ok parts) :
    ∀ part ∈ parts, part.isMember = true := by
  induction members generalizing parts with
  | nil =>
    obtain rfl := Except.ok.inj h
    simp
  | cons member rest ih =>
    rw [memberParts] at h
    obtain ⟨part, hpart, hrest⟩ := bind_eq_ok_iff.1 h
    obtain ⟨others, hothers, rfl⟩ := map_eq_ok_iff.1 hrest
    exact List.forall_mem_cons.2 ⟨isMember_of_memberPart hpart, ih hothers⟩

/-- A part for members is neither a path nor a using directive. -/
theorem of_isMember {part : Part} (h : part.isMember = true) : part.path? = none ∧ part.isDirective = false := by
  cases part with
  | declaration said => exact ⟨rfl, rfl⟩
  | space name parts => exact ⟨rfl, rfl⟩
  | _ => exact absurd h (by simp [Part.isMember])

/-- The rules for namespaces and files drop the directives and keep the members. -/
theorem filter_members {texts : List String} {parts : List Part} (h : ∀ part ∈ parts, part.isMember = true) :
    (texts.map Part.directive ++ parts).filter (fun part => !part.isDirective) = parts := by
  have htexts : (texts.map Part.directive).filter (fun part => !part.isDirective) = [] := by
    simp [Part.isDirective]
  have hparts : parts.filter (fun part => !part.isDirective) = parts := by
    refine List.filter_eq_self.2 fun part hpart => ?_
    rw [(of_isMember (h part hpart)).2, Bool.not_false]
  rw [List.filter_append, htexts, hparts, List.nil_append]

/-- A namespace is made of its name and its members, and its using directives are left out. -/
theorem makeSpace_members {name : String} {texts : List String} {parts : List Part}
    (h : ∀ part ∈ parts, part.isMember = true) :
    makeSpace (.path name :: (texts.map .directive ++ parts)) = .ok (.space name parts) := by
  have htexts : (texts.map Part.directive).filterMap Part.path? = [] :=
    filterMap_others _ _ (fun _ => rfl) _
  have hparts : parts.filterMap Part.path? = [] :=
    List.filterMap_eq_nil_iff.2 fun part hpart => (of_isMember (h part hpart)).1
  have hname : (Part.path name :: (texts.map .directive ++ parts)).filterMap Part.path? = [name] := by
    rw [List.filterMap_cons, List.filterMap_append, htexts, hparts]
    rfl
  rw [makeSpace, need_of_filterMap hname, List.drop_one, List.tail_cons, filter_members h]
  rfl

mutual

/-- A member is made into its part. -/
theorem makes_member : (member : Member) → Makes member.tree (memberPart member) id
  | .type declaration => by
    rw [Makes, memberPart, map_map]
    exact makes_declaration declaration
  | .space path usings members semicolon => by
    have hopening := makeAll_marked .namespaceWord .leftBrace path
    have hclosing : makeAll (.leaf (.mark .rightBrace) :: leafTrees (semicolonTokens semicolon)) = .ok [] := by
      cases semicolon <;> rfl
    have hchildren := (((makes_members members).behind_usings usings).prepend hopening).append hclosing
    have hnode : Makes (.node .blockSpace _) (memberParts members) (.space path.text) :=
      Makes.node hchildren fun parts hparts => by
        rw [List.append_nil]
        exact makeSpace_members (isMember_of_memberParts hparts)
    rw [Makes, memberPart, map_map]
    exact hnode

/-- Members are made into their parts. -/
theorem makes_members : (members : List Member) → MakesAll (memberTrees members) (memberParts members) id
  | [] => rfl
  | member :: rest => by
    have hrest : MakesAll (memberTrees rest) (memberParts rest) (List.map id) := by
      rw [List.map_id_fun]
      exact makes_members rest
    have hmembers := MakesAll.cons (makes_member member) hrest
    rw [List.map_id_fun] at hmembers
    exact hmembers

end

/-! ## Files -/

mutual

/-- The part of a member has the declarations of the member. -/
theorem flatten_memberPart (space : String) : (member : Member) → (memberPart member).map (Part.flatten space)
    = (flattenMember space member).mapM fun placed => declarationOf placed.1 placed.2
  | .type declaration => by
    -- A declaration is made without a namespace, and gets its own only here.
    have hone : [(space, declaration)].mapM (fun placed => declarationOf placed.1 placed.2)
        = (declarationOf space declaration).map fun said => [said] := by
      rw [List.mapM_cons]
      cases declarationOf space declaration <;> rfl
    rw [memberPart, flattenMember, hone, declarationOf, declarationOf, map_map, map_map, map_map]
    rfl
  | .space path usings members semicolon => by
    rw [memberPart, flattenMember, map_map, ← flatten_memberParts (qualify space path.text) members]
    rfl

/-- The parts of members have the declarations of the members. -/
theorem flatten_memberParts (space : String) : (members : List Member) → (memberParts members).map (flattenParts space)
    = (flattenMembers space members).mapM fun placed => declarationOf placed.1 placed.2
  | [] => rfl
  | member :: rest => by
    rw [memberParts, flattenMembers, List.mapM_append, ← flatten_memberPart space member,
      ← flatten_memberParts space rest]
    cases memberPart member with
    | error error => rfl
    | ok part => cases memberParts rest <;> rfl

end

/-- A file without a namespace of its own is made of its members. -/
theorem makes_file_plain (usings : List Using) (members : List Member) :
    Makes (File.tree ⟨usings, .plain members⟩) (memberParts members) .file := by
  refine Makes.node ((makes_members members).behind_usings usings) fun parts hparts => ?_
  rw [Rule.make, id, filter_members (isMember_of_memberParts hparts)]

/-- A file with a namespace of its own is made of that namespace. -/
theorem makes_file_space (usings inner : List Using) (path : QualifiedName) (members : List Member) :
    Makes (File.tree ⟨usings, .space path inner members⟩) (memberParts members) fun parts =>
      .file [.space path.text parts] := by
  have hheader := makeAll_marked .namespaceWord .semicolon path
  have hspace : Makes (.node .fileSpace _) (memberParts members) (.space path.text) :=
    Makes.node (((makes_members members).behind_usings inner).prepend hheader) fun parts hparts =>
      makeSpace_members (isMember_of_memberParts hparts)
  refine Makes.node (hspace.single.behind_usings usings) fun parts _ => ?_
  rw [Rule.make, filter_members (by simp [Part.isMember])]

/-- The declarations made from the tree of a file are those that the file has, and only a literal can be refused. -/
theorem made_eq (file : File) : made file = (declarationsOf file).mapError .numeral := by
  obtain ⟨usings, members | ⟨path, inner, members⟩⟩ := file
  · rw [made, makes_file_plain, declarationsOf, flatten, ← flatten_memberParts]
    cases memberParts members with
    | error error => rfl
    | ok parts => exact congrArg Except.ok (List.append_nil _)
  · have hspace : qualify "" path.text = path.text := rfl
    rw [made, makes_file_space, declarationsOf, flatten, ← flatten_memberParts]
    cases memberParts members with
    | error error => rfl
    | ok parts =>
      simp [Except.map, Except.mapError, flattenParts, Part.flatten, hspace]

end TypedId.Scan
