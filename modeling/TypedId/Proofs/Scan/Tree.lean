import TypedId.Scan.Declarations

/-!
# Derivation trees

The tree of a file has a node for each use of a rule of the grammar and its tokens for leaves. Members, bodies and the
values of arguments have no nodes of their own: what they consist of belongs to the node around them. The leaves of a
tree, from left to right, are the tokens that the text is cut into (`File.leaves_tree`).
-/

set_option autoImplicit false

namespace TypedId.Syntax

open Grammar

/-- The rules that have nodes; each kind of type has a rule of its own. -/
inductive Rule where
  | file
  | fileSpace
  | blockSpace
  | directive
  | declaration
  | modifier
  | kind (kind : TypeKind)
  | attributeSection
  | attribute
  | argumentList
  | argument
  | cast
  | member
  | integer
  | string
  | path
  deriving DecidableEq, Repr

/-- A derivation tree. -/
inductive Tree where
  | leaf (token : Token)
  | node (rule : Rule) (children : List Tree)

mutual

/-- The tokens of a tree, from left to right. -/
def Tree.leaves : Tree → List Token
  | .leaf token => [token]
  | .node _ children => leavesOf children

/-- The tokens of trees, from left to right. -/
def leavesOf : List Tree → List Token
  | [] => []
  | tree :: rest => tree.leaves ++ leavesOf rest

end

/-- Tokens as leaves. -/
def leafTrees (tokens : List Token) : List Tree :=
  tokens.map .leaf

/-! ## Trees of the parts of a file -/

/-- The tree of a qualified name. -/
def QualifiedName.tree (path : QualifiedName) : Tree :=
  .node .path (leafTrees path.tokens)

/-- The tree of an operand. -/
def Operand.tree : Operand → Tree
  | .member path => .node .member [path.tree]
  | .integer text => .node .integer [.leaf (.integer text)]
  | .string text => .node .string [.leaf (.string text)]

/-- Casts around the tree of what they apply to, the first of them outermost. -/
def castTree (casts : List QualifiedName) (operand : Tree) : Tree :=
  casts.foldr (fun path inner => .node .cast [.leaf (.mark .leftParen), path.tree, .leaf (.mark .rightParen), inner]) operand

/-- The tree of an argument. -/
def Argument.tree (argument : Argument) : Tree :=
  .node .argument
    (leafTrees ((argument.label.map Label.tokens).getD []) ++ [castTree argument.casts argument.operand.tree])

/-- Trees with commas between them. -/
def commaTrees : List Tree → List Tree
  | [] => []
  | item :: rest => item :: rest.flatMap fun tree => [.leaf (.mark .comma), tree]

/-- The tree of a list of arguments. -/
def argumentsTree (arguments : List Argument) : Tree :=
  .node .argumentList
    (.leaf (.mark .leftParen) :: commaTrees (arguments.map Argument.tree) ++ [.leaf (.mark .rightParen)])

/-- The tree of an attribute. -/
def Attribute.tree (attr : Attribute) : Tree :=
  .node .attribute (attr.name.tree :: (attr.arguments.map argumentsTree).toList)

/-- The tree of an attribute section. -/
def Section.tree (part : Section) : Tree :=
  .node .attributeSection (.leaf (.mark .leftSquare) :: commaTrees (part.attributes.map Attribute.tree)
    ++ leafTrees (if part.trailingComma then [.mark .comma] else []) ++ [.leaf (.mark .rightSquare)])

/-- The tree of a modifier. -/
def modifierTree (word : String) : Tree :=
  .node .modifier [.leaf (.modifier word)]

/-- The tree of a declaration. -/
def Declaration.tree (declaration : Declaration) : Tree :=
  .node .declaration (declaration.sections.map Section.tree ++ declaration.modifiers.map modifierTree
    ++ .node (.kind (Scan.kindOf declaration.kind)) (leafTrees declaration.kind.tokens)
    :: .leaf (.name declaration.name) :: leafTrees declaration.body.tokens)

/-- The tree of a using directive. -/
def Using.tree (directive : Using) : Tree :=
  .node .directive (leafTrees (usingTokens directive.isGlobal directive.isStatic directive.newName)
    ++ [directive.target.tree, .leaf (.mark .semicolon)])

mutual

/-- The tree of a member. -/
def Member.tree : Member → Tree
  | .type declaration => declaration.tree
  | .space path usings members semicolon =>
    .node .blockSpace (.leaf (.mark .namespaceWord) :: path.tree :: .leaf (.mark .leftBrace) :: usings.map Using.tree
      ++ memberTrees members ++ .leaf (.mark .rightBrace) :: leafTrees (semicolonTokens semicolon))

/-- The trees of members. -/
def memberTrees : List Member → List Tree
  | [] => []
  | member :: rest => member.tree :: memberTrees rest

end

/-- The trees of what follows the leading directives. -/
def FileBody.trees : FileBody → List Tree
  | .plain members => memberTrees members
  | .space path usings members =>
    [.node .fileSpace (.leaf (.mark .namespaceWord) :: path.tree :: .leaf (.mark .semicolon) :: usings.map Using.tree
      ++ memberTrees members)]

/-- The tree of a file. -/
def File.tree (file : File) : Tree :=
  .node .file (file.usings.map Using.tree ++ file.body.trees)

/-! ## Leaves -/

/-- Trees one after the other have their tokens one after the other. -/
@[simp] theorem leavesOf_append (first second : List Tree) :
    leavesOf (first ++ second) = leavesOf first ++ leavesOf second := by
  induction first with
  | nil => rfl
  | cons tree rest ih => rw [List.cons_append, leavesOf, leavesOf, ih, List.append_assoc]

/-- Tokens that are leaves are the tokens of their trees. -/
@[simp] theorem leavesOf_leafTrees (tokens : List Token) : leavesOf (leafTrees tokens) = tokens := by
  induction tokens with
  | nil => rfl
  | cons token rest ih => exact congrArg (token :: ·) ih

/-- Trees of items have the tokens of each item. -/
theorem leavesOf_map {α : Type} (items : List α) (treeOf : α → Tree) :
    leavesOf (items.map treeOf) = items.flatMap fun item => (treeOf item).leaves := by
  induction items with
  | nil => rfl
  | cons item rest ih => rw [List.map_cons, leavesOf, ih, List.flatMap_cons]

/-- Trees with commas between them have their tokens with commas between them. -/
theorem leavesOf_commaTrees (trees : List Tree) : leavesOf (commaTrees trees) = commaTokens (trees.map Tree.leaves) := by
  cases trees with
  | nil => rfl
  | cons tree rest =>
    have hrest : leavesOf (rest.flatMap fun tree => [.leaf (.mark .comma), tree])
        = (rest.map Tree.leaves).flatMap (Token.mark .comma :: ·) := by
      induction rest with
      | nil => rfl
      | cons next rest ih => simp [leavesOf, Tree.leaves, ih]
    rw [commaTrees, leavesOf, hrest, List.map_cons, commaTokens]

/-- The tree of a path has its tokens. -/
@[simp] theorem QualifiedName.leaves_tree (path : QualifiedName) : path.tree.leaves = path.tokens :=
  leavesOf_leafTrees path.tokens

/-- The tree of a cast has the tokens of the casts in front of those of the operand. -/
theorem leaves_castTree (casts : List QualifiedName) (operand : Tree) :
    (castTree casts operand).leaves = castTokens casts ++ operand.leaves := by
  induction casts with
  | nil => rfl
  | cons path rest ih =>
    have hstep : castTree (path :: rest) operand
        = .node .cast [.leaf (.mark .leftParen), path.tree, .leaf (.mark .rightParen), castTree rest operand] := rfl
    simp [hstep, Tree.leaves, leavesOf, ih, castTokens]

/-- The tree of an operand has its tokens. -/
@[simp] theorem Operand.leaves_tree (operand : Operand) : operand.tree.leaves = operand.tokens := by
  cases operand <;> simp [Operand.tree, Tree.leaves, leavesOf, Operand.tokens]

/-- The tree of an argument has its tokens. -/
theorem Argument.leaves_tree (argument : Argument) : argument.tree.leaves = argument.tokens := by
  simp [Argument.tree, Tree.leaves, leavesOf, leaves_castTree, Argument.tokens, leadTokens]

/-- The tree of arguments has their tokens. -/
theorem leaves_argumentsTree (arguments : List Argument) : (argumentsTree arguments).leaves = argumentTokens arguments := by
  have hleaves : Tree.leaves ∘ Argument.tree = Argument.tokens := funext Argument.leaves_tree
  simp [argumentsTree, Tree.leaves, leavesOf, leavesOf_commaTrees, argumentTokens, hleaves]

/-- The tree of an attribute has its tokens. -/
theorem Attribute.leaves_tree (attr : Attribute) : attr.tree.leaves = attr.tokens := by
  obtain ⟨name, - | arguments⟩ := attr <;>
    simp [Attribute.tree, Tree.leaves, leavesOf, leaves_argumentsTree, Attribute.tokens]

/-- The tree of a section has its tokens. -/
theorem Section.leaves_tree (part : Section) : part.tree.leaves = part.tokens := by
  have hleaves : Tree.leaves ∘ Attribute.tree = Attribute.tokens := funext Attribute.leaves_tree
  simp [Section.tree, Tree.leaves, leavesOf, leavesOf_commaTrees, Section.tokens, hleaves]

/-- The tree of a declaration has its tokens. -/
theorem Declaration.leaves_tree (declaration : Declaration) : declaration.tree.leaves = declaration.tokens := by
  have hmodifiers : declaration.modifiers.flatMap (fun word => (modifierTree word).leaves)
      = declaration.modifiers.map .modifier := by
    rw [List.map_eq_flatMap]
    rfl
  simp [Declaration.tree, Tree.leaves, leavesOf, leavesOf_map, Section.leaves_tree, hmodifiers, Declaration.tokens,
    Front.tokens]

/-- The tree of a using directive has its tokens. -/
theorem Using.leaves_tree (directive : Using) : directive.tree.leaves = directive.tokens := by
  simp [Using.tree, Tree.leaves, leavesOf, Using.tokens]

/-- The trees of using directives have their tokens. -/
theorem leavesOf_usings (usings : List Using) : leavesOf (usings.map Using.tree) = usingsTokens usings := by
  simp [leavesOf_map, Using.leaves_tree, usingsTokens]

mutual

/-- The tree of a member has its tokens. -/
theorem Member.leaves_tree : (member : Member) → member.tree.leaves = member.tokens
  | .type declaration => declaration.leaves_tree
  | .space path usings members semicolon => by
    have hmembers := leavesOf_memberTrees members
    simp [Member.tree, Tree.leaves, leavesOf, hmembers, leavesOf_usings, Member.tokens, openingTokens]

/-- The trees of members have their tokens. -/
theorem leavesOf_memberTrees : (members : List Member) → leavesOf (memberTrees members) = membersTokens members
  | [] => rfl
  | member :: rest => by
    rw [memberTrees, leavesOf, member.leaves_tree, leavesOf_memberTrees rest, membersTokens]

end

/-- The leaves of the tree of a file are its tokens. -/
theorem File.leaves_tree (file : File) : file.tree.leaves = file.tokens := by
  obtain ⟨usings, members | ⟨path, inner, members⟩⟩ := file
  · simp [File.tree, FileBody.trees, Tree.leaves, leavesOf_usings, leavesOf_memberTrees, File.tokens, FileBody.tokens]
  · simp [File.tree, FileBody.trees, Tree.leaves, leavesOf, leavesOf_usings, leavesOf_memberTrees, File.tokens,
      FileBody.tokens, headerTokens]

end TypedId.Syntax
