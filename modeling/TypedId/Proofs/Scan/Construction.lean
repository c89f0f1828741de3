import TypedId.Proofs.Scan.Conversion
import TypedId.Proofs.Scan.Tree

/-!
# Declarations made from trees

The declarations of a file may also be made from its tree, from the leaves upwards and from left to right: marks are
dropped, and every rule makes one part out of the parts below its node (`Rule.make`). A rule finds the parts that it needs
by their kinds, so it could find several where it wants one, or none where it needs one. `Makes` says of a tree that this
does not happen, and which part is made of it.
-/

set_option autoImplicit false

namespace TypedId.Scan

open Grammar Syntax Text

/-! ## Parts -/

/-- What is made of a token or of a node. -/
inductive Part where
  | token (token : Token)
  | path (text : String)
  | directive (target : String)
  | modifier (word : String)
  | kind (kind : TypeKind)
  | value (kind : ArgumentKind) (value : Json)
  | argument (argument : AttributeArgument)
  | arguments (arguments : List AttributeArgument)
  | attribute (attr : AttributeUse)
  | attributes (attributes : List AttributeUse)
  | declaration (declaration : TypeDeclaration)
  | space (name : String) (parts : List Part)
  | file (parts : List Part)

/-- Why a rule makes nothing: a literal is not converted, or it finds several parts where it wants one, or none where it
needs one. -/
inductive MakeError where
  | numeral (error : NumeralError)
  | several
  | missing

namespace Part

/-- A token that is a part. -/
def token? : Part → Option Token
  | .token found => some found
  | _ => none

/-- The text of a part that is a qualified name. -/
def path? : Part → Option String
  | .path found => some found
  | _ => none

/-- The word of a part that is a modifier. -/
def modifier? : Part → Option String
  | .modifier found => some found
  | _ => none

/-- A kind of type that is a part. -/
def kind? : Part → Option TypeKind
  | .kind found => some found
  | _ => none

/-- The value of an argument that is a part. -/
def value? : Part → Option (ArgumentKind × Json)
  | .value said json => some (said, json)
  | _ => none

/-- An argument that is a part. -/
def argument? : Part → Option AttributeArgument
  | .argument found => some found
  | _ => none

/-- A list of arguments that is a part. -/
def arguments? : Part → Option (List AttributeArgument)
  | .arguments found => some found
  | _ => none

/-- An attribute that is a part. -/
def attribute? : Part → Option AttributeUse
  | .attribute found => some found
  | _ => none

/-- The attributes of a part that is a section. -/
def attributes? : Part → Option (List AttributeUse)
  | .attributes found => some found
  | _ => none

/-- Whether a part is a using directive. -/
def isDirective : Part → Bool
  | .directive _ => true
  | _ => false

end Part

/-- The only part of a kind, if there is one. -/
def pick {α : Type} (select : Part → Option α) (parts : List Part) : Except MakeError (Option α) :=
  match parts.filterMap select with
  | [] => .ok none
  | [found] => .ok (some found)
  | _ => .error .several

/-- The only part of a kind. -/
def need {α : Type} (select : Part → Option α) (parts : List Part) : Except MakeError α :=
  (pick select parts).bind fun found =>
    match found with
    | some part => .ok part
    | none => .error .missing

/-- The first part, which is of a kind. -/
def needFirst {α : Type} (select : Part → Option α) (parts : List Part) : Except MakeError α :=
  match parts.head?.bind select with
  | some part => .ok part
  | none => .error .missing

/-- What the two rules for namespaces make of their parts. -/
def makeSpace (parts : List Part) : Except MakeError Part :=
  (need Part.path? parts).map fun name => .space name ((parts.drop 1).filter fun part => !part.isDirective)

end TypedId.Scan

namespace TypedId.Syntax

open Scan Text

/-- What a rule makes of the parts below its node. -/
def Rule.make : Rule → List Part → Except MakeError Part
  | .file, parts => .ok (.file (parts.filter fun part => !part.isDirective))
  | .fileSpace, parts => makeSpace parts
  | .blockSpace, parts => makeSpace parts
  | .directive, parts => (need Part.path? parts).map .directive
  | .declaration, parts =>
    (need Part.token? parts).bind fun name => (need Part.kind? parts).map fun kind =>
      .declaration ⟨name.text, "", kind, parts.filterMap Part.modifier?, (parts.filterMap Part.attributes?).flatten⟩
  | .modifier, parts => (needFirst Part.token? parts).map fun token => .modifier token.text
  | .kind stated, _ => .ok (.kind stated)
  | .attributeSection, parts => .ok (.attributes (parts.filterMap Part.attribute?))
  | .attribute, parts =>
    (pick Part.arguments? parts).bind fun arguments => (need Part.path? parts).map fun name =>
      .attribute ⟨name, arguments.getD []⟩
  | .argumentList, parts => .ok (.arguments (parts.filterMap Part.argument?))
  | .argument, parts =>
    (pick Part.token? parts).bind fun name => (need Part.value? parts).map fun said =>
      .argument ⟨name.map Grammar.Token.text, said.1, said.2⟩
  | .cast, parts => (need Part.value? parts).map fun said => .value said.1 said.2
  | .member, parts => (needFirst Part.path? parts).map fun name => .value .member (.ofString name)
  | .integer, parts => (needFirst Part.token? parts).bind fun token =>
    ((literalValue token.text).mapError .numeral).map fun number => .value .integer (.integer number)
  | .string, parts => (needFirst Part.token? parts).map fun token => .value .string (.ofString (unquoted token.text))
  | .path, parts => .ok (.path (joinDots ((parts.filterMap Part.token?).map Grammar.Token.text)))

mutual

/-- What is made of a tree: nothing of a mark, one part of any other token and of a node. -/
def Tree.make : Tree → Except MakeError (List Part)
  | .leaf (.mark _) => .ok []
  | .leaf token => .ok [.token token]
  | .node rule children => ((makeAll children).bind rule.make).map fun part => [part]

/-- What is made of trees, from left to right. -/
def makeAll : List Tree → Except MakeError (List Part)
  | [] => .ok []
  | tree :: rest => tree.make.bind fun parts => (makeAll rest).map (parts ++ ·)

end

end TypedId.Syntax

namespace TypedId.Scan

open Grammar Syntax Text

mutual

/-- The declarations of a part inside a namespace. -/
def Part.flatten (space : String) : Part → List TypeDeclaration
  | .declaration declaration => [{ declaration with space := space }]
  | .space name parts => flattenParts (qualify space name) parts
  | .file parts => flattenParts space parts
  | _ => []

/-- The declarations of parts inside a namespace. -/
def flattenParts (space : String) : List Part → List TypeDeclaration
  | [] => []
  | part :: rest => part.flatten space ++ flattenParts space rest

end

/-- The declarations that are made from the tree of a file. -/
def made (file : File) : Except MakeError (List TypeDeclaration) :=
  file.tree.make.map (flattenParts "")

/-! ## Lists of trees -/

variable {α : Type} {tree : Tree} {rest before trees behind : List Tree} {rule : Rule} {result : Except NumeralError α}
  {partOf : α → Part} {partsOf : α → List Part}

/-- Trees are made into the parts of a result, or a literal in them is refused as it is in the result. -/
def MakesAll (trees : List Tree) (result : Except NumeralError α) (partsOf : α → List Part) : Prop :=
  makeAll trees = (result.map partsOf).mapError .numeral

/-- A tree is made into the part of a result, or a literal in it is refused as it is in the result. -/
def Makes (tree : Tree) (result : Except NumeralError α) (partOf : α → Part) : Prop :=
  tree.make = (result.map fun value => [partOf value]).mapError .numeral

/-- Trees are made into parts if the first one and the others are. -/
theorem MakesAll.cons {others : Except NumeralError (List α)} (hfirst : Makes tree result partOf)
    (hothers : MakesAll rest others (List.map partOf)) :
    MakesAll (tree :: rest) (result.bind fun value => others.map (value :: ·)) (List.map partOf) := by
  rw [MakesAll, makeAll, hfirst, hothers]
  cases result <;> cases others <;> rfl

/-- Trees of items are made into parts if the tree of each item is. -/
theorem MakesAll.map {β : Type} {treeOf : β → Tree} {resultOf : β → Except NumeralError α}
    (h : ∀ item, Makes (treeOf item) (resultOf item) partOf) (items : List β) :
    MakesAll (items.map treeOf) (items.mapM resultOf) (List.map partOf) := by
  induction items with
  | nil => rfl
  | cons item rest ih =>
    rw [List.mapM_cons]
    exact MakesAll.cons (h item) ih

/-- A tree that is made into a part is so on its own in a list. -/
theorem Makes.single (h : Makes tree result partOf) : MakesAll [tree] result fun value => [partOf value] := by
  rw [MakesAll, makeAll, h]
  cases result <;> rfl

/-- Trees one after the other are made into their parts one after the other. -/
theorem makeAll_append (first second : List Tree) :
    makeAll (first ++ second) = (makeAll first).bind fun parts => (makeAll second).map (parts ++ ·) := by
  induction first with
  | nil => cases hsecond : makeAll second <;> simp [makeAll, Except.bind, Except.map, hsecond]
  | cons tree rest ih =>
    rw [List.cons_append, makeAll, makeAll, ih]
    cases tree.make <;> cases makeAll rest <;> cases makeAll second <;> simp [Except.bind, Except.map]

/-- Trees that are always made into parts may stand before others. -/
theorem MakesAll.prepend {parts : List Part} (hbefore : makeAll before = .ok parts)
    (h : MakesAll trees result partsOf) : MakesAll (before ++ trees) result fun value => parts ++ partsOf value := by
  rw [MakesAll, makeAll_append, hbefore, h]
  cases result <;> rfl

/-- Trees that are always made into parts may stand behind others. -/
theorem MakesAll.append {parts : List Part} (h : MakesAll trees result partsOf)
    (hbehind : makeAll behind = .ok parts) : MakesAll (trees ++ behind) result fun value => partsOf value ++ parts := by
  rw [MakesAll, makeAll_append, hbehind, h]
  cases result <;> rfl

/-- Commas make no parts. -/
theorem makeAll_commaTrees (trees : List Tree) : makeAll (commaTrees trees) = makeAll trees := by
  cases trees with
  | nil => rfl
  | cons tree rest =>
    -- Behind the first tree each has a comma in front, so the induction is on the others alone.
    have hrest : makeAll (rest.flatMap fun tree => [.leaf (.mark .comma), tree]) = makeAll rest := by
      induction rest with
      | nil => rfl
      | cons next rest ih =>
        rw [List.flatMap_cons, makeAll_append, ih]
        cases hnext : next.make <;> cases hrest : makeAll rest <;>
          simp [makeAll, Tree.make, Except.bind, Except.map, hnext, hrest]
    rw [commaTrees, makeAll, makeAll, hrest]

/-- The part that a token makes, unless it is a mark. -/
def tokenPart? : Token → Option Part
  | .mark _ => none
  | found => some (.token found)

/-- Tokens that are leaves are made into the parts that are kept of them. -/
theorem makeAll_leafTrees (tokens : List Token) : makeAll (leafTrees tokens) = .ok (tokens.filterMap tokenPart?) := by
  induction tokens with
  | nil => rfl
  | cons token rest ih =>
    rw [leafTrees, List.map_cons, makeAll, ← leafTrees, ih]
    cases token <;> rfl

/-- A node makes what its rule makes of the parts below it. -/
theorem Makes.node (h : MakesAll trees result partsOf)
    (hrule : ∀ value, result = .ok value → rule.make (partsOf value) = .ok (partOf value)) :
    Makes (.node rule trees) result partOf := by
  rw [Makes, Tree.make, h]
  cases result with
  | error error => rfl
  | ok value => simp [Except.map, Except.mapError, Except.bind, hrule]

/-! ## Selected parts -/

section

variable {β : Type} {select : Part → Option β} {parts : List Part} {found : β}

/-- Parts that are made of items are all selected, if the selection undoes the making. -/
theorem filterMap_made (select : Part → Option β) (make : β → Part) (h : ∀ item, select (make item) = some item)
    (items : List β) : (items.map make).filterMap select = items := by
  rw [List.filterMap_map, show select ∘ make = some from funext h, List.filterMap_some]

/-- Parts that are made of items are all left out, if the selection wants others. -/
theorem filterMap_others (select : Part → Option β) (make : α → Part) (h : ∀ item, select (make item) = none)
    (items : List α) : (items.map make).filterMap select = [] := by
  rw [List.filterMap_map, List.filterMap_eq_nil_iff]
  exact fun item _ => h item

/-- The only part of a kind is found. -/
theorem need_of_filterMap (h : parts.filterMap select = [found]) : need select parts = .ok found := by
  rw [need, pick, h]
  rfl

end

end TypedId.Scan
