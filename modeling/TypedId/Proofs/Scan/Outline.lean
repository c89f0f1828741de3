import TypedId.Proofs.Syntax.Run
import TypedId.Scan.Declarations

/-!
# Outlines of partly read files

The outline of a partly read file is what counts for the declarations in the end: where it stands, the namespaces
that are open, what the declarations behind it say and the part that is being read. It leaves out directives, except
for the place inside the one that is being read, and even there it forgets whether the directive is static where that
no longer matters. Readings with the same outline take the same terminals (`Reading.isSome_next?_of_outline`), keep
the same outline when they read the same token (`Reading.outline_next?`) and end with the same declarations
(`Reading.declarationsOf_of_outline`).
-/

set_option autoImplicit false

namespace TypedId.Syntax

open Grammar

/-! ## Places without the word `static` -/

/-- The place in a directive without the word `static`, where no second one could follow anyway. -/
def UsingPlace.unstatic : UsingPlace → UsingPlace
  | .global => .global
  | .target isStatic aliased path => .target (isStatic && path = .start && !aliased) aliased path

/-- A place inside a file with the one in a directive without the word `static`. -/
def FocusPlace.unstatic : FocusPlace → FocusPlace
  | .inUsing part => .inUsing part.unstatic
  | place => place

/-- A place with the one in a directive without the word `static`. -/
def Place.unstatic (place : Place) : Place :=
  { place with focus := place.focus.unstatic }

/-- A name does not begin again. -/
theorem PathPlace.ne_start_of_next? {place next : PathPlace} {terminal : Terminal}
    (h : place.next? terminal = some next) : next ≠ .start := by
  rintro rfl
  unfold next? at h
  split at h <;> simp at h

/-- The word `static` makes no difference for what follows in a directive. -/
theorem UsingPlace.unstatic_next? (place : UsingPlace) (terminal : Terminal) :
    (place.unstatic.next? terminal).map unstatic = (place.next? terminal).map unstatic := by
  cases place with
  | global => rfl
  | target isStatic aliased path =>
    have hpath : (path.next? terminal).map (unstatic ∘ target (isStatic && path = .start && !aliased) aliased)
        = (path.next? terminal).map (unstatic ∘ target isStatic aliased) := by
      cases hnext : path.next? terminal with
      | none => rfl
      | some path' => simp [unstatic, PathPlace.ne_start_of_next? hnext]
    cases terminal with
    | mark word =>
      cases word
      case staticWord => cases isStatic <;> cases aliased <;> cases path <;> rfl
      case equal => cases isStatic <;> cases aliased <;> cases path <;> rfl
      all_goals simpa [next?, unstatic] using hpath
    | _ => simpa [next?, unstatic] using hpath

/-- The word `static` makes no difference for the end of a directive. -/
theorem UsingPlace.unstatic_ends (place : UsingPlace) (terminal : Terminal) :
    place.unstatic.ends terminal = place.ends terminal := by
  cases place with
  | global => rfl
  | target isStatic aliased path =>
    cases terminal with
    | mark word => cases word <;> rfl
    | _ => rfl

/-- The word `static` makes no difference for what follows. -/
theorem Place.unstatic_next? (place : Place) (terminal : Terminal) :
    (place.unstatic.next? terminal).map unstatic = (place.next? terminal).map unstatic := by
  obtain ⟨depth, filed, empty, focus⟩ := place
  cases focus with
  | inUsing part =>
    have hnext := UsingPlace.unstatic_next? part terminal
    have hends := UsingPlace.unstatic_ends part terminal
    simp only [next?, unstatic, FocusPlace.unstatic, hends]
    cases hpart : part.next? terminal with
    | none =>
      rw [hpart, Option.map_none, Option.map_eq_none_iff] at hnext
      rw [hnext]
    | some part' =>
      rw [hpart, Option.map_some, Option.map_eq_some_iff] at hnext
      obtain ⟨part'', hpart'', heq⟩ := hnext
      simp [hpart'', unstatic, FocusPlace.unstatic, heq]
  | _ => rfl

/-- Places that differ in the word `static` alone take the same terminals. -/
theorem Place.isSome_next?_of_unstatic {place other : Place} (h : place.unstatic = other.unstatic)
    (terminal : Terminal) : (place.next? terminal).isSome = (other.next? terminal).isSome := by
  rw [← Option.isSome_map (f := unstatic), ← unstatic_next?, h, unstatic_next?, Option.isSome_map]

end TypedId.Syntax

namespace TypedId.Scan

open Syntax

/-! ## What declarations say -/

/-- What declarations in their namespaces say. -/
def said (found : List (String × Declaration)) : List (Except Text.NumeralError TypeDeclaration) :=
  found.map fun (space, declaration) => declarationOf space declaration

/-- What the declarations of members say. -/
def saidIn (space : String) (members : List Member) : List (Except Text.NumeralError TypeDeclaration) :=
  said (flattenMembers space members)

/-- The declarations of members behind members. -/
theorem flattenMembers_append (space : String) (members more : List Member) :
    flattenMembers space (members ++ more) = flattenMembers space members ++ flattenMembers space more := by
  induction members with
  | nil => rfl
  | cons member members ih => simp [flattenMembers, ih]

/-- One more member adds what its declarations say. -/
theorem saidIn_append (space : String) (members : List Member) (member : Member) :
    saidIn space (members ++ [member]) = saidIn space members ++ said (flattenMember space member) := by
  simp [saidIn, said, flattenMembers_append, flattenMembers]

/-- A semicolon behind a block adds nothing to what it says. -/
theorem said_toMember (space : String) (block : Block) (semicolon : Bool) :
    said (flattenMember space (block.toMember semicolon)) = said (flattenMember space (block.toMember false)) := by
  cases block <;> rfl

/-- The declarations of a file are what its members say. -/
theorem declarationsOf_eq (file : File) : declarationsOf file = (said (flatten file)).mapM id := by
  simp [declarationsOf, said, List.mapM_map]

end TypedId.Scan

namespace TypedId.Syntax

open Grammar Scan

/-! ## Outlines -/

/-- The name of the innermost of the given namespaces, inside the namespace of the file. -/
def spaceOf (base : String) : List QualifiedName → String
  | [] => base
  | name :: names => Text.qualify (spaceOf base names) name.text

/-- What the declarations around the innermost namespace say. -/
def saidAround (base : String) : List (Scope × QualifiedName) → List (Except Text.NumeralError TypeDeclaration)
  | [] => []
  | (scope, _) :: outer => saidAround base outer ++ saidIn (spaceOf base (outer.map Prod.snd)) scope.members

/-- The members of the innermost namespace. -/
def Focus.members : Focus → List Member
  | .between scope => scope.members
  | .afterBrace scope block => scope.members ++ [block.toMember false]
  | .inUsing _ _ => []
  | .inNamespace scope _ => scope.members
  | .inDeclaration scope _ => scope.members

/-- The name of a namespace that is being read. -/
def Focus.path? : Focus → Option PathReading
  | .inNamespace _ path => some path
  | _ => none

/-- The declaration that is being read. -/
def Focus.declaration? : Focus → Option DeclarationReading
  | .inDeclaration _ declaration => some declaration
  | _ => none

/-- Focuses that read the same part. -/
inductive Focus.Alike : Focus → Focus → Prop where
  | between (scope scope' : Scope) : Alike (.between scope) (.between scope')
  | afterBrace (scope scope' : Scope) (block block' : Block) :
    Alike (.afterBrace scope block) (.afterBrace scope' block')
  | inUsing (usings usings' : List Using) (directive directive' : UsingReading) :
    Alike (.inUsing usings directive) (.inUsing usings' directive')
  | inNamespace (scope scope' : Scope) (path : PathReading) : Alike (.inNamespace scope path) (.inNamespace scope' path)
  | inDeclaration (scope scope' : Scope) (declaration : DeclarationReading) :
    Alike (.inDeclaration scope declaration) (.inDeclaration scope' declaration)

/-- Focuses at the same place with the same names and declarations read the same part. -/
theorem Focus.alike_of_place {focus focus' : Focus} (hplace : focus.place.unstatic = focus'.place.unstatic)
    (hpath : focus.path? = focus'.path?) (hdeclaration : focus.declaration? = focus'.declaration?) :
    focus.Alike focus' := by
  cases focus <;> cases focus' <;> simp [Focus.place, FocusPlace.unstatic] at hplace
  · exact .between _ _
  · exact .afterBrace _ _ _ _
  · exact .inUsing _ _ _ _
  · cases hpath
    exact .inNamespace _ _ _
  · cases hdeclaration
    exact .inDeclaration _ _ _

/-- What has been read that counts for the declarations: the namespace of the file, those that stand open, the
innermost given first, what the declarations say, and the part that is being read. -/
structure Contents where
  base : String
  names : List QualifiedName
  found : List (Except Text.NumeralError TypeDeclaration)
  path : Option PathReading
  declaration : Option DeclarationReading

/-- What counts of a partly read file for its declarations. -/
structure Outline extends Contents where
  place : Place

namespace Reading

/-- The namespace declared for the whole file. -/
def base (reading : Reading) : String :=
  (reading.header.map fun header => header.2.text).getD ""

/-- The innermost namespace. -/
def space (reading : Reading) : String :=
  spaceOf reading.base (reading.outer.map Prod.snd)

/-- What the declarations in front of a list of members and those of the members say. -/
def saidBehind (reading : Reading) (members : List Member) : List (Except Text.NumeralError TypeDeclaration) :=
  saidAround reading.base reading.outer ++ saidIn reading.space members

/-- The contents of a partly read file. -/
def contents (reading : Reading) : Contents where
  base := reading.base
  names := reading.outer.map Prod.snd
  found := reading.saidBehind reading.focus.members
  path := reading.focus.path?
  declaration := reading.focus.declaration?

/-- The outline of a partly read file. -/
def outline (reading : Reading) : Outline :=
  ⟨reading.contents, reading.place.unstatic⟩

variable {reading other next after : Reading} {token : Token}

/-- Readings with the same outline take the same terminals. -/
theorem isSome_next?_of_outline (h : reading.outline = other.outline) (terminal : Terminal) :
    (reading.place.next? terminal).isSome = (other.place.next? terminal).isSome :=
  Place.isSome_next?_of_unstatic (congrArg Outline.place h) terminal

/-- Readings with the same outline stand at the same place behind the same terminal. -/
theorem unstatic_place_of_next? (h : reading.outline = other.outline) {token' : Token}
    (hterminal : token.terminal = token'.terminal) (hnext : reading.next? token = some next)
    (hafter : other.next? token' = some after) : next.place.unstatic = after.place.unstatic := by
  have hplace : reading.place.unstatic = other.place.unstatic := congrArg Outline.place h
  have hleft := Reading.place_next? reading token
  have hright := Reading.place_next? other token'
  rw [hnext, Option.map_some] at hleft
  rw [hafter, Option.map_some, ← hterminal] at hright
  have hmap := Place.unstatic_next? reading.place token.terminal
  rw [hplace, Place.unstatic_next?, ← hleft, ← hright] at hmap
  exact (Option.some.inj hmap).symm

/-- Readings with the same namespaces and declarations agree in what they say. -/
structure Agree (reading other : Reading) (members members' : List Member) : Prop where
  base : reading.base = other.base
  names : reading.outer.map Prod.snd = other.outer.map Prod.snd
  found : reading.saidBehind members = other.saidBehind members'

variable {members members' : List Member}

/-- Readings that agree are inside the same namespace. -/
theorem Agree.space (h : reading.Agree other members members') : reading.space = other.space := by
  rw [Reading.space, h.base, h.names, ← Reading.space]

/-- Readings that agree still do with further members that say the same. -/
theorem Agree.append (h : reading.Agree other members members') {member member' : Member}
    (hmember : said (flattenMember reading.space member) = said (flattenMember reading.space member')) :
    reading.Agree other (members ++ [member]) (members' ++ [member']) := by
  refine ⟨h.base, h.names, ?_⟩
  have hfound := h.found
  rw [saidBehind, saidBehind] at hfound ⊢
  rw [saidIn_append, saidIn_append, ← List.append_assoc, ← List.append_assoc, hfound, hmember, h.space]

/-- Readings that agree have the same contents with focuses that add the same. -/
theorem Agree.contents_focusOn (h : reading.Agree other members members') {focus focus' : Focus}
    (hmembers : focus.members = members) (hmembers' : focus'.members = members') (hpath : focus.path? = focus'.path?)
    (hdeclaration : focus.declaration? = focus'.declaration?) :
    (reading.focusOn focus).contents = (other.focusOn focus').contents := by
  subst hmembers hmembers'
  rw [contents, contents, Contents.mk.injEq]
  exact ⟨h.base, h.names, h.found, hpath, hdeclaration⟩

/-- The namespace around an open one says the same once that one is closed. -/
theorem saidBehind_close {header : Option (List Using × QualifiedName)} {outer : List (Scope × QualifiedName)}
    {around : Scope} {name : QualifiedName} {usings : List Using} {focus focus' : Focus} :
    (⟨header, outer, focus⟩ : Reading).saidBehind (around.members ++ [.space name usings members false])
      = (⟨header, (around, name) :: outer, focus'⟩ : Reading).saidBehind members := by
  rw [saidBehind, saidIn_append]
  simp [saidBehind, saidAround, space, spaceOf, base, flattenMember, saidIn]

/-- A namespace just opened says nothing yet. -/
theorem saidBehind_open {header : Option (List Using × QualifiedName)} {outer : List (Scope × QualifiedName)}
    {around : Scope} {name : QualifiedName} {focus focus' : Focus} :
    (⟨header, (around, name) :: outer, focus⟩ : Reading).saidBehind []
      = (⟨header, outer, focus'⟩ : Reading).saidBehind around.members := by
  simp [saidBehind, saidAround, space, base, saidIn, said, flattenMembers]

/-- A semicolon behind a block makes no difference for what is said. -/
theorem saidBehind_semicolon (reading : Reading) (members : List Member) (block : Block) :
    reading.saidBehind (members ++ [block.toMember true]) = reading.saidBehind (members ++ [block.toMember false]) := by
  rw [saidBehind, saidIn_append, said_toMember, ← saidIn_append, saidBehind]

/-- Readings that agree have the same contents behind the same token between members. -/
theorem Agree.contents_betweenNext? {scope scope' : Scope} (h : reading.Agree other scope.members scope'.members)
    (hnext : reading.betweenNext? scope token = some next) (hafter : other.betweenNext? scope' token = some after) :
    next.contents = after.contents := by
  unfold betweenNext? at hnext
  split at hnext
  · obtain ⟨header, outer, focus⟩ := reading
    obtain ⟨header', outer', focus'⟩ := other
    simp only [betweenNext?] at hafter
    cases outer with
    | nil => simp at hnext
    | cons pair outer =>
      cases outer' with
      | nil => simp at hafter
      | cons pair' outer' =>
        obtain ⟨around, name⟩ := pair
        obtain ⟨around', name'⟩ := pair'
        rw [← Option.some.inj hnext, ← Option.some.inj hafter, contents, contents, Contents.mk.injEq]
        obtain ⟨hbase, hnames, hfound⟩ := h
        rw [List.map_cons, List.map_cons, List.cons.injEq] at hnames
        refine ⟨hbase, hnames.2, ?_, rfl, rfl⟩
        exact saidBehind_close.trans (hfound.trans saidBehind_close.symm)
  · obtain ⟨hnil, hnext⟩ := Option.ite_none_right_eq_some.1 hnext
    simp only [betweenNext?] at hafter
    obtain ⟨hnil', hafter⟩ := Option.ite_none_right_eq_some.1 hafter
    rw [← Option.some.inj hnext, ← Option.some.inj hafter]
    exact h.contents_focusOn (List.isEmpty_iff.1 hnil).symm (List.isEmpty_iff.1 hnil').symm rfl rfl
  · obtain ⟨hnil, hnext⟩ := Option.ite_none_right_eq_some.1 hnext
    simp only [betweenNext?] at hafter
    obtain ⟨hnil', hafter⟩ := Option.ite_none_right_eq_some.1 hafter
    rw [← Option.some.inj hnext, ← Option.some.inj hafter]
    exact h.contents_focusOn (List.isEmpty_iff.1 hnil).symm (List.isEmpty_iff.1 hnil').symm rfl rfl
  · simp only [betweenNext?] at hafter
    rw [← Option.some.inj hnext, ← Option.some.inj hafter]
    exact h.contents_focusOn rfl rfl rfl rfl
  · obtain ⟨declaration, hdeclaration, rfl⟩ := Option.map_eq_some_iff.1 hnext
    rw [(betweenNext?_of_declaration hdeclaration other scope').2] at hafter
    rw [← Option.some.inj hafter]
    exact h.contents_focusOn rfl rfl rfl rfl

/-- Readings with the same outline read the same part. -/
theorem alike_of_outline (h : reading.outline = other.outline) : reading.focus.Alike other.focus :=
  Focus.alike_of_place (congrArg (fun outline => outline.place.focus) h) (congrArg (fun outline => outline.path) h)
    (congrArg (fun outline => outline.declaration) h)

/-- Readings with the same outline agree in what they say. -/
theorem agree_of_outline (h : reading.outline = other.outline) {focus focus' : Focus} (hfocus : reading.focus = focus)
    (hfocus' : other.focus = focus') : reading.Agree other focus.members focus'.members := by
  subst hfocus hfocus'
  exact ⟨congrArg (fun outline => outline.base) h, congrArg (fun outline => outline.names) h,
    congrArg (fun outline => outline.found) h⟩

/-- A directive adds nothing to the contents. -/
theorem contents_inUsing {usings : List Using} {directive : UsingReading} (hfocus : reading.focus = .inUsing usings directive)
    (hnext : reading.next? token = some next) : next.contents = (reading.focusOn (.inUsing usings directive)).contents := by
  simp only [next?, hfocus] at hnext
  split at hnext
  · rw [← Option.some.inj hnext]
    rfl
  · obtain ⟨whole, -, rfl⟩ := Option.map_eq_some_iff.1 hnext
    rfl

/-- Readings that agree have the same contents behind the same token in the name of a namespace. -/
theorem Agree.contents_namespaceNext? {scope scope' : Scope} {path : PathReading}
    (h : reading.Agree other scope.members scope'.members) (hnext : reading.namespaceNext? scope path token = some next)
    (hafter : other.namespaceNext? scope' path token = some after) : next.contents = after.contents := by
  unfold namespaceNext? at hnext
  split at hnext
  · obtain ⟨name, hname, rfl⟩ := Option.map_eq_some_iff.1 hnext
    simp only [namespaceNext?, hname, Option.map_some, Option.some.injEq] at hafter
    subst hafter
    rw [contents, contents, Contents.mk.injEq]
    refine ⟨h.base, congrArg (name :: ·) h.names, ?_, rfl, rfl⟩
    exact saidBehind_open.trans (h.found.trans saidBehind_open.symm)
  · obtain ⟨-, hnext⟩ := Option.ite_none_right_eq_some.1 hnext
    obtain ⟨name, hname, rfl⟩ := Option.map_eq_some_iff.1 hnext
    simp only [namespaceNext?, hname, Option.map_some] at hafter
    obtain ⟨-, hafter⟩ := Option.ite_none_right_eq_some.1 hafter
    rw [← Option.some.inj hafter]
    rfl
  · obtain ⟨path', hpath, rfl⟩ := Option.map_eq_some_iff.1 hnext
    have hnamespace : other.namespaceNext? scope' path token = some (other.focusOn (.inNamespace scope' path')) := by
      rcases PathReading.token_of_next? hpath with rfl | rfl | rfl | ⟨name, rfl⟩ <;> simp [namespaceNext?, hpath]
    rw [← Option.some.inj (hnamespace.symm.trans hafter)]
    exact h.contents_focusOn rfl rfl rfl rfl

/-- A complete declaration is the last member of its namespace. -/
theorem members_afterDeclaration (scope : Scope) (declaration : Declaration) :
    (Focus.afterDeclaration scope declaration).members = scope.members ++ [.type declaration] := by
  obtain ⟨front, kind, name, body⟩ := declaration
  unfold Focus.afterDeclaration
  split
  · rename_i hbody
    simp at hbody
    subst hbody
    rfl
  · rfl

/-- Behind a complete declaration nothing is being read. -/
theorem part_afterDeclaration (scope : Scope) (declaration : Declaration) :
    (Focus.afterDeclaration scope declaration).path? = none ∧
      (Focus.afterDeclaration scope declaration).declaration? = none := by
  unfold Focus.afterDeclaration
  split <;> exact ⟨rfl, rfl⟩

/-- Readings with the same outline have the same outline behind the same token. -/
theorem outline_next? (h : reading.outline = other.outline) (hnext : reading.next? token = some next)
    (hafter : other.next? token = some after) : next.outline = after.outline := by
  rw [outline, outline, Outline.mk.injEq]
  refine ⟨?_, unstatic_place_of_next? h rfl hnext hafter⟩
  have halike := alike_of_outline h
  have hagree := agree_of_outline h rfl rfl
  generalize hfocus : reading.focus = focus at halike hagree
  generalize hfocus' : other.focus = focus' at halike hagree
  cases halike with
  | between scope scope' =>
    simp only [next?, hfocus] at hnext
    simp only [next?, hfocus'] at hafter
    exact hagree.contents_betweenNext? hnext hafter
  | afterBrace scope scope' block block' =>
    simp only [next?, hfocus] at hnext
    simp only [next?, hfocus'] at hafter
    split at hnext
    · rename_i htoken
      rw [if_pos htoken] at hafter
      rw [← Option.some.inj hnext, ← Option.some.inj hafter]
      have hclosed : reading.Agree other (scope.members ++ [block.toMember true])
          (scope'.members ++ [block'.toMember true]) := by
        refine ⟨hagree.base, hagree.names, ?_⟩
        rw [saidBehind_semicolon, saidBehind_semicolon]
        exact hagree.found
      exact hclosed.contents_focusOn rfl rfl rfl rfl
    · rename_i htoken
      rw [if_neg htoken] at hafter
      exact Agree.contents_betweenNext? hagree hnext hafter
  | inUsing usings usings' directive directive' =>
    rw [contents_inUsing hfocus hnext, contents_inUsing hfocus' hafter]
    exact hagree.contents_focusOn rfl rfl rfl rfl
  | inNamespace scope scope' path =>
    simp only [next?, hfocus] at hnext
    simp only [next?, hfocus'] at hafter
    exact hagree.contents_namespaceNext? hnext hafter
  | inDeclaration scope scope' declaration =>
    simp only [next?, hfocus] at hnext
    simp only [next?, hfocus'] at hafter
    split at hnext
    · rename_i declaration' hdeclaration
      rw [hdeclaration] at hafter
      rw [← Option.some.inj hnext, ← Option.some.inj hafter]
      exact hagree.contents_focusOn rfl rfl rfl rfl
    · rename_i hdeclaration
      rw [hdeclaration] at hafter
      obtain ⟨whole, hwhole, rfl⟩ := Option.map_eq_some_iff.1 hnext
      rw [hwhole] at hafter
      rw [← Option.some.inj hafter]
      have hpart := part_afterDeclaration scope whole
      have hpart' := part_afterDeclaration scope' whole
      exact (hagree.append rfl).contents_focusOn (members_afterDeclaration scope whole)
        (members_afterDeclaration scope' whole) (hpart.1.trans hpart'.1.symm) (hpart.2.trans hpart'.2.symm)

/-- Where the word `static` may stand nothing has been read of the target. -/
theorem focus_of_target {focus : Focus} (h : focus.place.unstatic = .inUsing (.target false false .start)) :
    ∃ usings isGlobal, focus = .inUsing usings (.target isGlobal false none .start) := by
  cases focus with
  | inUsing usings directive =>
    cases directive with
    | global => simp [Focus.place, FocusPlace.unstatic, UsingReading.place, UsingPlace.unstatic] at h
    | target isGlobal isStatic newName path =>
      simp [Focus.place, FocusPlace.unstatic, UsingReading.place, UsingPlace.unstatic] at h
      obtain ⟨hstatic, rfl, hpath⟩ := h
      simp [hpath] at hstatic
      subst hstatic
      cases path <;> simp [PathReading.place] at hpath
      exact ⟨usings, isGlobal, rfl⟩
  | _ => simp [Focus.place, FocusPlace.unstatic] at h

/-- The word `static` and a name leave the same outline as a name alone. -/
theorem outline_static (h : reading.outline = other.outline)
    (hfocus : reading.place.focus = .inUsing (.target false false .start)) {static named last : Reading}
    {name name' : String} (hstatic : reading.next? (.mark .staticWord) = some static)
    (hnamed : static.next? (.name name) = some named) (hlast : other.next? (.name name') = some last) :
    named.outline = last.outline := by
  have hplace : reading.focus.place.unstatic = other.focus.place.unstatic :=
    congrArg (fun outline => outline.place.focus) h
  have hfirst : reading.focus.place.unstatic = .inUsing (.target false false .start) := by
    rw [show reading.focus.place = _ from hfocus]
    rfl
  obtain ⟨usings, isGlobal, hreading⟩ := focus_of_target hfirst
  obtain ⟨usings', isGlobal', hother⟩ := focus_of_target (hplace.symm.trans hfirst)
  simp only [next?, hreading, UsingReading.next?, Option.isSome_none, Bool.or_false, Bool.false_eq_true, if_false,
    Option.some.injEq] at hstatic
  subst hstatic
  simp only [next?, focusOn, UsingReading.next?, PathReading.next?, Option.map_some, Option.some.injEq] at hnamed
  simp only [next?, hother, UsingReading.next?, PathReading.next?, Option.map_some, Option.some.injEq] at hlast
  subst hnamed hlast
  have hagree := agree_of_outline h hreading hother
  rw [outline, outline, Outline.mk.injEq]
  refine ⟨hagree.contents_focusOn rfl rfl rfl rfl, ?_⟩
  have hdepth : reading.outer.length = other.outer.length := congrArg (fun outline => outline.place.depth) h
  have hfiled : reading.header.isSome = other.header.isSome := congrArg (fun outline => outline.place.filed) h
  simp [place, focusOn, Place.unstatic, hdepth, hfiled, Focus.isEmpty, Focus.place, FocusPlace.unstatic,
    UsingReading.place, UsingPlace.unstatic, PathReading.place]

/-- The declarations of a finished file are what has been said. -/
theorem declarationsOf_finish? {file : File} (h : reading.finish? = some file) :
    declarationsOf file = reading.contents.found.mapM id := by
  have htoFile (houter : reading.outer = []) (scope : Scope) :
      said (flatten (reading.toFile scope)) = reading.saidBehind scope.members := by
    obtain ⟨header, outer, focus⟩ := reading
    change outer = [] at houter
    subst houter
    cases header <;> rfl
  unfold finish? at h
  split at h
  · rename_i scope houter hfocus
    rw [← Option.some.inj h, declarationsOf_eq, htoFile houter, contents, hfocus, Focus.members]
  · rename_i scope block houter hfocus
    rw [← Option.some.inj h, declarationsOf_eq, htoFile houter, contents, hfocus, Focus.members, Scope.push]
  · simp at h

/-- Readings with the same outline end with the same declarations. -/
theorem declarationsOf_of_outline (h : reading.outline = other.outline) {file file' : File}
    (hfile : reading.finish? = some file) (hfile' : other.finish? = some file') :
    declarationsOf file = declarationsOf file' := by
  rw [declarationsOf_finish? hfile, declarationsOf_finish? hfile', show reading.contents = other.contents from
    congrArg Outline.toContents h]

end Reading

end TypedId.Syntax
