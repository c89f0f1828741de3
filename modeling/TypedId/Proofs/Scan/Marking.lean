import Mathlib.Data.List.Nodup
import TypedId.Proofs.Backing
import TypedId.Proofs.Extraction
import TypedId.Proofs.Scan.Layout
import TypedId.Proofs.Scan.Literal
import TypedId.Proofs.Scan.Naming
import TypedId.Proofs.Scan.Repetition

/-!
# Marked declarations of a file

On the syntax of a file, `Declaration.Chooses` says which kind the first marker of a declaration chooses: the one that
its argument for the kind denotes, by a member or an integer behind any casts, or the default without such an argument.
A layout of a file with one marked struct yields the descriptor of that struct with the chosen kind
(`descriptors_of_layout`).
-/

set_option autoImplicit false

namespace TypedId

open Text Grammar

namespace Syntax

/-! ## Markers in the syntax -/

/-- An attribute carries one of the names of the marker, qualified or not. -/
def Attribute.IsMarker (attr : Attribute) : Prop :=
  attr.name.names.getLast? = some "StrongId" ∨ attr.name.names.getLast? = some "StrongIdAttribute"

instance (attr : Attribute) : Decidable attr.IsMarker :=
  inferInstanceAs (Decidable (_ ∨ _))

/-- A declaration is of a plain struct and carries the marker. -/
def Declaration.IsMarked (declaration : Declaration) : Prop :=
  declaration.kind = .structType ∧ ∃ attr ∈ declaration.attributes, attr.IsMarker

instance (declaration : Declaration) : Decidable declaration.IsMarked :=
  inferInstanceAs (Decidable (_ ∧ _))

/-- The first item of a list with a property. -/
def IsFirst {α : Type} (p : α → Prop) (items : List α) (item : α) : Prop :=
  ∃ before behind, items = before ++ item :: behind ∧ (∀ other ∈ before, ¬ p other) ∧ p item

/-- An argument is for the kind: it has no label, or the one for the kind. -/
def Argument.IsForKind (argument : Argument) : Prop :=
  ∀ label ∈ argument.label, label.name = "backingType"

/-- An operand denotes a kind: a member by its last name, an integer by the number that it writes. -/
inductive Operand.Denotes : Operand → BackingKind → Prop where
  | member {path : QualifiedName} {kind : BackingKind} :
    path.names.getLast? = some kind.markerName → Denotes (.member path) kind
  | integer {text : String} {kind : BackingKind} :
    Scan.Writes text.toList kind.number → Denotes (.integer text) kind

/-- The arguments of a marker choose a kind. -/
inductive ChooseKind (arguments : List Argument) : BackingKind → Prop where
  | omitted : (∀ argument ∈ arguments, ¬ argument.IsForKind) → ChooseKind arguments .guid
  | given {before behind : List Argument} {argument : Argument} {kind : BackingKind} :
    arguments = before ++ argument :: behind → (∀ other ∈ before, ¬ other.IsForKind) → argument.IsForKind →
      argument.operand.Denotes kind → ChooseKind arguments kind

/-- The first marker of a declaration chooses a kind. -/
def Declaration.Chooses (declaration : Declaration) (kind : BackingKind) : Prop :=
  ∃ before marker behind, declaration.attributes = before ++ marker :: behind ∧ (∀ other ∈ before, ¬ other.IsMarker) ∧
    marker.IsMarker ∧ ChooseKind (marker.arguments.getD []) kind

end Syntax

namespace Scan

open Syntax

/-! ## Arguments -/

/-- The last name of a qualified name is behind the last point of its text. -/
theorem lastSegment_text {path : QualifiedName} (h : HasIdentifiers path.tokens) {last : String}
    (hlast : path.names.getLast? = some last) : lastSegment path.text = last := by
  have hmem : last ∈ path.names := List.mem_of_getLast? hlast
  exact lastSegment_joinDots hlast (point_notMem_of_isIdentifier (h.names last hmem))

/-- An argument states the backing exactly if it is for the kind. -/
theorem statesBacking_iff {argument : Argument} {said : AttributeArgument} (h : argumentOf argument = .ok said) :
    said.statesBacking = true ↔ argument.IsForKind := by
  rw [AttributeArgument.statesBacking, name_of_argumentOf h, Argument.IsForKind]
  cases argument.label with
  | none => simp
  | some label => simp [backingArgumentName]

/-- A kind is found by its name in the marker. -/
theorem ofMarkerName?_markerName (kind : BackingKind) : BackingKind.ofMarkerName? kind.markerName = some kind := by
  cases kind <;> rfl

/-- An argument whose operand denotes a kind chooses it, whatever its casts. -/
theorem backingKind_of_denotes {argument : Argument} {said : AttributeArgument} {kind : BackingKind}
    (h : argumentOf argument = .ok said) (hnames : HasIdentifiers argument.tokens)
    (hdenotes : argument.operand.Denotes kind) : said.backingKind = .ok kind := by
  obtain ⟨label, casts, operand⟩ := argument
  cases hdenotes with
  | @member path _ hlast =>
    obtain rfl := Except.ok.inj h
    have hpath : HasIdentifiers path.tokens := hnames.mono (List.subset_append_right _ _)
    rw [AttributeArgument.backingKind]
    simp only [Json.ofString, lastPart?, lastSegment_text hpath hlast, Option.bind_some, ofMarkerName?_markerName,
      Option.getD_some]
  | @integer text _ hwrites =>
    have hvalue : literalValue text = .ok kind.number := by
      simpa using literalValue_of_writes hwrites
    obtain ⟨value, hread, rfl⟩ := map_eq_ok_iff.1 h
    obtain rfl := Except.ok.inj (hread.symm.trans hvalue)
    exact BackingKind.ofValue_of_spells .number

/-- What a list says about its parts. -/
theorem find?_of_forall₂ {α β : Type} {R : α → β → Prop} {p : β → Bool} {before behind : List α} {item : α}
    {values : List β} (h : List.Forall₂ R (before ++ item :: behind) values)
    (hbefore : ∀ other ∈ before, ∀ value, R other value → p value = false) (hitem : ∀ value, R item value → p value = true) :
    ∃ value, R item value ∧ values.find? p = some value := by
  induction before generalizing values with
  | nil =>
    obtain ⟨value, rest, hvalue, -, rfl⟩ := List.forall₂_cons_left_iff.1 h
    exact ⟨value, hvalue, List.find?_cons_of_pos (hitem value hvalue)⟩
  | cons other before ih =>
    obtain ⟨first, rest, hfirst, hrest, rfl⟩ := List.forall₂_cons_left_iff.1 h
    obtain ⟨hother, hbefore⟩ := List.forall_mem_cons.1 hbefore
    obtain ⟨value, hvalue, hfound⟩ := ih hrest hbefore
    exact ⟨value, hvalue, by rw [List.find?_cons_of_neg (by simp [hother first hfirst]), hfound]⟩

/-! ## Attributes -/

/-- What an attribute says is what its name and its arguments say. -/
theorem of_attributeOf {attr : Attribute} {said : AttributeUse} (h : attributeOf attr = .ok said) :
    said.name = attr.name.text ∧
      List.Forall₂ (fun argument value => argumentOf argument = .ok value) (attr.arguments.getD []) said.arguments := by
  obtain ⟨arguments, harguments, rfl⟩ := map_eq_ok_iff.1 h
  exact ⟨rfl, mapM_eq_ok_iff.1 harguments⟩

/-- The tokens of an argument are among those of its attribute. -/
theorem subset_attribute {attr : Attribute} {argument : Argument} (h : argument ∈ attr.arguments.getD []) :
    argument.tokens ⊆ attr.tokens := by
  intro token htoken
  obtain ⟨name, arguments⟩ := attr
  cases arguments with
  | none => exact absurd h (by simp)
  | some arguments =>
    have hcomma := subset_commaTokens (List.mem_map_of_mem (f := Argument.tokens) h) htoken
    simp only [Attribute.tokens, argumentTokens, Option.map_some, Option.getD_some]
    exact List.mem_append_right _ (List.mem_append_left _ (List.mem_cons_of_mem _ hcomma))

/-- Whether an attribute is a marker depends on its last name. -/
theorem isMarker_said_iff {attr : Attribute} {said : AttributeUse} (h : attributeOf attr = .ok said)
    (hnames : HasIdentifiers attr.tokens) : said.isMarker = true ↔ attr.IsMarker := by
  have hpath : HasIdentifiers attr.name.tokens := hnames.mono (List.subset_append_left _ _)
  obtain ⟨last, hlast⟩ : ∃ last, attr.name.names.getLast? = some last :=
    ⟨_, List.getLast?_eq_some_getLast (List.cons_ne_nil _ _)⟩
  have hsimple : said.simpleName = last := by
    rw [AttributeUse.simpleName, (of_attributeOf h).1]
    exact lastSegment_text hpath hlast
  simp [AttributeUse.isMarker, markerNames, hsimple, Attribute.IsMarker, hlast]

/-- An argument that is not for the kind states no backing. -/
theorem not_statesBacking {argument : Argument} (h : ¬ argument.IsForKind) (said : AttributeArgument)
    (hsaid : argumentOf argument = .ok said) : said.statesBacking = false := by
  rw [← Bool.not_eq_true, statesBacking_iff hsaid]
  exact h

/-- The kind that a marker chooses is that of its first argument for the kind. -/
theorem backingKind_of_first {attr : Attribute} {said : AttributeUse} {argument : Argument}
    (h : attributeOf attr = .ok said) (hfirst : IsFirst Argument.IsForKind (attr.arguments.getD []) argument) :
    ∃ value, argumentOf argument = .ok value ∧ said.backingKind = value.backingKind := by
  obtain ⟨before, behind, hlist, hbefore, hfor⟩ := hfirst
  have hsaid := (of_attributeOf h).2
  rw [hlist] at hsaid
  obtain ⟨value, hvalue, hfind⟩ := find?_of_forall₂ hsaid (fun other hother => not_statesBacking (hbefore other hother))
    fun value hvalue => (statesBacking_iff hvalue).2 hfor
  exact ⟨value, hvalue, by rw [AttributeUse.backingKind, hfind]⟩

/-- A marker whose arguments choose a kind chooses it. -/
theorem backingKind_of_chooseKind {attr : Attribute} {said : AttributeUse} {kind : BackingKind}
    (h : attributeOf attr = .ok said) (hnames : HasIdentifiers attr.tokens)
    (hchoose : ChooseKind (attr.arguments.getD []) kind) : said.backingKind = .ok kind := by
  cases hchoose with
  | omitted hnone =>
    have hfind : said.arguments.find? AttributeArgument.statesBacking = none := by
      rw [List.find?_eq_none]
      intro value hmem
      obtain ⟨argument, hargument, hvalue⟩ := exists_of_mem_right (of_attributeOf h).2 hmem
      simp [not_statesBacking (hnone argument hargument) value hvalue]
    rw [AttributeUse.backingKind, hfind]
    rfl
  | @given before behind argument _ hlist hbefore hfor hdenotes =>
    have hargument : HasIdentifiers argument.tokens := hnames.mono (subset_attribute (by simp [hlist]))
    obtain ⟨value, hvalue, hkind⟩ := backingKind_of_first h ⟨before, behind, hlist, hbefore, hfor⟩
    rw [hkind]
    exact backingKind_of_denotes hvalue hargument hdenotes

/-! ## Declarations -/

variable {declaration : Declaration} {said : TypeDeclaration} {space : String} {kind : BackingKind}

/-- A declaration says its attributes one by one. -/
theorem attributes_said (h : declarationOf space declaration = .ok said) :
    List.Forall₂ (fun attr value => attributeOf attr = .ok value) declaration.attributes said.attributes :=
  mapM_eq_ok_iff.1 (of_declarationOf h).2.2.2.2

/-- What is said of a declaration is marked exactly if the declaration is. -/
theorem isMarked_said_iff (h : declarationOf space declaration = .ok said) (hnames : HasIdentifiers declaration.tokens) :
    said.IsMarked ↔ declaration.IsMarked := by
  have hkind : said.kind = .structType ↔ declaration.kind = .structType := by
    rw [(of_declarationOf h).2.2.1]
    cases declaration.kind <;> simp [kindOf]
  have hmarker {attr : Attribute} {value : AttributeUse} (hmem : attr ∈ declaration.attributes)
      (hvalue : attributeOf attr = .ok value) :
      (value.simpleName = "StrongId" ∨ value.simpleName = "StrongIdAttribute") ↔ attr.IsMarker := by
    rw [← TypeDeclaration.isMarker_iff]
    exact isMarker_said_iff hvalue (hnames.mono (subset_declaration hmem))
  rw [TypeDeclaration.IsMarked, Declaration.IsMarked, hkind]
  refine and_congr_right fun _ => ?_
  constructor
  · rintro ⟨value, hmem, hname⟩
    obtain ⟨attr, hattr, hvalue⟩ := exists_of_mem_right (attributes_said h) hmem
    exact ⟨attr, hattr, (hmarker hattr hvalue).1 hname⟩
  · rintro ⟨attr, hattr, hname⟩
    obtain ⟨value, hmem, hvalue⟩ := exists_of_mem_right (attributes_said h).flip hattr
    exact ⟨value, hmem, (hmarker hattr hvalue).2 hname⟩

/-- The descriptor of a struct has the kind that its first marker chooses. -/
theorem descriptor?_of_firstMarker {marker : Attribute} (h : declarationOf space declaration = .ok said)
    (hnames : HasIdentifiers declaration.tokens) (hkind : declaration.kind = .structType)
    (hfirst : IsFirst Attribute.IsMarker declaration.attributes marker) :
    ∃ value, attributeOf marker = .ok value ∧ said.descriptor? = value.backingKind.map fun kind =>
      some ⟨space, declaration.name, kind, declaration.modifiers.contains "public"⟩ := by
  obtain ⟨before, behind, hlist, hbefore, hmarker⟩ := hfirst
  have hmem {attr : Attribute} (hattr : attr ∈ before ++ marker :: behind) : HasIdentifiers attr.tokens :=
    hnames.mono (subset_declaration (hlist ▸ hattr))
  have hsaid := attributes_said h
  rw [hlist] at hsaid
  have hothers : ∀ other ∈ before, ∀ value, attributeOf other = .ok value → value.isMarker = false := by
    intro other hother value hvalue
    rw [← Bool.not_eq_true, isMarker_said_iff hvalue (hmem (List.mem_append_left _ hother))]
    exact hbefore other hother
  have hself : HasIdentifiers marker.tokens := hmem (List.mem_append_right _ List.mem_cons_self)
  obtain ⟨value, hvalue, hfound⟩ := find?_of_forall₂ hsaid hothers
    fun value hvalue => (isMarker_said_iff hvalue hself).2 hmarker
  obtain ⟨hsaidName, hsaidSpace, hsaidKind, hmodifiers, -⟩ := of_declarationOf h
  refine ⟨value, hvalue, ?_⟩
  rw [TypeDeclaration.descriptor?, TypeDeclaration.marker?, hfound]
  simp only [hsaidKind, hkind, kindOf, TypeKind.isPlainStruct, beq_self_eq_true, if_true, hsaidName, hsaidSpace,
    TypeDeclaration.isPublic, hmodifiers]

/-- The descriptor of a declaration whose first marker chooses a kind. -/
theorem descriptor?_of_chooses (h : declarationOf space declaration = .ok said)
    (hnames : HasIdentifiers declaration.tokens) (hkind : declaration.kind = .structType)
    (hchooses : declaration.Chooses kind) :
    said.descriptor? = .ok (some ⟨space, declaration.name, kind, declaration.modifiers.contains "public"⟩) := by
  obtain ⟨before, marker, behind, hlist, hbefore, hmarker, hchoose⟩ := hchooses
  have hself : HasIdentifiers marker.tokens := hnames.mono (subset_declaration (by simp [hlist]))
  obtain ⟨value, hvalue, hdescriptor⟩ := descriptor?_of_firstMarker h hnames hkind ⟨before, behind, hlist, hbefore, hmarker⟩
  rw [hdescriptor, backingKind_of_chooseKind hvalue hself hchoose]
  rfl

/-! ## Files -/

variable {file : File} {text : List Char}

/-- The tokens of a file that are spelled in their forms have identifiers for names. -/
theorem hasIdentifiers_of_spelled (h : ∀ token ∈ file.tokens, token.IsSpelled) : HasIdentifiers file.tokens :=
  fun name hname => isIdentifier_of_isName (h (.name name) hname)

/-- A layout of a file is wholly cut into its tokens. -/
theorem wholeCut_of_layout (hspelled : ∀ token ∈ file.tokens, token.IsSpelled) (hlayout : Layout none file.tokens text) :
    WholeCut none text file.tokens := by
  obtain ⟨after, hread, -⟩ := Reading.reads_file file
  exact Layout.wholeCut hlayout hspelled (by simp) hread

/-- The names of a declaration in a file, those of the namespaces around it first. -/
def placedNames (placed : List String × Declaration) : List String :=
  placed.1 ++ [placed.2.name]

/-- What is said of the declarations of a file, each of which has identifiers for names. -/
def SaidOf (placed : List String × Declaration) (said : TypeDeclaration) : Prop :=
  HasIdentifiers placed.2.tokens ∧ declarationOf (joinDots placed.1) placed.2 = .ok said

/-- The declarations of a file are said one by one. -/
theorem forall₂_saidOf (hnames : HasIdentifiers file.tokens) {declarations : List TypeDeclaration}
    (h : declarationsOf file = .ok declarations) : List.Forall₂ SaidOf file.placed declarations := by
  refine (List.forall₂_and_left _ _).2 ⟨fun placed hplaced => ?_, (declarationsOf_eq_ok_iff hnames).1 h⟩
  have hflat : (joinDots placed.1, placed.2) ∈ flatten file := by
    rw [flatten_eq hnames]
    exact List.mem_map_of_mem hplaced
  exact hnames.mono (subset_file hflat)

/-- Declarations with different names are not repeated. -/
theorem distinct_of_nodup (hnames : HasIdentifiers file.tokens) (hdistinct : (file.placed.map placedNames).Nodup)
    {declarations : List TypeDeclaration} (h : declarationsOf file = .ok declarations) :
    distinct declarations = .ok declarations := by
  have hfull : declarations.map (fun said => qualify said.space said.name)
      = (file.placed.map placedNames).map joinDots := by
    rw [List.map_map, ← List.forall₂_eq_eq_eq, List.forall₂_map_left_iff, List.forall₂_map_right_iff]
    refine ((List.forall₂_and_left _ _).2 ⟨fun placed hplaced => hplaced, forall₂_saidOf hnames h⟩).flip.imp ?_
    rintro said placed ⟨hplaced, -, hsaid⟩
    obtain ⟨hname, hspace, -⟩ := of_declarationOf hsaid
    have houter := (@isIdentifier_of_mem_filePlaced _ hnames placed.1 placed.2 hplaced).1
    rw [hname, hspace]
    have hinner : [placed.2.name] ≠ [] := List.cons_ne_nil _ _
    exact qualify_joinDots (fun name hmem => ne_empty_of_isIdentifier (houter name hmem)) hinner
  have hpoints : ∀ names ∈ file.placed.map placedNames, names ≠ [] ∧ ∀ name ∈ names, '.' ∉ name.toList := by
    intro names hmem
    obtain ⟨placed, hplaced, rfl⟩ := List.mem_map.1 hmem
    obtain ⟨houter, hself⟩ := @isIdentifier_of_mem_filePlaced _ hnames placed.1 placed.2 hplaced
    refine ⟨by simp [placedNames], List.forall_mem_append.2 ⟨fun name hname => ?_, ?_⟩⟩
    · exact point_notMem_of_isIdentifier (houter name hname)
    · simpa using point_notMem_of_isIdentifier hself
  have hnodup : (declarations.map fun said => qualify said.space said.name).Nodup := by
    rw [hfull]
    refine hdistinct.map_on fun names hmem other hother hsame => ?_
    rw [← segments_joinDots (hpoints names hmem).1 (hpoints names hmem).2, hsame,
      segments_joinDots (hpoints other hother).1 (hpoints other hother).2]
  exact distinct_eq_ok_iff.2 ⟨rfl, hnodup⟩

/-- A file whose literals are converted and whose declarations have different names is scanned. -/
theorem exists_scan_of_wholeCut (hwhole : WholeCut none text file.tokens) (hconvertible : Convertible file.tokens)
    (hdistinct : (file.placed.map placedNames).Nodup) :
    ∃ declarations, declarationsOf file = .ok declarations ∧ scan text = .ok declarations := by
  obtain ⟨declarations, hdeclarations⟩ := exists_declarationsOf hconvertible
  refine ⟨declarations, hdeclarations, ?_⟩
  rw [scan, readDeclarations_of_wholeCut hwhole, hdeclarations]
  exact distinct_of_nodup (HasIdentifiers.of_cut hwhole.cut) hdistinct hdeclarations

/-- A layout of a file with one marked struct yields the descriptor of that struct, with the kind that its first marker
chooses. -/
theorem descriptors_of_layout (hspelled : ∀ token ∈ file.tokens, token.IsSpelled)
    (hconvertible : Convertible file.tokens) (hlayout : Layout none file.tokens text)
    (hdistinct : (file.placed.map placedNames).Nodup) {names : List String} {declaration : Declaration}
    {kind : BackingKind} (hsole : file.placed.filter (fun placed => placed.2.IsMarked) = [(names, declaration)])
    (hchooses : declaration.Chooses kind) :
    ∃ declarations, scan text = .ok declarations ∧ descriptorsOf declarations
      = .ok [⟨joinDots names, declaration.name, kind, declaration.modifiers.contains "public"⟩] := by
  have hnames := hasIdentifiers_of_spelled hspelled
  obtain ⟨declarations, hdeclarations, hscan⟩ :=
    exists_scan_of_wholeCut (wholeCut_of_layout hspelled hlayout) hconvertible hdistinct
  refine ⟨declarations, hscan, descriptorsOf_eq_ok_iff.2 ?_⟩
  have hsaid := List.rel_filter (p := fun placed => placed.2.IsMarked) (q := fun said => said.IsMarked)
    (fun {placed said} hrelated => by simpa using (isMarked_said_iff hrelated.2 hrelated.1).symm)
    (forall₂_saidOf hnames hdeclarations)
  rw [hsole] at hsaid
  obtain ⟨said, rest, hone, hnil, hlist⟩ := List.forall₂_cons_left_iff.1 hsaid
  rw [List.forall₂_nil_left_iff.1 hnil] at hlist
  have hmarked : declaration.IsMarked := by
    have hmem : (names, declaration) ∈ file.placed.filter (fun placed => placed.2.IsMarked) := by
      rw [hsole]
      exact List.mem_singleton_self _
    simpa using (List.mem_filter.1 hmem).2
  rw [hlist]
  exact .cons (descriptor?_of_chooses hone.2 hone.1 hmarked.1 hchooses) .nil

end Scan

end TypedId
