import Mathlib.Data.List.Chain
import TypedId.Proofs.Grammar.Spelling
import TypedId.Proofs.Scan.Conversion
import TypedId.Proofs.Scan.Unambiguity

/-!
# Layouts

A layout of tokens is any text that shows them in their order with any ignorable pieces between them and at both ends.
Tokens may touch, since most boundaries are clear without a blank: behind a name or an integer stands punctuation, and
keywords are found in front of whatever follows. Only behind `record` the words `struct` and `class` must be kept apart
from the name. A layout of tokens that are read is a whole cut into them (`Layout.wholeCut`), and all whole cuts into the
tokens of a file give the declarations of that file (`readDeclarations_of_wholeCut`).
-/

set_option autoImplicit false

namespace TypedId.Grammar

/-! ## Gaps -/

/-- An ignorable piece: a blank, a comment up to the end of its line, or a comment in slashes and stars. -/
inductive Ignorable : List Char → Prop where
  | blank {c : Char} : isBlank c = true → Ignorable [c]
  | line {piece : List Char} : IsLineComment piece → Ignorable (piece ++ ['\n'])
  | block {piece : List Char} : IsBlockComment piece → Ignorable piece

/-- Any sequence of ignorable pieces. -/
inductive Gap : List Char → Prop where
  | nil : Gap []
  | cons {piece rest : List Char} : Ignorable piece → Gap rest → Gap (piece ++ rest)

/-- One ignorable piece is a gap. -/
theorem Ignorable.gap {piece : List Char} (h : Ignorable piece) : Gap piece := by
  have hgap := Gap.cons h .nil
  rwa [List.append_nil] at hgap

/-- A text shows tokens in their order with any gaps between them and at both ends. Where `struct` or `class` stands
behind `record`, it does not touch a letter or an underscore. -/
inductive Layout : Option Token → List Token → List Char → Prop where
  | nil {last : Option Token} {gap : List Char} : Gap gap → Layout last [] gap
  | cons {last : Option Token} {token : Token} {tokens : List Token} {gap text : List Char} :
    Gap gap →
      (last = some (.mark .recordWord) → token = .mark .structWord ∨ token = .mark .classWord →
        ∀ c ∈ text.head?, isNameStart c = false) →
      Layout (some token) tokens text →
      Layout last (token :: tokens) (gap ++ token.text.toList ++ text)

/-- A gap does not begin with a character that continues a word. -/
theorem Gap.stops {gap : List Char} (h : Gap gap) : Stops isNameRest gap := by
  cases h with
  | nil => exact stops_nil _
  | cons hpiece _ =>
    cases hpiece with
    | @blank c hc =>
      refine (stops_cons _ _ _).2 ?_
      simp only [isBlank, Bool.or_eq_true, beq_iff_eq] at hc
      rcases hc with (((rfl | rfl) | rfl) | rfl) | rfl <;> decide
    | line hline => obtain ⟨body, -, rfl | rfl⟩ := hline <;> exact (stops_cons _ _ _).2 (by decide)
    | block hblock =>
      obtain ⟨body, rfl, -⟩ := hblock
      exact (stops_cons _ _ _).2 (by decide)

/-- A gap does not begin with a letter or an underscore. -/
theorem Gap.notStarts {gap : List Char} (h : Gap gap) : ∀ c ∈ gap.head?, isNameStart c = false := by
  intro c hc
  by_contra hstart
  rw [Bool.not_eq_false] at hstart
  exact absurd (isNameRest_of_isNameStart hstart) (by simp [h.stops c hc])

/-- A text stops a class that its first part stops, and its second part if the first is empty. -/
theorem Stops.append {p : Char → Bool} {first second : List Char} (hfirst : Stops p first)
    (hsecond : first = [] → Stops p second) : Stops p (first ++ second) := by
  cases first with
  | nil => exact hsecond rfl
  | cons c first => exact (stops_cons _ _ _).2 ((stops_cons _ _ _).1 hfirst)

/-- Tokens, each behind a gap of its own, and a gap at the end. -/
def gappedText (pieces : List (List Char × Token)) (ending : List Char) : List Char :=
  pieces.flatMap (fun piece => piece.1 ++ piece.2.text.toList) ++ ending

/-- Tokens behind gaps are a layout if none of the words `struct` and `class` touches the token behind it. -/
theorem layout_gappedText {pieces : List (List Char × Token)} {ending : List Char}
    (hgaps : ∀ piece ∈ pieces, Gap piece.1) (hending : Gap ending)
    (hapart : pieces.IsChain fun before behind =>
      before.2 = .mark .structWord ∨ before.2 = .mark .classWord → behind.1 ≠ []) (last : Option Token) :
    Layout last (pieces.map Prod.snd) (gappedText pieces ending) := by
  induction pieces generalizing last with
  | nil => exact .nil hending
  | cons piece rest ih =>
    obtain ⟨hgap, hrest⟩ := List.forall_mem_cons.1 hgaps
    have hlayout := @Layout.cons last piece.2 _ _ _ hgap (fun _ hkind => ?_) (ih hrest hapart.tail (some piece.2))
    · simpa [gappedText] using hlayout
    · cases rest with
      | nil => exact hending.notStarts
      | cons next more =>
        have hnext : next.1 ≠ [] := (List.isChain_cons_cons.1 hapart).1 hkind
        rw [gappedText, List.flatMap_cons, List.append_assoc, List.append_assoc, List.head?_append_of_ne_nil _ hnext]
        exact (hrest next List.mem_cons_self).notStarts

/-- Tokens with a blank in front of each. -/
def spacedText (tokens : List Token) : List Char :=
  tokens.flatMap fun token => ' ' :: token.text.toList

/-- Blanks in front of all tokens are a layout of them, whatever they are. -/
theorem layout_spacedText (last : Option Token) (tokens : List Token) : Layout last tokens (spacedText tokens) := by
  have hgaps : ∀ piece ∈ tokens.map fun token => ([' '], token), Gap piece.1 := by
    refine List.forall_mem_map.2 fun token _ => ?_
    exact (Ignorable.blank (by decide)).gap
  have hapart : (tokens.map fun token => ([' '], token)).IsChain fun before behind =>
      before.2 = .mark .structWord ∨ before.2 = .mark .classWord → behind.1 ≠ [] := by
    refine List.Pairwise.isChain (List.pairwise_map.2 (List.pairwise_of_forall_mem_list ?_))
    exact fun _ _ _ _ _ => List.cons_ne_nil _ _
  have hlayout := layout_gappedText hgaps .nil hapart last
  simpa [gappedText, spacedText, List.flatMap_map, Function.comp_def] using hlayout

/-- One more blank in front leaves a whole cut. -/
theorem WholeCut.blank {last : Option Token} {text : List Char} {tokens : List Token} {c : Char}
    (hc : isBlank c = true) (h : WholeCut last text tokens) : WholeCut last (c :: text) tokens := by
  have hsingle {text : List Char} (hstops : Stops isBlank text) (h : WholeCut last text tokens) :
      WholeCut last (c :: text) tokens := by
    refine @WholeCut.ignore last [c] text tokens ?_ h
    exact ignored?_append_eq_left_iff.2 (Or.inl ⟨⟨by simp, by simpa using hc⟩, hstops⟩)
  cases h with
  | nil => exact hsingle (stops_nil _) (.nil last)
  | @ignore _ piece rest _ hpiece hrest =>
    rcases ignored?_append_eq_left_iff.1 hpiece with ⟨⟨hne, hblank⟩, hstops⟩ | ⟨hline, -⟩ | hblock
    · refine @WholeCut.ignore last (c :: piece) rest tokens ?_ hrest
      refine ignored?_append_eq_left_iff.2 (Or.inl ⟨⟨by simp, ?_⟩, hstops⟩)
      exact List.forall_mem_cons.2 ⟨hc, hblank⟩
    · refine hsingle ?_ (.ignore hpiece hrest)
      obtain ⟨body, -, rfl | rfl⟩ := hline <;> exact (stops_cons _ _ _).2 (by decide)
    · refine hsingle ?_ (.ignore hpiece hrest)
      obtain ⟨body, rfl, -⟩ := hblock
      exact (stops_cons _ _ _).2 (by decide)
  | @token _ terminal lexeme rest tokens' hlexeme hwhole hrest =>
    refine hsingle ?_ (.token hlexeme hwhole hrest)
    cases htext : lexeme ++ rest with
    | nil => exact stops_nil _
    | cons d more =>
      rw [htext] at hlexeme
      refine (stops_cons _ _ _).2 ?_
      have hignored := ignored?_of_lexeme? hlexeme
      cases hblank : isBlank d with
      | false => rfl
      | true => simp [ignored?, hblank] at hignored

/-- A gap in front leaves a whole cut. -/
theorem WholeCut.gap {last : Option Token} {gap text : List Char} {tokens : List Token} (hgap : Gap gap)
    (h : WholeCut last text tokens) : WholeCut last (gap ++ text) tokens := by
  induction hgap with
  | nil => exact h
  | @cons piece rest hpiece _ ih =>
    rw [List.append_assoc]
    cases hpiece with
    | blank hc => exact ih.blank hc
    | @line body hline =>
      rw [List.append_assoc]
      refine .ignore (ignored?_append_eq_left_iff.2 (Or.inr (Or.inl ⟨hline, ?_⟩))) (ih.blank (by decide))
      exact (stops_cons _ _ _).2 (by decide)
    | block hblock => exact .ignore (ignored?_append_eq_left_iff.2 (Or.inr (Or.inr hblock))) ih

end TypedId.Grammar

namespace TypedId.Scan

open Grammar Syntax

/-- A layout of what follows a name or an integer does not go on with a word. -/
theorem Layout.stops {last : Option Token} {tokens : List Token} {text : List Char} (h : Layout last tokens text)
    (hspelled : ∀ token ∈ tokens, token.IsSpelled)
    (hfollows : ∀ token ∈ tokens.head?, followsWord token.terminal = true) : Stops isNameRest text := by
  cases h with
  | nil hgap => exact hgap.stops
  | @cons _ token tokens gap text hgap _ _ =>
    rw [List.append_assoc]
    refine hgap.stops.append fun _ => ?_
    obtain ⟨c, tail, htext, hopens⟩ := token.opens_text (hspelled token List.mem_cons_self)
    rw [htext]
    exact (stops_cons _ _ _).2 (isNameRest_of_followsWord (hfollows token (by simp)) hopens)

/-- A word `struct` or `class` that touches no letter is not part of a longer word. -/
theorem not_beginsJoined {token : Token} {text : List Char}
    (hkind : token = .mark .structWord ∨ token = .mark .classWord) (happart : ∀ c ∈ text.head?, isNameStart c = false) :
    ¬ BeginsJoined (token.text.toList ++ text) := by
  rintro ⟨word, hword, c, rest, hstart, htext⟩
  obtain ⟨other, hother, rfl⟩ : ∃ other, (other = .structWord ∨ other = .classWord) ∧ token = .mark other := by
    rcases hkind with rfl | rfl
    · exact ⟨_, Or.inl rfl, rfl⟩
    · exact ⟨_, Or.inr rfl, rfl⟩
  have hbegin : word.text.toList <+: other.text.toList ++ text := ⟨c :: rest, htext.symm⟩
  obtain rfl := eq_of_prefix_kind hother hword (List.prefix_append _ _) hbegin
  rw [show text = c :: rest from List.append_cancel_left htext] at happart
  rw [happart c (by simp)] at hstart
  simp at hstart

/-- A layout of tokens that are read is a whole cut. -/
theorem Layout.wholeCut {last : Option Token} {tokens : List Token} {text : List Char} (h : Layout last tokens text)
    (hspelled : ∀ token ∈ tokens, token.IsSpelled) {reading after : Reading}
    (hlast : last = some (.mark .recordWord) → reading.place.focus = .inDeclaration .record)
    (hread : Reads Reading.next? reading tokens after) : WholeCut last text tokens := by
  induction h generalizing reading with
  | nil hgap => simpa using (WholeCut.nil _).gap hgap
  | @cons last token tokens gap text hgap happart hlayout ih =>
    obtain ⟨middle, hmiddle, hrest⟩ := Reads.cons_iff.1 hread
    have hspelledRest : ∀ token ∈ tokens, token.IsSpelled := fun token hmem =>
      hspelled token (List.mem_cons_of_mem _ hmem)
    have hplace := Reading.place_of_next? hmiddle
    -- behind a name or an integer the next token is punctuation
    have hstops : token.terminal = .name ∨ token.terminal = .integer → Stops isNameRest text := by
      intro hopen
      refine Layout.stops hlayout hspelledRest fun second hsecond => ?_
      obtain ⟨tokens', rfl⟩ := List.head?_eq_some_iff.1 hsecond
      obtain ⟨later, hlater, -⟩ := Reads.cons_iff.1 hrest
      exact Place.followsWord_of_next? hopen hplace (Reading.place_of_next? hlater)
    have hlexeme := token.lexeme?_text (hspelled token List.mem_cons_self) hstops
    have hcut := ih hspelledRest (fun heq => (Stage.record_iff_of_next? hmiddle).2 (Option.some.inj heq)) hrest
    rw [List.append_assoc]
    refine WholeCut.gap hgap ?_
    have hnamed : last = some (.mark .recordWord) → BeginsJoined (token.text.toList ++ text) → token.terminal = .name := by
      intro hrecord hjoined
      rcases Place.next?_of_record (hlast hrecord) hplace with ⟨hkind, -⟩ | ⟨hname, -⟩
      · exfalso
        rw [Token.terminal_eq_mark_iff, Token.terminal_eq_mark_iff] at hkind
        exact not_beginsJoined hkind (happart hrecord hkind) hjoined
      · exact hname
    rw [← token.token_text] at hcut
    have hwhole := WholeCut.token hlexeme hnamed hcut
    rwa [token.token_text] at hwhole

/-! ## Tokens of parts -/

/-- The tokens of an item are among those of a list of items with commas. -/
theorem subset_commaTokens {item : List Token} {items : List (List Token)} (h : item ∈ items) :
    item ⊆ commaTokens items := by
  cases items with
  | nil => simp at h
  | cons first rest =>
    rcases List.mem_cons.1 h with rfl | h
    · exact List.subset_append_left _ _
    · intro token htoken
      exact List.mem_append_right _ (List.mem_flatMap.2 ⟨item, h, List.mem_cons_of_mem _ htoken⟩)

/-- The tokens of an attribute are among those of its declaration. -/
theorem subset_declaration {declaration : Declaration} {attr : Attribute} (h : attr ∈ declaration.attributes) :
    attr.tokens ⊆ declaration.tokens := by
  intro token htoken
  obtain ⟨part, hpart, hattr⟩ := List.mem_flatMap.1 h
  have hcomma := subset_commaTokens (List.mem_map_of_mem (f := Attribute.tokens) hattr) htoken
  have hsection : token ∈ part.tokens :=
    List.mem_append_left _ (List.mem_append_left _ (List.mem_cons_of_mem _ hcomma))
  have hfront : token ∈ declaration.toFront.tokens :=
    List.mem_append_left _ (List.mem_flatMap.2 ⟨part, hpart, hsection⟩)
  exact List.mem_append_left _ (List.mem_append_left _ hfront)

mutual

/-- The tokens of a declaration are among those of the member that it is found in. -/
theorem subset_member {space found : String} {declaration : Declaration} :
    (member : Member) → (found, declaration) ∈ flattenMember space member → declaration.tokens ⊆ member.tokens
  | .type _, h => by
    obtain ⟨-, rfl⟩ := Prod.mk.inj (List.mem_singleton.1 h)
    exact List.Subset.refl _
  | .space name usings members semicolon, h => by
    intro token htoken
    have hmembers := subset_members members h htoken
    exact List.mem_append_left _ (List.mem_append_right _ (List.mem_append_right _ hmembers))

/-- The tokens of a declaration are among those of the members that it is found in. -/
theorem subset_members {space found : String} {declaration : Declaration} :
    (members : List Member) → (found, declaration) ∈ flattenMembers space members →
      declaration.tokens ⊆ membersTokens members
  | [], h => by simp [flattenMembers] at h
  | member :: rest, h => by
    intro token htoken
    rcases List.mem_append.1 h with h | h
    · exact List.mem_append_left _ (subset_member member h htoken)
    · exact List.mem_append_right _ (subset_members rest h htoken)

end

/-- The tokens of a declaration are among those of the file that it is found in. -/
theorem subset_file {file : File} {space : String} {declaration : Declaration} (h : (space, declaration) ∈ flatten file) :
    declaration.tokens ⊆ file.tokens := by
  obtain ⟨usings, body⟩ := file
  intro token htoken
  cases body with
  | plain members => exact List.mem_append_right _ (subset_members members h htoken)
  | space name inner members =>
    have hmembers := subset_members members h htoken
    exact List.mem_append_right _ (List.mem_append_right _ (List.mem_append_right _ hmembers))

/-- A text that is wholly cut into the tokens of a file is read as the declarations of that file. -/
theorem readDeclarations_of_wholeCut {file : File} {text : List Char} (h : WholeCut none text file.tokens) :
    readDeclarations text = (declarationsOf file).mapError ScanError.numeral := by
  obtain ⟨found, hfound⟩ := exists_readFile_of_cut h.cut
  have hsame := declarationsOf_of_wholeCut (wholeCut_of_readFile hfound) h
  rw [readDeclarations, hfound]
  exact congrArg (Except.mapError ScanError.numeral) hsame

end TypedId.Scan
