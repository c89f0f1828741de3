import Mathlib.Data.List.Forall2
import TypedId.Proofs.Json.Spelling
import TypedId.Proofs.Text.Ascii
import TypedId.Proofs.Text.Segments

/-!
# Values on lines of their own

A textual value is written on lines as a text that spells it (`spells_pageAt`), so that a page is read as the value it
was written from (`read_page`). All characters of a page are visible ones of ASCII, blanks and line feeds
(`isPage_pageAt`): the page is the same text after it has been stored in a file.
-/

set_option autoImplicit false

namespace TypedId.Json

/-! ## Textual values -/

mutual

/-- A value holds no number and no torn string, and the keys of each of its objects differ. -/
def IsTextual : Json → Prop
  | .null => True
  | .bool _ => True
  | .integer _ => False
  | .float _ => False
  | .string text => ∃ whole, text = .whole whole
  | .array items => AreTextual items
  | .object entries => (entries.map Prod.fst).Nodup ∧ AreTextualEntries entries

/-- All items are textual. -/
def AreTextual : List Json → Prop
  | [] => True
  | item :: rest => IsTextual item ∧ AreTextual rest

/-- All entries have whole keys and textual values. -/
def AreTextualEntries : List (Text × Json) → Prop
  | [] => True
  | (key, value) :: rest => (∃ whole, key = .whole whole) ∧ IsTextual value ∧ AreTextualEntries rest

end

/-! ## Pages are read -/

/-- A text spells an entry of an object. -/
def SpellsEntry (entry : Text × Json) (text : List Char) : Prop :=
  ∃ key space value, entry.1 = .whole key ∧ IsGap space ∧ Spells entry.2 value ∧
    text = (writeText (.whole key)).toList ++ ':' :: (space ++ value)

/-- Items with commas between them are spelled if each of them is. -/
theorem spellsItems_intercalate {items : List Json} {texts : List String} {space gap : String}
    (h : List.Forall₂ (fun item text => Spells item text.toList) items texts) (hne : texts ≠ [])
    (hspace : IsGap space.toList) (hgap : IsGap gap.toList) :
    SpellsItems items (((("," ++ space).intercalate texts) ++ gap ++ "]").toList) := by
  induction h with
  | nil => exact absurd rfl hne
  | @cons item text items texts hitem hrest ih =>
    cases hrest with
    | nil =>
      have hlast := SpellsItems.last hitem hgap
      simpa using hlast
    | @cons second _ more _ _ _ =>
      have hnext := SpellsItems.next hitem hspace (ih (List.cons_ne_nil _ _))
      rw [String.intercalate_cons_cons]
      simpa using hnext

/-- Entries with commas between them are spelled if each of them is. -/
theorem spellsEntries_intercalate {entries : List (Text × Json)} {texts : List String} {space gap : String}
    (h : List.Forall₂ (fun entry text => SpellsEntry entry text.toList) entries texts) (hne : texts ≠ [])
    (hspace : IsGap space.toList) (hgap : IsGap gap.toList) :
    SpellsEntries entries (((("," ++ space).intercalate texts) ++ gap ++ "\x7d").toList) := by
  induction h with
  | nil => exact absurd rfl hne
  | @cons entry text entries texts hentry hrest ih =>
    obtain ⟨_, value⟩ := entry
    obtain ⟨key, inner, body, rfl, hinner, hvalue, htext⟩ := hentry
    cases hrest with
    | nil =>
      have hlast := @SpellsEntries.last key _ _ _ _ hinner hvalue hgap
      simpa [htext] using hlast
    | @cons second _ more _ _ _ =>
      have hnext := @SpellsEntries.next key _ _ _ _ _ _ hinner hvalue hspace (ih (List.cons_ne_nil _ _))
      rw [String.intercalate_cons_cons]
      simpa [htext] using hnext

/-- An indentation may stand between the parts of a text. -/
theorem isGap_indentation (level : Nat) : IsGap (indentation level).toList := by
  rw [indentation, String.toList_ofList]
  intro c hc
  rw [List.eq_of_mem_replicate hc]
  rfl

/-- A line feed with an indentation may stand between the parts of a text. -/
theorem isGap_newLine (level : Nat) : IsGap ("\n" ++ indentation level).toList := by
  rw [String.toList_append]
  exact IsGap.append (by decide) (isGap_indentation level)

mutual

/-- A value on lines of its own is spelled. -/
theorem spells_pageAt (level : Nat) : (value : Json) → IsTextual value → Spells value (pageAt level value).toList
  | .null, _ => by simpa [pageAt] using Spells.null
  | .bool true, _ => by simpa [pageAt] using Spells.yes
  | .bool false, _ => by simpa [pageAt] using Spells.no
  | .integer _, h => h.elim
  | .float _, h => h.elim
  | .string _, ⟨text, rfl⟩ => .string text
  | .array [], _ => by simpa [pageAt, pageItems, bracketed] using Spells.emptyArray
  | .array (item :: rest), h => by
    have hitems := spellsItems_intercalate (spells_pageItems (level + 1) (item :: rest) h) (List.cons_ne_nil _ _)
      (isGap_newLine (level + 1)) (isGap_newLine level)
    have hspelled := Spells.array (isGap_newLine (level + 1)) hitems
    simpa [pageAt, pageItems, bracketed] using hspelled
  | .object [], _ => by simpa [pageAt, pageEntries, bracketed] using Spells.emptyObject
  | .object ((key, value) :: rest), ⟨hnodup, h⟩ => by
    have hentries := spellsEntries_intercalate (spells_pageEntries (level + 1) ((key, value) :: rest) h)
      (List.cons_ne_nil _ _) (isGap_newLine (level + 1)) (isGap_newLine level)
    have hspelled := Spells.object (isGap_newLine (level + 1)) hnodup hentries
    simpa [pageAt, pageEntries, bracketed] using hspelled

/-- The items of an array on lines of their own are spelled. -/
theorem spells_pageItems (level : Nat) : (items : List Json) → AreTextual items →
    List.Forall₂ (fun item text => Spells item text.toList) items (pageItems level items)
  | [], _ => .nil
  | item :: rest, ⟨hitem, hrest⟩ => .cons (spells_pageAt level item hitem) (spells_pageItems level rest hrest)

/-- The entries of an object on lines of their own are spelled. -/
theorem spells_pageEntries (level : Nat) : (entries : List (Text × Json)) → AreTextualEntries entries →
    List.Forall₂ (fun entry text => SpellsEntry entry text.toList) entries (pageEntries level entries)
  | [], _ => .nil
  | (_, value) :: rest, ⟨⟨key, rfl⟩, hvalue, hrest⟩ => by
    refine .cons ⟨key, [' '], _, rfl, by decide, spells_pageAt level value hvalue, ?_⟩
      (spells_pageEntries level rest hrest)
    simp

end

/-- A page with spaces behind it is read as the value it was written from. -/
theorem read_page {value : Json} (h : IsTextual value) {behind : List Char} (hbehind : IsGap behind) :
    read ((page value).toList ++ behind) = .ok value :=
  @read_of_spells _ _ [] _ (spells_pageAt 0 value h) (by simp [IsGap]) hbehind

/-! ## Characters of a page -/

/-- A character is a line feed or a visible character or blank of ASCII. -/
def IsPageChar (c : Char) : Prop :=
  c = '\n' ∨ 0x20 ≤ c.toNat ∧ c.toNat < 0x7F

instance (c : Char) : Decidable (IsPageChar c) :=
  inferInstanceAs (Decidable (_ ∨ _))

/-- All characters of a text are those of a page. -/
def IsPage (text : String) : Prop :=
  ∀ c ∈ text.toList, IsPageChar c

instance (text : String) : Decidable (IsPage text) :=
  List.decidableBAll IsPageChar text.toList

/-- Two texts of characters of a page make one. -/
theorem IsPage.append {text more : String} (htext : IsPage text) (hmore : IsPage more) : IsPage (text ++ more) := by
  rw [IsPage, String.toList_append]
  exact List.forall_mem_append.2 ⟨htext, hmore⟩

/-- Lines of characters of a page make one with such a separator between them. -/
theorem isPage_intercalate {separator : String} {lines : List String} (hseparator : IsPage separator)
    (hlines : ∀ line ∈ lines, IsPage line) : IsPage (separator.intercalate lines) :=
  TypedId.Text.forall_mem_intercalate hseparator hlines

/-- A string is written by characters of a page. -/
theorem isPage_writeText (text : Text) : IsPage (writeText text) :=
  fun c hc => Or.inr (isVisible_of_mem_writeText text c hc)

/-- A line feed and an indentation are characters of a page. -/
theorem isPage_newLine (level : Nat) : IsPage ("\n" ++ indentation level) := by
  refine IsPage.append (by decide) fun c hc => ?_
  rw [indentation, String.toList_ofList] at hc
  rw [List.eq_of_mem_replicate hc]
  decide

/-- Lines between brackets are on a page if the brackets and the lines are. -/
theorem isPage_bracketed {left right : String} (level : Nat) {lines : List String} (hleft : IsPage left)
    (hright : IsPage right) (hlines : ∀ line ∈ lines, IsPage line) : IsPage (bracketed left right level lines) := by
  rw [bracketed]
  split
  · exact hleft.append hright
  · have hcomma : IsPage ("," ++ ("\n" ++ indentation (level + 1))) := IsPage.append (by decide) (isPage_newLine _)
    have hinner := (hleft.append (isPage_newLine (level + 1))).append (isPage_intercalate hcomma hlines)
    have hclosed := (hinner.append (isPage_newLine level)).append hright
    simpa only [String.append_assoc] using hclosed

mutual

/-- A textual value is written in characters of a page. -/
theorem isPage_pageAt (level : Nat) : (value : Json) → IsTextual value → IsPage (pageAt level value)
  | .null, _ => by rw [pageAt]; decide
  | .bool true, _ => by rw [pageAt]; decide
  | .bool false, _ => by rw [pageAt]; decide
  | .integer _, h => h.elim
  | .float _, h => h.elim
  | .string text, _ => isPage_writeText text
  | .array items, h => by
    rw [pageAt]
    exact isPage_bracketed level (by decide) (by decide) (isPage_pageItems (level + 1) items h)
  | .object entries, ⟨_, h⟩ => by
    rw [pageAt]
    exact isPage_bracketed level (by decide) (by decide) (isPage_pageEntries (level + 1) entries h)

/-- The items of a textual value are written by characters of a page. -/
theorem isPage_pageItems (level : Nat) : (items : List Json) → AreTextual items →
    ∀ line ∈ pageItems level items, IsPage line
  | [], _ => by simp [pageItems]
  | item :: rest, ⟨hitem, hrest⟩ => by
    rw [pageItems, List.forall_mem_cons]
    exact ⟨isPage_pageAt level item hitem, isPage_pageItems level rest hrest⟩

/-- The entries of a textual value are written by characters of a page. -/
theorem isPage_pageEntries (level : Nat) : (entries : List (Text × Json)) → AreTextualEntries entries →
    ∀ line ∈ pageEntries level entries, IsPage line
  | [], _ => by simp [pageEntries]
  | (key, value) :: rest, ⟨_, hvalue, hrest⟩ => by
    rw [pageEntries, List.forall_mem_cons]
    have hkey := (isPage_writeText key).append (show IsPage ": " by decide)
    exact ⟨hkey.append (isPage_pageAt level value hvalue), isPage_pageEntries level rest hrest⟩

end

/-- The characters of a page are of ASCII, and none is a carriage return. -/
theorem of_isPage {text : String} (h : IsPage text) : TypedId.Text.IsAscii text.toList ∧ '\r' ∉ text.toList := by
  refine ⟨fun c hc => ?_, fun hc => ?_⟩
  · rcases h c hc with rfl | ⟨-, hbound⟩
    · decide
    · omega
  · exact absurd (h '\r' hc) (by decide)

end TypedId.Json
