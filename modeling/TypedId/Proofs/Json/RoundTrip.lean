import TypedId.Proofs.Json.Description
import TypedId.Proofs.Json.Line

/-!
# Records that are written and read

A record is written on one line of ASCII. What is read from that line is the object of the record with the pairs of
surrogates in its strings joined (`toJson_roundtrips`), since the escapes of two surrogates side by side are those of one
character. Nothing but name and namespace is checked again, so a record with names in order comes back, and any other is
refused for its name or, with a name in order, for its namespace, unless joining has put them in order.
-/

set_option autoImplicit false

namespace TypedId

open Text

/-! ## Strings in a record -/

/-- A string is an identifier. No identifier holds a surrogate. -/
def Json.Text.IsIdentifier : Json.Text → Prop
  | .whole name => isIdentifier name = true
  | .torn _ => False

/-- A string is empty or a dotted path of identifiers. -/
def Json.Text.IsDottedPath : Json.Text → Prop
  | .whole space => isDottedPath space = true
  | .torn _ => False

instance (text : Json.Text) : Decidable text.IsIdentifier :=
  match text with
  | .whole name => inferInstanceAs (Decidable (isIdentifier name = true))
  | .torn _ => .isFalse id

instance (text : Json.Text) : Decidable text.IsDottedPath :=
  match text with
  | .whole space => inferInstanceAs (Decidable (isDottedPath space = true))
  | .torn _ => .isFalse id

/-- An identifier is a text. -/
theorem Json.Text.IsIdentifier.exists_whole {text : Json.Text} (h : text.IsIdentifier) :
    ∃ name, text = .whole name ∧ isIdentifier name = true := by
  cases text with
  | whole name => exact ⟨name, rfl, h⟩
  | torn points => exact h.elim

/-- A dotted path is a text. -/
theorem Json.Text.IsDottedPath.exists_whole {text : Json.Text} (h : text.IsDottedPath) :
    ∃ space, text = .whole space ∧ isDottedPath space = true := by
  cases text with
  | whole space => exact ⟨space, rfl, h⟩
  | torn points => exact h.elim

namespace DescriptorRecord

/-- A record has an identifier for its name and none or a dotted path for its namespace. -/
structure IsNamed (record : DescriptorRecord) : Prop where
  name : record.name.IsIdentifier
  space : record.space.IsDottedPath

/-- All strings of a record have code points that exist. -/
structure IsSound (record : DescriptorRecord) : Prop where
  space : record.space.IsSound
  name : record.name.IsSound
  fullName : record.fullName.IsSound

/-- A record with the pairs of surrogates in its strings joined. -/
def joined (record : DescriptorRecord) : DescriptorRecord :=
  ⟨record.space.joined, record.name.joined, record.fullName.joined, record.backing, record.isPublic⟩

/-- A record with the full name that its name and namespace give. -/
def qualified (record : DescriptorRecord) : DescriptorRecord :=
  { record with fullName := record.space.qualify record.name }

end DescriptorRecord

/-- The full name of two texts is the one that a descriptor has. -/
theorem Json.Text.qualify_whole (space name : String) :
    (Json.Text.whole space).qualify (.whole name) = .whole (TypedId.Text.qualify space name) := by
  have hpoints : (space ++ "." ++ name).toList.map Char.toNat
      = space.toList.map Char.toNat ++ '.'.toNat :: name.toList.map Char.toNat := by
    simp [String.toList_append]
  by_cases hempty : space = ""
  · simp [qualify, TypedId.Text.qualify, points, hempty]
  · have hwhole := Json.ofPoints_toNat (space ++ "." ++ name)
    rw [hpoints] at hwhole
    rw [qualify, TypedId.Text.qualify, if_neg (by simpa [points] using hempty), if_neg (by simpa using hempty)]
    exact hwhole

/-- The code points of a full name. -/
theorem Json.Text.lt_qualify {space name : Json.Text} (hspace : space.IsSound) (hname : name.IsSound) :
    ∀ point ∈ space.points ++ '.'.toNat :: name.points, point < 0x110000 :=
  List.forall_mem_append.2 ⟨hspace.lt, List.forall_mem_cons.2 ⟨by decide, hname.lt⟩⟩

/-- The full name of sound strings is sound. -/
theorem Json.Text.isSound_qualify {space name : Json.Text} (hspace : space.IsSound) (hname : name.IsSound) :
    (space.qualify name).IsSound := by
  rw [qualify]
  split
  · exact hname
  · exact isSound_ofPoints (lt_qualify hspace hname)

/-- The full name of joined strings is the joined full name: its point keeps surrogates of the namespace and the name
apart. -/
theorem Json.Text.joined_qualify {space name : Json.Text} (hspace : space.IsSound) (hname : name.IsSound) :
    (space.qualify name).joined = space.joined.qualify name.joined := by
  rw [qualify, qualify, hspace.points_joined, hname.points_joined]
  by_cases hempty : space.points = []
  · simp [hempty, joinPairs]
  · rw [if_neg (by simpa using hempty), if_neg (by simpa [joinPairs_eq_nil_iff] using hempty), joined,
      points_ofPoints (lt_qualify hspace hname), joinPairs_append_cons _ _ (by decide)]

/-- Records that are built from sound strings are sound. -/
theorem DescriptorRecord.isSound_of_ofSelector {name space : Json.Text} {selector : BackingSelector} {isPublic : Bool}
    {record : DescriptorRecord} (hname : name.IsSound) (hspace : space.IsSound)
    (h : ofSelector name space selector isPublic = .ok record) : record.IsSound := by
  obtain ⟨backing, -, rfl⟩ := map_eq_ok_iff.1 h
  exact ⟨hspace, hname, Json.Text.isSound_qualify hspace hname⟩

/-- The record that is built from texts is that of the descriptor built from them. -/
theorem DescriptorRecord.ofSelector_whole (name space : String) (selector : BackingSelector) (isPublic : Bool) :
    ofSelector (.whole name) (.whole space) selector isPublic
      = (Descriptor.ofSelector name space selector isPublic).map Descriptor.record := by
  rw [ofSelector, Descriptor.ofSelector, Json.Text.qualify_whole]
  cases selector.resolve <;> rfl

/-! ## Reading what is written -/

variable {record : DescriptorRecord}

/-- A record is an object with five keys, in which the one number has one digit. -/
theorem isExact_toJson (h : record.IsSound) : record.toJson.IsExact := by
  have hnumber : (Nat.toDigits 10 record.backing.number).length ≤ digitLimit := by
    cases record.backing <;> decide
  simp [DescriptorRecord.toJson, Json.ofEntries, Json.IsExact, Json.AreExactEntries, hnumber, h.space, h.name, h.fullName]

/-- The line of a record is read as the object of the record with its pairs joined. -/
theorem read_line_toJson (h : record.IsSound) :
    Json.read (Json.line record.toJson).toList = .ok record.joined.toJson :=
  Json.read_line (isExact_toJson h)

/-- An object of a record with names in order describes the descriptor with these names. -/
theorem ofJson_toJson (h : record.IsNamed) : DescriptorRecord.ofJson record.toJson = .ok record.qualified := by
  obtain ⟨name, hname, hidentifier⟩ := h.name.exists_whole
  obtain ⟨space, hspace, hpath⟩ := h.space.exists_whole
  obtain ⟨_, _, fullName, backing, isPublic⟩ := record
  obtain rfl := hname
  obtain rfl := hspace
  have hdescribes : Describes (DescriptorRecord.toJson ⟨.whole space, .whole name, fullName, backing, isPublic⟩)
      ⟨space, name, backing, isPublic⟩ :=
    ⟨rfl, hidentifier, .path hpath, fullName_eq _, congrArg Except.ok (BackingKind.ofInteger_number backing), rfl⟩
  rw [DescriptorRecord.ofJson, ofJson_eq_ok_iff.2 hdescribes, DescriptorRecord.qualified, Json.Text.qualify_whole]
  rfl

/-- A name that is no identifier is refused. -/
theorem ofJson_of_not_isIdentifier (h : ¬ record.name.IsIdentifier) :
    DescriptorRecord.ofJson record.toJson = .error (.invalidName (.string record.name)) := by
  have hrefuses : Refuses record.toJson (.invalidName (.string record.name)) := by
    refine .name fun name hgiven => ?_
    have hname : record.name = .whole name := Json.string.inj (Option.some.inj hgiven)
    rw [hname] at h
    exact Bool.not_eq_true _ ▸ h
  rw [DescriptorRecord.ofJson, ofJson_of_refuses hrefuses]
  rfl

/-- Behind an identifier a namespace that is no dotted path is refused. -/
theorem ofJson_of_not_isDottedPath (hname : record.name.IsIdentifier) (h : ¬ record.space.IsDottedPath)
    (hspelled : record.space ≠ .torn []) :
    DescriptorRecord.ofJson record.toJson = .error (.invalidSpace (.string record.space)) := by
  obtain ⟨name, hname, hidentifier⟩ := hname.exists_whole
  have hrefuses : Refuses record.toJson (.invalidSpace (.string record.space)) := by
    refine .space (congrArg (fun text => some (Json.string text)) hname) hidentifier rfl fun space hgives => ?_
    generalize hgiven : Json.string record.space = given at hgives
    cases hgives with
    | null => exact absurd hgiven (by simp)
    | path hpath =>
      rw [Json.string.inj hgiven] at h
      exact h hpath
    | void hvoid => cases hvoid <;> simp_all
  rw [DescriptorRecord.ofJson, ofJson_of_refuses hrefuses]
  rfl

/-- Joining leaves no torn string without code points. -/
theorem joined_ne_torn_nil (text : Json.Text) : text.joined ≠ .torn [] :=
  Json.Text.ofPoints_ne_torn_nil _

/-- Joining changes neither an identifier nor a dotted path. -/
theorem qualified_joined (h : record.IsNamed) : record.joined.qualified = record.qualified := by
  obtain ⟨name, hname, -⟩ := h.name.exists_whole
  obtain ⟨space, hspace, -⟩ := h.space.exists_whole
  rw [DescriptorRecord.qualified, DescriptorRecord.qualified, DescriptorRecord.joined, hname, hspace,
    Json.Text.joined_whole, Json.Text.joined_whole]

/-- A record whose name and namespace are in order has them in order when its pairs are joined. -/
theorem isNamed_joined (h : record.IsNamed) : record.joined.IsNamed := by
  obtain ⟨name, hname, hidentifier⟩ := h.name.exists_whole
  obtain ⟨space, hspace, hpath⟩ := h.space.exists_whole
  rw [DescriptorRecord.joined, hname, hspace, Json.Text.joined_whole, Json.Text.joined_whole]
  exact ⟨hidentifier, hpath⟩

/-- A record is written on one line of ASCII, which is read as the object of the record with its pairs joined. If its name
is an identifier and its namespace empty or a dotted path, it comes back from that object, with the full name that these
give. A record that was built from any strings has that full name, and is read as the one built from the joined strings:
this one comes back if the joined strings are in order, and otherwise the first of them that is not is refused. -/
theorem toJson_roundtrips (record : DescriptorRecord) (hsound : record.IsSound) :
    (∀ c ∈ (Json.line record.toJson).toList, 0x20 ≤ c.toNat ∧ c.toNat < 0x7F) ∧
    Json.read (Json.line record.toJson).toList = .ok record.joined.toJson ∧
    (record.IsNamed → DescriptorRecord.ofJson record.joined.toJson = .ok record.qualified) ∧
    ∀ name space selector isPublic, DescriptorRecord.ofSelector name space selector isPublic = .ok record →
      record.qualified = record ∧
      DescriptorRecord.ofSelector name.joined space.joined selector isPublic = .ok record.joined ∧
      (name.joined.IsIdentifier → space.joined.IsDottedPath →
        DescriptorRecord.ofJson record.joined.toJson = .ok record.joined) ∧
      (¬ name.joined.IsIdentifier →
        DescriptorRecord.ofJson record.joined.toJson = .error (.invalidName (.string name.joined))) ∧
      (name.joined.IsIdentifier → ¬ space.joined.IsDottedPath →
        DescriptorRecord.ofJson record.joined.toJson = .error (.invalidSpace (.string space.joined))) := by
  refine ⟨Json.isLine_line record.toJson (isExact_toJson hsound), read_line_toJson hsound, fun hnamed => ?_,
    fun name space selector isPublic hrecord => ?_⟩
  · rw [ofJson_toJson (isNamed_joined hnamed), qualified_joined hnamed]
  · obtain ⟨backing, hbacking, rfl⟩ := map_eq_ok_iff.1 hrecord
    have hfullName := Json.Text.joined_qualify hsound.space hsound.name
    refine ⟨rfl, ?_, fun hname hspace => ?_, fun hname => ofJson_of_not_isIdentifier hname,
      fun hname hspace => ofJson_of_not_isDottedPath hname hspace (joined_ne_torn_nil space)⟩
    · rw [DescriptorRecord.joined, hfullName]
      exact map_eq_ok_iff.2 ⟨backing, hbacking, rfl⟩
    · rw [ofJson_toJson ⟨hname, hspace⟩, DescriptorRecord.qualified, DescriptorRecord.joined, hfullName]

/-- Letters outside of ASCII come back, and so does a record with another full name, but with its own. A quote in a name,
a surrogate without its partner and an empty part in a namespace are refused. -/
theorem toJson_roundtrips_letters :
    DescriptorRecord.ofJson (DescriptorRecord.joined (Descriptor.record ⟨"Ä.Б", "𝒳Id", .long, false⟩)).toJson
      = .ok (Descriptor.record ⟨"Ä.Б", "𝒳Id", .long, false⟩) ∧
    DescriptorRecord.ofJson (DescriptorRecord.joined ⟨.whole "A", .whole "Id", .whole "Id", .int, true⟩).toJson
      = .ok ⟨.whole "A", .whole "Id", .whole "A.Id", .int, true⟩ ∧
    DescriptorRecord.ofJson (DescriptorRecord.joined ⟨.whole "", .whole "A\"", .whole "A\"", .guid, true⟩).toJson
      = .error (.invalidName (.ofString "A\"")) ∧
    DescriptorRecord.ofJson (DescriptorRecord.joined ⟨.whole "", .torn [0x41, 0xD835], .torn [0x41, 0xD835], .guid, true⟩).toJson
      = .error (.invalidName (.string (.torn [0x41, 0xD835]))) ∧
    DescriptorRecord.ofJson (DescriptorRecord.joined ⟨.whole "A..B", .whole "Id", .whole "A..B.Id", .guid, true⟩).toJson
      = .error (.invalidSpace (.ofString "A..B")) := by
  have hwhole {text : String} : (Json.Text.whole text).IsSound := trivial
  have hlone : Json.Text.IsSound (.torn [0x41, 0xD835]) := by decide
  obtain ⟨-, -, hletters, -⟩ := toJson_roundtrips (Descriptor.record ⟨"Ä.Б", "𝒳Id", .long, false⟩) ⟨hwhole, hwhole, hwhole⟩
  obtain ⟨-, -, hstored, -⟩ := toJson_roundtrips ⟨.whole "A", .whole "Id", .whole "Id", .int, true⟩ ⟨hwhole, hwhole, hwhole⟩
  obtain ⟨-, -, -, hquoted⟩ := toJson_roundtrips ⟨.whole "", .whole "A\"", .whole "A\"", .guid, true⟩ ⟨hwhole, hwhole, hwhole⟩
  obtain ⟨-, -, -, halone⟩ := toJson_roundtrips ⟨.whole "", .torn [0x41, 0xD835], .torn [0x41, 0xD835], .guid, true⟩
    ⟨hwhole, hlone, hlone⟩
  obtain ⟨-, -, -, hempty⟩ := toJson_roundtrips ⟨.whole "A..B", .whole "Id", .whole "A..B.Id", .guid, true⟩
    ⟨hwhole, hwhole, hwhole⟩
  obtain ⟨-, -, -, hquote, -⟩ := hquoted (.whole "A\"") (.whole "") (.kind .guid) true rfl
  obtain ⟨-, -, -, hsurrogate, -⟩ := halone (.torn [0x41, 0xD835]) (.whole "") (.kind .guid) true rfl
  obtain ⟨-, -, -, -, hpart⟩ := hempty (.whole "Id") (.whole "A..B") (.kind .guid) true rfl
  refine ⟨hletters ⟨by decide +kernel, by decide +kernel⟩, hstored ⟨by decide +kernel, by decide +kernel⟩, ?_, ?_, ?_⟩
  · exact hquote (by decide +kernel)
  · exact hsurrogate (by decide +kernel)
  · exact hpart (by decide +kernel) (by decide +kernel)

/-- A name that is no identifier, since it holds the two halves of a pair. -/
def halvedRecord : DescriptorRecord :=
  ⟨.whole "", .torn [0xD835, 0xDCB3, 0x49, 0x64], .torn [0xD835, 0xDCB3, 0x49, 0x64], .guid, true⟩

/-- The record is not refused: it is read as one whose name holds the character of the pair. -/
theorem halvedRecord_comes_back :
    halvedRecord.IsSound ∧
    DescriptorRecord.ofSelector halvedRecord.name halvedRecord.space (.kind .guid) true = .ok halvedRecord ∧
    ¬ halvedRecord.IsNamed ∧
    Json.read (Json.line halvedRecord.toJson).toList = .ok (Descriptor.toJson ⟨"", "𝒳Id", .guid, true⟩) ∧
    DescriptorRecord.ofJson (Descriptor.toJson ⟨"", "𝒳Id", .guid, true⟩)
      = .ok (Descriptor.record ⟨"", "𝒳Id", .guid, true⟩) := by
  have hbuilt : DescriptorRecord.ofSelector halvedRecord.name halvedRecord.space (.kind .guid) true = .ok halvedRecord :=
    rfl
  have hname : halvedRecord.name.IsSound := by decide
  have hspace : halvedRecord.space.IsSound := trivial
  have hsound : halvedRecord.IsSound := DescriptorRecord.isSound_of_ofSelector hname hspace hbuilt
  have hjoined : halvedRecord.joined = Descriptor.record ⟨"", "𝒳Id", .guid, true⟩ := by decide
  have hnamed : (Descriptor.record ⟨"", "𝒳Id", .guid, true⟩).IsNamed :=
    ⟨by decide +kernel, rfl⟩
  refine ⟨hsound, hbuilt, fun hhalved => hhalved.name, ?_, ofJson_toJson hnamed⟩
  rw [read_line_toJson hsound, hjoined]
  rfl

end TypedId
