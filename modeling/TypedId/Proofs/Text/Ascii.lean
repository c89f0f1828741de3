import TypedId.Text.LineEnds
import TypedId.Text.Utf8

/-!
# Texts in ASCII

The characters of ASCII are stored as single bytes, which are read as the same characters.
-/

set_option autoImplicit false

namespace TypedId.Text

/-- All characters are of ASCII. -/
def IsAscii (chars : List Char) : Prop :=
  ∀ c ∈ chars, c.toNat < 0x80

/-- Characters of ASCII are encoded by one byte each. -/
theorem encode_of_isAscii {chars : List Char} (h : IsAscii chars) : Utf8.encode chars = chars.map Char.toNat := by
  induction chars with
  | nil => rfl
  | cons c rest ih =>
    obtain ⟨hc, hrest⟩ := List.forall_mem_cons.1 h
    have hone : Utf8.encodePoint c.toNat = [c.toNat] := if_pos hc
    rw [Utf8.encode, List.flatMap_cons, hone, List.map_cons, ← ih hrest]
    rfl

/-- Bytes of ASCII are decoded to one character each. -/
theorem decodeFrom_of_isAscii {chars : List Char} (h : IsAscii chars) (position : Nat) (read : List Char) :
    Utf8.decodeFrom position read none (chars.map Char.toNat) = .ok (read.reverse ++ chars) := by
  induction chars generalizing position read with
  | nil => simp [Utf8.decodeFrom]
  | cons c rest ih =>
    obtain ⟨hc, hrest⟩ := List.forall_mem_cons.1 h
    have hcount : Utf8.continuationCount? c.toNat = some 0 := if_pos hc
    rw [List.map_cons, Utf8.decodeFrom]
    simp only [hcount]
    rw [ih hrest, Char.ofNat_toNat, List.reverse_cons, List.append_assoc, List.singleton_append]

/-- What is stored in ASCII is read again. -/
theorem decode_encode {chars : List Char} (h : IsAscii chars) : Utf8.decode (Utf8.encode chars) = .ok chars := by
  rw [encode_of_isAscii h]
  exact decodeFrom_of_isAscii h 0 []

/-- Line ends that are line feeds stay. -/
theorem unifyLineEnds_of_notMem {chars : List Char} (h : '\r' ∉ chars) : unifyLineEnds chars = chars := by
  induction chars with
  | nil => rfl
  | cons c rest ih =>
    rw [List.mem_cons, not_or] at h
    rw [unifyLineEnds, ih h.2]
    · rintro _ rfl
      exact absurd rfl h.1
    · rintro rfl
      exact absurd rfl h.1

end TypedId.Text
