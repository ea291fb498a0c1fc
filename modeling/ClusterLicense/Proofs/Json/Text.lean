/-
  ClusterLicense/Proofs/Json/Text.lean
  ====================================
  **Reading a string undoes writing it**, whatever octets it is made of and
  whatever follows its closing mark.

  The reader takes one escaped octet off the front at a time
  (`textOctets_escapeOctet`), so the whole string by induction on its octets.  A
  written string is therefore determined by any octets that it starts.
-/
import ClusterLicense.Json.Text
import ClusterLicense.Proofs.Text.Utf8

namespace ClusterLicense.Json

theorem hexUnit?_hexDigit {b : UInt8} (h : b < 32) :
    hexUnit? 48 48 (hexDigit (b.toNat / 16)) (hexDigit (b.toNat % 16)) = some b.toNat :=
  Bytes.forall_octet (p := fun b => b < 32 →
    hexUnit? 48 48 (hexDigit (b.toNat / 16)) (hexDigit (b.toNat % 16)) = some b.toNat)
    (by decide +kernel) b h

theorem utf8EncodeChar_ofNat {b : UInt8} (h : b < 128) :
    String.utf8EncodeChar (Char.ofNat b.toNat) = [b] :=
  Bytes.forall_octet (p := fun b => b < 128 → String.utf8EncodeChar (Char.ofNat b.toNat) = [b])
    (by decide +kernel) b h

/-- A control character is written as an escape by number with four digits, of which the first two
are zeros. -/
theorem unescape_control {b : UInt8} (h : b < 32) (rest : Bytes) :
    unescape (117 :: 48 :: 48 :: hexDigit (b.toNat / 16) :: hexDigit (b.toNat % 16) :: rest) =
      .ok ⟨[b], 5⟩ := by
  have hlow : b.toNat < 32 := h
  have hunit : hexUnit (48 :: 48 :: hexDigit (b.toNat / 16) :: hexDigit (b.toNat % 16) :: rest) =
      .ok b.toNat := by
    rw [hexUnit, hexUnit?_hexDigit h]
  have hnone : isTrailing b.toNat = false ∧ isLeading b.toNat = false := by
    simp [isTrailing, isLeading]; omega
  have hchar := utf8EncodeChar_ofNat (UInt8.lt_trans h (by decide : (32 : UInt8) < 128))
  have hnumber : escapeByNumber
      (48 :: 48 :: hexDigit (b.toNat / 16) :: hexDigit (b.toNat % 16) :: rest) =
      .ok ⟨[b], 5⟩ := by
    simp only [escapeByNumber, hunit, bind, Except.bind, hnone, Bool.false_eq_true, if_false,
      hchar]
    rfl
  rw [← hnumber]
  rfl

theorem textOctets_escaped {rest : Bytes} {u : Unescaped} (h : unescape rest = .ok u)
    {bytes after : Bytes} (hrest : textOctets (rest.drop u.size) = .ok (bytes, after)) :
    textOctets (backslash :: rest) = .ok (u.bytes ++ bytes, after) := by
  rw [textOctets, if_neg (by decide), if_pos rfl, h]
  simp only [hrest]

theorem textOctets_escapeOctet (b : UInt8) {rest bytes after : Bytes}
    (h : textOctets rest = .ok (bytes, after)) :
    textOctets (escapeOctet b ++ rest) = .ok (b :: bytes, after) := by
  unfold escapeOctet
  split
  · rename_i hmark
    have hself : unescape (b :: rest) = .ok ⟨[b], 1⟩ := by
      rw [unescape, if_pos (by rw [hmark, Bool.true_or])]
    exact textOctets_escaped hself h
  split
  · subst b
    exact textOctets_escaped (u := ⟨[8], 1⟩) rfl h
  split
  · subst b
    exact textOctets_escaped (u := ⟨[9], 1⟩) rfl h
  split
  · subst b
    exact textOctets_escaped (u := ⟨[10], 1⟩) rfl h
  split
  · subst b
    exact textOctets_escaped (u := ⟨[12], 1⟩) rfl h
  split
  · subst b
    exact textOctets_escaped (u := ⟨[13], 1⟩) rfl h
  split
  · rename_i hlow
    exact textOctets_escaped (unescape_control hlow rest) h
  · -- An octet that needs no escape is none of those that the reader stops at.
    rename_i hmark _ _ _ _ _ hlow
    rw [Bool.or_eq_true, decide_eq_true_eq, decide_eq_true_eq, not_or] at hmark
    rw [List.cons_append, List.nil_append, textOctets, if_neg hmark.1, if_neg hmark.2,
      if_neg hlow]
    simp only [h]

/-- What is written between the marks of a string reads as the octets that it was written from: only
what has to be escaped is, and each octet stands for itself in the end. -/
theorem textOctets_flatMap_escapeOctet (bytes rest : Bytes) :
    textOctets (bytes.flatMap escapeOctet ++ quotationMark :: rest) = .ok (bytes, rest) := by
  induction bytes with
  | nil =>
    rw [List.flatMap_nil, List.nil_append, textOctets, if_pos rfl]
  | cons b bytes ih =>
    rw [List.flatMap_cons, List.append_assoc]
    exact textOctets_escapeOctet b ih

/-- Whatever starts with a string starts with no other.  The closing mark shows where the string
ends, and reading it gives the text back. -/
theorem quoted_append_inj {a b : String} {s t : Bytes} :
    quoted a ++ s = quoted b ++ t ↔ a = b ∧ s = t := by
  constructor
  · intro h
    simp only [quoted, List.cons_append, List.append_assoc, List.nil_append, List.cons.injEq,
      true_and] at h
    have hread := textOctets_flatMap_escapeOctet (Utf8.encode a) s
    rw [h, textOctets_flatMap_escapeOctet] at hread
    obtain ⟨hoctets, rfl⟩ := Prod.mk.inj (Except.ok.inj hread)
    exact ⟨(Utf8.encode_injective hoctets).symm, rfl⟩
  · rintro ⟨rfl, rfl⟩
    rfl

/-! ### Lengths -/

theorem length_escapeOctet (b : UInt8) :
    1 ≤ (escapeOctet b).length ∧ (escapeOctet b).length ≤ 6 :=
  Bytes.forall_octet (p := fun b => 1 ≤ (escapeOctet b).length ∧ (escapeOctet b).length ≤ 6)
    (by decide +kernel) b

theorem length_flatMap_escapeOctet (bytes : Bytes) :
    bytes.length ≤ (bytes.flatMap escapeOctet).length ∧
      (bytes.flatMap escapeOctet).length ≤ 6 * bytes.length := by
  induction bytes with
  | nil => exact ⟨le_refl _, le_refl _⟩
  | cons b bytes ih =>
    have hb := length_escapeOctet b
    rw [List.flatMap_cons, List.length_append, List.length_cons]
    omega

/-- A text is written with its own octets and two marks at least, and with six octets for each of
its own at most, as many as an escape by number has. -/
theorem length_quoted (text : String) :
    (Utf8.encode text).length + 2 ≤ (quoted text).length ∧
      (quoted text).length ≤ 6 * (Utf8.encode text).length + 2 := by
  have hescaped := length_flatMap_escapeOctet (Utf8.encode text)
  rw [quoted, List.length_append, List.length_cons, List.length_singleton]
  omega

end ClusterLicense.Json
