/-
  ClusterLicense/Proofs/Der/Element.lean
  ======================================
  **What is read was written, and what is written can be read.**

  An element that is read is its tag, its length and its content as they are written,
  since a length is compared with what it would be written as; and so are whole numbers.
  The other way round, a reader stops behind what was written whatever follows it
  (`element?_append` and its successors).  The only thing that can be written and not
  read is a content whose length takes more than four octets (`HasLength`).
-/
import ClusterLicense.Der.Element
import ClusterLicense.Proofs.Bytes.BigEndian

namespace ClusterLicense.Der

variable {bytes content rest : Bytes} {tag : UInt8} {e : Element} {n : Nat}

/-! ### Lengths -/

/-- Four octets are enough for the length of a content. -/
def HasLength (content : Bytes) : Prop := content.length < 256 ^ 4

theorem HasLength.left {front : Bytes} (h : HasLength (front ++ rest)) : HasLength front := by
  rw [HasLength, List.length_append] at h
  exact Nat.lt_of_le_of_lt (Nat.le_add_right _ _) h

theorem HasLength.right {front : Bytes} (h : HasLength (front ++ rest)) : HasLength rest := by
  rw [HasLength, List.length_append] at h
  exact Nat.lt_of_le_of_lt (Nat.le_add_left _ _) h

theorem HasLength.tail {b : UInt8} (h : HasLength (b :: rest)) : HasLength rest :=
  Nat.lt_of_succ_lt h

/-- What is inside an element is shorter than the element. -/
theorem HasLength.inside (h : HasLength (encode tag content)) : HasLength content := h.right

/-- Only the shortest form of a length is read: what was read is written again and compared, and
this is where it is used. -/
theorem length?_sound (h : length? bytes = some (n, rest)) : bytes = encodeLength n ++ rest := by
  cases bytes with
  | nil => cases h
  | cons b tail =>
    rw [length?] at h
    split at h
    · rename_i hbelow
      have hshort : b.toNat < 128 := UInt8.lt_iff_toNat_lt.mp hbelow
      simp only [Option.some.injEq, Prod.mk.injEq] at h
      obtain ⟨rfl, rfl⟩ := h
      rw [encodeLength, if_pos hshort, UInt8.ofNat_toNat]
      rfl
    · simp only at h
      split at h
      · rename_i hsame
        simp only [Option.some.injEq, Prod.mk.injEq] at h
        obtain ⟨rfl, rfl⟩ := h
        rw [hsame.2, List.cons_append, List.take_append_drop]
      · cases h

theorem length?_append (h : n < 256 ^ 4) (rest : Bytes) :
    length? (encodeLength n ++ rest) = some (n, rest) := by
  by_cases hshort : n < 128
  · have hoctet : (UInt8.ofNat n).toNat = n := UInt8.toNat_ofNat_of_lt' (by simp [UInt8.size]; omega)
    have hbelow : UInt8.ofNat n < 0x80 := by
      rw [UInt8.lt_iff_toNat_lt, hoctet]
      exact hshort
    rw [encodeLength, if_pos hshort, List.singleton_append, length?, if_pos hbelow, hoctet]
  · have hwidth : Bytes.width n ≤ 4 := Bytes.width_le (by decide) h
    have hoctet : (UInt8.ofNat (128 + Bytes.width n)).toNat = 128 + Bytes.width n :=
      UInt8.toNat_ofNat_of_lt' (by simp [UInt8.size]; omega)
    have habove : ¬ UInt8.ofNat (128 + Bytes.width n) < 0x80 := by
      rw [UInt8.lt_iff_toNat_lt, hoctet]
      simp
    have hlength := Bytes.length_ofNat (Bytes.width n) n
    have hencode : encodeLength n =
        UInt8.ofNat (128 + Bytes.width n) :: Bytes.ofNat (Bytes.width n) n := by
      rw [encodeLength, if_neg hshort]
    rw [hencode, List.cons_append, length?, if_neg habove]
    simp only [hoctet, Nat.add_sub_cancel_left, List.take_left' hlength, List.drop_left' hlength,
      Bytes.toNat_ofNat_width, hencode, hwidth, and_self, if_true]

/-! ### Elements -/

/-- What reads as an element is what that element is written as, and the rest follows it.  So there
is one way to write an element, which is what sets these rules apart from their basic form. -/
theorem element?_sound (h : element? bytes = some (e, rest)) :
    isTag e.tag = true ∧ bytes = e.encode ++ rest := by
  cases bytes with
  | nil => cases h
  | cons tag tail =>
    simp only [element?, Option.bind_eq_bind, Option.bind_eq_some_iff, Option.guard_eq_some',
      Option.pure_def, Option.some.injEq, Prod.exists, Prod.mk.injEq] at h
    obtain ⟨_, htag, size, after, hlength, _, hsize, rfl, rfl⟩ := h
    refine ⟨htag, ?_⟩
    rw [length?_sound hlength, Element.encode, List.append_assoc, List.take_append_drop,
      List.length_take, Nat.min_eq_left hsize]
    rfl

/-- An element is read off the front whatever follows it, as long as its length fits in four octets.
-/
theorem element?_append (htag : isTag e.tag = true) (h : HasLength e.content) (rest : Bytes) :
    element? (e.encode ++ rest) = some (e, rest) := by
  obtain ⟨tag, content⟩ := e
  rw [Element.encode, List.append_assoc, List.cons_append, element?]
  simp only [length?_append h]
  simp [htag]

theorem content?_sound (h : content? tag bytes = some (content, rest)) :
    bytes = encode tag content ++ rest := by
  simp only [content?, Option.bind_eq_bind, Option.bind_eq_some_iff, Option.guard_eq_some',
    Option.pure_def, Option.some.injEq, Prod.exists, Prod.mk.injEq] at h
  obtain ⟨e, after, helement, _, rfl, rfl, rfl⟩ := h
  exact (element?_sound helement).2

theorem content?_append (htag : isTag tag = true) (h : HasLength content) (rest : Bytes) :
    content? tag (encode tag content ++ rest) = some (content, rest) := by
  rw [content?, encode, element?_append htag h]
  simp

theorem only?_sound (h : only? tag bytes = some content) : bytes = encode tag content := by
  simp only [only?, Option.bind_eq_bind, Option.bind_eq_some_iff, Option.guard_eq_some',
    Option.pure_def, Option.some.injEq, Prod.exists, List.isEmpty_iff] at h
  obtain ⟨content, after, hcontent, _, rfl, rfl⟩ := h
  rw [content?_sound hcontent, List.append_nil]

theorem only?_encode (htag : isTag tag = true) (h : HasLength content) :
    only? tag (encode tag content) = some content := by
  have hcontent := content?_append htag h []
  rw [List.append_nil] at hcontent
  rw [only?, hcontent]
  rfl

/-! ### Whole numbers and bit strings -/

theorem toNat_unsignedContent (n : Nat) : Bytes.toNat (unsignedContent n) = n := by
  rw [unsignedContent]
  split
  · rw [Bytes.toNat_cons, Bytes.toNat_ofNat_width]
    simp
  · exact Bytes.toNat_ofNat_width n

/-- A number is read from its shortest form only: a leading zero is there exactly if the next octet
would make the number negative. -/
theorem unsigned?_sound (h : unsigned? bytes = some (n, rest)) :
    bytes = encodeUnsigned n ++ rest := by
  simp only [unsigned?, Option.bind_eq_bind, Option.bind_eq_some_iff, Option.guard_eq_some',
    Option.pure_def, Option.some.injEq, Prod.exists, Prod.mk.injEq] at h
  obtain ⟨content, after, hcontent, _, hsame, rfl, rfl⟩ := h
  rw [content?_sound hcontent, encodeUnsigned, ← hsame]

theorem unsigned?_append (h : HasLength (unsignedContent n)) (rest : Bytes) :
    unsigned? (encodeUnsigned n ++ rest) = some (n, rest) := by
  rw [unsigned?, encodeUnsigned, content?_append rfl h]
  simp [toNat_unsignedContent]

theorem wholeOctets?_eq_some_iff : wholeOctets? content = some bytes ↔ content = 0 :: bytes := by
  constructor
  · intro h
    unfold wholeOctets? at h
    split at h
    · rw [Option.some.inj h]
    · cases h
  · rintro rfl
    rfl

end ClusterLicense.Der
