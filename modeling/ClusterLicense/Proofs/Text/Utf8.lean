/-
  ClusterLicense/Proofs/Text/Utf8.lean
  ====================================
  **A text is determined by its octets**, and octets below 128 are the octets of
  the text that they spell one by one.

  Reading takes back what writing has made: the lead octet of a character tells
  its length, the octets after it hold six bits each, and together they are the
  number of the character (`first?_utf8EncodeChar`).  As the number has to need
  that many octets, nothing else is read as the character (`eq_of_first?`), and
  octets are a text if and only if they are the octets of it (`decode_eq_ok_iff`).
-/
import ClusterLicense.Proofs.Bytes.BigEndian
import ClusterLicense.Text.Utf8

namespace ClusterLicense.Utf8

theorem toByteArray_encode (text : String) : (encode text).toByteArray = text.toByteArray := by
  conv_rhs => rw [← String.ofList_toList (s := text)]
  rw [String.toByteArray_ofList]
  rfl

theorem encode_injective {a b : String} (h : encode a = encode b) : a = b := by
  rw [← String.toByteArray_inj, ← toByteArray_encode, ← toByteArray_encode, h]

theorem utf8EncodeChar_ofUInt8 {b : UInt8} (h : b < 128) :
    String.utf8EncodeChar (Char.ofUInt8 b) = [b] :=
  Bytes.forall_octet (p := fun b => b < 128 → String.utf8EncodeChar (Char.ofUInt8 b) = [b])
    (by decide +kernel) b h

theorem encode_ofList_map_ofUInt8 {bytes : Bytes} (h : ∀ b ∈ bytes, b < 128) :
    encode (String.ofList (bytes.map Char.ofUInt8)) = bytes := by
  rw [encode, String.toList_ofList]
  induction bytes with
  | nil => rfl
  | cons b bytes ih =>
    rw [List.map_cons, List.flatMap_cons, utf8EncodeChar_ofUInt8 (h b (by simp)),
      ih fun c hc => h c (List.mem_cons_of_mem b hc)]
    rfl

/-! ### Reading undoes writing -/

section

variable {a b c d : UInt8} (rest : Bytes)

/-- The bound is a literal here, which `omega` can use. -/
theorem toNat_ofNat_of_lt {n : Nat} (h : n < 256) : (UInt8.ofNat n).toNat = n :=
  UInt8.toNat_ofNat_of_lt' h

theorem lt_ofNat_iff {n : Nat} (h : n < 256) : a < UInt8.ofNat n ↔ a.toNat < n := by
  rw [UInt8.lt_iff_toNat_lt, toNat_ofNat_of_lt h]

theorem not_lt_ofNat {n : Nat} (h : n < 256) (ha : n ≤ a.toNat) : ¬ a < UInt8.ofNat n := by
  rw [lt_ofNat_iff h]
  exact Nat.not_lt_of_le ha

theorem first?_one (ha : a.toNat < 128) :
    first? (a :: rest) = (·, rest) <$> char? 0 a.toNat := by
  have hlow : a < 0x80 := (lt_ofNat_iff (by decide)).mpr ha
  unfold first?
  simp only [if_pos hlow]

theorem first?_two (hge : 192 ≤ a.toNat) (hlt : a.toNat < 224) (hb : isTail b = true) :
    first? (a :: b :: rest) =
      (·, rest) <$> char? 0x80 (a.toNat % 32 * 64 + b.toNat % 64) := by
  have h₁ : ¬ a < 0x80 := not_lt_ofNat (by decide) (Nat.le_trans (by decide) hge)
  have h₂ : ¬ a < 0xC0 := not_lt_ofNat (by decide) hge
  have h₃ : a < 0xE0 := (lt_ofNat_iff (by decide)).mpr hlt
  unfold first?
  simp only [if_neg h₁, if_neg h₂, if_pos h₃, if_pos hb]

theorem first?_three (hge : 224 ≤ a.toNat) (hlt : a.toNat < 240) (hb : isTail b = true)
    (hc : isTail c = true) :
    first? (a :: b :: c :: rest) =
      (·, rest) <$> char? 0x800 ((a.toNat % 16 * 64 + b.toNat % 64) * 64 + c.toNat % 64) := by
  have h₁ : ¬ a < 0x80 := not_lt_ofNat (by decide) (Nat.le_trans (by decide) hge)
  have h₂ : ¬ a < 0xC0 := not_lt_ofNat (by decide) (Nat.le_trans (by decide) hge)
  have h₃ : ¬ a < 0xE0 := not_lt_ofNat (by decide) hge
  have h₄ : a < 0xF0 := (lt_ofNat_iff (by decide)).mpr hlt
  unfold first?
  simp only [if_neg h₁, if_neg h₂, if_neg h₃, if_pos h₄, hb, hc, Bool.and_self, if_true]

theorem first?_four (hge : 240 ≤ a.toNat) (hlt : a.toNat < 248) (hb : isTail b = true)
    (hc : isTail c = true) (hd : isTail d = true) :
    first? (a :: b :: c :: d :: rest) =
      (·, rest) <$> char? 0x10000
        (((a.toNat % 8 * 64 + b.toNat % 64) * 64 + c.toNat % 64) * 64 + d.toNat % 64) := by
  have h₁ : ¬ a < 0x80 := not_lt_ofNat (by decide) (Nat.le_trans (by decide) hge)
  have h₂ : ¬ a < 0xC0 := not_lt_ofNat (by decide) (Nat.le_trans (by decide) hge)
  have h₃ : ¬ a < 0xE0 := not_lt_ofNat (by decide) (Nat.le_trans (by decide) hge)
  have h₄ : ¬ a < 0xF0 := not_lt_ofNat (by decide) hge
  have h₅ : a < 0xF8 := (lt_ofNat_iff (by decide)).mpr hlt
  unfold first?
  simp only [if_neg h₁, if_neg h₂, if_neg h₃, if_neg h₄, if_pos h₅, hb, hc, hd, Bool.and_self,
    if_true]

end

theorem char?_toNat {least : Nat} {c : Char} (h : least ≤ c.toNat) :
    char? least c.toNat = some c := by
  have hvalid : c.toNat.isValidChar := c.valid
  rw [char?, dif_pos hvalid, if_pos h, Option.some.injEq, ← Char.toNat_inj]
  rfl

/-- The octets of a character after its first one hold six bits each. -/
theorem tail_spec (n : Nat) :
    isTail (UInt8.ofNat (n % 64 + 128)) = true ∧
      (UInt8.ofNat (n % 64 + 128)).toNat % 64 = n % 64 := by
  have hoctet : (UInt8.ofNat (n % 64 + 128)).toNat = n % 64 + 128 :=
    toNat_ofNat_of_lt (by omega)
  constructor
  · have hsmall : (UInt8.ofNat (n % 64 + 128)).toNat < 192 := by omega
    have hhigh : UInt8.ofNat (n % 64 + 128) < 0xC0 := (lt_ofNat_iff (by decide)).mpr hsmall
    have hlow : 0x80 ≤ UInt8.ofNat (n % 64 + 128) := by
      rw [UInt8.le_iff_toNat_le, hoctet]
      exact Nat.le_add_left 128 _
    rw [isTail, decide_eq_true hlow, decide_eq_true hhigh]
    rfl
  · rw [hoctet]
    omega

/-- What a character is written as reads as the character, whatever follows it.  There are four
cases, by the number of octets, and in each the bits of the character are put together again. -/
theorem first?_utf8EncodeChar (c : Char) (rest : Bytes) :
    first? (String.utf8EncodeChar c ++ rest) = some (c, rest) := by
  have hlt : c.toNat < 1114112 := by
    rcases c.valid with hlow | ⟨-, hhigh⟩
    · exact Nat.lt_trans hlow (by decide)
    · exact hhigh
  obtain ⟨htail₀, hbits₀⟩ := tail_spec c.toNat
  obtain ⟨htail₁, hbits₁⟩ := tail_spec (c.toNat / 64)
  obtain ⟨htail₂, hbits₂⟩ := tail_spec (c.toNat / 4096)
  unfold String.utf8EncodeChar
  simp only [show c.val.toNat = c.toNat from rfl]
  split
  · have ha : (UInt8.ofNat c.toNat).toNat = c.toNat := toNat_ofNat_of_lt (by omega)
    rw [List.singleton_append, first?_one rest (by omega), ha, char?_toNat (Nat.zero_le _)]
    rfl
  split
  · have ha : (UInt8.ofNat (c.toNat / 64 % 32 + 192)).toNat = c.toNat / 64 % 32 + 192 :=
      toNat_ofNat_of_lt (by omega)
    have hsum : (c.toNat / 64 % 32 + 192) % 32 * 64 + c.toNat % 64 = c.toNat := by omega
    simp only [List.cons_append, List.nil_append]
    rw [first?_two rest (by omega) (by omega) htail₀, hbits₀, ha, hsum, char?_toNat (by omega)]
    rfl
  split
  · have ha : (UInt8.ofNat (c.toNat / 4096 % 16 + 224)).toNat = c.toNat / 4096 % 16 + 224 :=
      toNat_ofNat_of_lt (by omega)
    have hsum : ((c.toNat / 4096 % 16 + 224) % 16 * 64 + c.toNat / 64 % 64) * 64 + c.toNat % 64 =
        c.toNat := by omega
    simp only [List.cons_append, List.nil_append]
    rw [first?_three rest (by omega) (by omega) htail₁ htail₀, hbits₁, hbits₀, ha, hsum,
      char?_toNat (by omega)]
    rfl
  · have ha : (UInt8.ofNat (c.toNat / 262144 % 8 + 240)).toNat = c.toNat / 262144 % 8 + 240 :=
      toNat_ofNat_of_lt (by omega)
    have hsum : (((c.toNat / 262144 % 8 + 240) % 8 * 64 + c.toNat / 4096 % 64) * 64 +
        c.toNat / 64 % 64) * 64 + c.toNat % 64 = c.toNat := by omega
    simp only [List.cons_append, List.nil_append]
    rw [first?_four rest (by omega) (by omega) htail₂ htail₁ htail₀, hbits₂, hbits₁, hbits₀, ha,
      hsum, char?_toNat (by omega)]
    rfl

/-- A character is one octet below 128, which is its number, or an octet from 192 on with octets
after it that hold six bits each. -/
theorem utf8EncodeChar_cons (c : Char) :
    ∃ a tails, String.utf8EncodeChar c = a :: tails ∧ (∀ b ∈ tails, isTail b = true) ∧
      (c.toNat < 128 ∧ a.toNat = c.toNat ∧ tails = [] ∨ 128 ≤ c.toNat ∧ 192 ≤ a.toNat) := by
  obtain ⟨htail₀, -⟩ := tail_spec c.toNat
  obtain ⟨htail₁, -⟩ := tail_spec (c.toNat / 64)
  obtain ⟨htail₂, -⟩ := tail_spec (c.toNat / 4096)
  unfold String.utf8EncodeChar
  simp only [show c.val.toNat = c.toNat from rfl]
  split_ifs with hone htwo hthree
  · have ha : (UInt8.ofNat c.toNat).toNat = c.toNat := toNat_ofNat_of_lt (by omega)
    exact ⟨_, [], rfl, List.forall_mem_nil _, .inl ⟨by omega, ha, rfl⟩⟩
  · have ha : (UInt8.ofNat (c.toNat / 64 % 32 + 192)).toNat = c.toNat / 64 % 32 + 192 :=
      toNat_ofNat_of_lt (by omega)
    exact ⟨_, _, rfl, List.forall_mem_singleton.mpr htail₀, .inr ⟨by omega, by omega⟩⟩
  · have ha : (UInt8.ofNat (c.toNat / 4096 % 16 + 224)).toNat = c.toNat / 4096 % 16 + 224 :=
      toNat_ofNat_of_lt (by omega)
    exact ⟨_, _, rfl, List.forall_mem_cons.mpr ⟨htail₁, List.forall_mem_singleton.mpr htail₀⟩,
      .inr ⟨by omega, by omega⟩⟩
  · have ha : (UInt8.ofNat (c.toNat / 262144 % 8 + 240)).toNat = c.toNat / 262144 % 8 + 240 :=
      toNat_ofNat_of_lt (by omega)
    exact ⟨_, _, rfl, List.forall_mem_cons.mpr ⟨htail₂, List.forall_mem_cons.mpr
      ⟨htail₁, List.forall_mem_singleton.mpr htail₀⟩⟩, .inr ⟨by omega, by omega⟩⟩

theorem characters_flatMap (cs : List Char) :
    characters (cs.flatMap String.utf8EncodeChar) = (cs, []) := by
  induction cs with
  | nil =>
    unfold characters
    rfl
  | cons c cs ih =>
    have hfirst := first?_utf8EncodeChar c (cs.flatMap String.utf8EncodeChar)
    rw [List.flatMap_cons]
    unfold characters
    split
    · rename_i hnone
      rw [hfirst] at hnone
      cases hnone
    · rename_i hsome
      rw [hfirst] at hsome
      cases hsome
      rw [ih]

theorem decode_encode (text : String) : decode (encode text) = .ok text := by
  rw [decode, encode, characters_flatMap]
  simp only [String.ofList_toList]

/-! ### What is read was written -/

section

variable {a b d e : UInt8} {c : Char}

/-- A character is only read from the fewest octets that it can be written with, so that overlong
forms are refused. -/
theorem char?_eq_some {least n : Nat} (h : char? least n = some c) :
    c.toNat = n ∧ least ≤ n := by
  unfold char? at h
  by_cases hvalid : n.isValidChar
  · rw [dif_pos hvalid] at h
    by_cases hleast : least ≤ n
    · rw [if_pos hleast] at h
      obtain rfl := Option.some.inj h
      exact ⟨rfl, hleast⟩
    · rw [if_neg hleast] at h
      cases h
  · rw [dif_neg hvalid] at h
    cases h

theorem isTail_iff : isTail b = true ↔ 128 ≤ b.toNat ∧ b.toNat < 192 := by
  rw [isTail, Bool.and_eq_true, decide_eq_true_eq, decide_eq_true_eq, UInt8.le_iff_toNat_le,
    UInt8.lt_iff_toNat_lt]
  exact Iff.rfl

theorem ofNat_eq_of_eq_toNat {n : Nat} (h : n = b.toNat) : UInt8.ofNat n = b := by
  rw [h, UInt8.ofNat_toNat]

theorem utf8EncodeChar_one (ha : a.toNat < 128) (hc : c.toNat = a.toNat) :
    String.utf8EncodeChar c = [a] := by
  unfold String.utf8EncodeChar
  simp only [show c.val.toNat = c.toNat from rfl, hc]
  rw [if_pos (by omega), UInt8.ofNat_toNat]

/-- Two octets whose bits make up a character that needs two are what it is written as.  The bound
from below is where overlong forms drop out. -/
theorem utf8EncodeChar_two (hge : 192 ≤ a.toNat) (hlt : a.toNat < 224) (hb : isTail b = true)
    (hc : c.toNat = a.toNat % 32 * 64 + b.toNat % 64) (hleast : 128 ≤ c.toNat) :
    String.utf8EncodeChar c = [a, b] := by
  have hbits := isTail_iff.mp hb
  unfold String.utf8EncodeChar
  simp only [show c.val.toNat = c.toNat from rfl]
  rw [if_neg (by omega), if_pos (by omega), ofNat_eq_of_eq_toNat (b := a) (by omega),
    ofNat_eq_of_eq_toNat (b := b) (by omega)]

theorem utf8EncodeChar_three (hge : 224 ≤ a.toNat) (hlt : a.toNat < 240) (hb : isTail b = true)
    (hd : isTail d = true)
    (hc : c.toNat = (a.toNat % 16 * 64 + b.toNat % 64) * 64 + d.toNat % 64)
    (hleast : 2048 ≤ c.toNat) : String.utf8EncodeChar c = [a, b, d] := by
  have hbits := isTail_iff.mp hb
  have hbits' := isTail_iff.mp hd
  unfold String.utf8EncodeChar
  simp only [show c.val.toNat = c.toNat from rfl]
  rw [if_neg (by omega), if_neg (by omega), if_pos (by omega),
    ofNat_eq_of_eq_toNat (b := a) (by omega), ofNat_eq_of_eq_toNat (b := b) (by omega),
    ofNat_eq_of_eq_toNat (b := d) (by omega)]

theorem utf8EncodeChar_four (hge : 240 ≤ a.toNat) (hlt : a.toNat < 248) (hb : isTail b = true)
    (hd : isTail d = true) (he : isTail e = true)
    (hc : c.toNat =
      ((a.toNat % 8 * 64 + b.toNat % 64) * 64 + d.toNat % 64) * 64 + e.toNat % 64)
    (hleast : 65536 ≤ c.toNat) : String.utf8EncodeChar c = [a, b, d, e] := by
  have hbits := isTail_iff.mp hb
  have hbits' := isTail_iff.mp hd
  have hbits'' := isTail_iff.mp he
  unfold String.utf8EncodeChar
  simp only [show c.val.toNat = c.toNat from rfl]
  rw [if_neg (by omega), if_neg (by omega), if_neg (by omega),
    ofNat_eq_of_eq_toNat (b := a) (by omega), ofNat_eq_of_eq_toNat (b := b) (by omega),
    ofNat_eq_of_eq_toNat (b := d) (by omega), ofNat_eq_of_eq_toNat (b := e) (by omega)]

end

/-- What is read as a character is what it is written as.  Together with `first?_utf8EncodeChar`
this makes reading and writing a character the same relation. -/
theorem eq_of_first? {bytes rest : Bytes} {c : Char} (h : first? bytes = some (c, rest)) :
    bytes = String.utf8EncodeChar c ++ rest := by
  unfold first? at h
  split at h
  · cases h
  rename_i a s
  split_ifs at h with hone htwo hthree hfour hfive
  · obtain ⟨found, hchar, hpair⟩ := Option.map_eq_some_iff.mp h
    obtain ⟨rfl, rfl⟩ := Prod.mk.inj hpair
    rw [utf8EncodeChar_one hone (char?_eq_some hchar).1]
    rfl
  · have hge : 192 ≤ a.toNat := Nat.le_of_not_lt htwo
    split at h
    · rename_i b s
      split_ifs at h with htail
      obtain ⟨found, hchar, hpair⟩ := Option.map_eq_some_iff.mp h
      obtain ⟨rfl, rfl⟩ := Prod.mk.inj hpair
      obtain ⟨hvalue, hleast⟩ := char?_eq_some hchar
      rw [utf8EncodeChar_two hge hthree htail hvalue (hvalue ▸ hleast)]
      rfl
    · cases h
  · have hge : 224 ≤ a.toNat := Nat.le_of_not_lt hthree
    split at h
    · rename_i b d s
      split_ifs at h with htails
      obtain ⟨found, hchar, hpair⟩ := Option.map_eq_some_iff.mp h
      obtain ⟨rfl, rfl⟩ := Prod.mk.inj hpair
      obtain ⟨hvalue, hleast⟩ := char?_eq_some hchar
      obtain ⟨hb, hd⟩ := Bool.and_eq_true_iff.mp htails
      rw [utf8EncodeChar_three hge hfour hb hd hvalue (hvalue ▸ hleast)]
      rfl
    · cases h
  · have hge : 240 ≤ a.toNat := Nat.le_of_not_lt hfour
    split at h
    · rename_i b d e s
      split_ifs at h with htails
      obtain ⟨found, hchar, hpair⟩ := Option.map_eq_some_iff.mp h
      obtain ⟨rfl, rfl⟩ := Prod.mk.inj hpair
      obtain ⟨hvalue, hleast⟩ := char?_eq_some hchar
      obtain ⟨htails, he⟩ := Bool.and_eq_true_iff.mp htails
      obtain ⟨hb, hd⟩ := Bool.and_eq_true_iff.mp htails
      rw [utf8EncodeChar_four hge hfive hb hd he hvalue (hvalue ▸ hleast)]
      rfl
    · cases h

/-- However far reading comes, the octets that it has read are those of the characters that it has
found. -/
theorem eq_characters (bytes : Bytes) :
    bytes = (characters bytes).1.flatMap String.utf8EncodeChar ++ (characters bytes).2 := by
  fun_induction characters bytes with
  | case1 bytes hnone => rfl
  | case2 bytes c rest hfirst hshorter cs left hrest ih =>
    rw [hrest] at ih
    rw [eq_of_first? hfirst, List.flatMap_cons, List.append_assoc, ← ih]

/-- Octets are read as a text if and only if they are what the text is written as.  So there is one
way to write a text, and decoding is the inverse of encoding wherever it succeeds. -/
theorem decode_eq_ok_iff {bytes : Bytes} {text : String} :
    decode bytes = .ok text ↔ bytes = encode text := by
  constructor
  · intro h
    have hbytes := eq_characters bytes
    unfold decode at h
    split at h
    · rename_i cs hcs
      obtain rfl := Except.ok.inj h
      rw [hcs, List.append_nil] at hbytes
      rw [encode, String.toList_ofList]
      exact hbytes
    · cases h
  · rintro rfl
    exact decode_encode text

/-! ### Octets of texts -/

def IsText (bytes : Bytes) : Prop := ∃ text, bytes = encode text

theorem isText_of_lt {bytes : Bytes} (h : ∀ b ∈ bytes, b < 128) : IsText bytes :=
  ⟨_, (encode_ofList_map_ofUInt8 h).symm⟩

theorem isText_utf8EncodeChar (c : Char) : IsText (String.utf8EncodeChar c) := by
  refine ⟨String.ofList [c], ?_⟩
  rw [encode, String.toList_ofList, List.flatMap_singleton]

theorem IsText.append {a b : Bytes} (ha : IsText a) (hb : IsText b) : IsText (a ++ b) := by
  obtain ⟨x, rfl⟩ := ha
  obtain ⟨y, rfl⟩ := hb
  refine ⟨x ++ y, ?_⟩
  rw [encode, encode, encode, String.toList_append, List.flatMap_append]

theorem toNat_of_mem_utf8EncodeChar {c : Char} {b : UInt8} (hb : b ∈ String.utf8EncodeChar c)
    (hlow : b.toNat < 128) : c.toNat = b.toNat := by
  obtain ⟨a, tails, hc, htails, hfirst⟩ := utf8EncodeChar_cons c
  rw [hc] at hb
  rcases List.mem_cons.mp hb with rfl | hb
  · omega
  · have htail := isTail_iff.mp (htails b hb)
    omega

end ClusterLicense.Utf8
