/-
  ClusterLicense/Proofs/Json/Spelling.lean
  ========================================
  **A string is read as the text that it spells**, in whichever way.

  What a string stands for is first a matter of octets (`Means`): an octet stands for
  itself, an escape for the octets of a character.  The reader finds exactly that
  (`textOctets_eq_ok_iff`).  The octets of a text come one character at a time, and
  none of them starts in the middle of another, so they can only come from a spelling
  of the text (`means_iff_spells`), be it escaped or not.

  A string that nobody reads is run through by the same marks and escapes
  (`afterText_eq_ok_iff`), but need not spell anything.
-/
import ClusterLicense.Proofs.Json.Grammar
import ClusterLicense.Proofs.Json.Text
import ClusterLicense.Proofs.Outcome
import ClusterLicense.Proofs.Text.Utf8

namespace ClusterLicense.Json

/-! ### Hexadecimal digits -/

theorem hexValue?_lt {b : UInt8} {v : Nat} (h : hexValue? b = some v) : v < 16 :=
  Bytes.forall_octet (p := fun b => ∀ v ∈ hexValue? b, v < 16) (by decide +kernel) b v h

theorem IsHex.lt {n : Nat} {s : Bytes} (h : IsHex n s) : n < 65536 := by
  obtain ⟨a, b, c, d, -, hunit⟩ := h
  simp only [hexUnit?, Option.bind_eq_bind, Option.bind_eq_some_iff, Option.pure_def,
    Option.some.injEq] at hunit
  obtain ⟨w, hw, x, hx, y, hy, z, hz, rfl⟩ := hunit
  have hw := hexValue?_lt hw
  have hx := hexValue?_lt hx
  have hy := hexValue?_lt hy
  have hz := hexValue?_lt hz
  omega

theorem IsHex.length {n : Nat} {s : Bytes} (h : IsHex n s) : s.length = 4 := by
  obtain ⟨a, b, c, d, rfl, -⟩ := h
  rfl

/-- Four hexadecimal digits are read as the number that they spell, in small letters or large, and
nothing else is. -/
theorem hexUnit_eq_ok_iff {s : Bytes} {n : Nat} :
    hexUnit s = .ok n ↔ ∃ hex rest, IsHex n hex ∧ s = hex ++ rest := by
  constructor
  · intro h
    unfold hexUnit at h
    split at h
    · rename_i a b c d rest
      split at h
      · rename_i m hunit
        obtain rfl := Except.ok.inj h
        exact ⟨[a, b, c, d], rest, ⟨a, b, c, d, rfl, hunit⟩, rfl⟩
      · cases h
    · cases h
  · rintro ⟨hex, rest, ⟨a, b, c, d, rfl, hunit⟩, rfl⟩
    simp only [List.cons_append, List.nil_append, hexUnit, hunit]

/-! ### Escapes -/

/-- The second half of a surrogate pair has to follow at once, with a backslash and a letter of its
own. -/
theorem trailingUnit_eq_ok_iff {s : Bytes} {n : Nat} :
    trailingUnit s = .ok n ↔
      isTrailing n = true ∧ ∃ hex rest, IsHex n hex ∧ s = backslash :: 117 :: (hex ++ rest) := by
  constructor
  · intro h
    unfold trailingUnit at h
    split at h
    · cases h
    rename_i b s
    split_ifs at h with hb
    split at h
    · cases h
    rename_i c s
    split_ifs at h with hc
    split at h
    · cases h
    rename_i m hunit
    split_ifs at h with htrailing
    obtain rfl := Except.ok.inj h
    obtain ⟨hex, rest, hhex, rfl⟩ := hexUnit_eq_ok_iff.mp hunit
    exact ⟨htrailing, hex, rest, hhex, by rw [hb, hc]⟩
  · rintro ⟨htrailing, hex, rest, hhex, rfl⟩
    have hunit := hexUnit_eq_ok_iff.mpr ⟨hex, rest, hhex, rfl⟩
    simp only [trailingUnit, if_true, hunit, htrailing]

theorem isLeading_iff {n : Nat} : isLeading n = true ↔ 0xD800 ≤ n ∧ n < 0xDC00 := by
  rw [isLeading, Bool.and_eq_true, decide_eq_true_eq, decide_eq_true_eq]

theorem isTrailing_iff {n : Nat} : isTrailing n = true ↔ 0xDC00 ≤ n ∧ n < 0xE000 := by
  rw [isTrailing, Bool.and_eq_true, decide_eq_true_eq, decide_eq_true_eq]

theorem toNat_ofNat_of_isValidChar {n : Nat} (h : n.isValidChar) : (Char.ofNat n).toNat = n := by
  rw [Char.ofNat, dif_pos h]
  rfl

theorem isValidChar_of_not_surrogate {n : Nat} (h : n < 65536) (hleading : ¬ isLeading n = true)
    (htrailing : ¬ isTrailing n = true) : n.isValidChar := by
  rw [isLeading_iff] at hleading
  rw [isTrailing_iff] at htrailing
  unfold Nat.isValidChar
  omega

theorem not_surrogate (c : Char) : ¬ isLeading c.toNat = true ∧ ¬ isTrailing c.toNat = true := by
  have hvalid : c.toNat.isValidChar := c.valid
  unfold Nat.isValidChar at hvalid
  rw [isLeading_iff, isTrailing_iff]
  omega

/-- A pair of surrogates, the leading one first, stands for a character beyond the first 65536. -/
theorem isValidChar_pair {n m : Nat} (hleading : isLeading n = true)
    (htrailing : isTrailing m = true) :
    (0x10000 + (n - 0xD800) * 0x400 + (m - 0xDC00)).isValidChar := by
  rw [isLeading_iff] at hleading
  rw [isTrailing_iff] at htrailing
  unfold Nat.isValidChar
  omega

/-- An escape by number stands for the character with the number, or for one beyond 16 bits if it is
a pair.  A surrogate without its other half stands for nothing. -/
theorem escapeByNumber_eq_ok_iff {s : Bytes} {u : Unescaped} :
    escapeByNumber s = .ok u ↔ ∃ c escape rest, Escapes c (117 :: escape) ∧ s = escape ++ rest ∧
      u = ⟨String.utf8EncodeChar c, escape.length + 1⟩ := by
  constructor
  · intro h
    unfold escapeByNumber at h
    obtain ⟨n, hunit, h⟩ := bind_eq_ok_iff.mp h
    simp only [throw_bind, refuse_if_eq_ok_iff] at h
    obtain ⟨htrailing, h⟩ := h
    obtain ⟨hex, rest, hhex, rfl⟩ := hexUnit_eq_ok_iff.mp hunit
    by_cases hleading : isLeading n = true
    · rw [if_pos hleading, ← hhex.length, List.drop_left] at h
      obtain ⟨m, hsecond, hpair⟩ := bind_eq_ok_iff.mp h
      obtain rfl := pure_eq_ok_iff.mp hpair
      obtain ⟨htrailing, back, rest, hback, rfl⟩ := trailingUnit_eq_ok_iff.mp hsecond
      have hvalue := toNat_ofNat_of_isValidChar (isValidChar_pair hleading htrailing)
      refine ⟨_, _, rest, .pair hhex hback hleading htrailing hvalue, ?_, ?_⟩
      · simp only [List.append_assoc, List.cons_append]
      · simp only [List.length_append, List.length_cons, hhex.length, hback.length]
    · rw [if_neg hleading] at h
      obtain rfl := pure_eq_ok_iff.mp h
      have hvalue := toNat_ofNat_of_isValidChar
        (isValidChar_of_not_surrogate hhex.lt hleading htrailing)
      exact ⟨_, hex, rest, .number (hvalue.symm ▸ hhex), rfl, by rw [hhex.length]⟩
  · rintro ⟨c, escape, rest, hescape, rfl, rfl⟩
    cases hescape with
    | letter h =>
      have hnone : ∀ b, (117, b) ∉ letterEscapes := by
        intro b hb
        simp [letterEscapes, quotationMark, backslash] at hb
      exact absurd h (hnone _)
    | number hhex =>
      have hunit := hexUnit_eq_ok_iff.mpr ⟨_, rest, hhex, rfl⟩
      obtain ⟨hleading, htrailing⟩ := not_surrogate c
      rw [escapeByNumber, hunit, ok_bind, if_neg htrailing, if_neg hleading, Char.ofNat_toNat,
        hhex.length]
      rfl
    | @pair _ n m first second hfirst hsecond hleading htrailing hvalue =>
      have hunit : hexUnit (first ++ (backslash :: 117 :: second ++ rest)) = .ok n :=
        hexUnit_eq_ok_iff.mpr ⟨first, _, hfirst, rfl⟩
      have hback : trailingUnit (backslash :: 117 :: second ++ rest) = .ok m :=
        trailingUnit_eq_ok_iff.mpr ⟨htrailing, second, rest, hsecond, rfl⟩
      have hnot : ¬ isTrailing n = true := by
        rw [isLeading_iff] at hleading
        rw [isTrailing_iff]
        omega
      rw [List.append_assoc, escapeByNumber, hunit, ok_bind, if_neg hnot, if_pos hleading,
        ← hfirst.length, List.drop_left, hback, ok_bind, ← hvalue, Char.ofNat_toNat]
      simp only [List.length_append, List.length_cons, hfirst.length, hsecond.length]
      rfl

theorem lt_of_mem_letterEscapes {l b : UInt8} (h : (l, b) ∈ letterEscapes) : b < 128 := by
  have hall : letterEscapes.all (fun p => p.2 < 128) = true := by decide
  exact of_decide_eq_true (List.all_eq_true.mp hall _ h)

theorem unescape_letter {l b : UInt8} (h : (l, b) ∈ letterEscapes) (rest : Bytes) :
    unescape (l :: rest) = .ok ⟨[b], 1⟩ := by
  simp only [letterEscapes, List.mem_cons, List.not_mem_nil, or_false, Prod.mk.injEq] at h
  rcases h with ⟨rfl, rfl⟩ | ⟨rfl, rfl⟩ | ⟨rfl, rfl⟩ | ⟨rfl, rfl⟩ | ⟨rfl, rfl⟩ | ⟨rfl, rfl⟩ |
    ⟨rfl, rfl⟩ | ⟨rfl, rfl⟩
  all_goals rfl

theorem letter_of_unescape {l : UInt8} {rest : Bytes} {u : Unescaped} (hl : l ≠ 117)
    (h : unescape (l :: rest) = .ok u) : ∃ b, (l, b) ∈ letterEscapes ∧ u = ⟨[b], 1⟩ := by
  simp only [unescape, if_neg hl] at h
  split_ifs at h with hself hb ht hn hf hr
  · simp only [Bool.or_eq_true, decide_eq_true_eq] at hself
    refine ⟨l, ?_, (Except.ok.inj h).symm⟩
    rcases hself with (rfl | rfl) | rfl
    all_goals decide
  all_goals
    subst l
    exact ⟨_, by decide, (Except.ok.inj h).symm⟩

/-- Every escape that is read stands for one character, by its letter or by its number, and every
way to escape a character is read. -/
theorem unescape_eq_ok_iff {s : Bytes} {u : Unescaped} :
    unescape s = .ok u ↔ ∃ c escape rest, Escapes c escape ∧ s = escape ++ rest ∧
      u = ⟨String.utf8EncodeChar c, escape.length⟩ := by
  constructor
  · intro h
    cases s with
    | nil => cases h
    | cons l s =>
      by_cases hl : l = 117
      · subst hl
        have hnumber : escapeByNumber s = .ok u := h
        obtain ⟨c, escape, rest, hescape, rfl, rfl⟩ := escapeByNumber_eq_ok_iff.mp hnumber
        exact ⟨c, 117 :: escape, rest, hescape, rfl, rfl⟩
      · obtain ⟨b, hletter, rfl⟩ := letter_of_unescape hl h
        refine ⟨Char.ofUInt8 b, [l], s, .letter hletter, rfl, ?_⟩
        rw [Utf8.utf8EncodeChar_ofUInt8 (lt_of_mem_letterEscapes hletter)]
        rfl
  · rintro ⟨c, escape, rest, hescape, rfl, rfl⟩
    have hnumber {tail : Bytes} (h : Escapes c (117 :: tail)) : unescape (117 :: tail ++ rest) =
        .ok ⟨String.utf8EncodeChar c, (117 :: tail).length⟩ :=
      (escapeByNumber_eq_ok_iff (s := tail ++ rest)).mpr ⟨c, tail, rest, h, rfl, rfl⟩
    cases hescape with
    | letter h =>
      rw [Utf8.utf8EncodeChar_ofUInt8 (lt_of_mem_letterEscapes h)]
      exact unescape_letter h rest
    | number h => exact hnumber (.number h)
    | pair first second leading trailing value =>
      exact hnumber (.pair first second leading trailing value)

/-! ### What a string stands for -/

/-- What stands between the marks of a string, and the octets that it stands for. -/
inductive Means : Bytes → Bytes → Prop where
  | nil : Means [] []
  | plain {b : UInt8} {s m : Bytes} (h : IsPlain b) (others : Means s m) : Means (b :: s) (b :: m)
  | escaped {c : Char} {escape s m : Bytes} (h : Escapes c escape) (others : Means s m) :
      Means (backslash :: (escape ++ s)) (String.utf8EncodeChar c ++ m)

/-- A string is read up to the first mark that no backslash stands before, and gives the octets that
its contents stand for; whether these are a text is asked later. -/
theorem textOctets_eq_ok_iff {s m rest : Bytes} :
    textOctets s = .ok (m, rest) ↔ ∃ body, Means body m ∧ s = body ++ quotationMark :: rest := by
  constructor
  · intro h
    fun_induction textOctets s generalizing m rest with
    | case1 => cases h
    | case2 s =>
      obtain ⟨rfl, rfl⟩ := Prod.mk.inj (Except.ok.inj h)
      exact ⟨[], .nil, rfl⟩
    | case3 => cases h
    | case4 => cases h
    | case5 s u hescape found after hfound hmark ih =>
      obtain ⟨rfl, rfl⟩ := Prod.mk.inj (Except.ok.inj h)
      obtain ⟨c, escape, s, hchar, rfl, rfl⟩ := unescape_eq_ok_iff.mp hescape
      rw [List.drop_left] at hfound ih
      obtain ⟨body, hbody, rfl⟩ := ih hfound
      refine ⟨backslash :: (escape ++ body), .escaped hchar hbody, ?_⟩
      rw [List.cons_append, List.append_assoc]
    | case6 => cases h
    | case7 => cases h
    | case8 b s hmark hescape hlow found after hfound ih =>
      obtain ⟨rfl, rfl⟩ := Prod.mk.inj (Except.ok.inj h)
      obtain ⟨body, hbody, rfl⟩ := ih hfound
      exact ⟨b :: body, .plain ⟨UInt8.not_lt.mp hlow, hmark, hescape⟩ hbody, rfl⟩
  · rintro ⟨body, hbody, rfl⟩
    induction hbody with
    | nil => rw [List.nil_append, textOctets, if_pos rfl]
    | plain hb others ih =>
      obtain ⟨hlow, hmark, hescape⟩ := hb
      rw [List.cons_append, textOctets, if_neg hmark, if_neg hescape,
        if_neg (UInt8.not_lt.mpr hlow), ih]
    | escaped hescape others ih =>
      rw [List.cons_append, List.append_assoc]
      apply textOctets_escaped (unescape_eq_ok_iff.mpr ⟨_, _, _, hescape, rfl, rfl⟩)
      rw [List.drop_left]
      exact ih

/-! ### Spellings of a text -/

theorem isPlain_iff {b : UInt8} : IsPlain b ↔ 32 ≤ b.toNat ∧ b.toNat ≠ 34 ∧ b.toNat ≠ 92 := by
  rw [IsPlain, UInt8.le_iff_toNat_le, ne_eq, ← UInt8.toNat_inj, ne_eq, ← UInt8.toNat_inj]
  exact Iff.rfl

theorem isPlain_of_mem_utf8EncodeChar {c : Char}
    (h : 32 ≤ c.toNat ∧ c.toNat ≠ 34 ∧ c.toNat ≠ 92) {b : UInt8}
    (hb : b ∈ String.utf8EncodeChar c) : IsPlain b := by
  obtain ⟨a, tails, hc, htails, hfirst⟩ := Utf8.utf8EncodeChar_cons c
  rw [isPlain_iff]
  rw [hc] at hb
  rcases List.mem_cons.mp hb with rfl | hb
  · omega
  · have htail := Utf8.isTail_iff.mp (htails b hb)
    omega

theorem means_plain {s t m : Bytes} (hs : ∀ b ∈ s, IsPlain b) (ht : Means t m) :
    Means (s ++ t) (s ++ m) := by
  induction s with
  | nil => exact ht
  | cons b s ih =>
    exact .plain (hs b List.mem_cons_self) (ih fun c hc => hs c (List.mem_cons_of_mem b hc))

/-- A spelling of characters stands for their octets: a character as it is stands for its own, and
an escape for those of the character that it names. -/
theorem Spells.means {cs : List Char} {body : Bytes} (h : Spells cs body) :
    Means body (cs.flatMap String.utf8EncodeChar) := by
  induction h with
  | nil => exact .nil
  | cons first others ih =>
    rw [List.flatMap_cons]
    cases first with
    | plain h => exact means_plain (fun b hb => isPlain_of_mem_utf8EncodeChar h hb) ih
    | escaped h => exact .escaped h ih

/-- Tails stand for themselves, as no escape stands for octets that start with a tail.  What an
escape stands for starts a character, so the octets after the first of a character are written as
they are. -/
theorem Means.tails {tails body m : Bytes} (htails : ∀ b ∈ tails, Utf8.isTail b = true)
    (h : Means body (tails ++ m)) : ∃ rest, body = tails ++ rest ∧ Means rest m := by
  induction tails generalizing body with
  | nil => exact ⟨body, rfl, h⟩
  | cons b tails ih =>
    rw [List.cons_append] at h
    generalize hmeant : b :: (tails ++ m) = meant at h
    cases h with
    | nil => cases hmeant
    | plain hb others =>
      obtain ⟨rfl, rfl⟩ := List.cons.inj hmeant
      obtain ⟨rest, rfl, hrest⟩ := ih (fun c hc => htails c (List.mem_cons_of_mem b hc)) others
      exact ⟨rest, rfl, hrest⟩
    | @escaped c escape s m hescape others =>
      obtain ⟨a, octets, hc, -, hfirst⟩ := Utf8.utf8EncodeChar_cons c
      rw [hc] at hmeant
      obtain ⟨rfl, -⟩ := List.cons.inj hmeant
      have hb := Utf8.isTail_iff.mp (htails b List.mem_cons_self)
      omega

/-- The octets of the first character come from one spelling of it.  They may not come from more
than one piece, since no escape stands for a part of a character; this is what `Means.tails` is for.
-/
theorem Means.first {c : Char} {body m : Bytes} (h : Means body (String.utf8EncodeChar c ++ m)) :
    ∃ s rest, SpellsChar c s ∧ body = s ++ rest ∧ Means rest m := by
  generalize hmeant : String.utf8EncodeChar c ++ m = meant at h
  obtain ⟨a, tails, hc, htails, hfirst⟩ := Utf8.utf8EncodeChar_cons c
  cases h with
  | nil =>
    rw [hc] at hmeant
    cases hmeant
  | @plain b s _ hb others =>
    rw [hc] at hmeant
    obtain ⟨rfl, rfl⟩ := List.cons.inj hmeant
    obtain ⟨rest, rfl, hrest⟩ := others.tails htails
    rw [isPlain_iff] at hb
    exact ⟨String.utf8EncodeChar c, rest, .plain (by omega), by rw [hc]; rfl, hrest⟩
  | @escaped d escape s _ hescape others =>
    have hfirst := Utf8.first?_utf8EncodeChar c m
    rw [hmeant, Utf8.first?_utf8EncodeChar] at hfirst
    obtain ⟨rfl, rfl⟩ := Prod.mk.inj (Option.some.inj hfirst)
    exact ⟨backslash :: escape, s, .escaped hescape, rfl, others⟩

/-- The octets of characters are spelt exactly as the characters are.  From here on strings are
about characters, although the reader goes octet by octet. -/
theorem means_iff_spells {cs : List Char} {body : Bytes} :
    Means body (cs.flatMap String.utf8EncodeChar) ↔ Spells cs body := by
  constructor
  · intro h
    induction cs generalizing body with
    | nil =>
      rw [List.flatMap_nil] at h
      generalize hnone : ([] : Bytes) = meant at h
      cases h with
      | nil => exact .nil
      | plain hb others => cases hnone
      | @escaped c escape s m hescape others =>
        obtain ⟨a, tails, hc, -⟩ := Utf8.utf8EncodeChar_cons c
        rw [hc] at hnone
        cases hnone
    | cons c cs ih =>
      rw [List.flatMap_cons] at h
      obtain ⟨s, rest, hfirst, rfl, hrest⟩ := h.first
      exact .cons hfirst (ih hrest)
  · exact Spells.means

/-- A string reads as a text exactly if it spells the text, character by character.  Octets that are
no text are refused, and there is no spelling of them either. -/
theorem textAfterMark_eq_ok_iff {s rest : Bytes} {text : String} :
    textAfterMark s = .ok (text, rest) ↔
      ∃ body, Spells text.toList body ∧ s = body ++ quotationMark :: rest := by
  constructor
  · intro h
    unfold textAfterMark at h
    split at h
    · cases h
    rename_i bytes after hoctets
    split at h
    · rename_i found hdecode
      obtain ⟨rfl, rfl⟩ := Prod.mk.inj (Except.ok.inj h)
      obtain ⟨body, hbody, rfl⟩ := textOctets_eq_ok_iff.mp hoctets
      rw [Utf8.decode_eq_ok_iff.mp hdecode, Utf8.encode, means_iff_spells] at hbody
      exact ⟨body, hbody, rfl⟩
    · cases h
  · rintro ⟨body, hbody, rfl⟩
    have hoctets : textOctets (body ++ quotationMark :: rest) = .ok (Utf8.encode text, rest) :=
      textOctets_eq_ok_iff.mpr ⟨body, hbody.means, rfl⟩
    simp only [textAfterMark, hoctets, Utf8.decode_encode]

theorem quotes_quoted (text : String) : Quotes text (quoted text) := by
  have hoctets := textOctets_flatMap_escapeOctet (Utf8.encode text) []
  obtain ⟨body, hbody, hsame⟩ := textOctets_eq_ok_iff.mp hoctets
  obtain rfl := List.append_cancel_right hsame
  exact ⟨_, means_iff_spells.mp hbody, rfl⟩

/-! ### Strings that nobody reads -/

theorem afterText_mark (rest : Bytes) : afterText (quotationMark :: rest) = .ok rest := by
  rw [afterText.eq_def]
  exact if_pos rfl

theorem afterText_plain {b : UInt8} (h : IsPlain b) (rest : Bytes) :
    afterText (b :: rest) = afterText rest := by
  obtain ⟨hlow, hmark, hescape⟩ := h
  rw [afterText.eq_def]
  simp only [if_neg hmark, if_neg hescape, if_neg (UInt8.not_lt.mpr hlow)]

/-- The letters that a backslash may stand before, apart from the one that announces a number. -/
theorem isLetter_iff {l : UInt8} :
    [quotationMark, backslash, 47, 98, 102, 110, 114, 116].contains l = true ↔
      ∃ b, (l, b) ∈ letterEscapes := by
  have hletter : (∃ b, (l, b) ∈ letterEscapes) ↔ l ∈ letterEscapes.map Prod.fst := by
    simp only [List.mem_map, Prod.exists, exists_and_right, exists_eq_right]
  rw [hletter]
  exact Bytes.forall_octet (p := fun l =>
    [quotationMark, backslash, 47, 98, 102, 110, 114, 116].contains l = true ↔
      l ∈ letterEscapes.map Prod.fst) (by decide +kernel) l

theorem afterText_letter {l b : UInt8} (h : (l, b) ∈ letterEscapes) (rest : Bytes) :
    afterText (backslash :: l :: rest) = afterText rest := by
  have hletter := isLetter_iff.mpr ⟨b, h⟩
  have hnumber : l ≠ 117 := by
    rintro rfl
    revert hletter
    decide
  rw [afterText.eq_def]
  simp only [if_neg (show backslash ≠ quotationMark by decide), if_true, if_neg hnumber, hletter]

theorem afterText_number {n : Nat} {hex : Bytes} (h : IsHex n hex) (rest : Bytes) :
    afterText (backslash :: 117 :: (hex ++ rest)) = afterText rest := by
  have hunit := hexUnit_eq_ok_iff.mpr ⟨hex, rest, h, rfl⟩
  rw [afterText.eq_def]
  simp only [if_neg (show backslash ≠ quotationMark by decide), if_true, hunit]
  rw [← h.length, List.drop_left]

/-- A string that nobody reads ends at the first mark that no backslash stands before.  Each escape
in it has to be one that a string may have. -/
theorem afterText_eq_ok_iff {s rest : Bytes} :
    afterText s = .ok rest ↔ ∃ body, IsBody body ∧ s = body ++ quotationMark :: rest := by
  constructor
  · intro h
    fun_induction afterText s with
    | case1 => cases h
    | case2 s =>
      obtain rfl := Except.ok.inj h
      exact ⟨[], .nil, rfl⟩
    | case3 => cases h
    | case4 => cases h
    | case5 s n hunit hmark ih =>
      obtain ⟨hex, s, hhex, rfl⟩ := hexUnit_eq_ok_iff.mp hunit
      rw [← hhex.length, List.drop_left] at ih h
      obtain ⟨body, hbody, rfl⟩ := ih h
      refine ⟨backslash :: 117 :: (hex ++ body), .number hhex hbody, ?_⟩
      rw [List.cons_append, List.cons_append, List.append_assoc]
    | case6 l s hnumber hletter hmark ih =>
      obtain ⟨b, hb⟩ := isLetter_iff.mp hletter
      obtain ⟨body, hbody, rfl⟩ := ih h
      exact ⟨backslash :: l :: body, .letter hb hbody, rfl⟩
    | case7 => cases h
    | case8 => cases h
    | case9 b s hmark hescape hlow ih =>
      obtain ⟨body, hbody, rfl⟩ := ih h
      exact ⟨b :: body, .plain ⟨UInt8.not_lt.mp hlow, hmark, hescape⟩ hbody, rfl⟩
  · rintro ⟨body, hbody, rfl⟩
    induction hbody with
    | nil => exact afterText_mark rest
    | plain h others ih => exact (afterText_plain h _).trans ih
    | letter h others ih => exact (afterText_letter h _).trans ih
    | number h others ih =>
      rw [List.cons_append, List.cons_append, List.append_assoc]
      exact (afterText_number h _).trans ih

theorem SpellsChar.isBody {c : Char} {s t : Bytes} (h : SpellsChar c s) (ht : IsBody t) :
    IsBody (s ++ t) := by
  cases h with
  | plain h =>
    have hplain : ∀ b ∈ String.utf8EncodeChar c, IsPlain b :=
      fun b hb => isPlain_of_mem_utf8EncodeChar h hb
    generalize String.utf8EncodeChar c = octets at hplain ⊢
    induction octets with
    | nil => exact ht
    | cons b octets ih =>
      exact .plain (hplain b List.mem_cons_self)
        (ih fun d hd => hplain d (List.mem_cons_of_mem b hd))
  | escaped h =>
    cases h with
    | letter h => exact .letter h ht
    | number h => exact .number h ht
    | pair first second =>
      rw [List.cons_append, List.cons_append, List.append_assoc]
      exact .number first (.number second ht)

theorem Spells.isBody {cs : List Char} {s : Bytes} (h : Spells cs s) : IsBody s := by
  induction h with
  | nil => exact .nil
  | cons first others ih => exact first.isBody ih

theorem Quotes.isLiteral {text : String} {s : Bytes} (h : Quotes text s) : IsLiteral s := by
  obtain ⟨body, hbody, rfl⟩ := h
  exact ⟨body, hbody.isBody, rfl⟩

/-! ### Texts without arrays -/

/-- The octets are a text in which no bracket opens an array. -/
def IsFlat (s : Bytes) : Prop := Utf8.IsText s ∧ 91 ∉ s

theorem isFlat_of_lt {s : Bytes} (h : ∀ b ∈ s, b < 128 ∧ b ≠ 91) : IsFlat s :=
  ⟨Utf8.isText_of_lt fun b hb => (h b hb).1, fun hb => (h 91 hb).2 rfl⟩

theorem isFlat_singleton {b : UInt8} (h : b < 128 ∧ b ≠ 91) : IsFlat [b] :=
  isFlat_of_lt (List.forall_mem_singleton.mpr h)

theorem IsFlat.append {s t : Bytes} (hs : IsFlat s) (ht : IsFlat t) : IsFlat (s ++ t) := by
  refine ⟨hs.1.append ht.1, fun hb => ?_⟩
  rcases List.mem_append.mp hb with hb | hb
  · exact hs.2 hb
  · exact ht.2 hb

theorem Blanks.isFlat {w : Bytes} (hw : Blanks w) : IsFlat w := by
  refine isFlat_of_lt fun b hb => ?_
  exact Bytes.forall_octet (p := fun b => isBlank b = true → b < 128 ∧ b ≠ 91)
    (by decide +kernel) b (hw b hb)

theorem IsHex.isFlat {n : Nat} {s : Bytes} (h : IsHex n s) : IsFlat s := by
  have hdigit : ∀ b v, hexValue? b = some v → b < 128 ∧ b ≠ 91 := by
    intro b v hb
    exact Bytes.forall_octet (p := fun b => ∀ v ∈ hexValue? b, b < 128 ∧ b ≠ 91)
      (by decide +kernel) b v hb
  obtain ⟨a, b, c, d, rfl, hunit⟩ := h
  simp only [hexUnit?, Option.bind_eq_bind, Option.bind_eq_some_iff] at hunit
  obtain ⟨w, hw, x, hx, y, hy, z, hz, -⟩ := hunit
  refine isFlat_of_lt fun e he => ?_
  simp only [List.mem_cons, List.not_mem_nil, or_false] at he
  rcases he with rfl | rfl | rfl | rfl
  · exact hdigit _ _ hw
  · exact hdigit _ _ hx
  · exact hdigit _ _ hy
  · exact hdigit _ _ hz

theorem Escapes.isFlat {c : Char} {s : Bytes} (h : Escapes c s) : IsFlat s := by
  have hnumber : IsFlat [117] := isFlat_singleton (by decide)
  cases h with
  | letter h =>
    have hletters : letterEscapes.all (fun p => p.1 < 128 ∧ p.1 ≠ 91) = true := by decide
    exact isFlat_singleton (of_decide_eq_true (List.all_eq_true.mp hletters _ h))
  | number h => exact hnumber.append h.isFlat
  | pair first second =>
    have hback : IsFlat [backslash] := isFlat_singleton (by decide)
    exact hnumber.append (first.isFlat.append (hback.append (hnumber.append second.isFlat)))

theorem SpellsChar.isText {c : Char} {s : Bytes} (h : SpellsChar c s) : Utf8.IsText s := by
  cases h with
  | plain h => exact Utf8.isText_utf8EncodeChar c
  | escaped h =>
    have hmark : IsFlat [backslash] := isFlat_singleton (by decide)
    exact (hmark.append h.isFlat).1

theorem Spells.isText {cs : List Char} {s : Bytes} (h : Spells cs s) : Utf8.IsText s := by
  induction h with
  | nil => exact Utf8.isText_of_lt (List.forall_mem_nil _)
  | cons first others ih => exact first.isText.append ih

/-- A string is a text, whatever it spells. -/
theorem Quotes.isText {text : String} {s : Bytes} (h : Quotes text s) : Utf8.IsText s := by
  have hmark : IsFlat [quotationMark] := isFlat_singleton (by decide)
  obtain ⟨body, hbody, rfl⟩ := h
  exact hmark.1.append (hbody.isText.append hmark.1)

theorem SpellsChar.isFlat {c : Char} {s : Bytes} (h : SpellsChar c s) (hc : c ≠ '[') :
    IsFlat s := by
  cases h with
  | plain h =>
    refine ⟨Utf8.isText_utf8EncodeChar c, fun hb => hc ?_⟩
    rw [← Char.toNat_inj]
    exact Utf8.toNat_of_mem_utf8EncodeChar hb (by decide)
  | escaped h =>
    have hmark : IsFlat [backslash] := isFlat_singleton (by decide)
    exact hmark.append h.isFlat

theorem Spells.isFlat {cs : List Char} {s : Bytes} (h : Spells cs s) (hcs : '[' ∉ cs) :
    IsFlat s := by
  induction h with
  | nil => exact isFlat_of_lt (List.forall_mem_nil _)
  | cons first others ih =>
    obtain ⟨hc, hcs⟩ := not_or.mp (mt List.mem_cons.mpr hcs)
    exact (first.isFlat (Ne.symm hc)).append (ih hcs)

/-- A string that spells no opening bracket has none among its octets, though a bracket may be
escaped.  So the arrays of a text can be told from its octets. -/
theorem Quotes.isFlat {text : String} {s : Bytes} (h : Quotes text s) (htext : '[' ∉ text.toList) :
    IsFlat s := by
  have hmark : IsFlat [quotationMark] := isFlat_singleton (by decide)
  obtain ⟨body, hbody, rfl⟩ := h
  exact hmark.append ((hbody.isFlat htext).append hmark)

end ClusterLicense.Json
