/-
  ClusterLicense/Proofs/Bytes/Base64.lean
  =======================================
  **Reading base64 accepts exactly what writing it produces.**

  The alphabet is a bijection with the numbers below 64 (`value?_symbol`,
  `lt_and_symbol_of_value?`), and regrouping octets into six-bit digits has an
  inverse on the digits that an octet string can have (`IsRegrouped`): their number
  leaves no single digit over, and the last one has no bits to spare.

  The reader judges a front of whole groups and a last group apart.  A front of
  whole groups changes neither what is left over nor what padding is due
  (`isRegrouped_append_iff`), so the two judgements together are one about the
  whole text (`decode_eq_ok_iff`).
-/
import ClusterLicense.Bytes.Base64
import ClusterLicense.Proofs.Text.Utf8

namespace ClusterLicense.Base64

/-! ### The alphabet -/

theorem value?_symbol {value : Nat} (h : value < 64) : value? (symbol value) = some value := by
  have all : ∀ v < 64, value? (symbol v) = some v := by decide +kernel
  exact all value h

theorem symbol_ne_pad {value : Nat} (h : value < 64) : symbol value ≠ pad := by
  have all : ∀ v < 64, symbol v ≠ pad := by decide +kernel
  exact all value h

theorem symbol_lt {value : Nat} (h : value < 64) : symbol value < 128 := by
  have all : ∀ v < 64, symbol v < 128 := by decide +kernel
  exact all value h

theorem lt_and_symbol_of_value? {octet : UInt8} {value : Nat} (h : value? octet = some value) :
    value < 64 ∧ symbol value = octet :=
  Bytes.forall_octet (p := fun octet => ∀ v ∈ value? octet, v < 64 ∧ symbol v = octet)
    (by decide +kernel) octet value h

/-- Symbols are read one by one, each as the six bits that it stands for.  Offsets only matter for
what an error says. -/
theorem values_eq_ok_iff {offset : Nat} {text : Bytes} {found : List Nat} :
    values offset text = .ok found ↔ (∀ v ∈ found, v < 64) ∧ text = found.map symbol := by
  induction text generalizing offset found with
  | nil =>
    cases found with
    | nil => simp [values]
    | cons v vs => simp [values]
  | cons octet rest ih =>
    constructor
    · intro h
      cases hv : value? octet with
      | none => simp [values, hv] at h
      | some v =>
        obtain ⟨hlt, hsymbol⟩ := lt_and_symbol_of_value? hv
        cases hr : values (offset + 1) rest with
        | error e => simp [values, hv, hr, Functor.map, Except.map] at h
        | ok vs =>
          obtain ⟨hall, hrest⟩ := ih.mp hr
          simp only [values, hv, hr, Functor.map, Except.map, Except.ok.injEq] at h
          subst h
          refine ⟨?_, by rw [List.map_cons, hsymbol, ← hrest]⟩
          intro w hw
          rcases List.mem_cons.mp hw with rfl | hw
          · exact hlt
          · exact hall w hw
    · rintro ⟨hall, htext⟩
      cases found with
      | nil => cases htext
      | cons v vs =>
        simp only [List.map_cons, List.cons.injEq] at htext
        obtain ⟨rfl, htail⟩ := htext
        have hv : value? (symbol v) = some v := value?_symbol (hall v (by simp))
        have hr : values (offset + 1) rest = .ok vs :=
          ih.mpr ⟨fun w hw => hall w (List.mem_cons_of_mem v hw), htail⟩
        simp only [values, hv, hr]
        rfl

/-! ### Regrouping -/

structure IsRegrouped (values : List Nat) : Prop where
  lt : ∀ v ∈ values, v < 64
  length : values.length % 4 ≠ 1
  unused : ∀ v ∈ values.getLast?, hasUnusedBits values.length v = false

theorem octets_sextets (bytes : Bytes) : octets (sextets bytes) = bytes := by
  fun_induction sextets bytes with
  | case1 => rfl
  | case2 a =>
    have := a.toNat_lt
    simp only [octets, List.cons.injEq, and_true]
    rw [← UInt8.toNat_inj]; simp; omega
  | case3 a b =>
    have := a.toNat_lt
    have := b.toNat_lt
    simp only [octets, List.cons.injEq, and_true]
    constructor
    · rw [← UInt8.toNat_inj]; simp; omega
    · rw [← UInt8.toNat_inj]; simp; omega
  | case4 a b c rest ih =>
    have := a.toNat_lt
    have := b.toNat_lt
    have := c.toNat_lt
    simp only [octets, ih, List.cons.injEq, and_true]
    refine ⟨?_, ?_, ?_⟩
    · rw [← UInt8.toNat_inj]; simp; omega
    · rw [← UInt8.toNat_inj]; simp; omega
    · rw [← UInt8.toNat_inj]; simp; omega

theorem hasUnusedBits_add {count : Nat} (h : count % 4 = 0) (more value : Nat) :
    hasUnusedBits (count + more) value = hasUnusedBits more value := by
  have : (count + more) % 4 = more % 4 := by omega
  simp only [hasUnusedBits, this]

theorem isRegrouped_append_iff {front back : List Nat} (h : front.length % 4 = 0) :
    IsRegrouped (front ++ back) ↔ (∀ v ∈ front, v < 64) ∧ IsRegrouped back := by
  have hlength : (front ++ back).length % 4 = back.length % 4 := by
    rw [List.length_append]; omega
  have hunused : (∀ v ∈ (front ++ back).getLast?,
        hasUnusedBits (front ++ back).length v = false) ↔
      ∀ v ∈ back.getLast?, hasUnusedBits back.length v = false := by
    rw [List.length_append]
    simp only [hasUnusedBits_add h]
    cases back with
    | nil => simp [hasUnusedBits]
    | cons v vs => simp [List.getLast?_append]
  constructor
  · rintro ⟨h1, h2, h3⟩
    exact ⟨fun v hv => h1 v (List.mem_append_left _ hv),
      fun v hv => h1 v (List.mem_append_right _ hv), hlength ▸ h2, hunused.mp h3⟩
  · rintro ⟨hfront, h1, h2, h3⟩
    refine ⟨fun v hv => ?_, hlength ▸ h2, hunused.mpr h3⟩
    rcases List.mem_append.mp hv with hv | hv
    · exact hfront v hv
    · exact h1 v hv

theorem isRegrouped_sextets (bytes : Bytes) : IsRegrouped (sextets bytes) := by
  fun_induction sextets bytes with
  | case1 => exact ⟨by simp, by simp, by simp⟩
  | case2 a =>
    have := a.toNat_lt
    refine ⟨?_, by simp, ?_⟩
    · simp; omega
    · simp [hasUnusedBits]
  | case3 a b =>
    have := a.toNat_lt
    have := b.toNat_lt
    refine ⟨?_, by simp, ?_⟩
    · simp; omega
    · simp [hasUnusedBits]
  | case4 a b c rest ih =>
    have := a.toNat_lt
    have := b.toNat_lt
    have := c.toNat_lt
    refine (@isRegrouped_append_iff [_, _, _, _] _ (by simp)).mpr ⟨?_, ih⟩
    simp; omega

/-- Six-bit digits come back from the octets that they make up, if some octets have them.  The
condition excludes digits at the end with bits that belong to no octet. -/
theorem sextets_octets {values : List Nat} (h : IsRegrouped values) :
    sextets (octets values) = values := by
  fun_induction octets values with
  | case1 a b c d rest ih =>
    obtain ⟨hlt, hrest⟩ := (@isRegrouped_append_iff [a, b, c, d] rest (by simp)).mp h
    simp only [List.forall_mem_cons, List.not_mem_nil, false_implies, implies_true,
      and_true] at hlt
    simp only [sextets, ih hrest, List.cons.injEq, and_true, UInt8.toNat_ofNat']
    omega
  | case2 a b c =>
    obtain ⟨hlt, hlength, hunused⟩ := h
    simp only [List.forall_mem_cons, List.not_mem_nil, false_implies, implies_true,
      and_true] at hlt
    have : c % 4 = 0 := by simpa [hasUnusedBits] using hunused
    simp only [sextets, List.cons.injEq, and_true, UInt8.toNat_ofNat']
    omega
  | case3 a b =>
    obtain ⟨hlt, hlength, hunused⟩ := h
    simp only [List.forall_mem_cons, List.not_mem_nil, false_implies, implies_true,
      and_true] at hlt
    have : b % 16 = 0 := by simpa [hasUnusedBits] using hunused
    simp only [sextets, List.cons.injEq, and_true, UInt8.toNat_ofNat']
    omega
  | case4 values h1 h2 h3 =>
    match values with
    | [] => rfl
    | [a] => exact absurd rfl h.length
    | [a, b] => exact absurd rfl (h3 a b)
    | [a, b, c] => exact absurd rfl (h2 a b c)
    | a :: b :: c :: d :: rest => exact absurd rfl (h1 a b c d rest)

/-! ### The last group -/

/-- The last group of a text is read as the digits that are left over, with as much padding behind
them as fills the group up. -/
theorem lastGroup_of_isRegrouped {offset : Nat} {found : List Nat} (h : IsRegrouped found)
    (hsize : found.length ≤ 4) :
    lastGroup offset (found.map symbol ++ padding found.length) = .ok found := by
  obtain ⟨hlt, hlength, hunused⟩ := h
  have hsymbols : ∀ b ∈ found.map symbol, (b != pad) = true := by
    intro b hb
    obtain ⟨v, hv, rfl⟩ := List.mem_map.mp hb
    simpa using symbol_ne_pad (hlt v hv)
  have htake : (found.map symbol ++ padding found.length).takeWhile (· != pad)
      = found.map symbol := by
    rw [List.takeWhile_append_of_pos hsymbols]
    simp [padding]
  have hdrop : (found.map symbol ++ padding found.length).dropWhile (· != pad)
      = padding found.length := by
    rw [List.dropWhile_append_of_pos hsymbols]
    simp [padding]
  have hvalues : values offset (found.map symbol) = .ok found :=
    values_eq_ok_iff.mpr ⟨hlt, rfl⟩
  have hpads : (padding found.length).any (· != pad) = false := by simp [padding]
  have hcount : (padding found.length).length = (4 - found.length % 4) % 4 := by simp [padding]
  simp only [lastGroup, htake, hdrop, hvalues, hpads, List.length_map, bind, Except.bind, pure,
    Except.pure, throw, throwThe, MonadExceptOf.throw]
  cases hlast : found.getLast? with
  | none =>
    obtain rfl := List.getLast?_eq_none_iff.mp hlast
    rfl
  | some v =>
    have hpos : 0 < found.length := List.length_pos_of_mem (List.mem_of_getLast? hlast)
    have hlong : decide (found.length < 2) = false := decide_eq_false (by omega)
    have hfull : (found.length + (4 - found.length % 4) % 4) % 4 = 0 := by omega
    simp only [hlong, hcount, hfull, List.getLast?_map, hlast, Option.map_some, hunused v hlast,
      Bool.and_false, Bool.or_self, Bool.false_eq_true, if_false, ne_eq, not_true_eq_false]

/-- A last group that is read has the padding that it would be written with, and no bits that belong
to no octet.  This is where the strictness of the decoding is: each octet string has one last group.
-/
theorem isRegrouped_of_lastGroup {offset : Nat} {group : Bytes} {found : List Nat}
    (hsize : group.length ≤ 4) (h : lastGroup offset group = .ok found) :
    IsRegrouped found ∧ group = found.map symbol ++ padding found.length := by
  have hgroup := List.takeWhile_append_dropWhile (p := (· != pad)) (l := group)
  generalize hs : group.takeWhile (· != pad) = symbols at hgroup
  generalize hp : group.dropWhile (· != pad) = pads at hgroup
  simp only [lastGroup, hs, hp, bind, Except.bind, pure, Except.pure, throw, throwThe,
    MonadExceptOf.throw] at h
  cases hvalues : values offset symbols with
  | error e => simp [hvalues] at h
  | ok vs =>
    rw [hvalues] at h
    obtain ⟨hlt, rfl⟩ := values_eq_ok_iff.mp hvalues
    dsimp only at h
    split at h
    · cases h
    · rename_i hpads
      split at h
      · cases h
      · rename_i hshort
        split at h
        · cases h
        · rename_i hfull
          subst hgroup
          simp only [List.length_map, Bool.or_eq_true, Bool.and_eq_true, Bool.not_eq_true',
            List.isEmpty_eq_false_iff, decide_eq_true_eq, List.any_eq_true, bne_iff_ne, not_or,
            not_and, not_exists, List.length_append, ne_eq, Decidable.not_not]
            at hpads hshort hfull hsize
          have hreplicate : pads = List.replicate pads.length pad :=
            List.eq_replicate_of_mem hpads.2
          have hcount : vs.length ≠ 1 := by
            intro hone
            have hne : vs.map symbol ++ pads ≠ [] := by
              intro hnil
              rw [List.map_eq_nil_iff.mp (List.append_eq_nil_iff.mp hnil).1] at hone
              cases hone
            exact hshort hne (by omega)
          have hpadding : pads = padding vs.length := by
            have hnone : pads ≠ [] → 2 ≤ vs.length := fun hne => Nat.le_of_not_lt (hpads.1 hne)
            have hlength : pads.length = (4 - vs.length % 4) % 4 := by
              by_cases hne : pads = []
              · rw [hne, List.length_nil] at hfull ⊢; omega
              · have := hnone hne; omega
            rw [hreplicate, hlength, padding]
          have hfound : vs = found ∧ ∀ v ∈ vs.getLast?, hasUnusedBits vs.length v = false := by
            rw [List.getLast?_map] at h
            cases hlast : vs.getLast? with
            | none => simp [hlast] at h; exact ⟨h, by simp⟩
            | some v =>
              cases hunused : hasUnusedBits vs.length v with
              | true => simp [hlast, hunused] at h
              | false => simp [hlast, hunused] at h; exact ⟨h, by simpa using hunused⟩
          obtain ⟨rfl, hunused⟩ := hfound
          exact ⟨⟨hlt, by omega, hunused⟩, by rw [hpadding]⟩

theorem lastGroup_eq_ok_iff {offset : Nat} {group : Bytes} {found : List Nat}
    (hsize : group.length ≤ 4) :
    lastGroup offset group = .ok found ↔
      IsRegrouped found ∧ group = found.map symbol ++ padding found.length := by
  constructor
  · exact isRegrouped_of_lastGroup hsize
  · rintro ⟨hfound, rfl⟩
    refine lastGroup_of_isRegrouped hfound ?_
    simp at hsize; omega

/-! ### A whole text -/

theorem length_symbols_padding (found : List Nat) :
    (found.map symbol ++ padding found.length).length % 4 = 0 := by
  simp [padding]; omega

def lastStart (text : Bytes) : Nat := text.length - lastGroupSize text.length

theorem lastStart_mod (text : Bytes) : lastStart text % 4 = 0 := by
  unfold lastStart lastGroupSize
  split <;> omega

theorem length_drop_lastStart (text : Bytes) : (text.drop (lastStart text)).length ≤ 4 := by
  rw [List.length_drop]
  unfold lastStart lastGroupSize
  split <;> omega

/-- A text is read in two parts, whole groups without padding and a last group of at most four
symbols.  The split is at a multiple of four, so that the digits of both parts can be joined. -/
theorem decode_eq_ok_iff_groups {text bytes : Bytes} :
    decode text = .ok bytes ↔ ∃ front back,
      values 0 (text.take (lastStart text)) = .ok front ∧
      lastGroup (lastStart text) (text.drop (lastStart text)) = .ok back ∧
      octets (front ++ back) = bytes := by
  have hgroups : (do
        let front ← values 0 (text.take (lastStart text))
        let back ← lastGroup (lastStart text) (text.drop (lastStart text))
        pure (octets (front ++ back))) = Except.ok bytes ↔ ∃ front back,
      values 0 (text.take (lastStart text)) = .ok front ∧
      lastGroup (lastStart text) (text.drop (lastStart text)) = .ok back ∧
      octets (front ++ back) = bytes := by
    cases values 0 (text.take (lastStart text)) with
    | error e => simp [bind, Except.bind]
    | ok front =>
      cases lastGroup (lastStart text) (text.drop (lastStart text)) with
      | error e => simp [bind, Except.bind]
      | ok back => simp [bind, Except.bind, pure, Except.pure]
  by_cases hone : text.length % 4 = 1
  · -- A single octet is left over, and no group has one octet.
    have hno : ∀ back, lastGroup (lastStart text) (text.drop (lastStart text)) ≠ .ok back := by
      intro back hback
      obtain ⟨-, hgroup⟩ := (lastGroup_eq_ok_iff (length_drop_lastStart text)).mp hback
      have hlength := length_symbols_padding back
      rw [← hgroup, List.length_drop] at hlength
      unfold lastStart lastGroupSize at hlength
      rw [if_neg (by omega)] at hlength
      omega
    constructor
    · intro h
      refine hgroups.mp ?_
      simp only [decode, hone, if_true] at h
      split at h
      · split at h
        · cases h
        · exact h
      · exact h
    · rintro ⟨front, back, -, hback, -⟩
      exact absurd hback (hno back)
  · rw [← hgroups, decode]
    simp only [hone, if_false]
    rfl

/-- **Canonical base64**: an octet string has one text, and no other text is read as it.  Padding
that is missing or too long, and bits at the end that belong to no octet, are refused. -/
theorem decode_eq_ok_iff {text bytes : Bytes} : decode text = .ok bytes ↔ text = encode bytes := by
  rw [decode_eq_ok_iff_groups]
  constructor
  · rintro ⟨front, back, hfront, hback, rfl⟩
    obtain ⟨hlt, htake⟩ := values_eq_ok_iff.mp hfront
    obtain ⟨hregrouped, hdrop⟩ := (lastGroup_eq_ok_iff (length_drop_lastStart text)).mp hback
    have hmod : front.length % 4 = 0 := by
      have := congrArg List.length htake
      have := lastStart_mod text
      simp [lastStart] at *; omega
    have hall : IsRegrouped (front ++ back) := (isRegrouped_append_iff hmod).mpr ⟨hlt, hregrouped⟩
    have hpadding : padding (front ++ back).length = padding back.length := by
      have : (front ++ back).length % 4 = back.length % 4 := by rw [List.length_append]; omega
      simp only [padding, this]
    calc text = text.take (lastStart text) ++ text.drop (lastStart text) :=
          (List.take_append_drop _ _).symm
      _ = (front ++ back).map symbol ++ padding (front ++ back).length := by
          rw [htake, hdrop, hpadding, List.map_append, List.append_assoc]
      _ = encode (octets (front ++ back)) := by rw [encode, sextets_octets hall]
  · rintro rfl
    have hall := isRegrouped_sextets bytes
    have hlength := hall.length
    have hmod := lastStart_mod (encode bytes)
    have hstart : lastStart (encode bytes) ≤ (sextets bytes).length ∧
        (sextets bytes).length ≤ lastStart (encode bytes) + 4 := by
      simp only [lastStart, lastGroupSize, encode, padding, List.length_append, List.length_map,
        List.length_replicate]
      split <;> omega
    generalize lastStart (encode bytes) = start at hmod hstart
    have hfront : ((sextets bytes).take start).length % 4 = 0 := by
      rw [List.length_take_of_le hstart.1]; exact hmod
    rw [← List.take_append_drop start (sextets bytes), isRegrouped_append_iff hfront] at hall
    have htake : (encode bytes).take start = ((sextets bytes).take start).map symbol := by
      rw [encode, List.take_append_of_le_length (by simpa using hstart.1), List.map_take]
    have hdrop : (encode bytes).drop start = ((sextets bytes).drop start).map symbol ++
        padding ((sextets bytes).drop start).length := by
      have : ((sextets bytes).length - start) % 4 = (sextets bytes).length % 4 := by omega
      rw [encode, List.drop_append_of_le_length (by simpa using hstart.1), List.map_drop]
      simp only [padding, List.length_drop, this]
    refine ⟨(sextets bytes).take start, (sextets bytes).drop start, ?_, ?_, ?_⟩
    · exact values_eq_ok_iff.mpr ⟨hall.1, htake⟩
    · rw [hdrop]
      exact lastGroup_of_isRegrouped hall.2 (by rw [List.length_drop]; omega)
    · rw [List.take_append_drop, octets_sextets]

/-! ### The text as characters -/

theorem mem_encode {bytes : Bytes} {b : UInt8} (h : b ∈ encode bytes) :
    (∃ v < 64, symbol v = b) ∨ b = pad := by
  rcases List.mem_append.mp h with hsymbol | hpad
  · obtain ⟨v, hv, rfl⟩ := List.mem_map.mp hsymbol
    exact .inl ⟨v, (isRegrouped_sextets bytes).lt v hv, rfl⟩
  · exact .inr (List.eq_of_mem_replicate hpad)

theorem encode_lt (bytes : Bytes) : ∀ b ∈ encode bytes, b < 128 := by
  intro b hb
  rcases mem_encode hb with ⟨v, hv, rfl⟩ | rfl
  · exact symbol_lt hv
  · decide

@[simp] theorem utf8_text (bytes : Bytes) : Utf8.encode (text bytes) = encode bytes :=
  Utf8.encode_ofList_map_ofUInt8 (encode_lt bytes)

/-- A text is read as an octet string if and only if it is the base64 text of it.  Texts are read by
their octets, and those of a base64 text are its symbols. -/
theorem decode_utf8_eq_ok_iff {s : String} {bytes : Bytes} :
    decode (Utf8.encode s) = .ok bytes ↔ s = text bytes := by
  rw [decode_eq_ok_iff, ← utf8_text]
  exact ⟨fun h => Utf8.encode_injective h, fun h => by rw [h]⟩

theorem text_injective {a b : Bytes} (h : text a = text b) : a = b := by
  have ha := decode_utf8_eq_ok_iff.mpr h
  rw [decode_utf8_eq_ok_iff.mpr rfl] at ha
  exact Except.ok.inj ha

end ClusterLicense.Base64
