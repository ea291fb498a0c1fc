/-
  ClusterLicense/Proofs/Json/Numeral.lean
  =======================================
  **A number is read as it is written**, and is an integer of 64 bits only if it is
  written as one.

  Each part of a numeral is read by its own reader: what it finds is written like
  that part (`read_sound`), and what is written like that part is found if nothing
  follows that could belong to it (`Writes.read`).  Digits without a leading zero are
  the digits of one number; so a numeral without fraction and exponent is worth the
  integer that it was written for (`value_ofInt`), and no other numeral is worth an
  integer (`eq_ofInt_of_value`).
-/
import ClusterLicense.Json.Scalar
import ClusterLicense.Proofs.Decimal.Digits
import ClusterLicense.Proofs.Json.Reader

namespace ClusterLicense

namespace Json

open Decimal (isDigit digit digitValue ofNat)

theorem not_isDigit_of_isDelimiter {b : UInt8} (h : isDelimiter b = true) : isDigit b = false :=
  Bytes.forall_octet (p := fun b => isDelimiter b = true → isDigit b = false)
    (by decide +kernel) b h

theorem Delimited.not_isDigit {rest : Bytes} (h : Delimited rest) :
    ∀ b ∈ rest.head?, isDigit b = false := by
  intro b hb
  exact not_isDigit_of_isDelimiter (h b hb)

theorem IsWhole.isDigits {digits : Bytes} (h : IsWhole digits) : IsDigits digits := by
  rcases h with rfl | ⟨h, -⟩
  · exact ⟨List.cons_ne_nil _ _, List.forall_mem_singleton.mpr rfl⟩
  · exact h

namespace Numeral

variable {atEnd : Problem} {s rest : Bytes}

/-! ### What is found is written there -/

theorem head?_takeWhile {p : UInt8 → Bool} {b : UInt8} {xs : Bytes} (hhead : s.head? = some b)
    (hb : p b = true) (h : Reader.takeWhile p s = .ok (xs, rest)) : xs.head? = some b := by
  obtain ⟨rfl, -⟩ := Prod.mk.inj (Except.ok.inj h)
  rw [List.head?_takeWhile, hhead, Option.filter_some_pos hb]

/-- The digits before the point are at least one, and the first is no zero if there is another.  A
reader that meets a zero stops, and refuses a digit after it. -/
theorem wholePart_sound {digits : Bytes} (h : wholePart atEnd s = .ok (digits, rest)) :
    IsWhole digits ∧ s = digits ++ rest := by
  obtain ⟨x, mid, hpeek, hread⟩ := Reader.bind_eq_ok_iff.mp h
  obtain ⟨hhead, rfl⟩ := Prod.mk.inj (Except.ok.inj hpeek)
  split at hread
  · cases hread
  · obtain ⟨s, rfl⟩ := List.head?_eq_some_iff.mp hhead
    rw [Reader.bind_run (Reader.advance_cons 48 s), Reader.bind_run (Reader.peek_run s)] at hread
    split_ifs at hread
    · cases hread
    · obtain ⟨rfl, rfl⟩ := Reader.pure_eq_ok_iff.mp hread
      exact ⟨.inl rfl, rfl⟩
  · rename_i b hzero
    split_ifs at hread with hdigit
    · obtain ⟨hall, hs⟩ := Reader.takeWhile_sound hread
      have hfirst := head?_takeWhile hhead hdigit hread
      refine ⟨.inr ⟨⟨?_, hall⟩, ?_⟩, hs⟩
      · rintro rfl
        cases hfirst
      · rw [hfirst]
        exact fun hb => hzero (Option.some.inj hb)
    · cases hread

theorem fractionPart_sound {digits : Bytes} (h : fractionPart atEnd s = .ok (digits, rest)) :
    ∃ fraction, IsFraction digits fraction ∧ s = fraction ++ rest := by
  obtain ⟨point, mid, hskip, hread⟩ := Reader.bind_eq_ok_iff.mp h
  rcases Reader.skip?_eq_ok_iff.mp hskip with ⟨rfl, rfl⟩ | ⟨rfl, rfl, -⟩
  · obtain ⟨found, mid', htake, hfound⟩ := Reader.bind_eq_ok_iff.mp hread
    obtain ⟨hall, rfl⟩ := Reader.takeWhile_sound htake
    split_ifs at hfound with hempty
    · obtain ⟨x, mid, hpeek, hfail⟩ := Reader.bind_eq_ok_iff.mp hfound
      split at hfail
      all_goals cases hfail
    · obtain ⟨rfl, rfl⟩ := Reader.pure_eq_ok_iff.mp hfound
      refine ⟨_, .some ⟨?_, hall⟩, rfl⟩
      intro hnil
      exact hempty (List.isEmpty_iff.mpr hnil)
  · obtain ⟨rfl, rfl⟩ := Reader.pure_eq_ok_iff.mp hread
    exact ⟨[], .none, rfl⟩

def exponentDigits (atEnd : Problem) (below : Bool) : Reader (Option (Bool × Bytes)) := do
  match ← Reader.peek with
  | none => Reader.fail atEnd
  | some b =>
    if isDigit b then return some (below, ← Reader.takeWhile isDigit)
    else
      Reader.advance
      Reader.fail .invalidNumber

theorem exponentPart_mark {mark : UInt8} (h : mark = 101 ∨ mark = 69) (s : Bytes) :
    exponentPart atEnd (mark :: s) = (do
      let below ← Reader.skip? 45
      if below then exponentDigits atEnd true
      else
        let _ ← Reader.skip? 43
        exponentDigits atEnd false : Reader (Option (Bool × Bytes))) s := by
  rw [exponentPart, Reader.bind_run (Reader.peek_run _), if_pos (by simpa using h),
    Reader.bind_run (Reader.advance_cons mark s)]
  refine congrFun (congrArg _ (funext ?_)) s
  intro below
  cases below with
  | true => rfl
  | false => rfl

theorem exponentDigits_sound {below : Bool} {exponent : Option (Bool × Bytes)}
    (h : exponentDigits atEnd below s = .ok (exponent, rest)) :
    ∃ digits, IsDigits digits ∧ exponent = some (below, digits) ∧ s = digits ++ rest := by
  obtain ⟨x, mid, hpeek, hread⟩ := Reader.bind_eq_ok_iff.mp h
  obtain ⟨hhead, rfl⟩ := Prod.mk.inj (Except.ok.inj hpeek)
  split at hread
  · cases hread
  · rename_i b
    split_ifs at hread with hdigit
    · obtain ⟨digits, after, htake, hpure⟩ := Reader.bind_eq_ok_iff.mp hread
      obtain ⟨rfl, rfl⟩ := Reader.pure_eq_ok_iff.mp hpure
      obtain ⟨hall, hs⟩ := Reader.takeWhile_sound htake
      refine ⟨digits, ⟨?_, hall⟩, rfl, hs⟩
      rintro rfl
      have hfirst := head?_takeWhile hhead hdigit htake
      cases hfirst
    · cases hread

/-- An exponent has a mark, a sign that may be left out, and at least one digit.  Without a mark
there is none, and nothing is read. -/
theorem exponentPart_sound {exponent : Option (Bool × Bytes)}
    (h : exponentPart atEnd s = .ok (exponent, rest)) :
    ∃ octets, IsExponent exponent octets ∧ s = octets ++ rest := by
  by_cases hmark : s.head? = some 101 ∨ s.head? = some 69
  · obtain ⟨mark, s, rfl⟩ : ∃ mark t, s = mark :: t := by
      cases s with
      | nil => simp at hmark
      | cons mark s => exact ⟨mark, s, rfl⟩
    simp only [List.head?_cons, Option.some.injEq] at hmark
    rw [exponentPart_mark hmark] at h
    obtain ⟨below, mid, hminus, hread⟩ := Reader.bind_eq_ok_iff.mp h
    rcases Reader.skip?_eq_ok_iff.mp hminus with ⟨rfl, rfl⟩ | ⟨rfl, rfl, -⟩
    · obtain ⟨digits, hdigits, rfl, rfl⟩ := exponentDigits_sound hread
      exact ⟨_, .some hmark .minus hdigits, rfl⟩
    · obtain ⟨plus, mid, hplus, hfound⟩ := Reader.bind_eq_ok_iff.mp hread
      obtain ⟨digits, hdigits, rfl, rfl⟩ := exponentDigits_sound hfound
      rcases Reader.skip?_eq_ok_iff.mp hplus with ⟨-, rfl⟩ | ⟨-, rfl, -⟩
      · exact ⟨_, .some hmark .plus hdigits, rfl⟩
      · exact ⟨_, .some hmark .none hdigits, rfl⟩
  · rw [exponentPart, Reader.bind_run (Reader.peek_run s), if_neg hmark] at h
    obtain ⟨rfl, rfl⟩ := Reader.pure_eq_ok_iff.mp h
    exact ⟨[], .none, rfl⟩

/-- What reads as a numeral is what the numeral is written with: a sign, and then the three parts,
each of them as its own reader takes it. -/
theorem read_sound {n : Numeral} (h : Numeral.read atEnd s = .ok (n, rest)) :
    ∃ v, n.Writes v ∧ s = v ++ rest := by
  obtain ⟨negative, afterSign, hminus, hunsigned⟩ := Reader.bind_eq_ok_iff.mp h
  obtain ⟨whole, afterWhole, hwhole, hwholeRest⟩ := Reader.bind_eq_ok_iff.mp hunsigned
  obtain ⟨fraction, afterFraction, hfraction, hfractionRest⟩ := Reader.bind_eq_ok_iff.mp hwholeRest
  obtain ⟨exponent, afterExponent, hexponent, hpure⟩ := Reader.bind_eq_ok_iff.mp hfractionRest
  obtain ⟨rfl, rfl⟩ := Reader.pure_eq_ok_iff.mp hpure
  obtain ⟨hisWhole, rfl⟩ := wholePart_sound hwhole
  obtain ⟨point, hpoint, rfl⟩ := fractionPart_sound hfraction
  obtain ⟨mark, hmark, rfl⟩ := exponentPart_sound hexponent
  refine ⟨_, ⟨hisWhole, point, mark, hpoint, hmark, rfl⟩, ?_⟩
  rcases Reader.skip?_eq_ok_iff.mp hminus with ⟨rfl, rfl⟩ | ⟨rfl, rfl, -⟩
  · simp only [if_true, List.cons_append, List.nil_append, List.append_assoc]
  · simp only [Bool.false_eq_true, if_false, List.nil_append, List.append_assoc]

/-! ### What is written is found -/

/-- The digits before the point are read in full, if no digit follows.  The condition is needed: a
numeral is taken to be as long as it can be. -/
theorem wholePart_run {digits : Bytes} (h : IsWhole digits)
    (hrest : ∀ b ∈ rest.head?, isDigit b = false) :
    wholePart atEnd (digits ++ rest) = .ok (digits, rest) := by
  rcases h with rfl | ⟨⟨hne, hdigits⟩, hzero⟩
  · have hnext : (rest.head?.any isDigit) = false := by
      cases hhead : rest.head? with
      | none => rfl
      | some b => exact hrest b hhead
    rw [List.singleton_append, wholePart, Reader.bind_run (Reader.peek_run _), List.head?_cons]
    simp only []
    rw [Reader.bind_run (Reader.advance_cons 48 rest), Reader.bind_run (Reader.peek_run _), hnext]
    rfl
  · obtain ⟨b, digits, rfl⟩ := List.exists_cons_of_ne_nil hne
    have hb : isDigit b = true := hdigits b List.mem_cons_self
    rw [wholePart, Reader.bind_run (Reader.peek_run _), List.cons_append, List.head?_cons]
    refine (congrFun (?_ : _ = Reader.takeWhile isDigit) _).trans
      (Reader.takeWhile_run hdigits hrest)
    split
    · rename_i hnone
      cases hnone
    · rename_i heq
      exact absurd heq hzero
    · rename_i heq
      obtain rfl := Option.some.inj heq
      exact if_pos hb

theorem fractionPart_run {digits octets : Bytes} (h : IsFraction digits octets)
    (hpoint : rest.head? ≠ some 46) (hrest : ∀ b ∈ rest.head?, isDigit b = false) :
    fractionPart atEnd (octets ++ rest) = .ok (digits, rest) := by
  cases h with
  | none =>
    rw [List.nil_append, fractionPart, Reader.bind_run (Reader.skip?_of_head?_ne hpoint)]
    rfl
  | some h =>
    have hsome : ¬ digits.isEmpty = true := fun hempty => h.1 (List.isEmpty_iff.mp hempty)
    rw [List.cons_append, fractionPart, Reader.bind_run (Reader.skip?_self 46 _), if_pos rfl,
      Reader.bind_run (Reader.takeWhile_run h.2 hrest), if_neg hsome]
    rfl

theorem exponentDigits_run {below : Bool} {digits : Bytes} (h : IsDigits digits)
    (hrest : ∀ b ∈ rest.head?, isDigit b = false) :
    exponentDigits atEnd below (digits ++ rest) = .ok (some (below, digits), rest) := by
  obtain ⟨hne, hdigits⟩ := h
  have hread := Reader.takeWhile_run hdigits hrest
  obtain ⟨b, digits, rfl⟩ := List.exists_cons_of_ne_nil hne
  rw [List.cons_append] at hread ⊢
  rw [exponentDigits, Reader.bind_run (Reader.peek_run _), List.head?_cons]
  simp only [if_pos (hdigits b List.mem_cons_self)]
  rw [Reader.bind_run hread]
  rfl

theorem exponentPart_run {exponent : Option (Bool × Bytes)} {octets : Bytes}
    (h : IsExponent exponent octets) (hsmall : rest.head? ≠ some 101)
    (hlarge : rest.head? ≠ some 69) (hrest : ∀ b ∈ rest.head?, isDigit b = false) :
    exponentPart atEnd (octets ++ rest) = .ok (exponent, rest) := by
  cases h with
  | none =>
    have hneither : ¬ (rest.head? = some 101 ∨ rest.head? = some 69) := by
      rintro (h | h)
      · exact hsmall h
      · exact hlarge h
    rw [List.nil_append, exponentPart, Reader.bind_run (Reader.peek_run _), if_neg hneither]
    rfl
  | @some mark below sign digits hmark hsign hdigits =>
    have hread (below : Bool) : exponentDigits atEnd below (digits ++ rest) =
        .ok (some (below, digits), rest) := exponentDigits_run hdigits hrest
    have hnone : ∀ b, isDigit b = false → (digits ++ rest).head? ≠ some b := by
      intro b hb hhead
      obtain ⟨c, front, rfl⟩ := List.exists_cons_of_ne_nil hdigits.1
      obtain rfl := Option.some.inj hhead
      rw [hdigits.2 _ List.mem_cons_self] at hb
      cases hb
    rw [List.cons_append, exponentPart_mark hmark, List.append_assoc]
    cases hsign with
    | none =>
      rw [List.nil_append, Reader.bind_run (Reader.skip?_of_head?_ne (hnone 45 (by decide))),
        if_neg Bool.false_ne_true,
        Reader.bind_run (Reader.skip?_of_head?_ne (hnone 43 (by decide))), hread]
    | plus =>
      rw [List.singleton_append, Reader.bind_run (Reader.skip?_of_head?_ne (by simp)),
        if_neg Bool.false_ne_true, Reader.bind_run (Reader.skip?_self 43 _), hread]
    | minus =>
      rw [List.singleton_append, Reader.bind_run (Reader.skip?_self 45 _), if_pos rfl, hread]

theorem not_isDigit_of_exponent {exponent : Option (Bool × Bytes)} {octets : Bytes}
    (h : IsExponent exponent octets) (hrest : Delimited rest) :
    (octets ++ rest).head? ≠ some 46 ∧ ∀ b ∈ (octets ++ rest).head?, isDigit b = false := by
  cases h with
  | none => exact ⟨hrest.head?_ne (by decide), hrest.not_isDigit⟩
  | some hmark hsign hdigits =>
    rcases hmark with rfl | rfl
    · exact ⟨by simp, by simp [isDigit]⟩
    · exact ⟨by simp, by simp [isDigit]⟩

theorem not_isDigit_of_fraction {digits octets : Bytes} (h : IsFraction digits octets)
    (hrest : ∀ b ∈ rest.head?, isDigit b = false) :
    ∀ b ∈ (octets ++ rest).head?, isDigit b = false := by
  cases h with
  | none => exact hrest
  | some hdigits => simp [isDigit]

/-- A numeral that is written before the end of a value is read in full.  What follows must not go
on with the numeral, and what may follow a value does not. -/
theorem Writes.read {n : Numeral} {v : Bytes} (h : n.Writes v) (hrest : Delimited rest) :
    Numeral.read atEnd (v ++ rest) = .ok (n, rest) := by
  obtain ⟨negative, whole, fraction, exponent⟩ := n
  obtain ⟨hwhole, point, mark, hpoint, hmark, rfl⟩ := h
  simp only at hwhole hpoint hmark
  obtain ⟨hnoPoint, hnoDigit⟩ := not_isDigit_of_exponent hmark hrest
  have hsmall := hrest.head?_ne (b := 101) (by decide)
  have hlarge := hrest.head?_ne (b := 69) (by decide)
  have hsign (s : Bytes) : Reader.skip? 45 ((if negative then [45] else []) ++ (whole ++ s)) =
      .ok (negative, whole ++ s) := by
    cases negative with
    | true => exact Reader.skip?_self 45 _
    | false =>
      apply Reader.skip?_of_head?_ne
      obtain ⟨hne, hdigits⟩ := hwhole.isDigits
      obtain ⟨b, whole, rfl⟩ := List.exists_cons_of_ne_nil hne
      rintro hminus
      obtain rfl := Option.some.inj hminus
      revert hdigits
      simp [isDigit]
  simp only [List.append_assoc]
  rw [Numeral.read, Reader.bind_run (hsign _),
    Reader.bind_run (wholePart_run hwhole (not_isDigit_of_fraction hpoint hnoDigit)),
    Reader.bind_run (fractionPart_run hpoint hnoPoint hnoDigit),
    Reader.bind_run (exponentPart_run hmark hsmall hlarge hrest.not_isDigit)]
  rfl

/-! ### Integers -/

def ofInt (n : Int) : Numeral := ⟨n < 0, ofNat n.natAbs, [], none⟩

theorem writes_ofInt (n : Int) : (ofInt n).Writes (Decimal.ofInt n) := by
  refine ⟨?_, [], [], .none, .none, ?_⟩
  · have hdigits : IsDigits (ofNat n.natAbs) :=
      ⟨Decimal.ofNat_ne_nil _, fun b hb => Decimal.isDigit_of_mem_ofNat hb⟩
    by_cases hzero : n.natAbs = 0
    · refine .inl ?_
      show ofNat n.natAbs = [48]
      rw [hzero, ofNat]
      rfl
    · refine .inr ⟨hdigits, ?_⟩
      intro hhead
      exact hzero (Decimal.eq_zero_of_head?_ofNat hhead)
  · by_cases hneg : n < 0
    · simp [ofInt, Decimal.ofInt, hneg]
    · simp [ofInt, Decimal.ofInt, hneg]

/-! ### What a numeral is worth -/

theorem foldl_push_ofNat {n : Nat} (h : n < UInt64.size) :
    (ofNat n).foldl Significand.push ⟨0, 0, 0⟩ = ⟨n, (ofNat n).length, 0⟩ := by
  fun_induction ofNat n with
  | case1 n hlt =>
    have hvalue : 10 * 0 + digitValue (digit n) = n := by
      rw [Decimal.digitValue_digit n hlt]
      omega
    simp only [List.foldl_cons, List.foldl_nil, Significand.push, hvalue, h, and_self, if_true]
    rfl
  | case2 n hge ih =>
    have hvalue : 10 * (n / 10) + digitValue (digit (n % 10)) = n := by
      rw [Decimal.digitValue_digit _ (Nat.mod_lt n (by decide))]
      omega
    rw [List.foldl_append, ih (by omega)]
    simp only [List.foldl_cons, List.foldl_nil, Significand.push, hvalue, h, and_self, if_true,
      List.length_append, List.length_singleton]

/-- As long as no digit had to be left out, the significand is the number that the digits spell. -/
theorem foldl_push_dropped {s : Significand} {digits : Bytes}
    (h : (digits.foldl Significand.push s).dropped = 0) :
    s.dropped = 0 ∧ (digits.foldl Significand.push s).value =
      digits.foldl (fun n b => 10 * n + digitValue b) s.value := by
  induction digits generalizing s with
  | nil => exact ⟨h, rfl⟩
  | cons b digits ih =>
    obtain ⟨hpush, hvalue⟩ := ih h
    have hfits : s.dropped = 0 ∧ 10 * s.value + digitValue b < UInt64.size := by
      by_contra hnot
      simp only [Significand.push, if_neg hnot] at hpush
      omega
    refine ⟨hfits.1, hvalue.trans ?_⟩
    simp only [Significand.push, if_pos hfits, List.foldl_cons]

def signed (n : Numeral) : Int :=
  if n.negative then -n.wholeSignificand.value else n.wholeSignificand.value

/-- Neither fraction nor exponent, no digit left out, and less than zero after a minus sign. -/
structure IsInteger (n : Numeral) : Prop where
  fraction : n.fraction = []
  exponent : n.exponent = none
  dropped : n.wholeSignificand.dropped = 0
  negative : n.negative = true → Int64.minValue.toInt ≤ n.signed ∧ n.signed < 0

/-- The test that the reader makes for an integer, in words: neither fraction nor exponent, all
digits kept, and within 64 bits.  A minus sign before zeros is not enough, since minus zero is a
floating point number. -/
theorem isInteger_iff (n : Numeral) : (n.fraction.isEmpty && n.exponent.isNone &&
    n.wholeSignificand.dropped = 0 &&
      if n.negative then Int64.minValue.toInt ≤ n.signed && n.signed < 0 else true) = true ↔
      n.IsInteger := by
  rw [Bool.and_eq_true, Bool.and_eq_true, Bool.and_eq_true, List.isEmpty_iff,
    Option.isNone_iff_eq_none, decide_eq_true_eq]
  constructor
  · rintro ⟨⟨⟨hfraction, hexponent⟩, hdropped⟩, hsigned⟩
    refine ⟨hfraction, hexponent, hdropped, ?_⟩
    intro hnegative
    rw [if_pos hnegative, Bool.and_eq_true, decide_eq_true_eq, decide_eq_true_eq] at hsigned
    exact hsigned
  · rintro ⟨hfraction, hexponent, hdropped, hsigned⟩
    refine ⟨⟨⟨hfraction, hexponent⟩, hdropped⟩, ?_⟩
    split_ifs with hnegative
    · rw [Bool.and_eq_true, decide_eq_true_eq, decide_eq_true_eq]
      exact hsigned hnegative
    · rfl

theorem value_of_isInteger {n : Numeral} (h : n.IsInteger) (s : Bytes) :
    n.value s = .ok (.integer n.signed, s) :=
  congrFun (if_pos ((isInteger_iff n).mpr h)) s

/-- Every other numeral is worth a floating point number, if anything. -/
theorem isInteger_of_value {n : Numeral} {k : Int} (h : n.value s = .ok (.integer k, rest)) :
    n.IsInteger ∧ k = n.signed ∧ s = rest := by
  by_cases hinteger : n.IsInteger
  · rw [value_of_isInteger hinteger] at h
    cases h
    exact ⟨hinteger, rfl, rfl⟩
  · exfalso
    have hfloat : n.value s = _ :=
      congrFun (if_neg fun hcond => hinteger ((isInteger_iff n).mp hcond)) s
    rw [hfloat] at h
    generalize n.scaled = scaled at h
    cases hexponent : n.exponent with
    | none =>
      rw [hexponent] at h
      simp only at h
      generalize toFloat? _ _ = x? at h
      cases x? with
      | none => cases h
      | some x => cases h
    | some exponent =>
      obtain ⟨below, digits⟩ := exponent
      rw [hexponent] at h
      simp only at h
      generalize exponentValue 0 digits = exponent at h
      cases exponent with
      | error unread =>
        simp only at h
        split_ifs at h
        all_goals cases h
      | ok exponent =>
        simp only at h
        generalize toFloat? _ _ = x? at h
        cases x? with
        | none => cases h
        | some x => cases h

theorem isInteger_ofInt {n : Int} (hmin : Int64.minValue.toInt ≤ n)
    (hmax : n ≤ Int64.maxValue.toInt) : (ofInt n).IsInteger ∧ (ofInt n).signed = n := by
  have hsize : n.natAbs < UInt64.size := by
    rw [show Int64.minValue.toInt = -9223372036854775808 from rfl] at hmin
    rw [show Int64.maxValue.toInt = 9223372036854775807 from rfl] at hmax
    rw [show UInt64.size = 18446744073709551616 from rfl]
    omega
  have hwhole : (ofInt n).wholeSignificand = ⟨n.natAbs, (ofNat n.natAbs).length, 0⟩ :=
    foldl_push_ofNat hsize
  have hsigned : (ofInt n).signed = n := by
    rw [signed, hwhole, ofInt]
    simp only [decide_eq_true_eq]
    split_ifs
    · omega
    · omega
  refine ⟨⟨rfl, rfl, by rw [hwhole], ?_⟩, hsigned⟩
  intro hnegative
  rw [hsigned]
  exact ⟨hmin, of_decide_eq_true hnegative⟩

/-- An integer of 64 bits is written as a numeral that reads as that integer. -/
theorem value_ofInt {n : Int} (hmin : Int64.minValue.toInt ≤ n) (hmax : n ≤ Int64.maxValue.toInt)
    (s : Bytes) : (ofInt n).value s = .ok (.integer n, s) := by
  obtain ⟨hinteger, hsigned⟩ := isInteger_ofInt hmin hmax
  rw [value_of_isInteger hinteger, hsigned]

/-- Only what an integer is written with is worth an integer.  A numeral with a fraction, an
exponent or a minus before zero is worth a floating point number, so that fields for integers refuse
all of them. -/
theorem eq_ofInt_of_value {n : Numeral} {k : Int} {v : Bytes} (h : n.Writes v)
    (hvalue : n.value s = .ok (.integer k, rest)) : v = Decimal.ofInt k ∧ s = rest := by
  obtain ⟨⟨hfraction, hexponent, hdropped, hnegative⟩, rfl, hs⟩ := isInteger_of_value hvalue
  refine ⟨?_, hs⟩
  obtain ⟨hwhole, point, mark, hpoint, hmark, rfl⟩ := h
  obtain rfl : point = [] := by
    rw [hfraction] at hpoint
    cases hpoint with
    | none => rfl
    | some hdigits => exact absurd rfl hdigits.1
  obtain rfl : mark = [] := by
    rw [hexponent] at hmark
    cases hmark
    rfl
  obtain ⟨hne, hdigits⟩ := hwhole.isDigits
  have hcanonical : ofNat n.wholeSignificand.value = n.whole := by
    rw [wholeSignificand, (foldl_push_dropped hdropped).2]
    exact Decimal.ofNat_toNat hdigits hne (hwhole.imp id And.right)
  rw [List.append_nil, List.append_nil, Decimal.ofInt]
  unfold signed at hnegative ⊢
  split_ifs with hsign hless hless
  · rw [Int.natAbs_neg, Int.natAbs_natCast, hcanonical]
    rfl
  · have hbound := (hnegative hsign).2
    rw [if_pos hsign] at hbound
    exact absurd hbound hless
  · omega
  · rw [Int.natAbs_natCast, hcanonical]
    rfl

end Numeral

end Json

end ClusterLicense
