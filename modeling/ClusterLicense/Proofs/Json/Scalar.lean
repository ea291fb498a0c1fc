/-
  ClusterLicense/Proofs/Json/Scalar.lean
  ======================================
  **Integers of 64 bits, texts and null are recognised.**

  An integer of 64 bits has one way to be written, a text has many.  No value starts
  with a blank or with what may follow a value (`IsValue.cons`), so a reader that
  looks for the next octet finds where the value starts.
-/
import ClusterLicense.Json.Value
import ClusterLicense.Proofs.Json.Numeral
import ClusterLicense.Proofs.Json.Spelling

namespace ClusterLicense.Json

variable {α : Type}

/-! ### Values that are not wanted -/

/-- A scalar that is not wanted is read to say what it is, and then refused.  So a reader that
expects something else succeeds on none of them, whatever the reading has come to. -/
theorem mismatch_ne_ok {wanted : String} {a : α} {s rest : Bytes} :
    (mismatch wanted : Reader α) s ≠ .ok (a, rest) := by
  intro h
  obtain ⟨found, mid, -, hfail⟩ := Reader.bind_eq_ok_iff.mp h
  cases hfail

/-! ### Integers -/

theorem not_isDelimiter_of_startsNumber {b : UInt8} (h : startsNumber b = true) :
    isDelimiter b = false :=
  Bytes.forall_octet (p := fun b => startsNumber b = true → isDelimiter b = false)
    (by decide +kernel) b h

/-- A numeral starts with a digit or a minus sign. -/
theorem Numeral.Writes.cons {n : Numeral} {v : Bytes} (h : n.Writes v) :
    ∃ b octets, v = b :: octets ∧ startsNumber b = true := by
  obtain ⟨hwhole, point, mark, -, -, rfl⟩ := h
  obtain ⟨hne, hdigits⟩ := hwhole.isDigits
  obtain ⟨b, digits, hb⟩ := List.exists_cons_of_ne_nil hne
  cases n.negative with
  | true => exact ⟨45, _, rfl, rfl⟩
  | false =>
    refine ⟨b, digits ++ (point ++ mark), by rw [hb]; rfl, ?_⟩
    rw [startsNumber, hdigits b (by rw [hb]; exact List.mem_cons_self), Bool.or_true]

/-- Nothing that may follow a value starts one. -/
theorem IsValue.cons {v : Bytes} (h : IsValue v) :
    ∃ b octets, v = b :: octets ∧ isDelimiter b = false := by
  cases h with
  | word h =>
    simp only [words, List.mem_cons, List.not_mem_nil, or_false] at h
    rcases h with rfl | rfl | rfl
    all_goals exact ⟨_, _, rfl, by decide⟩
  | number h =>
    obtain ⟨b, octets, rfl, hstarts⟩ := h.cons
    exact ⟨b, octets, rfl, not_isDelimiter_of_startsNumber hstarts⟩
  | literal h =>
    obtain ⟨body, -, rfl⟩ := h
    exact ⟨_, _, rfl, by decide⟩
  | bracket bracket inside =>
    refine ⟨_, _, rfl, ?_⟩
    cases bracket with
    | array => rfl
    | object => rfl

theorem not_isBlank_of_not_isDelimiter {b : UInt8} (h : isDelimiter b = false) :
    isBlank b = false := by
  simp only [isDelimiter, Bool.or_eq_false_iff] at h
  exact h.1.1.1

theorem Blanks.dropWhile_append {w : Bytes} (hw : Blanks w) {v : Bytes} (hv : IsValue v)
    (u : Bytes) : (w ++ (v ++ u)).dropWhile isBlank = v ++ u := by
  obtain ⟨b, octets, rfl, hb⟩ := hv.cons
  rw [List.dropWhile_append_of_pos hw, List.cons_append, List.dropWhile_cons_of_neg]
  rw [not_isBlank_of_not_isDelimiter hb]
  exact Bool.false_ne_true

/-- A field for integers takes their decimal digits and nothing else: no leading zero, no plus sign,
no fraction, no exponent, and nothing beyond 64 bits. -/
theorem recognizes_int64 : Recognizes int64 fun n v => v = Decimal.ofInt n.toInt where
  isValue := by
    rintro n v rfl
    exact .number (Numeral.writes_ofInt n.toInt)
  sound := by
    intro n s rest h
    obtain ⟨w, mid, hw, -, rfl, hread⟩ := Reader.next_bind_eq_ok_iff.mp h
    generalize mid.head? = first at hread
    cases first with
    | none => cases hread
    | some b =>
      simp only at hread
      split_ifs at hread
      · obtain ⟨found, after, hnumber, hfound⟩ := Reader.bind_eq_ok_iff.mp hread
        cases found with
        | float x =>
          cases hfound
        | integer k =>
          simp only at hfound
          split_ifs at hfound with hbounds
          · obtain ⟨rfl, rfl⟩ := Reader.pure_eq_ok_iff.mp hfound
            obtain ⟨numeral, valued, hnumeral, hvalue⟩ := Reader.bind_eq_ok_iff.mp hnumber
            obtain ⟨v, hv, rfl⟩ := Numeral.read_sound hnumeral
            obtain ⟨rfl, rfl⟩ := Numeral.eq_ofInt_of_value hv hvalue
            refine ⟨w, _, hw, rfl, ?_⟩
            rw [Int64.toInt_ofInt_of_le hbounds.1 (Int.lt_of_le_of_lt hbounds.2 (by decide))]
          · cases hfound
      · exact absurd hread mismatch_ne_ok
  complete := by
    rintro n w v rest hw rfl hrest
    have hmin : Int64.minValue.toInt ≤ n.toInt := n.minValue_le_toInt
    have hmax : n.toInt ≤ Int64.maxValue.toInt := n.toInt_le
    have hnumber : number (Decimal.ofInt n.toInt ++ rest) = .ok (.integer n.toInt, rest) := by
      rw [number, Reader.bind_run ((Numeral.writes_ofInt n.toInt).read hrest)]
      exact Numeral.value_ofInt hmin hmax rest
    obtain ⟨b, octets, hoctets, hstarts⟩ := (Numeral.writes_ofInt n.toInt).cons
    have hblank := not_isBlank_of_not_isDelimiter (not_isDelimiter_of_startsNumber hstarts)
    rw [hoctets, List.cons_append] at hnumber ⊢
    rw [int64, Reader.next_bind_append hw, Reader.next_bind_cons hblank]
    simp only [if_pos hstarts]
    rw [Reader.bind_run hnumber]
    simp only [if_pos (And.intro hmin hmax)]
    rw [Int64.ofInt_toInt]
    rfl

/-! ### Texts -/

theorem quotes_append {text : String} {q : Bytes} (h : Quotes text q) (rest : Bytes) :
    ∃ octets, q ++ rest = quotationMark :: octets ∧ textAfterMark octets = .ok (text, rest) := by
  obtain ⟨body, hbody, rfl⟩ := h
  refine ⟨body ++ quotationMark :: rest, ?_, textAfterMark_eq_ok_iff.mpr ⟨body, hbody, rfl⟩⟩
  rw [List.cons_append, List.append_assoc]
  rfl

theorem exists_quotes {text : String} {s rest : Bytes} (h : textAfterMark s = .ok (text, rest)) :
    ∃ q, Quotes text q ∧ quotationMark :: s = q ++ rest := by
  obtain ⟨body, hbody, rfl⟩ := textAfterMark_eq_ok_iff.mp h
  refine ⟨_, ⟨body, hbody, rfl⟩, ?_⟩
  rw [List.cons_append, List.append_assoc]
  rfl

/-- A field for texts takes every string that spells one.  There may be many spellings of a text,
since characters may be escaped. -/
theorem recognizes_text (wanted : String) : Recognizes (text wanted) Quotes where
  isValue h := .literal h.isLiteral
  sound := by
    intro found s rest h
    obtain ⟨w, mid, hw, -, rfl, hread⟩ := Reader.next_bind_eq_ok_iff.mp h
    generalize hfirst : mid.head? = first at hread
    split at hread
    · cases hread
    · obtain ⟨mid, rfl⟩ := List.head?_eq_some_iff.mp hfirst
      obtain ⟨q, hq, hmid⟩ := exists_quotes hread
      exact ⟨w, q, hw, hq, congrArg (w ++ ·) hmid⟩
    · exact absurd hread mismatch_ne_ok
  complete := by
    intro found w q rest hw hq hrest
    obtain ⟨octets, hoctets, hread⟩ := quotes_append hq rest
    rw [hoctets, text, Reader.next_bind_append hw, Reader.next_bind_cons (by decide)]
    exact hread

/-! ### Null -/

theorem keyword_eq_ok_iff {word s rest : Bytes} :
    keyword word s = .ok ((), rest) ↔ s = word ++ rest := by
  induction word generalizing s with
  | nil => exact Reader.pure_eq_ok_iff.trans (and_iff_right rfl)
  | cons b word ih =>
    rw [keyword, Reader.bind_run (Reader.peek_run s)]
    cases s with
    | nil => simp [Reader.fail]
    | cons c s =>
      simp only [List.head?_cons]
      rw [Reader.bind_run (Reader.advance_cons c s)]
      split_ifs with hc
      · rw [ih, hc, List.cons_append, List.cons.injEq, and_iff_right rfl]
      · simp [Reader.fail, hc]

inductive OrNull (language : α → Bytes → Prop) : Option α → Bytes → Prop where
  | null : OrNull language none (110 :: nullTail)
  | value {a : α} {v : Bytes} (h : language a v) : OrNull language (some a) v

theorem head?_quotes {text : String} {v : Bytes} (h : Quotes text v) : v.head? ≠ some 110 := by
  obtain ⟨body, -, rfl⟩ := h
  simp [quotationMark]

/-- A value that may be left out is read as null or as the value.  No value of the language may
start as null does, or the reader would take the wrong way. -/
theorem Recognizes.optional {reader : Reader α} {language : α → Bytes → Prop}
    (h : Recognizes reader language) (hnull : ∀ a v, language a v → v.head? ≠ some 110) :
    Recognizes (optional reader) (OrNull language) where
  isValue := by
    rintro a v (_ | hv)
    · exact .word (by decide)
    · exact h.isValue hv
  sound := by
    intro found s rest hread
    obtain ⟨w, mid, hw, -, rfl, hnext⟩ := Reader.next_bind_eq_ok_iff.mp hread
    generalize hfirst : mid.head? = first at hnext
    split at hnext
    · obtain ⟨mid, rfl⟩ := List.head?_eq_some_iff.mp hfirst
      rw [Reader.bind_run (Reader.advance_cons 110 mid)] at hnext
      obtain ⟨_, after, hword, hpure⟩ := Reader.bind_eq_ok_iff.mp hnext
      obtain ⟨rfl, rfl⟩ := Reader.pure_eq_ok_iff.mp hpure
      rw [keyword_eq_ok_iff.mp hword]
      exact ⟨w, _, hw, .null, rfl⟩
    · obtain ⟨a, hfound, rfl⟩ := Reader.map_eq_ok_iff.mp hnext
      obtain ⟨u, v, hu, hv, rfl⟩ := h.sound hfound
      exact ⟨w ++ u, v, hw.append hu, .value hv, (List.append_assoc w u _).symm⟩
  complete := by
    rintro found w v rest hw (_ | hv) hrest
    · have hword : keyword nullTail (nullTail ++ rest) = .ok ((), rest) :=
        keyword_eq_ok_iff.mpr rfl
      rw [Json.optional, Reader.next_bind_append hw, List.cons_append,
        Reader.next_bind_cons (by decide)]
      show (Reader.advance >>= fun _ => keyword nullTail >>= fun _ => pure none) _ = _
      rw [Reader.bind_run (Reader.advance_cons _ _), Reader.bind_run hword]
      rfl
    · obtain ⟨b, octets, rfl, hb⟩ := (h.isValue hv).cons
      have hread := h.complete blanks_nil hv hrest
      have hblank := not_isBlank_of_not_isDelimiter hb
      rw [Json.optional, Reader.next_bind_append hw, List.cons_append,
        Reader.next_bind_cons hblank]
      refine (congrFun (?_ : _ = some <$> reader) _).trans (Reader.map_run hread)
      split
      · rename_i hfirst
        exact absurd hfirst (hnull _ _ hv)
      · rfl

end ClusterLicense.Json
