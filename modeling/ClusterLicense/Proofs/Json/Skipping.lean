/-
  ClusterLicense/Proofs/Json/Skipping.lean
  ========================================
  **A value that nobody asked for is run through in full**, and nothing but a value is.

  The loop has no memory but the open brackets, so what is left to run through is a
  matter of them: the rest of the innermost one, then that of the next (`Closes`).
  Each step takes something off the front of what remains (`skipStep_sound`).  The
  other way round, running through a part of a value leads to behind that part
  (`Runs`), which is shown by induction on the grammar.
-/
import ClusterLicense.Proofs.Json.Scalar

namespace ClusterLicense.Json

/-! ### Names and colons -/

theorem colon_eq_ok_iff {s rest : Bytes} :
    colon s = .ok ((), rest) ↔ ∃ u, Blanks u ∧ s = u ++ 58 :: rest := by
  constructor
  · intro h
    obtain ⟨u, mid, hu, -, rfl, hread⟩ := Reader.next_bind_eq_ok_iff.mp h
    generalize hfirst : mid.head? = first at hread
    split at hread
    · obtain ⟨mid, rfl⟩ := List.head?_eq_some_iff.mp hfirst
      obtain ⟨-, rfl⟩ := Prod.mk.inj (Except.ok.inj hread)
      exact ⟨u, hu, rfl⟩
    · cases hread
    · cases hread
  · rintro ⟨u, hu, rfl⟩
    rw [colon, Reader.next_bind_append hu, Reader.next_bind_cons (by decide)]
    rfl

/-- What stands behind a colon is recognised with the colon. -/
theorem Recognizes.sound_colon {α : Type} {reader : Reader α} {language : α → Bytes → Prop}
    (h : Recognizes reader language) {a : α} {s rest : Bytes}
    (hread : (colon >>= fun _ => reader) s = .ok (a, rest)) :
    ∃ u x v, Blanks u ∧ Blanks x ∧ language a v ∧ s = u ++ 58 :: (x ++ (v ++ rest)) := by
  obtain ⟨_, mid, hcolon, hvalue⟩ := Reader.bind_eq_ok_iff.mp hread
  obtain ⟨u, hu, rfl⟩ := colon_eq_ok_iff.mp hcolon
  obtain ⟨x, v, hx, hv, rfl⟩ := h.sound hvalue
  exact ⟨u, x, v, hu, hx, hv, rfl⟩

/-- The same the other way round: behind a colon and blanks, a value of the language is read in
full. -/
theorem Recognizes.complete_colon {α : Type} {reader : Reader α} {language : α → Bytes → Prop}
    (h : Recognizes reader language) {a : α} {u x v rest : Bytes} (hu : Blanks u) (hx : Blanks x)
    (hv : language a v) (hrest : Delimited rest) :
    (colon >>= fun _ => reader) (u ++ 58 :: (x ++ (v ++ rest))) = .ok (a, rest) := by
  have hcolon : colon (u ++ 58 :: (x ++ (v ++ rest))) = .ok ((), x ++ (v ++ rest)) :=
    colon_eq_ok_iff.mpr ⟨u, hu, rfl⟩
  rw [Reader.bind_run hcolon]
  exact h.complete hx hv hrest

/-- A string that nobody reads is gone through up to its closing mark.  Escapes have to be well
formed, but what they stand for is not looked at, and neither is whether the octets are a text. -/
theorem skipText_eq_ok_iff {s rest : Bytes} :
    skipText s = .ok ((), rest) ↔ ∃ body, IsBody body ∧ s = body ++ quotationMark :: rest := by
  rw [← afterText_eq_ok_iff, skipText]
  cases afterText s with
  | error fault => simp
  | ok after => simp

theorem skipName_eq_ok_iff {bracket : Bracket} {s rest : Bytes} :
    skipName bracket s = .ok ((), rest) ↔ ∃ label, Label bracket label ∧ s = label ++ rest := by
  cases bracket with
  | array =>
    constructor
    · intro h
      obtain ⟨-, rfl⟩ := Reader.pure_eq_ok_iff.mp h
      exact ⟨[], .element, rfl⟩
    · rintro ⟨label, hlabel, rfl⟩
      cases hlabel
      rfl
  | object =>
    constructor
    · intro h
      obtain ⟨w, mid, hw, -, rfl, hread⟩ := Reader.next_bind_eq_ok_iff.mp h
      generalize hfirst : mid.head? = first at hread
      split at hread
      · obtain ⟨mid, rfl⟩ := List.head?_eq_some_iff.mp hfirst
        rw [Reader.bind_run (Reader.advance_cons 34 mid)] at hread
        obtain ⟨_, after, htext, hcolon⟩ := Reader.bind_eq_ok_iff.mp hread
        obtain ⟨body, hbody, rfl⟩ := skipText_eq_ok_iff.mp htext
        obtain ⟨u, hu, rfl⟩ := colon_eq_ok_iff.mp hcolon
        refine ⟨_, .member hw ⟨body, hbody, rfl⟩ hu, ?_⟩
        simp only [List.append_assoc, List.cons_append, List.nil_append]
        rfl
      · cases hread
      · cases hread
    · rintro ⟨label, hlabel, rfl⟩
      cases hlabel with
      | @member w name u hw hname hu =>
        obtain ⟨body, hbody, rfl⟩ := hname
        have htext : skipText (body ++ quotationMark :: (u ++ 58 :: rest)) =
            .ok ((), u ++ 58 :: rest) := skipText_eq_ok_iff.mpr ⟨body, hbody, rfl⟩
        simp only [List.append_assoc, List.cons_append, List.nil_append]
        rw [skipName, Reader.next_bind_append hw, Reader.next_bind_cons (by decide)]
        show (Reader.advance >>= fun _ => skipText >>= fun _ => colon) _ = _
        rw [Reader.bind_run (Reader.advance_cons _ _), Reader.bind_run htext]
        exact colon_eq_ok_iff.mpr ⟨u, hu, rfl⟩

/-! ### Values without parts -/

def IsLeaf (v : Bytes) : Prop := v ∈ words ∨ (∃ n : Numeral, n.Writes v) ∨ IsLiteral v

def skipLeaf (b : UInt8) : Reader Unit :=
  if b = 110 then Reader.advance >>= fun _ => keyword nullTail
  else if b = 116 then Reader.advance >>= fun _ => keyword trueTail
  else if b = 102 then Reader.advance >>= fun _ => keyword falseTail
  else if b = quotationMark then Reader.advance >>= fun _ => skipText
  else if startsNumber b then Numeral.read .invalidNumber >>= fun _ => pure ()
  else Reader.failNext .expectedValue

/-- Past the two opening brackets, what is next is a value that opens none, and running through it
leaves the brackets around it as they are. -/
theorem skipOne_cons {inside : List Bracket} {b : UInt8} (hblank : isBlank b = false)
    (harray : b ≠ 91) (hobject : b ≠ 123) (s : Bytes) :
    skipOne inside (b :: s) = (skipLeaf b >>= fun _ => pure (.behind inside)) (b :: s) := by
  rw [skipOne, Reader.next_bind_cons hblank]
  simp only [if_neg harray, if_neg hobject]
  unfold skipLeaf
  split_ifs
  all_goals simp only [bind_assoc, pure_bind]

theorem skipLeaf_sound {b : UInt8} {s rest : Bytes} (h : skipLeaf b (b :: s) = .ok ((), rest)) :
    ∃ v, IsLeaf v ∧ b :: s = v ++ rest := by
  unfold skipLeaf at h
  have hword {tail : Bytes} (hmem : b :: tail ∈ words)
      (h : (Reader.advance >>= fun _ => keyword tail) (b :: s) = .ok ((), rest)) :
      ∃ v, IsLeaf v ∧ b :: s = v ++ rest := by
    rw [Reader.bind_run (Reader.advance_cons b s)] at h
    exact ⟨b :: tail, .inl hmem, congrArg (b :: ·) (keyword_eq_ok_iff.mp h)⟩
  split_ifs at h with hnull htrue hfalse hmark hnumber
  · exact hword (by rw [hnull]; decide) h
  · exact hword (by rw [htrue]; decide) h
  · exact hword (by rw [hfalse]; decide) h
  · rw [Reader.bind_run (Reader.advance_cons b s)] at h
    obtain ⟨body, hbody, rfl⟩ := skipText_eq_ok_iff.mp h
    refine ⟨_, .inr (.inr ⟨body, hbody, rfl⟩), ?_⟩
    rw [hmark, List.cons_append, List.append_assoc]
    rfl
  · obtain ⟨n, mid, hread, hpure⟩ := Reader.bind_eq_ok_iff.mp h
    obtain ⟨-, rfl⟩ := Reader.pure_eq_ok_iff.mp hpure
    obtain ⟨v, hv, hs⟩ := Numeral.read_sound hread
    exact ⟨v, .inr (.inl ⟨n, hv⟩), hs⟩
  · cases h

theorem IsLeaf.isValue {v : Bytes} (h : IsLeaf v) : IsValue v := by
  rcases h with h | ⟨n, h⟩ | h
  · exact .word h
  · exact .number h
  · exact .literal h

theorem IsLeaf.cons {v : Bytes} (h : IsLeaf v) :
    ∃ b octets, v = b :: octets ∧ isBlank b = false ∧ b ≠ 91 ∧ b ≠ 123 := by
  rcases h with h | ⟨n, h⟩ | ⟨body, -, rfl⟩
  · simp only [words, List.mem_cons, List.not_mem_nil, or_false] at h
    rcases h with rfl | rfl | rfl
    all_goals exact ⟨_, _, rfl, by decide, by decide, by decide⟩
  · obtain ⟨b, octets, rfl, hstarts⟩ := h.cons
    refine ⟨b, octets, rfl,
      not_isBlank_of_not_isDelimiter (not_isDelimiter_of_startsNumber hstarts), ?_, ?_⟩
    · rintro rfl
      revert hstarts
      decide
    · rintro rfl
      revert hstarts
      decide
  · exact ⟨_, _, rfl, by decide, by decide, by decide⟩

theorem marks_of_startsNumber {b : UInt8} (h : startsNumber b = true) :
    b ≠ 110 ∧ b ≠ 116 ∧ b ≠ 102 ∧ b ≠ quotationMark :=
  Bytes.forall_octet
    (p := fun b => startsNumber b = true → b ≠ 110 ∧ b ≠ 116 ∧ b ≠ 102 ∧ b ≠ quotationMark)
    (by decide +kernel) b h

theorem skipLeaf_run {b : UInt8} {octets rest : Bytes} (h : IsLeaf (b :: octets))
    (hrest : Delimited rest) : skipLeaf b (b :: (octets ++ rest)) = .ok ((), rest) := by
  rcases h with h | ⟨n, h⟩ | ⟨body, hbody, h⟩
  · have hword {tail : Bytes} : keyword tail (tail ++ rest) = .ok ((), rest) :=
      keyword_eq_ok_iff.mpr rfl
    simp only [words, List.mem_cons, List.not_mem_nil, or_false, List.cons.injEq] at h
    rcases h with ⟨rfl, rfl⟩ | ⟨rfl, rfl⟩ | ⟨rfl, rfl⟩
    all_goals exact hword
  · have hread : Numeral.read .invalidNumber (b :: octets ++ rest) = .ok (n, rest) := h.read hrest
    obtain ⟨c, digits, hc, hstarts⟩ := h.cons
    obtain ⟨rfl, rfl⟩ := List.cons.inj hc
    obtain ⟨hnull, htrue, hfalse, hmark⟩ := marks_of_startsNumber hstarts
    rw [skipLeaf, if_neg hnull, if_neg htrue, if_neg hfalse, if_neg hmark, if_pos hstarts]
    exact Reader.bind_run hread
  · obtain ⟨rfl, rfl⟩ := List.cons.inj h
    rw [List.append_assoc]
    exact skipText_eq_ok_iff.mpr ⟨body, hbody, rfl⟩

/-! ### Open brackets -/

/-- What closes the open brackets: the rest of each, from behind an item. -/
inductive Closes : List Bracket → Bytes → Prop where
  | nil : Closes [] []
  | cons {bracket : Bracket} {inside : List Bracket} {s t : Bytes}
      (inner : IsPart (.inside bracket false) s) (outer : Closes inside t) :
      Closes (bracket :: inside) (s ++ t)

inductive Remains : SkipState → Bytes → Prop where
  | before {inside : List Bracket} {w v t : Bytes} (hw : Blanks w) (hv : IsValue v)
      (h : Closes inside t) : Remains (.before inside) (w ++ (v ++ t))
  | behind {inside : List Bracket} {t : Bytes} (h : Closes inside t) : Remains (.behind inside) t

theorem Label.blanks {bracket : Bracket} {label u w : Bytes} (h : Label bracket label)
    (hu : Blanks u) (hw : Blanks w) :
    ∃ label' w', Label bracket label' ∧ Blanks w' ∧ u ++ (label ++ w) = label' ++ w' := by
  cases h with
  | element => exact ⟨[], u ++ w, .element, hu.append hw, rfl⟩
  | @member x name y hx hname hy =>
    refine ⟨_, w, .member (hu.append hx) hname hy, hw, ?_⟩
    simp only [List.append_assoc]

/-- If what is behind an opening bracket and its first item can be gone through to the end, so can
the bracket.  The hypothesis speaks of what remains after the step, since the proof goes backwards
along the loop. -/
theorem openBracket_sound {bracket : Bracket} {inside : List Bracket} {state : SkipState}
    {b : UInt8} {s t rest : Bytes}
    (h : openBracket bracket inside (b :: s) = .ok (state, t ++ rest)) (ht : Remains state t) :
    ∃ v outer, IsPart (.inside bracket true) v ∧ Closes inside outer ∧
      s = v ++ (outer ++ rest) := by
  rw [openBracket, Reader.bind_run (Reader.advance_cons b s)] at h
  obtain ⟨w, mid, hw, -, rfl, hread⟩ := Reader.next_bind_eq_ok_iff.mp h
  cases mid with
  | nil => cases hread
  | cons c mid =>
    simp only [List.head?_cons] at hread
    split_ifs at hread with hc
    · subst hc
      rw [Reader.bind_run (Reader.advance_cons _ mid)] at hread
      obtain ⟨rfl, rfl⟩ := Reader.pure_eq_ok_iff.mp hread
      cases ht with
      | behind hcloses =>
        refine ⟨_, t, .close hw, hcloses, ?_⟩
        rw [List.append_assoc]
        rfl
    · obtain ⟨_, after, hname, hpure⟩ := Reader.bind_eq_ok_iff.mp hread
      obtain ⟨rfl, rfl⟩ := Reader.pure_eq_ok_iff.mp hpure
      obtain ⟨label, hlabel, hmid⟩ := skipName_eq_ok_iff.mp hname
      cases ht with
      | @before _ u v _ hu hv hcloses =>
        cases hcloses with
        | @cons _ _ inner outer hinner houter =>
          obtain ⟨label', w', hlabel', hw', hsame⟩ := hlabel.blanks hw hu
          refine ⟨_, outer, .item .first hlabel' hw' hv hinner, houter, ?_⟩
          have hsame := congrArg (· ++ (v ++ (inner ++ (outer ++ rest)))) hsame
          simp only [List.append_assoc] at hsame hmid ⊢
          rw [hmid, hsame]
          rfl

theorem skipOne_sound {inside : List Bracket} {state : SkipState} {s t rest : Bytes}
    (h : skipOne inside s = .ok (state, t ++ rest)) (ht : Remains state t) :
    ∃ front, Remains (.before inside) front ∧ s = front ++ rest := by
  obtain ⟨w, mid, hw, hfirst, rfl, hread⟩ := Reader.next_bind_eq_ok_iff.mp h
  cases mid with
  | nil => cases hread
  | cons b mid =>
    by_cases hb : ∃ bracket : Bracket, b = bracket.opening
    · obtain ⟨bracket, rfl⟩ := hb
      have hopen : openBracket bracket inside (bracket.opening :: mid) =
          .ok (state, t ++ rest) := by
        cases bracket with
        | array => exact hread
        | object => exact hread
      obtain ⟨v, outer, hv, houter, rfl⟩ := openBracket_sound hopen ht
      refine ⟨_, .before hw (.bracket bracket hv) houter, ?_⟩
      simp only [List.append_assoc, List.cons_append]
    · simp only [not_exists] at hb
      have hleaf : skipOne inside (b :: mid) = .ok (state, t ++ rest) := by
        rw [← h]
        exact (Reader.next_bind_append hw (b :: mid)).symm
      rw [skipOne_cons (hfirst b rfl) (hb .array) (hb .object)] at hleaf
      obtain ⟨_, after, hskip, hpure⟩ := Reader.bind_eq_ok_iff.mp hleaf
      obtain ⟨rfl, rfl⟩ := Reader.pure_eq_ok_iff.mp hpure
      obtain ⟨v, hv, hsame⟩ := skipLeaf_sound hskip
      cases ht with
      | behind hcloses =>
        refine ⟨_, .before hw hv.isValue hcloses, ?_⟩
        rw [hsame]
        simp only [List.append_assoc]

/-- One step backwards: if what remains after a step is `t`, then before it there was some front,
which together with `t` remained. -/
theorem skipStep_sound {state next : SkipState} {s t rest : Bytes}
    (h : skipStep state s = .ok (.inl next, t ++ rest)) (ht : Remains next t) :
    ∃ front, Remains state front ∧ s = front ++ rest := by
  cases state with
  | before inside =>
    obtain ⟨found, hone, hnext⟩ := Reader.map_eq_ok_iff.mp h
    obtain rfl := Sum.inl.inj hnext
    exact skipOne_sound hone ht
  | behind inside =>
    cases inside with
    | nil => cases h
    | cons bracket inside =>
      obtain ⟨w, mid, hw, -, rfl, hread⟩ := Reader.next_bind_eq_ok_iff.mp h
      cases mid with
      | nil => cases hread
      | cons b mid =>
        simp only [List.head?_cons] at hread
        split_ifs at hread with hcomma hclosing
        · rw [Reader.bind_run (Reader.advance_cons b mid)] at hread
          obtain ⟨_, after, hname, hpure⟩ := Reader.bind_eq_ok_iff.mp hread
          obtain ⟨hnext, rfl⟩ := Reader.pure_eq_ok_iff.mp hpure
          obtain rfl := Sum.inl.inj hnext
          obtain ⟨label, hlabel, rfl⟩ := skipName_eq_ok_iff.mp hname
          cases ht with
          | @before _ u v _ hu hv hcloses =>
            cases hcloses with
            | @cons _ _ inner outer hinner houter =>
              refine ⟨_, .behind (.cons (.item (.later hw) hlabel hu hv hinner) houter), ?_⟩
              simp only [List.append_assoc, List.cons_append, List.nil_append, hcomma]
        · rw [Reader.bind_run (Reader.advance_cons b mid)] at hread
          obtain ⟨hnext, rfl⟩ := Reader.pure_eq_ok_iff.mp hread
          obtain rfl := Sum.inl.inj hnext
          cases ht with
          | behind hcloses =>
            refine ⟨_, .behind (.cons (.close hw) hcloses), ?_⟩
            simp only [List.append_assoc, List.cons_append, List.nil_append, hclosing]
        · cases hread

theorem eq_of_skipStep_done {state : SkipState} {s rest : Bytes}
    (h : skipStep state s = .ok (.inr (), rest)) : state = .behind [] ∧ s = rest := by
  cases state with
  | before inside =>
    obtain ⟨found, -, hdone⟩ := Reader.map_eq_ok_iff.mp h
    cases hdone
  | behind inside =>
    cases inside with
    | nil => exact ⟨rfl, (Reader.pure_eq_ok_iff.mp h).2⟩
    | cons bracket inside =>
      obtain ⟨w, mid, -, -, rfl, hread⟩ := Reader.next_bind_eq_ok_iff.mp h
      cases mid with
      | nil => cases hread
      | cons b mid =>
        simp only [List.head?_cons] at hread
        split_ifs at hread
        · obtain ⟨_, after, -, hpure⟩ := Reader.bind_eq_ok_iff.mp hread
          obtain ⟨_, last, -, hlast⟩ := Reader.bind_eq_ok_iff.mp hpure
          cases hlast
        · obtain ⟨_, after, -, hpure⟩ := Reader.bind_eq_ok_iff.mp hread
          cases hpure
        · cases hread

/-- The loop has ended behind a value, so what it was asked to run through is a value.  The
induction is along the steps, from the last one to the first. -/
theorem iterate_sound {state : SkipState} {s rest : Bytes}
    (h : Reader.iterate skipStep state s = .ok ((), rest)) :
    ∃ t, Remains state t ∧ s = t ++ rest := by
  fun_induction Reader.iterate skipStep state s with
  | case1 x s fault hfault => cases h
  | case2 x s result after hdone =>
    obtain ⟨rfl, rfl⟩ := Prod.mk.inj (Except.ok.inj h)
    obtain ⟨rfl, rfl⟩ := eq_of_skipStep_done hdone
    exact ⟨[], .behind .nil, rfl⟩
  | case3 x s y after hagain hshorter ih =>
    obtain ⟨t, ht, rfl⟩ := ih h
    exact skipStep_sound hagain ht
  | case4 x s y after hagain hnot => cases h

/-! ### What is written is run through -/

theorem IsPart.delimited {bracket : Bracket} {t : Bytes} (h : IsPart (.inside bracket false) t)
    (rest : Bytes) : Delimited (t ++ rest) := by
  cases h with
  | close hw =>
    rw [List.append_assoc]
    apply hw.delimited
    cases bracket with
    | array => exact delimited_cons (by decide) rest
    | object => exact delimited_cons (by decide) rest
  | item hlead hlabel hw hv hothers =>
    cases hlead with
    | later hblanks =>
      simp only [List.append_assoc]
      exact hblanks.delimited (delimited_cons (by decide) _)

/-- Running through a part of a value leads to behind it. -/
def Runs : Part → Bytes → Prop
  | .value, v => ∀ inside w rest, Blanks w → Delimited rest →
      Reader.iterate skipStep (.before inside) (w ++ (v ++ rest)) =
        Reader.iterate skipStep (.behind inside) rest
  | .inside bracket false, t => ∀ inside rest,
      Reader.iterate skipStep (.behind (bracket :: inside)) (t ++ rest) =
        Reader.iterate skipStep (.behind inside) rest
  | .inside bracket true, t => ∀ inside w rest, Blanks w →
      Reader.iterate skipStep (.before inside) (w ++ (bracket.opening :: (t ++ rest))) =
        Reader.iterate skipStep (.behind inside) rest

theorem skipOne_append {inside : List Bracket} {w : Bytes} (hw : Blanks w) (s : Bytes) :
    skipOne inside (w ++ s) = skipOne inside s :=
  Reader.next_bind_append hw s

theorem skipOne_opening (bracket : Bracket) (inside : List Bracket) (s : Bytes) :
    skipOne inside (bracket.opening :: s) = openBracket bracket inside (bracket.opening :: s) := by
  cases bracket with
  | array => exact Reader.next_bind_cons (by decide) s
  | object => exact Reader.next_bind_cons (by decide) s

theorem isBlank_closing (bracket : Bracket) : isBlank bracket.closing = false := by
  cases bracket with
  | array => decide
  | object => decide

theorem runs_leaf {v : Bytes} (h : IsLeaf v) : Runs .value v := by
  intro inside w rest hw hrest
  obtain ⟨b, octets, rfl, hb, harray, hobject⟩ := h.cons
  have hone : skipOne inside (w ++ (b :: octets ++ rest)) = .ok (.behind inside, rest) := by
    rw [skipOne_append hw, List.cons_append, skipOne_cons hb harray hobject,
      Reader.bind_run (skipLeaf_run h hrest)]
    rfl
  apply Reader.iterate_again (Reader.map_run hone)
  simp only [List.length_append, List.length_cons]
  omega

theorem runs_close {bracket : Bracket} {isFirst : Bool} {w : Bytes} (hw : Blanks w) :
    Runs (.inside bracket isFirst) (w ++ [bracket.closing]) := by
  have hblank := isBlank_closing bracket
  cases isFirst with
  | false =>
    intro inside rest
    rw [List.append_assoc, List.singleton_append]
    have hstep : skipStep (.behind (bracket :: inside)) (w ++ bracket.closing :: rest) =
        .ok (.inl (.behind inside), rest) := by
      have hcomma : bracket.closing ≠ 44 := by
        cases bracket with
        | array => decide
        | object => decide
      rw [skipStep, Reader.next_bind_append hw, Reader.next_bind_cons hblank]
      simp only [if_neg hcomma, if_true]
      rw [Reader.bind_run (Reader.advance_cons _ _)]
      rfl
    apply Reader.iterate_again hstep
    simp only [List.length_append, List.length_cons]
    omega
  | true =>
    intro inside u rest hu
    rw [List.append_assoc, List.singleton_append]
    have hopen : openBracket bracket inside (bracket.opening :: (w ++ bracket.closing :: rest)) =
        .ok (.behind inside, rest) := by
      rw [openBracket, Reader.bind_run (Reader.advance_cons _ _), Reader.next_bind_append hw,
        Reader.next_bind_cons hblank]
      simp only [if_true]
      rw [Reader.bind_run (Reader.advance_cons _ _)]
      rfl
    rw [← skipOne_opening, ← skipOne_append hu] at hopen
    apply Reader.iterate_again (Reader.map_run hopen)
    simp only [List.length_append, List.length_cons]
    omega

/-- An opened bracket is gone through up to the value of its first item.  In an object this takes
the name and the colon as well. -/
theorem openBracket_item {bracket : Bracket} {label w v : Bytes} (hlabel : Label bracket label)
    (hw : Blanks w) (hv : IsValue v) (inside : List Bracket) (b : UInt8) (rest : Bytes) :
    ∃ u, Blanks u ∧ u.length ≤ w.length ∧
      openBracket bracket inside (b :: (label ++ (w ++ (v ++ rest)))) =
        .ok (.before (bracket :: inside), u ++ (v ++ rest)) := by
  cases hlabel with
  | element =>
    obtain ⟨c, octets, rfl, hc⟩ := hv.cons
    have hclosing : c ≠ Bracket.array.closing := by
      rintro rfl
      revert hc
      decide
    refine ⟨[], blanks_nil, Nat.zero_le _, ?_⟩
    rw [openBracket, Reader.bind_run (Reader.advance_cons _ _), List.nil_append,
      Reader.next_bind_append hw, List.cons_append,
      Reader.next_bind_cons (not_isBlank_of_not_isDelimiter hc)]
    simp only [if_neg hclosing]
    rfl
  | @member x name y hx hname hy =>
    have hlabel : skipName .object (name ++ (y ++ [58]) ++ (w ++ (v ++ rest))) =
        .ok ((), w ++ (v ++ rest)) :=
      skipName_eq_ok_iff.mpr ⟨_, .member blanks_nil hname hy, rfl⟩
    obtain ⟨body, -, rfl⟩ := hname
    refine ⟨w, hw, le_refl _, ?_⟩
    rw [openBracket, Reader.bind_run (Reader.advance_cons _ _), List.append_assoc,
      Reader.next_bind_append hx]
    rw [List.cons_append, List.cons_append] at hlabel ⊢
    rw [Reader.next_bind_cons (by decide)]
    simp only [if_neg (show quotationMark ≠ Bracket.object.closing by decide)]
    rw [Reader.bind_run hlabel]
    rfl

/-- From before an item to behind the rest of its bracket, if running through the value of the item
and through the others is known. -/
theorem runs_item {bracket : Bracket} {isFirst : Bool} {lead label w v t : Bytes}
    (hlead : Lead isFirst lead) (hlabel : Label bracket label) (hw : Blanks w) (hv : IsValue v)
    (ht : IsPart (.inside bracket false) t) (value : Runs .value v)
    (others : Runs (.inside bracket false) t) :
    Runs (.inside bracket isFirst) (lead ++ (label ++ (w ++ (v ++ t)))) := by
  cases hlead with
  | first =>
    intro inside x rest hx
    obtain ⟨u, hu, hshorter, hopen⟩ :=
      openBracket_item hlabel hw hv inside bracket.opening (t ++ rest)
    rw [← skipOne_opening, ← skipOne_append hx] at hopen
    simp only [List.nil_append, List.append_assoc]
    rw [Reader.iterate_again (Reader.map_run hopen), value _ u _ hu (ht.delimited rest), others]
    simp only [List.length_append, List.length_cons]
    omega
  | @later x hx =>
    intro inside rest
    have hstep (s : Bytes) : skipStep (.behind (bracket :: inside)) (x ++ 44 :: (label ++ s)) =
        .ok (.inl (.before (bracket :: inside)), s) := by
      have hname : skipName bracket (label ++ s) = .ok ((), s) :=
        skipName_eq_ok_iff.mpr ⟨label, hlabel, rfl⟩
      rw [skipStep, Reader.next_bind_append hx, Reader.next_bind_cons (by decide)]
      simp only [if_true]
      rw [Reader.bind_run (Reader.advance_cons _ _), Reader.bind_run hname]
      rfl
    simp only [List.append_assoc, List.cons_append, List.nil_append]
    rw [Reader.iterate_again (hstep _), value _ w _ hw (ht.delimited rest), others]
    simp only [List.length_append, List.length_cons]
    omega

/-- Everything that the grammar calls a part of a value can be run through.  The induction is on the
grammar, and the stack of open brackets is arbitrary at each node. -/
theorem IsPart.runs {part : Part} {s : Bytes} (h : IsPart part s) : Runs part s := by
  induction h with
  | word h => exact runs_leaf (.inl h)
  | number h => exact runs_leaf (.inr (.inl ⟨_, h⟩))
  | literal h => exact runs_leaf (.inr (.inr h))
  | bracket bracket inside ih =>
    intro open_ w rest hw hrest
    exact ih open_ w rest hw
  | close hw => exact runs_close hw
  | item hlead hlabel hw value others hvalue hothers =>
    exact runs_item hlead hlabel hw value others hvalue hothers

/-- **Any value can be passed over, and only a value can.** The loop keeps a stack instead of
calling itself, so that depth does not matter to it; the grammar has the nesting. -/
theorem recognizes_skipValue : Recognizes skipValue fun _ => IsValue where
  isValue h := h
  sound := by
    intro _ s rest h
    obtain ⟨t, ht, rfl⟩ := iterate_sound h
    cases ht with
    | before hw hv hcloses =>
      cases hcloses
      refine ⟨_, _, hw, hv, ?_⟩
      simp only [List.append_assoc, List.append_nil]
  complete := by
    intro _ w v rest hw hv hrest
    exact (hv.runs [] w rest hw hrest).trans (Reader.iterate_done rfl)

end ClusterLicense.Json
