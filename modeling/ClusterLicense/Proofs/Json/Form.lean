/-
  ClusterLicense/Proofs/Json/Form.lean
  ====================================
  **What a form is filled in from.**

  A form is filled in from the members of an object, in any order, or from the
  elements of an array, in the order of its fields (`Form.Writes`).  One step of the
  reader takes one member and changes the draft as the member says (`Form.Takes`);
  so its loop takes members that fill the draft one after the other, and all of them
  (`Form.Fills`).  What the fields themselves are written with is a parameter: it is
  enough that each reader of a field recognises it (`Form.Speaks`).

  The main statement, `Form.read_eq_ok_iff`, leaves open what follows, as a form ends
  with its bracket.
-/
import ClusterLicense.Json.Form
import ClusterLicense.Proofs.Json.Skipping
import ClusterLicense.Proofs.Json.Value

namespace ClusterLicense.Json

namespace Form

variable {δ α : Type} {form : Form δ α} {language : String → (δ → δ) → Bytes → Prop}

/-! ### Names -/

def nameAt : Option UInt8 → Reader (Option String)
  | some 34 => do
    Reader.advance
    some <$> textAfterMark
  | some 125 => Reader.failNext .trailingComma
  | some _ => Reader.failNext .keyNotString
  | none => Reader.failNext .endInValue

/-- The two places where a name is read, the first member and a later one, differ in the comma
alone; what they share has a name of its own here. -/
theorem memberName?_eq (isFirst : Bool) : memberName? isFirst = (do
    match ← Reader.next with
    | none => Reader.failNext .endInObject
    | some 125 => return none
    | some b =>
      if isFirst then nameAt (some b)
      else if b = 44 then
        Reader.advance
        nameAt (← Reader.next)
      else Reader.failNext .expectedCommaOrBrace) := rfl

theorem nameAt_eq_ok_iff {name? : Option String} {s rest : Bytes} :
    nameAt s.head? s = .ok (name?, rest) ↔
      ∃ name q, name? = some name ∧ Quotes name q ∧ s = q ++ rest := by
  constructor
  · intro h
    unfold nameAt at h
    generalize hfirst : s.head? = first at h
    split at h
    · obtain ⟨s, rfl⟩ := List.head?_eq_some_iff.mp hfirst
      rw [Reader.bind_run (Reader.advance_cons 34 s)] at h
      obtain ⟨name, hname, rfl⟩ := Reader.map_eq_ok_iff.mp h
      obtain ⟨q, hq, hs⟩ := exists_quotes hname
      exact ⟨name, q, rfl, hq, hs⟩
    all_goals cases h
  · rintro ⟨name, q, rfl, hq, rfl⟩
    obtain ⟨octets, hoctets, hread⟩ := quotes_append hq rest
    rw [hoctets]
    exact Reader.map_run hread

/-- Looking for a name finds the closing brace, in front of which there are only blanks, or a string
behind blanks and the comma that sets it off from the member before. -/
theorem memberName?_sound {isFirst : Bool} {name? : Option String} {s rest : Bytes}
    (h : memberName? isFirst s = .ok (name?, rest)) :
    (name? = none ∧ ∃ w tail, Blanks w ∧ rest = 125 :: tail ∧ s = w ++ rest) ∨
      ∃ name lead w q, name? = some name ∧ Lead isFirst lead ∧ Blanks w ∧ Quotes name q ∧
        s = lead ++ (w ++ (q ++ rest)) := by
  rw [memberName?_eq] at h
  obtain ⟨w, mid, hw, -, rfl, hread⟩ := Reader.next_bind_eq_ok_iff.mp h
  generalize hfirst : mid.head? = first at hread
  split at hread
  · cases hread
  · obtain ⟨tail, rfl⟩ := List.head?_eq_some_iff.mp hfirst
    obtain ⟨rfl, rfl⟩ := Reader.pure_eq_ok_iff.mp hread
    exact .inl ⟨rfl, w, tail, hw, rfl, rfl⟩
  · rename_i b _
    split_ifs at hread with hisFirst hcomma
    · rw [← hfirst] at hread
      obtain ⟨name, q, rfl, hq, rfl⟩ := nameAt_eq_ok_iff.mp hread
      refine .inr ⟨name, [], w, q, rfl, ?_, hw, hq, rfl⟩
      rw [hisFirst]
      exact .first
    · obtain ⟨mid, rfl⟩ := List.head?_eq_some_iff.mp hfirst
      rw [Reader.bind_run (Reader.advance_cons b mid)] at hread
      obtain ⟨u, mid, hu, -, rfl, hname⟩ := Reader.next_bind_eq_ok_iff.mp hread
      obtain ⟨name, q, rfl, hq, rfl⟩ := nameAt_eq_ok_iff.mp hname
      refine .inr ⟨name, w ++ [44], u, q, rfl, ?_, hu, hq, ?_⟩
      · rw [Bool.eq_false_iff.mpr hisFirst]
        exact .later hw
      · rw [hcomma, List.append_assoc]
        rfl
    · cases hread

theorem memberName?_closing {isFirst : Bool} {w : Bytes} (hw : Blanks w) (tail : Bytes) :
    memberName? isFirst (w ++ 125 :: tail) = .ok (none, 125 :: tail) := by
  rw [memberName?_eq, Reader.next_bind_append hw, Reader.next_bind_cons (by decide)]
  rfl

theorem memberName?_quotes {isFirst : Bool} {lead w q : Bytes} {name : String}
    (hlead : Lead isFirst lead) (hw : Blanks w) (hq : Quotes name q) (rest : Bytes) :
    memberName? isFirst (lead ++ (w ++ (q ++ rest))) = .ok (some name, rest) := by
  have hread : nameAt (q ++ rest).head? (q ++ rest) = .ok (some name, rest) :=
    nameAt_eq_ok_iff.mpr ⟨name, q, rfl, hq, rfl⟩
  obtain ⟨octets, hoctets, -⟩ := quotes_append hq rest
  rw [hoctets] at hread ⊢
  cases hlead with
  | first =>
    rw [List.nil_append, memberName?_eq, Reader.next_bind_append hw,
      Reader.next_bind_cons (by decide)]
    exact hread
  | later hblanks =>
    rw [List.append_assoc, memberName?_eq, Reader.next_bind_append hblanks, List.singleton_append,
      Reader.next_bind_cons (by decide)]
    show (Reader.advance >>= fun _ => Reader.next >>= nameAt) _ = _
    rw [Reader.bind_run (Reader.advance_cons _ _), Reader.next_bind_append hw,
      Reader.next_bind_cons (by decide)]
    exact hread

/-! ### Members -/

/-- A member that changes a draft, and the draft that it leads to: either it is the value of a
field that is still missing, or nobody asked for it. -/
inductive Takes (form : Form δ α) (language : String → (δ → δ) → Bytes → Prop) :
    δ → String × Bytes → δ → Prop where
  | field {draft : δ} {name : String} {v : Bytes} {field : Field δ} {fill : δ → δ}
      (found : form.fields.find? (·.name == name) = some field)
      (isMissing : field.isFilled draft = false) (value : language name fill v) :
      Takes form language draft (name, v) (fill draft)
  | other {draft : δ} {name : String} {v : Bytes}
      (unknown : form.fields.find? (·.name == name) = none)
      (isAllowed : form.refusesOthers = false) (value : IsValue v) :
      Takes form language draft (name, v) draft

inductive Fills (form : Form δ α) (language : String → (δ → δ) → Bytes → Prop) :
    δ → List (String × Bytes) → δ → Prop where
  | nil (draft : δ) : Fills form language draft [] draft
  | cons {draft mid result : δ} {member : String × Bytes} {members : List (String × Bytes)}
      (first : form.Takes language draft member mid)
      (others : Fills form language mid members result) :
      Fills form language draft (member :: members) result

/-- Elements that change a draft in the order of fields; those that are left out at the end leave
something in the draft. -/
inductive FillsInOrder (language : String → (δ → δ) → Bytes → Prop) :
    List (Field δ) → δ → List Bytes → δ → Prop where
  | nil (draft : δ) : FillsInOrder language [] draft [] draft
  | value {field : Field δ} {fields : List (Field δ)} {draft result : δ} {fill : δ → δ} {v : Bytes}
      {vs : List Bytes} (first : language field.name fill v)
      (others : FillsInOrder language fields (fill draft) vs result) :
      FillsInOrder language (field :: fields) draft (v :: vs) result
  | absent {field : Field δ} {fields : List (Field δ)} {draft result : δ} {fill : δ → δ}
      (leaves : field.absent = some fill)
      (others : FillsInOrder language fields (fill draft) [] result) :
      FillsInOrder language (field :: fields) draft [] result

/-- The values that a form is filled in from: an object, or an array in the order of the fields. -/
inductive Writes (form : Form δ α) (language : String → (δ → δ) → Bytes → Prop) (a : α) :
    Bytes → Prop where
  | object {members : List (String × Bytes)} {draft : δ} {v : Bytes} (hv : IsObject members v)
      (hfills : form.Fills language form.blank members draft)
      (hfinish : form.finish draft = .ok a) : Writes form language a v
  | array {elements : List Bytes} {draft : δ} {v : Bytes} (hv : IsArray elements v)
      (hfills : FillsInOrder language form.fields form.blank elements draft)
      (hfinish : form.finish draft = .ok a) : Writes form language a v

def Speaks (form : Form δ α) (language : String → (δ → δ) → Bytes → Prop) : Prop :=
  ∀ field ∈ form.fields, Recognizes field.read (language field.name)

theorem name_of_find? {name : String} {field : Field δ}
    (h : form.fields.find? (·.name == name) = some field) : field.name = name := by
  have hname := List.find?_some h
  exact beq_iff_eq.mp hname

/-- A step that goes on has read one member, and what it makes of the member is what the form takes
it for.  Blanks in front belong to the lead of the member. -/
theorem memberStep_sound (hspeaks : form.Speaks language) {isFirst : Bool} {draft : δ}
    {state : Bool × δ} {s rest : Bytes}
    (h : form.memberStep (isFirst, draft) s = .ok (.inl state, rest)) :
    state.1 = false ∧ ∃ lead item member, Lead isFirst lead ∧ IsMember member item ∧
      form.Takes language draft member state.2 ∧ s = lead ++ (item ++ rest) := by
  obtain ⟨name?, mid, hname, hread⟩ := Reader.bind_eq_ok_iff.mp h
  cases name? with
  | none => cases hread
  | some name =>
    obtain ⟨hnone, -⟩ | ⟨_, lead, w, q, hsome, hlead, hw, hq, rfl⟩ := memberName?_sound hname
    · cases hnone
    obtain rfl := Option.some.inj hsome
    simp only at hread
    cases hfound : form.fields.find? (·.name == name) with
    | some field =>
      rw [hfound] at hread
      simp only at hread
      split_ifs at hread with hfilled
      · cases hread
      have hrecognizes := hspeaks field (List.mem_of_find?_eq_some hfound)
      obtain ⟨u, x, v, hu, hx, ⟨fill, hv, hstate⟩, rfl⟩ :=
        (hrecognizes.bind_pure _).sound_colon hread
      obtain rfl := Sum.inl.inj hstate
      have hvalue := hrecognizes.isValue hv
      refine ⟨rfl, lead, _, (name, v), hlead, .intro hw hq hu hx hvalue, ?_, ?_⟩
      · rw [name_of_find? hfound] at hv
        exact .field hfound (Bool.eq_false_iff.mpr hfilled) hv
      · simp only [List.append_assoc, List.cons_append]
    | none =>
      rw [hfound] at hread
      simp only at hread
      split_ifs at hread with hrefuses
      · cases hread
      obtain ⟨u, x, v, hu, hx, ⟨_, hv, hstate⟩, rfl⟩ :=
        (recognizes_skipValue.bind_pure _).sound_colon hread
      obtain rfl := Sum.inl.inj hstate
      refine ⟨rfl, lead, _, (name, v), hlead, .intro hw hq hu hx hv, ?_, ?_⟩
      · exact .other hfound (Bool.eq_false_iff.mpr hrefuses) hv
      · simp only [List.append_assoc, List.cons_append]

/-- The other way round, a member that the form takes is read in one step, if what follows it may
follow a value. -/
theorem memberStep_run (hspeaks : form.Speaks language) {isFirst : Bool} {draft mid : δ}
    {lead item : Bytes} {member : String × Bytes} (hlead : Lead isFirst lead)
    (hitem : IsMember member item) (htakes : form.Takes language draft member mid) {rest : Bytes}
    (hrest : Delimited rest) :
    form.memberStep (isFirst, draft) (lead ++ (item ++ rest)) = .ok (.inl (false, mid), rest) := by
  cases hitem with
  | intro hw hq hu hx hvalue =>
    simp only [List.append_assoc, List.cons_append]
    rw [memberStep, Reader.bind_run (memberName?_quotes hlead hw hq _)]
    cases htakes with
    | field hfound hmissing hv =>
      rw [← name_of_find? hfound] at hv
      have hrecognizes := hspeaks _ (List.mem_of_find?_eq_some hfound)
      simp only [hfound, hmissing, Bool.false_eq_true, if_false]
      exact (hrecognizes.bind_pure _).complete_colon hu hx ⟨_, hv, rfl⟩ hrest
    | other hunknown hallowed =>
      simp only [hunknown, hallowed, Bool.false_eq_true, if_false]
      exact (recognizes_skipValue.bind_pure _).complete_colon hu hx ⟨(), hvalue, rfl⟩ hrest

theorem memberStep_done {isFirst : Bool} {draft result : δ} {s rest : Bytes}
    (h : form.memberStep (isFirst, draft) s = .ok (.inr (.ok result), rest)) :
    draft = result ∧ ∃ w tail, Blanks w ∧ rest = 125 :: tail ∧ s = w ++ rest := by
  obtain ⟨name?, mid, hname, hread⟩ := Reader.bind_eq_ok_iff.mp h
  obtain ⟨rfl, hclosing⟩ | ⟨name, -, -, -, rfl, -⟩ := memberName?_sound hname
  · obtain ⟨hdraft, rfl⟩ := Reader.pure_eq_ok_iff.mp hread
    exact ⟨Except.ok.inj (Sum.inr.inj hdraft), hclosing⟩
  · -- A name is only followed by a result if there is something wrong with it.
    exfalso
    simp only at hread
    cases hfound : form.fields.find? (·.name == name) with
    | some field =>
      rw [hfound] at hread
      simp only at hread
      split_ifs at hread
      · cases hread
      · obtain ⟨_, after, -, hvalue⟩ := Reader.bind_eq_ok_iff.mp hread
        obtain ⟨fill, last, -, hpure⟩ := Reader.bind_eq_ok_iff.mp hvalue
        cases hpure
    | none =>
      rw [hfound] at hread
      simp only at hread
      split_ifs at hread
      · cases hread
      · obtain ⟨_, after, -, hvalue⟩ := Reader.bind_eq_ok_iff.mp hread
        obtain ⟨_, last, -, hpure⟩ := Reader.bind_eq_ok_iff.mp hvalue
        cases hpure

/-- The members that the loop has read, up to the closing brace, fill the draft.  The induction is
along the loop, with the shorter rest that every step has to leave. -/
theorem iterate_memberStep_sound (hspeaks : form.Speaks language) {state : Bool × δ} {result : δ}
    {s rest : Bytes} (h : Reader.iterate form.memberStep state s = .ok (.ok result, rest)) :
    ∃ members t tail, Items IsMember 125 state.1 members t ∧
      form.Fills language state.2 members result ∧ rest = 125 :: tail ∧ s = t ++ tail := by
  fun_induction Reader.iterate form.memberStep state s with
  | case1 state s fault hfault => cases h
  | case2 state s found after hdone =>
    obtain ⟨rfl, rfl⟩ := Prod.mk.inj (Except.ok.inj h)
    obtain ⟨rfl, w, tail, hw, rfl, rfl⟩ := memberStep_done hdone
    refine ⟨[], _, tail, .close hw, .nil _, rfl, ?_⟩
    rw [List.append_assoc]
    rfl
  | case3 state s next after hagain hshorter ih =>
    obtain ⟨members, t, tail, ht, hfills, rfl, rfl⟩ := ih h
    obtain ⟨hlater, lead, item, member, hlead, hitem, htakes, rfl⟩ :=
      memberStep_sound hspeaks hagain
    rw [hlater] at ht
    refine ⟨_, _, tail, .item hlead hitem ht, .cons htakes hfills, rfl, ?_⟩
    simp only [List.append_assoc]
  | case4 state s next after hagain hnot => cases h

theorem delimited_items {ι : Type} {item : ι → Bytes → Prop} {closing : UInt8} {items : List ι}
    {t : Bytes} (hclosing : isDelimiter closing = true) (h : Items item closing false items t)
    (rest : Bytes) : Delimited (t ++ rest) := by
  cases h with
  | close hw =>
    rw [List.append_assoc]
    exact hw.delimited (delimited_cons hclosing rest)
  | item hlead first others =>
    cases hlead with
    | later hw =>
      simp only [List.append_assoc]
      exact hw.delimited (delimited_cons (by decide) _)

/-- Members that fill the draft are read in full, whatever follows the closing brace.  The induction
is on the members, so a step is known to leave what the rest of them is written with. -/
theorem iterate_memberStep_run (hspeaks : form.Speaks language) {isFirst : Bool}
    {draft result : δ} {members : List (String × Bytes)} {t : Bytes}
    (ht : Items IsMember 125 isFirst members t)
    (hfills : form.Fills language draft members result) (tail : Bytes) :
    Reader.iterate form.memberStep (isFirst, draft) (t ++ tail) =
      .ok (.ok result, 125 :: tail) := by
  induction ht generalizing draft with
  | @close isFirst w hw =>
    cases hfills
    rw [List.append_assoc, List.singleton_append]
    apply Reader.iterate_done
    rw [memberStep, Reader.bind_run (memberName?_closing hw tail)]
    rfl
  | @item isFirst member members lead item t hlead hitem hothers ih =>
    cases hfills with
    | cons htakes hfills =>
      have hstep := memberStep_run hspeaks hlead hitem htakes
        (delimited_items (by decide) hothers tail)
      simp only [List.append_assoc]
      rw [Reader.iterate_again hstep, ih hfills]
      cases hitem
      simp only [List.length_append, List.length_cons]
      omega

/-! ### Elements -/

/-- Before an element there are only blanks and the comma that sets it off.  Where the closing
bracket is next there is no element, and the bracket is left for the caller. -/
theorem hasElement_sound {isFirst there : Bool} {s rest : Bytes}
    (h : hasElement isFirst s = .ok (there, rest)) :
    (there = false ∧ ∃ w tail, Blanks w ∧ rest = 93 :: tail ∧ s = w ++ rest) ∨
      (there = true ∧ ∃ lead w, Lead isFirst lead ∧ Blanks w ∧ s = lead ++ (w ++ rest)) := by
  obtain ⟨w, mid, hw, -, rfl, hread⟩ := Reader.next_bind_eq_ok_iff.mp h
  cases mid with
  | nil => cases hread
  | cons b mid =>
    simp only [List.head?_cons] at hread
    split_ifs at hread with hclosing hisFirst hcomma
    · obtain ⟨rfl, rfl⟩ := Reader.pure_eq_ok_iff.mp hread
      exact .inl ⟨rfl, w, mid, hw, by rw [hclosing], rfl⟩
    · obtain ⟨rfl, rfl⟩ := Reader.pure_eq_ok_iff.mp hread
      refine .inr ⟨rfl, [], w, ?_, hw, rfl⟩
      rw [hisFirst]
      exact .first
    · rw [Reader.bind_run (Reader.advance_cons b mid)] at hread
      obtain ⟨u, mid, hu, -, rfl, hlater⟩ := Reader.next_bind_eq_ok_iff.mp hread
      generalize mid.head? = first at hlater
      split at hlater
      · cases hlater
      · obtain ⟨rfl, rfl⟩ := Reader.pure_eq_ok_iff.mp hlater
        refine .inr ⟨rfl, w ++ [44], u, ?_, hu, ?_⟩
        · rw [Bool.eq_false_iff.mpr hisFirst]
          exact .later hw
        · rw [hcomma, List.append_assoc]
          rfl
      · cases hlater
    · cases hread

theorem hasElement_closing {isFirst : Bool} {w : Bytes} (hw : Blanks w) (tail : Bytes) :
    hasElement isFirst (w ++ 93 :: tail) = .ok (false, 93 :: tail) := by
  rw [hasElement, Reader.next_bind_append hw, Reader.next_bind_cons (by decide)]
  rfl

theorem hasElement_value {isFirst : Bool} {lead w v : Bytes} (hlead : Lead isFirst lead)
    (hw : Blanks w) (hv : IsValue v) (rest : Bytes) :
    hasElement isFirst (lead ++ (w ++ (v ++ rest))) = .ok (true, v ++ rest) := by
  obtain ⟨b, octets, rfl, hb⟩ := hv.cons
  have hblank := not_isBlank_of_not_isDelimiter hb
  have hclosing : b ≠ 93 := by
    rintro rfl
    revert hb
    decide
  cases hlead with
  | first =>
    rw [List.nil_append, hasElement, Reader.next_bind_append hw, List.cons_append,
      Reader.next_bind_cons hblank]
    simp only [if_neg hclosing]
    rfl
  | later hblanks =>
    rw [List.append_assoc, List.singleton_append, hasElement, Reader.next_bind_append hblanks,
      Reader.next_bind_cons (by decide)]
    simp only [if_neg (show (44 : UInt8) ≠ 93 by decide), Bool.false_eq_true, if_false, if_true]
    rw [Reader.bind_run (Reader.advance_cons _ _), Reader.next_bind_append hw, List.cons_append,
      Reader.next_bind_cons hblank]
    refine congrFun (?_ : _ = (pure true : Reader Bool)) _
    split
    · rename_i hfirst
      exact absurd (Option.some.inj hfirst) hclosing
    · rfl
    · rename_i hfirst
      cases hfirst

/-! ### Closing -/

theorem close_eq_ok_iff {bracket : Bracket} {s rest : Bytes} :
    close bracket s = .ok ((), rest) ↔ ∃ w, Blanks w ∧ s = w ++ bracket.closing :: rest := by
  constructor
  · intro h
    cases bracket with
    | object =>
      obtain ⟨w, mid, hw, -, rfl, hread⟩ := Reader.next_bind_eq_ok_iff.mp h
      generalize hfirst : mid.head? = first at hread
      split at hread
      · obtain ⟨mid, rfl⟩ := List.head?_eq_some_iff.mp hfirst
        obtain ⟨-, rfl⟩ := Prod.mk.inj (Except.ok.inj hread)
        exact ⟨w, hw, rfl⟩
      all_goals cases hread
    | array =>
      obtain ⟨w, mid, hw, -, rfl, hread⟩ := Reader.next_bind_eq_ok_iff.mp h
      generalize hfirst : mid.head? = first at hread
      split at hread
      · obtain ⟨mid, rfl⟩ := List.head?_eq_some_iff.mp hfirst
        obtain ⟨-, rfl⟩ := Prod.mk.inj (Except.ok.inj hread)
        exact ⟨w, hw, rfl⟩
      · -- Behind a comma there is only the question which fault it is.
        obtain ⟨_, after, -, hnext⟩ := Reader.bind_eq_ok_iff.mp hread
        obtain ⟨_, last, -, hfail⟩ := Reader.bind_eq_ok_iff.mp hnext
        split at hfail
        all_goals cases hfail
      all_goals cases hread
  · rintro ⟨w, hw, rfl⟩
    have hblank := isBlank_closing bracket
    cases bracket with
    | object =>
      rw [close, Reader.next_bind_append hw, Reader.next_bind_cons hblank]
      rfl
    | array =>
      rw [close, Reader.next_bind_append hw, Reader.next_bind_cons hblank]
      rfl

theorem items_of_closing {ι : Type} {item : ι → Bytes → Prop} {items : List ι} {b : UInt8}
    {t rest tail : Bytes} (hb : isBlank b = false) (hcomma : b ≠ 44)
    (h : Items item b false items t) (hsame : b :: tail = t ++ rest) :
    items = [] ∧ tail = rest := by
  have hnone {w s : Bytes} (hw : Blanks w) (h : b :: tail = w ++ s) : w = [] := by
    cases w with
    | nil => rfl
    | cons c w =>
      obtain ⟨rfl, -⟩ := List.cons.inj h
      rw [hw b List.mem_cons_self] at hb
      cases hb
  cases h with
  | close hw =>
    rw [List.append_assoc] at hsame
    obtain rfl := hnone hw hsame
    exact ⟨rfl, (List.cons.inj hsame).2⟩
  | item hlead first others =>
    cases hlead with
    | later hw =>
      simp only [List.append_assoc] at hsame
      obtain rfl := hnone hw hsame
      exact absurd (List.cons.inj hsame).1 hcomma

/-- An array gives its elements to the fields in their order.  It may end early, and then the fields
that are left over take what a missing field is worth. -/
theorem elements_sound {fields : List (Field δ)}
    (hspeaks : ∀ field ∈ fields, Recognizes field.read (language field.name)) {count : Nat}
    {draft result : δ} {s mid rest : Bytes}
    (h : form.elements count draft fields s = .ok (.ok result, mid))
    (hclose : close .array mid = .ok ((), rest)) :
    ∃ values t, Items IsElement 93 (count = 0) values t ∧
      FillsInOrder language fields draft values result ∧ s = t ++ rest := by
  induction fields generalizing count draft s with
  | nil =>
    obtain ⟨hresult, rfl⟩ := Reader.pure_eq_ok_iff.mp h
    obtain rfl := Except.ok.inj hresult
    obtain ⟨w, hw, rfl⟩ := close_eq_ok_iff.mp hclose
    refine ⟨[], _, .close hw, .nil _, ?_⟩
    rw [List.append_assoc]
    rfl
  | cons field fields ih =>
    have hlater := fun field hfield => hspeaks field (List.mem_cons_of_mem _ hfield)
    obtain ⟨there, after, hthere, hread⟩ := Reader.bind_eq_ok_iff.mp h
    rcases hasElement_sound hthere with
      ⟨rfl, w, tail, hw, rfl, rfl⟩ | ⟨rfl, lead, w, hlead, hw, rfl⟩
    · rw [if_neg Bool.false_ne_true] at hread
      cases habsent : field.absent with
      | none =>
        rw [habsent] at hread
        cases hread
      | some fill =>
        rw [habsent] at hread
        obtain ⟨values, t, ht, hfills, hsame⟩ := ih hlater hread
        rw [decide_eq_false (Nat.succ_ne_zero count)] at ht
        obtain ⟨rfl, rfl⟩ := items_of_closing (by decide) (by decide) ht hsame
        refine ⟨[], _, .close hw, .absent habsent hfills, ?_⟩
        rw [List.append_assoc]
        rfl
    · rw [if_pos rfl] at hread
      obtain ⟨fill, last, hvalue, hothers⟩ := Reader.bind_eq_ok_iff.mp hread
      have hrecognizes := hspeaks field List.mem_cons_self
      obtain ⟨u, v, hu, hv, rfl⟩ := hrecognizes.sound hvalue
      obtain ⟨values, t, ht, hfills, rfl⟩ := ih hlater hothers
      rw [decide_eq_false (Nat.succ_ne_zero count)] at ht
      refine ⟨v :: values, _, .item hlead (.intro (hw.append hu) (hrecognizes.isValue hv)) ht,
        .value hv hfills, ?_⟩
      simp only [List.append_assoc]

theorem elements_run {fields : List (Field δ)}
    (hspeaks : ∀ field ∈ fields, Recognizes field.read (language field.name)) {count : Nat}
    {draft result : δ} {values : List Bytes} {t : Bytes}
    (ht : Items IsElement 93 (count = 0) values t)
    (hfills : FillsInOrder language fields draft values result) (rest : Bytes) :
    ∃ mid, form.elements count draft fields (t ++ rest) = .ok (.ok result, mid) ∧
      close .array mid = .ok ((), rest) := by
  induction hfills generalizing count t with
  | nil draft =>
    cases ht with
    | close hw =>
      refine ⟨_, rfl, close_eq_ok_iff.mpr ⟨_, hw, ?_⟩⟩
      rw [List.append_assoc]
      rfl
  | @value field fields draft result fill v vs first others ih =>
    have hlater := fun field hfield => hspeaks field (List.mem_cons_of_mem _ hfield)
    have hrecognizes := hspeaks field List.mem_cons_self
    cases ht with
    | @item _ _ _ _ _ t hlead hitem hothers =>
      cases hitem with
      | @intro w _ hw hvalue =>
        have hothers' : Items IsElement 93 (count + 1 = 0) vs t := by
          rwa [decide_eq_false (Nat.succ_ne_zero count)]
        obtain ⟨mid, hread, hclose⟩ := ih hlater hothers'
        refine ⟨mid, ?_, hclose⟩
        have hfield : field.read (v ++ (t ++ rest)) = .ok (fill, t ++ rest) :=
          hrecognizes.complete blanks_nil first (delimited_items (by decide) hothers rest)
        simp only [List.append_assoc]
        rw [elements, Reader.bind_run (hasElement_value hlead hw hvalue _), if_pos rfl,
          Reader.bind_run hfield, hread]
  | @absent field fields draft result fill leaves others ih =>
    have hlater := fun field hfield => hspeaks field (List.mem_cons_of_mem _ hfield)
    cases ht with
    | close hw =>
      have hclosing : Items IsElement 93 (count + 1 = 0) [] ([] ++ [93]) := .close blanks_nil
      obtain ⟨mid, hread, hclose⟩ := ih hlater hclosing
      refine ⟨mid, ?_, hclose⟩
      rw [List.append_assoc, List.singleton_append, elements,
        Reader.bind_run (hasElement_closing hw rest), if_neg Bool.false_ne_true, leaves]
      exact hread

/-! ### The whole value -/

theorem conclude_eq_ok_iff {bracket : Bracket} {draft : Except Problem δ} {s rest : Bytes} {a : α} :
    form.conclude bracket draft s = .ok (a, rest) ↔
      (∃ result, draft = .ok result ∧ form.finish result = .ok a) ∧
        close bracket s = .ok ((), rest) := by
  have hvalue : (∃ result, draft = .ok result ∧ form.finish result = .ok a) ↔
      (draft >>= form.finish) = .ok a := by rw [ClusterLicense.bind_eq_ok_iff]
  rw [hvalue, conclude]
  cases draft >>= form.finish with
  | ok value =>
    constructor
    · intro h
      obtain ⟨_, after, hclose, hpure⟩ := Reader.bind_eq_ok_iff.mp h
      obtain ⟨rfl, rfl⟩ := Reader.pure_eq_ok_iff.mp hpure
      exact ⟨rfl, hclose⟩
    · rintro ⟨hsame, hclose⟩
      cases hsame
      exact Reader.bind_run hclose
  | error problem =>
    constructor
    · intro h
      obtain ⟨_, after, -, hfail⟩ := Reader.bind_eq_ok_iff.mp h
      cases hfail
    · rintro ⟨hsame, -⟩
      cases hsame

/-- An object is read exactly if its members fill the blank draft and the filled one can be
finished.  Both directions of the loop come together here. -/
theorem object_eq_ok_iff (hspeaks : form.Speaks language) {s rest : Bytes} {a : α} :
    (form.members >>= form.conclude .object) s = .ok (a, rest) ↔
      ∃ members draft t, Items IsMember 125 true members t ∧
        form.Fills language form.blank members draft ∧ form.finish draft = .ok a ∧
          s = t ++ rest := by
  have hclosing (tail : Bytes) : close .object (125 :: tail) = .ok ((), tail) :=
    close_eq_ok_iff.mpr ⟨[], blanks_nil, rfl⟩
  constructor
  · intro h
    obtain ⟨draft, after, hmembers, hconclude⟩ := Reader.bind_eq_ok_iff.mp h
    obtain ⟨⟨result, rfl, hfinish⟩, hclose⟩ := conclude_eq_ok_iff.mp hconclude
    obtain ⟨members, t, tail, ht, hfills, rfl, rfl⟩ := iterate_memberStep_sound hspeaks hmembers
    obtain ⟨-, rfl⟩ := Prod.mk.inj (Except.ok.inj (hclose.symm.trans (hclosing tail)))
    exact ⟨members, result, t, ht, hfills, hfinish, rfl⟩
  · rintro ⟨members, draft, t, ht, hfills, hfinish, rfl⟩
    rw [Form.members, Reader.bind_run (iterate_memberStep_run hspeaks ht hfills rest)]
    exact conclude_eq_ok_iff.mpr ⟨⟨draft, rfl, hfinish⟩, hclosing rest⟩

theorem array_eq_ok_iff (hspeaks : form.Speaks language) {s rest : Bytes} {a : α} :
    (form.elements 0 form.blank form.fields >>= form.conclude .array) s = .ok (a, rest) ↔
      ∃ elements draft t, Items IsElement 93 true elements t ∧
        FillsInOrder language form.fields form.blank elements draft ∧
          form.finish draft = .ok a ∧ s = t ++ rest := by
  constructor
  · intro h
    obtain ⟨draft, after, helements, hconclude⟩ := Reader.bind_eq_ok_iff.mp h
    obtain ⟨⟨result, rfl, hfinish⟩, hclose⟩ := conclude_eq_ok_iff.mp hconclude
    obtain ⟨elements, t, ht, hfills, rfl⟩ := elements_sound hspeaks helements hclose
    exact ⟨elements, result, t, ht, hfills, hfinish, rfl⟩
  · rintro ⟨elements, draft, t, ht, hfills, hfinish, rfl⟩
    have hitems : Items IsElement 93 ((0 : Nat) = 0) elements t := ht
    obtain ⟨mid, hread, hclose⟩ := elements_run hspeaks hitems hfills rest
    rw [Reader.bind_run hread]
    exact conclude_eq_ok_iff.mpr ⟨⟨draft, rfl, hfinish⟩, hclose⟩

/-- **A form reads the values that it is filled in from**, with blanks before them, and stops behind
the bracket.  An object fills it by names and an array by positions; that the second is taken as
well is a matter of how forms are read, and no form can do without it. -/
theorem read_eq_ok_iff (hspeaks : form.Speaks language) {s rest : Bytes} {a : α} :
    form.read s = .ok (a, rest) ↔
      ∃ w v, Blanks w ∧ form.Writes language a v ∧ s = w ++ (v ++ rest) := by
  constructor
  · intro h
    obtain ⟨w, mid, hw, -, rfl, hread⟩ := Reader.next_bind_eq_ok_iff.mp h
    generalize hfirst : mid.head? = first at hread
    split at hread
    · cases hread
    · obtain ⟨mid, rfl⟩ := List.head?_eq_some_iff.mp hfirst
      rw [Reader.bind_run (Reader.advance_cons 123 mid)] at hread
      obtain ⟨members, draft, t, ht, hfills, hfinish, rfl⟩ := (object_eq_ok_iff hspeaks).mp hread
      exact ⟨w, _, hw, .object ⟨t, ht, rfl⟩ hfills hfinish, rfl⟩
    · obtain ⟨mid, rfl⟩ := List.head?_eq_some_iff.mp hfirst
      rw [Reader.bind_run (Reader.advance_cons 91 mid)] at hread
      obtain ⟨elements, draft, t, ht, hfills, hfinish, rfl⟩ := (array_eq_ok_iff hspeaks).mp hread
      exact ⟨w, _, hw, .array ⟨t, ht, rfl⟩ hfills hfinish, rfl⟩
    · exact absurd hread mismatch_ne_ok
  · rintro ⟨w, v, hw, hv, rfl⟩
    rw [Form.read, Reader.next_bind_append hw]
    cases hv with
    | object hv hfills hfinish =>
      obtain ⟨t, ht, rfl⟩ := hv
      rw [List.cons_append, Reader.next_bind_cons (by decide)]
      apply (Reader.bind_run (Reader.advance_cons _ _)).trans
      exact (object_eq_ok_iff hspeaks).mpr ⟨_, _, t, ht, hfills, hfinish, rfl⟩
    | array hv hfills hfinish =>
      obtain ⟨t, ht, rfl⟩ := hv
      rw [List.cons_append, Reader.next_bind_cons (by decide)]
      apply (Reader.bind_run (Reader.advance_cons _ _)).trans
      exact (array_eq_ok_iff hspeaks).mpr ⟨_, _, t, ht, hfills, hfinish, rfl⟩

/-- A form recognises the values that it is filled in from, and may stand wherever a reader of
values may, such as for the value of a field in another form. -/
theorem recognizes_read (hspeaks : form.Speaks language) :
    Recognizes form.read (form.Writes language) where
  isValue := by
    rintro a v (⟨hv, -, -⟩ | ⟨hv, -, -⟩)
    · exact hv.isValue
    · exact hv.isValue
  sound h := (read_eq_ok_iff hspeaks).mp h
  complete hw hv _ := (read_eq_ok_iff hspeaks).mpr ⟨_, _, hw, hv, rfl⟩

end Form

end ClusterLicense.Json
