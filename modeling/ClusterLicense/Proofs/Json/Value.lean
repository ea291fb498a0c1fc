/-
  ClusterLicense/Proofs/Json/Value.lean
  =====================================
  **What is written compactly is JSON**: a value, and an object with the members
  that it is made of.
-/
import ClusterLicense.Json.Value
import ClusterLicense.Proofs.Json.Scalar

namespace ClusterLicense.Json

/-! ### Objects and arrays -/

theorem IsMember.isValue {member : String × Bytes} {s : Bytes} (h : IsMember member s) :
    IsValue member.2 := by
  cases h with
  | intro hw hname hu hx hvalue => exact hvalue

theorem isValue_of_mem_members {isFirst : Bool} {members : List (String × Bytes)} {t : Bytes}
    (h : Items IsMember 125 isFirst members t) : ∀ member ∈ members, IsValue member.2 := by
  induction h with
  | close hw => simp
  | item hlead first others ih => exact List.forall_mem_cons.mpr ⟨first.isValue, ih⟩

/-- Members that are read with their names are values that can be passed over; the names are among
what stands before each value. -/
theorem isPart_members {isFirst : Bool} {members : List (String × Bytes)} {t : Bytes}
    (h : Items IsMember 125 isFirst members t) : IsPart (.inside .object isFirst) t := by
  induction h with
  | close hw => exact @IsPart.close .object _ _ hw
  | item hlead first others ih =>
    cases first with
    | @intro name w q u x v hw hname hu hx hvalue =>
      have hitem := IsPart.item hlead (.member hw hname.isLiteral hu) hx hvalue ih
      simp only [List.append_assoc, List.cons_append, List.nil_append] at hitem ⊢
      exact hitem

theorem isPart_elements {isFirst : Bool} {elements : List Bytes} {t : Bytes}
    (h : Items IsElement 93 isFirst elements t) : IsPart (.inside .array isFirst) t := by
  induction h with
  | close hw => exact @IsPart.close .array _ _ hw
  | item hlead first others ih =>
    cases first with
    | intro hw hvalue =>
      have hitem := IsPart.item hlead .element hw hvalue ih
      simp only [List.append_assoc, List.nil_append] at hitem ⊢
      exact hitem

theorem IsObject.isValue {members : List (String × Bytes)} {s : Bytes} (h : IsObject members s) :
    IsValue s := by
  obtain ⟨t, ht, rfl⟩ := h
  exact .bracket .object (isPart_members ht)

theorem IsObject.isValue_values {members : List (String × Bytes)} {s : Bytes}
    (h : IsObject members s) : ∀ member ∈ members, IsValue member.2 := by
  obtain ⟨t, ht, -⟩ := h
  exact isValue_of_mem_members ht

theorem IsArray.isValue {elements : List Bytes} {s : Bytes} (h : IsArray elements s) :
    IsValue s := by
  obtain ⟨t, ht, rfl⟩ := h
  exact .bracket .array (isPart_elements ht)

/-- Around the value of an only member there is the name of the member and no array.  So whether
such an object has an array in it is a matter of the value. -/
theorem IsObject.singleton {name : String} {v s : Bytes} (h : IsObject [(name, v)] s)
    (hname : '[' ∉ name.toList) : ∃ a b, IsFlat a ∧ IsFlat b ∧ s = a ++ (v ++ b) := by
  obtain ⟨t, ht, rfl⟩ := h
  cases ht with
  | item hlead first others =>
    cases hlead
    cases first with
    | @intro _ w q u x _ hw hq hu hx hvalue =>
      cases others with
      | @close _ y hy =>
        have hopening : IsFlat [123] := isFlat_singleton (by decide)
        have hcolon : IsFlat [58] := isFlat_singleton (by decide)
        have hclosing : IsFlat [125] := isFlat_singleton (by decide)
        refine ⟨[123] ++ (w ++ (q ++ (u ++ ([58] ++ x)))), y ++ [125], ?_, ?_, ?_⟩
        · exact hopening.append (hw.isFlat.append ((hq.isFlat hname).append
            (hu.isFlat.append (hcolon.append hx.isFlat))))
        · exact hy.isFlat.append hclosing
        · simp only [List.append_assoc, List.cons_append, List.nil_append]

/-! ### Written values -/

namespace Value

def laterMembers (members : List (String × Value)) : Bytes :=
  members.flatMap fun (name, value) => 44 :: (quoted name ++ 58 :: value.compact)

theorem compactMembers_cons (name : String) (value : Value) (members : List (String × Value)) :
    compactMembers ((name, value) :: members) =
      quoted name ++ 58 :: (value.compact ++ laterMembers members) := by
  induction members generalizing name value with
  | nil => simp only [compactMembers, laterMembers, List.flatMap_nil, List.append_nil]
  | cons next members ih =>
    rw [compactMembers, ih]
    · simp only [laterMembers, List.flatMap_cons, List.append_assoc, List.cons_append]
    · exact List.cons_ne_nil _ _

def written (member : String × Value) : String × Bytes := (member.1, member.2.compact)

theorem isMember_written (name : String) {value : Value} (h : IsValue value.compact) :
    IsMember (written (name, value)) (quoted name ++ 58 :: value.compact) :=
  .intro blanks_nil (quotes_quoted name) blanks_nil blanks_nil h

theorem items_laterMembers {members : List (String × Value)}
    (h : ∀ member ∈ members, IsValue member.2.compact) :
    Items IsMember 125 false (members.map written) (laterMembers members ++ [125]) := by
  induction members with
  | nil => exact .close blanks_nil
  | cons member members ih =>
    obtain ⟨name, value⟩ := member
    obtain ⟨hvalue, hothers⟩ := List.forall_mem_cons.mp h
    have hitem := Items.item (.later blanks_nil) (isMember_written name hvalue) (ih hothers)
    simp only [laterMembers, List.flatMap_cons, List.append_assoc, List.cons_append,
      List.nil_append] at hitem ⊢
    exact hitem

theorem isObject_of_values {members : List (String × Value)}
    (h : ∀ member ∈ members, IsValue member.2.compact) :
    IsObject (members.map written) (Value.object members).compact := by
  refine ⟨compactMembers members ++ [125], ?_, by rw [compact, List.cons_append]⟩
  cases members with
  | nil => exact .close blanks_nil
  | cons member members =>
    obtain ⟨name, value⟩ := member
    obtain ⟨hvalue, hothers⟩ := List.forall_mem_cons.mp h
    have hitem := Items.item .first (isMember_written name hvalue) (items_laterMembers hothers)
    rw [compactMembers_cons]
    simp only [List.append_assoc, List.cons_append, List.nil_append] at hitem ⊢
    exact hitem

/-- Values by what they are made of: an object comes after the values of its members. -/
@[elab_as_elim]
theorem induct {motive : Value → Prop} (null : motive .null)
    (boolean : ∀ value, motive (.boolean value)) (integer : ∀ value, motive (.integer value))
    (string : ∀ value, motive (.string value))
    (object : ∀ members, (∀ member ∈ members, motive member.2) → motive (.object members))
    (value : Value) : motive value := by
  cases value with
  | null => exact null
  | boolean value => exact boolean value
  | integer value => exact integer value
  | string value => exact string value
  | object members =>
    exact object members fun member hmember => induct null boolean integer string object member.2
termination_by sizeOf value
decreasing_by
  have hless := List.sizeOf_lt_of_mem hmember
  obtain ⟨name, value⟩ := member
  simp only [Prod.mk.sizeOf_spec, Value.object.sizeOf_spec] at hless ⊢
  omega

/-- Whatever is written is a value of the grammar.  The induction is on the value, through the
members of objects. -/
theorem isValue_compact (value : Value) : IsValue value.compact := by
  induction value using Value.induct with
  | null => exact .word (by decide)
  | boolean value =>
    cases value with
    | true => exact .word (by decide)
    | false => exact .word (by decide)
  | integer value => exact .number (Numeral.writes_ofInt value)
  | string value => exact .literal (quotes_quoted value).isLiteral
  | object members ih => exact (isObject_of_values ih).isValue

theorem isObject_compact (members : List (String × Value)) :
    IsObject (members.map written) (Value.object members).compact :=
  isObject_of_values fun member _ => isValue_compact member.2

/-! ### Texts -/

theorem isText_laterMembers {members : List (String × Value)}
    (h : ∀ member ∈ members, Utf8.IsText member.2.compact) :
    Utf8.IsText (laterMembers members) := by
  have hmarks : Utf8.IsText [44] ∧ Utf8.IsText [58] :=
    ⟨Utf8.isText_of_lt (by decide +kernel), Utf8.isText_of_lt (by decide +kernel)⟩
  induction members with
  | nil => exact Utf8.isText_of_lt (List.forall_mem_nil _)
  | cons member members ih =>
    obtain ⟨hvalue, hothers⟩ := List.forall_mem_cons.mp h
    have hname := (quotes_quoted member.1).isText
    have hitem := (hmarks.1.append (hname.append (hmarks.2.append hvalue))).append (ih hothers)
    rw [laterMembers, List.flatMap_cons]
    exact hitem

theorem isText_object {members : List (String × Value)}
    (h : ∀ member ∈ members, Utf8.IsText member.2.compact) :
    Utf8.IsText (Value.object members).compact := by
  have hopening : Utf8.IsText [123] := Utf8.isText_of_lt (by decide +kernel)
  have hcolon : Utf8.IsText [58] := Utf8.isText_of_lt (by decide +kernel)
  have hclosing : Utf8.IsText [125] := Utf8.isText_of_lt (by decide +kernel)
  rw [compact]
  cases members with
  | nil => exact hopening.append hclosing
  | cons member members =>
    obtain ⟨hvalue, hothers⟩ := List.forall_mem_cons.mp h
    have hname := (quotes_quoted member.1).isText
    have hbody := hname.append (hcolon.append (hvalue.append (isText_laterMembers hothers)))
    rw [compactMembers_cons]
    exact (hopening.append hbody).append hclosing

theorem isText_compact (value : Value) : Utf8.IsText value.compact := by
  induction value using Value.induct with
  | null => exact Utf8.isText_of_lt (by decide +kernel)
  | boolean value =>
    cases value with
    | true => exact Utf8.isText_of_lt (by decide +kernel)
    | false => exact Utf8.isText_of_lt (by decide +kernel)
  | integer value =>
    apply Utf8.isText_of_lt
    intro b hb
    rcases Decimal.mem_ofInt hb with rfl | hdigit
    · decide
    · exact Bytes.forall_octet (p := fun b => Decimal.isDigit b = true → b < 128)
        (by decide +kernel) b hdigit
  | string value => exact (quotes_quoted value).isText
  | object members ih => exact isText_object ih

end Value

end ClusterLicense.Json
