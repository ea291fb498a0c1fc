/-
  ClusterLicense/Proofs/Json/Members.lean
  =======================================
  **The order of members does not matter.**

  If each field has a part of the draft for itself (`Form.Independent`), a member can
  be moved in front of all others (`Form.Gathers.cons`, `Form.Gathers.of_cons`).  So
  members fill a draft just as fields do that get their values one after the other
  (`Form.fills_iff`): for each field there is at most one member with its name.
-/
import ClusterLicense.Proofs.Json.Form

namespace ClusterLicense.Json

def values (name : String) (members : List (String × Bytes)) : List Bytes :=
  (members.filter (·.1 = name)).map (·.2)

theorem values_cons_self (name : String) (v : Bytes) (members : List (String × Bytes)) :
    values name ((name, v) :: members) = v :: values name members := by
  simp only [values, List.filter_cons, decide_true, if_true, List.map_cons]

theorem values_cons_of_ne {name other : String} (h : other ≠ name) (v : Bytes)
    (members : List (String × Bytes)) :
    values name ((other, v) :: members) = values name members := by
  rw [values, List.filter_cons_of_neg (by simpa using h)]
  rfl

theorem mem_of_mem_values {name : String} {v : Bytes} {members : List (String × Bytes)}
    (h : v ∈ values name members) : (name, v) ∈ members := by
  obtain ⟨member, hselected, rfl⟩ := List.mem_map.mp h
  obtain ⟨hmember, hname⟩ := List.mem_filter.mp hselected
  obtain rfl := of_decide_eq_true hname
  exact hmember

theorem values_append (name : String) (members others : List (String × Bytes)) :
    values name (members ++ others) = values name members ++ values name others := by
  rw [values, List.filter_append, List.map_append]
  rfl

/-- In whatever order the members stand, a name has the same values; only their order may differ,
which does not matter where there is at most one. -/
theorem values_perm {members others : List (String × Bytes)} (h : members.Perm others)
    (name : String) : (values name members).Perm (values name others) :=
  (h.filter _).map _

namespace Form

variable {δ α : Type} {form : Form δ α} {language : String → (δ → δ) → Bytes → Prop}
  {members : List (String × Bytes)} {draft result : δ}

/-- Fields that get their values in the order of the fields: none, or the only member with the name
of the field. -/
inductive Gathers (language : String → (δ → δ) → Bytes → Prop) (members : List (String × Bytes)) :
    List (Field δ) → δ → δ → Prop where
  | nil (draft : δ) : Gathers language members [] draft draft
  | missing {field : Field δ} {fields : List (Field δ)} {draft result : δ}
      (none : values field.name members = [])
      (others : Gathers language members fields draft result) :
      Gathers language members (field :: fields) draft result
  | present {field : Field δ} {fields : List (Field δ)} {draft result : δ} {fill : δ → δ}
      {v : Bytes} (isMissing : field.isFilled draft = false)
      (only : values field.name members = [v]) (value : language field.name fill v)
      (others : Gathers language members fields (fill draft) result) :
      Gathers language members (field :: fields) draft result

/-- A member whose name belongs to a field is taken if the field is still missing and the value is
one of its language.  A second member with the name is refused. -/
theorem takes_iff_of_found {name : String} {v : Bytes} {field : Field δ}
    (hfound : form.fields.find? (·.name == name) = some field) :
    form.Takes language draft (name, v) result ↔
      field.isFilled draft = false ∧ ∃ fill, language name fill v ∧ fill draft = result := by
  constructor
  · intro h
    cases h with
    | field found isMissing value =>
      obtain rfl := Option.some.inj (found.symm.trans hfound)
      exact ⟨isMissing, _, value, rfl⟩
    | other unknown =>
      rw [unknown] at hfound
      cases hfound
  · rintro ⟨hmissing, fill, hvalue, rfl⟩
    exact .field hfound hmissing hvalue

/-- A member that nobody asked for is passed over, if such members are allowed at all, and has to be
a value in any case. -/
theorem takes_iff_of_unknown {name : String} {v : Bytes}
    (hunknown : form.fields.find? (·.name == name) = none) :
    form.Takes language draft (name, v) result ↔
      form.refusesOthers = false ∧ IsValue v ∧ draft = result := by
  constructor
  · intro h
    cases h with
    | field found =>
      rw [found] at hunknown
      cases hunknown
    | other unknown isAllowed value => exact ⟨isAllowed, value, rfl⟩
  · rintro ⟨hallowed, hvalue, rfl⟩
    exact .other hunknown hallowed hvalue

/-- Each field has a part of the draft for itself. -/
structure Independent (language : String → (δ → δ) → Bytes → Prop) (fields : List (Field δ)) :
    Prop where
  nodup : (fields.map (·.name)).Nodup
  filled {field : Field δ} {fill : δ → δ} {v : Bytes} (hfield : field ∈ fields)
    (h : language field.name fill v) (draft : δ) : field.isFilled (fill draft) = true
  kept {field other : Field δ} {fill : δ → δ} {v : Bytes} (hfield : field ∈ fields)
    (hother : other ∈ fields) (hne : field.name ≠ other.name) (h : language field.name fill v)
    (draft : δ) : other.isFilled (fill draft) = other.isFilled draft
  commutes {field other : Field δ} {fill gill : δ → δ} {v u : Bytes} (hfield : field ∈ fields)
    (hother : other ∈ fields) (hne : field.name ≠ other.name) (h : language field.name fill v)
    (g : language other.name gill u) (draft : δ) : fill (gill draft) = gill (fill draft)

theorem Independent.tail {field : Field δ} {fields : List (Field δ)}
    (h : Independent language (field :: fields)) : Independent language fields where
  nodup := (List.nodup_cons.mp h.nodup).2
  filled hfield := h.filled (List.mem_cons_of_mem _ hfield)
  kept hfield hother := h.kept (List.mem_cons_of_mem _ hfield) (List.mem_cons_of_mem _ hother)
  commutes hfield hother :=
    h.commutes (List.mem_cons_of_mem _ hfield) (List.mem_cons_of_mem _ hother)

theorem Independent.name_ne {field other : Field δ} {fields : List (Field δ)}
    (h : Independent language (field :: fields)) (hother : other ∈ fields) :
    field.name ≠ other.name := by
  intro hsame
  apply (List.nodup_cons.mp h.nodup).1
  exact List.mem_map.mpr ⟨other, hother, hsame.symm⟩

/-- What fields get depends on their own values alone.  So members may be added and taken away as
long as no field has one of their names. -/
theorem Gathers.congr {fields : List (Field δ)} {others : List (String × Bytes)}
    (h : Gathers language members fields draft result)
    (hvalues : ∀ field ∈ fields, values field.name others = values field.name members) :
    Gathers language others fields draft result := by
  induction h with
  | nil draft => exact .nil draft
  | missing none _ ih =>
    obtain ⟨hvalue, hlater⟩ := List.forall_mem_cons.mp hvalues
    exact .missing (hvalue.trans none) (ih hlater)
  | present isMissing only value _ ih =>
    obtain ⟨hvalue, hlater⟩ := List.forall_mem_cons.mp hvalues
    exact .present isMissing (hvalue.trans only) value (ih hlater)

/-- The value of a missing field can be put in front, before all other fields get theirs.  The
fields before it in the order are passed one by one; each has a part of the draft for itself, so
filling the two can be exchanged. -/
theorem Gathers.cons {fields : List (Field δ)} (hfields : Independent language fields)
    {field : Field δ} (hfield : field ∈ fields) {fill : δ → δ} {v : Bytes}
    (hmissing : field.isFilled draft = false) (hvalue : language field.name fill v)
    (h : Gathers language members fields (fill draft) result) :
    Gathers language ((field.name, v) :: members) fields draft result := by
  induction fields generalizing draft with
  | nil => cases hfield
  | cons other fields ih =>
    by_cases hname : other.name = field.name
    · -- The field itself: it is filled now, so no further member has its name.
      obtain rfl : other = field := by
        rcases List.mem_cons.mp hfield with rfl | hlater
        · rfl
        · exact absurd hname (hfields.name_ne hlater)
      have hothers : ∀ later ∈ fields,
          values later.name ((other.name, v) :: members) = values later.name members :=
        fun later hlater => values_cons_of_ne (hfields.name_ne hlater) v members
      cases h with
      | missing none others =>
        have honly : values other.name ((other.name, v) :: members) = [v] := by
          rw [values_cons_self, none]
        exact .present hmissing honly hvalue (others.congr hothers)
      | present isMissing =>
        rw [hfields.filled List.mem_cons_self hvalue] at isMissing
        cases isMissing
    · have hlater : field ∈ fields := by
        rcases List.mem_cons.mp hfield with rfl | hlater
        · exact absurd rfl hname
        · exact hlater
      have hsame : values other.name ((field.name, v) :: members) = values other.name members :=
        values_cons_of_ne (Ne.symm hname) v members
      cases h with
      | missing none others =>
        exact .missing (hsame.trans none) (ih hfields.tail hlater hmissing others)
      | @present _ _ _ _ gill u isMissing only value others =>
        rw [hfields.kept hfield List.mem_cons_self (Ne.symm hname) hvalue] at isMissing
        rw [← hfields.commutes hfield List.mem_cons_self (Ne.symm hname) hvalue value] at others
        refine .present isMissing (hsame.trans only) value (ih hfields.tail hlater ?_ others)
        rw [hfields.kept List.mem_cons_self hfield hname value, hmissing]

/-- The first member with the name of a field is the only one, and can be taken out.  What is left
of the members gives the other fields what they had. -/
theorem Gathers.of_cons {fields : List (Field δ)} (hfields : Independent language fields)
    {field : Field δ} (hfield : field ∈ fields) {v : Bytes}
    (h : Gathers language ((field.name, v) :: members) fields draft result) :
    field.isFilled draft = false ∧ ∃ fill, language field.name fill v ∧
      Gathers language members fields (fill draft) result := by
  induction fields generalizing draft with
  | nil => cases hfield
  | cons other fields ih =>
    by_cases hname : other.name = field.name
    · obtain rfl : other = field := by
        rcases List.mem_cons.mp hfield with rfl | hlater
        · rfl
        · exact absurd hname (hfields.name_ne hlater)
      have hothers : ∀ later ∈ fields,
          values later.name members = values later.name ((other.name, v) :: members) :=
        fun later hlater => (values_cons_of_ne (hfields.name_ne hlater) v members).symm
      cases h with
      | missing none =>
        rw [values_cons_self] at none
        cases none
      | present isMissing only value others =>
        rw [values_cons_self] at only
        obtain ⟨rfl, hnone⟩ := List.cons.inj only
        exact ⟨isMissing, _, value, .missing hnone (others.congr hothers)⟩
    · have hlater : field ∈ fields := by
        rcases List.mem_cons.mp hfield with rfl | hlater
        · exact absurd rfl hname
        · exact hlater
      have hsame : values other.name ((field.name, v) :: members) = values other.name members :=
        values_cons_of_ne (Ne.symm hname) v members
      cases h with
      | missing none others =>
        obtain ⟨hmissing, fill, hvalue, hrest⟩ := ih hfields.tail hlater others
        exact ⟨hmissing, fill, hvalue, .missing (hsame.symm.trans none) hrest⟩
      | @present _ _ _ _ gill u isMissing only value others =>
        obtain ⟨hmissing, fill, hvalue, hrest⟩ := ih hfields.tail hlater others
        rw [hfields.kept List.mem_cons_self hfield hname value] at hmissing
        rw [hfields.commutes hfield List.mem_cons_self (Ne.symm hname) hvalue value] at hrest
        refine ⟨hmissing, fill, hvalue, .present ?_ (hsame.symm.trans only) value hrest⟩
        rw [hfields.kept hfield List.mem_cons_self (Ne.symm hname) hvalue, isMissing]

theorem gathers_nil_iff {fields : List (Field δ)} :
    Gathers language [] fields draft result ↔ draft = result := by
  constructor
  · intro h
    induction h with
    | nil draft => rfl
    | missing none others ih => exact ih
    | present isMissing only => cases only
  · rintro rfl
    induction fields with
    | nil => exact .nil draft
    | cons field fields ih => exact .missing rfl ih

theorem find?_eq_some {fields : List (Field δ)} (hfields : Independent language fields)
    {field : Field δ} (hfield : field ∈ fields) :
    fields.find? (·.name == field.name) = some field := by
  induction fields with
  | nil => cases hfield
  | cons other fields ih =>
    rcases List.mem_cons.mp hfield with rfl | hlater
    · exact List.find?_cons_of_pos (beq_self_eq_true _)
    · rw [List.find?_cons_of_neg (by simpa using hfields.name_ne hlater)]
      exact ih hfields.tail hlater

theorem fills_cons_iff {member : String × Bytes} :
    form.Fills language draft (member :: members) result ↔
      ∃ mid, form.Takes language draft member mid ∧ form.Fills language mid members result := by
  constructor
  · intro h
    cases h with
    | cons first others => exact ⟨_, first, others⟩
  · rintro ⟨mid, hfirst, hothers⟩
    exact .cons hfirst hothers

/-- **The order of the members does not matter**: members fill a draft as fields do that get their
values one after the other, and members with other names have to be allowed.  On the left the
members are taken as they stand, on the right in the order of the fields; the induction is on the
members, and `Gathers.cons` moves the first one to its place. -/
theorem fills_iff (hfields : Independent language form.fields)
    (hvalues : ∀ member ∈ members, IsValue member.2) :
    form.Fills language draft members result ↔
      Gathers language members form.fields draft result ∧
        ∀ member ∈ members, (∃ field ∈ form.fields, field.name = member.1) ∨
          form.refusesOthers = false := by
  induction members generalizing draft with
  | nil =>
    rw [gathers_nil_iff]
    constructor
    · intro h
      cases h
      exact ⟨rfl, by simp⟩
    · rintro ⟨rfl, -⟩
      exact .nil draft
  | cons member members ih =>
    obtain ⟨name, v⟩ := member
    obtain ⟨hv, hothers⟩ := List.forall_mem_cons.mp hvalues
    rw [fills_cons_iff, List.forall_mem_cons]
    simp only [ih hothers]
    by_cases hname : ∃ field ∈ form.fields, field.name = name
    · obtain ⟨field, hfield, rfl⟩ := hname
      have hfound := find?_eq_some hfields hfield
      constructor
      · rintro ⟨mid, htakes, hgathers, hallowed⟩
        obtain ⟨hmissing, fill, hvalue, rfl⟩ := (takes_iff_of_found hfound).mp htakes
        exact ⟨hgathers.cons hfields hfield hmissing hvalue, .inl ⟨field, hfield, rfl⟩, hallowed⟩
      · rintro ⟨hgathers, -, hallowed⟩
        obtain ⟨hmissing, fill, hvalue, hrest⟩ := hgathers.of_cons hfields hfield
        exact ⟨_, (takes_iff_of_found hfound).mpr ⟨hmissing, fill, hvalue, rfl⟩, hrest, hallowed⟩
    · have hunknown : form.fields.find? (·.name == name) = none := by
        simpa using hname
      have hnone : ∀ field ∈ form.fields,
          values field.name ((name, v) :: members) = values field.name members := by
        intro field hfield
        apply values_cons_of_ne
        rintro rfl
        exact hname ⟨field, hfield, rfl⟩
      constructor
      · rintro ⟨mid, htakes, hgathers, hallowed⟩
        obtain ⟨hother, -, rfl⟩ := (takes_iff_of_unknown hunknown).mp htakes
        exact ⟨hgathers.congr hnone, .inr hother, hallowed⟩
      · rintro ⟨hgathers, hother, hallowed⟩
        have hother := hother.resolve_left hname
        refine ⟨draft, (takes_iff_of_unknown hunknown).mpr ⟨hother, hv, rfl⟩, ?_, hallowed⟩
        exact hgathers.congr fun field hfield => (hnone field hfield).symm

end Form
end ClusterLicense.Json
