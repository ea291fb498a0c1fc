/-
  ClusterLicense/Proofs/Json/Slots.lean
  =====================================
  **Forms that keep each value in a place of its own.**

  A slot is a place in a draft for the value of one field.  Slots that leave each
  other alone (`Slot.Apart`) make the fields of a form independent of each other
  (`Slots.LayOut.independent`), so that members fill the draft in any order; and a
  value that may be left out either is put into its slot or leaves the draft as it
  is (`Slots.Stores.gathers`).
-/
import ClusterLicense.Proofs.Json.Members
import Mathlib.Data.List.Pairwise

namespace ClusterLicense.Json

/-! ### Values that may be left out -/

section

variable {α β : Type} {language : α → Bytes → Prop} {value : Option α} {vs us : List Bytes}

/-- What is written for a value that may be left out: it once, or nothing. -/
inductive Given (language : α → Bytes → Prop) : Option α → List Bytes → Prop where
  | missing : Given language none []
  | written {a : α} {v : Bytes} (h : language a v) : Given language (some a) [v]

theorem Given.map {other : β → Bytes → Prop} (h : Given language value vs) (f : α → β)
    (hother : ∀ a v, language a v → other (f a) v) : Given other (value.map f) vs := by
  cases h with
  | missing => exact .missing
  | written h => exact .written (hother _ _ h)

theorem Given.perm (h : Given language value vs) (hperm : us.Perm vs) :
    Given language value us := by
  cases h with
  | missing => exact hperm.eq_nil ▸ .missing
  | written h => exact List.perm_singleton.mp hperm ▸ .written h

def Value.member? (name : String) (write : α → Value) (value : Option α) :
    List (String × Value) :=
  value.toList.map fun a => (name, write a)

variable {name : String} {write : α → Value}

theorem values_member?_self :
    values name ((Value.member? name write value).map Value.written) =
      value.toList.map fun a => (write a).compact := by
  cases value with
  | none => rfl
  | some a => exact values_cons_self name _ []

theorem values_member?_of_ne {other : String} (h : other ≠ name) :
    values name ((Value.member? other write value).map Value.written) = [] := by
  cases value with
  | none => rfl
  | some a => exact values_cons_of_ne h _ []

/-- A value is given by the members of an object in any order, if one of them is its own. -/
theorem given_of_perm (write : α → Value) {members all : List (String × Value)}
    (hwrite : ∀ a ∈ value, language a (write a).compact) (hperm : members.Perm all)
    (hall : values name (all.map Value.written) = value.toList.map fun a => (write a).compact) :
    Given language value (values name (members.map Value.written)) := by
  have hgiven : Given language value (value.toList.map fun a => (write a).compact) := by
    cases value with
    | none => exact .missing
    | some a => exact .written (hwrite a rfl)
  exact hgiven.perm (hall ▸ values_perm (hperm.map _) name)

end

/-! ### Slots -/

/-- A place in a draft for the value of the field with the name, and what the value is written
with. -/
structure Slot (δ : Type) where
  name : String
  Value : Type
  get : δ → Option Value
  put : Value → δ → δ
  language : Value → Bytes → Prop

namespace Slot

variable {δ : Type}

/-- The octets are a value, and filling the slot puts it there. -/
def Fills (slot : Slot δ) (fill : δ → δ) (v : Bytes) : Prop :=
  ∃ a, slot.language a v ∧ slot.put a = fill

/-- The field reads the values of the slot and fills it. -/
structure Fits (slot : Slot δ) (field : Field δ) : Prop where
  name : field.name = slot.name
  isFilled : ∀ draft, field.isFilled draft = (slot.get draft).isSome
  recognizes : Recognizes field.read slot.Fills

/-- Neither of two slots is changed by filling the other. -/
structure Apart (s t : Slot δ) : Prop where
  name_ne : s.name ≠ t.name
  get_put : ∀ a draft, s.get (t.put a draft) = s.get draft
  get_put' : ∀ a draft, t.get (s.put a draft) = t.get draft
  put_comm : ∀ a b draft, s.put a (t.put b draft) = t.put b (s.put a draft)

instance : Std.Symm (Apart (δ := δ)) where
  symm _ _ h := {
    name_ne := h.name_ne.symm
    get_put := h.get_put'
    get_put' := h.get_put
    put_comm := fun a b draft => (h.put_comm b a draft).symm }

end Slot

namespace Slots

variable {δ α : Type} {slots : List (Slot δ)} {fields : List (Field δ)} {slot : Slot δ}
  {field : Field δ} {language : String → (δ → δ) → Bytes → Prop}

def Language (slots : List (Slot δ)) (name : String) (fill : δ → δ) (v : Bytes) : Prop :=
  ∃ slot ∈ slots, slot.name = name ∧ slot.Fills fill v

/-- For the names of the slots, the language is theirs. -/
def Speak (slots : List (Slot δ)) (language : String → (δ → δ) → Bytes → Prop) : Prop :=
  ∀ slot ∈ slots, language slot.name = slot.Fills

/-- The slots are places for the values of the fields, in the same order, each apart from the
others. -/
structure LayOut (slots : List (Slot δ)) (fields : List (Field δ)) : Prop where
  fits : List.Forall₂ Slot.Fits slots fields
  get_put : ∀ slot ∈ slots, ∀ a draft, slot.get (slot.put a draft) = some a
  apart : slots.Pairwise Slot.Apart

/-- Slots that get their values from the members: the only one with the name of the slot, or none
where the value is left out. -/
inductive Stores (members : List (String × Bytes)) : List (Slot δ) → δ → δ → Prop where
  | nil (draft : δ) : Stores members [] draft draft
  | cons {slot : Slot δ} {slots : List (Slot δ)} {value : Option slot.Value} {draft next result : δ}
      (isMissing : slot.get draft = none)
      (given : Given slot.language value (values slot.name members))
      (isNext : value.elim draft (slot.put · draft) = next)
      (others : Stores members slots next result) : Stores members (slot :: slots) draft result

theorem exists_fits (h : List.Forall₂ Slot.Fits slots fields) (hfield : field ∈ fields) :
    ∃ slot ∈ slots, slot.Fits field := by
  induction h with
  | nil => cases hfield
  | cons first _ ih =>
    rcases List.mem_cons.mp hfield with rfl | hlater
    · exact ⟨_, List.mem_cons_self, first⟩
    · obtain ⟨slot, hslot, hfits⟩ := ih hlater
      exact ⟨slot, List.mem_cons_of_mem _ hslot, hfits⟩

theorem names_eq (h : List.Forall₂ Slot.Fits slots fields) :
    fields.map (·.name) = slots.map (·.name) := by
  induction h with
  | nil => rfl
  | cons first _ ih => rw [List.map_cons, List.map_cons, first.name, ih]

theorem speak_language (hapart : slots.Pairwise Slot.Apart) : Speak slots (Language slots) := by
  intro slot hslot
  funext fill v
  refine propext ⟨?_, fun hfills => ⟨slot, hslot, rfl, hfills⟩⟩
  rintro ⟨other, hother, hname, hfills⟩
  by_cases hsame : other = slot
  · exact hsame ▸ hfills
  · exact absurd hname (hapart.forall hother hslot hsame).name_ne

/-- What is stored in slots is gathered from the members for the fields.  Both go through the fields
in their order, so the induction is on the slots and their fields together. -/
theorem Stores.gathers {members : List (String × Bytes)} {draft result : δ}
    (hstores : Stores members slots draft result) (hlanguage : Speak slots language)
    (hfits : List.Forall₂ Slot.Fits slots fields) :
    Form.Gathers language members fields draft result := by
  induction hstores generalizing fields with
  | nil draft =>
    cases hfits
    exact .nil draft
  | @cons slot slots value draft next result isMissing given isNext others ih =>
    cases hfits with
    | @cons _ field _ fields first hlater =>
      obtain ⟨hslot, hslots⟩ := List.forall_mem_cons.mp hlanguage
      have hothers : Form.Gathers language members fields next result := ih hslots hlater
      subst isNext
      rw [← first.name] at given hslot
      generalize hvalues : values field.name members = vs at given
      cases given with
      | missing => exact .missing hvalues hothers
      | @written a v ha =>
        have hunfilled : field.isFilled draft = false := by
          rw [first.isFilled, isMissing, Option.isSome_none]
        exact .present hunfilled hvalues (hslot ▸ ⟨a, ha, rfl⟩) hothers

namespace LayOut

variable (h : LayOut slots fields)
include h

theorem speak : Speak slots (Language slots) := speak_language h.apart

theorem apart_of_name_ne {s t : Slot δ} (hs : s ∈ slots) (ht : t ∈ slots) (hne : s.name ≠ t.name) :
    s.Apart t :=
  h.apart.forall hs ht fun hsame => hne (congrArg _ hsame)

section

variable (hlanguage : Speak slots language)
include hlanguage

theorem exists_slot (hfield : field ∈ fields) :
    ∃ slot ∈ slots, slot.Fits field ∧ language field.name = slot.Fills := by
  obtain ⟨slot, hslot, hfits⟩ := exists_fits h.fits hfield
  exact ⟨slot, hslot, hfits, hfits.name ▸ hlanguage slot hslot⟩

theorem speaks {form : Form δ α} (hfields : form.fields = fields) : form.Speaks language := by
  intro field hfield
  obtain ⟨slot, -, hfits, hfills⟩ := h.exists_slot hlanguage (hfields ▸ hfield)
  rw [hfills]
  exact hfits.recognizes

/-- Fields that fit slots which are apart from each other do not get in each other's way: filling
one neither fills another nor empties it, and two can be filled in either order. -/
theorem independent : Form.Independent language fields where
  nodup := by
    rw [names_eq h.fits]
    exact List.pairwise_map.mpr (h.apart.imp fun hapart => hapart.name_ne)
  filled := by
    intro field fill v hfield hfill draft
    obtain ⟨slot, hslot, hfits, hfills⟩ := h.exists_slot hlanguage hfield
    rw [hfills] at hfill
    obtain ⟨a, -, rfl⟩ := hfill
    rw [hfits.isFilled, h.get_put slot hslot, Option.isSome_some]
  kept := by
    intro field other fill v hfield hother hne hfill draft
    obtain ⟨slot, hslot, hfits, hfills⟩ := h.exists_slot hlanguage hfield
    obtain ⟨place, hplace, hothers, -⟩ := h.exists_slot hlanguage hother
    rw [hfills] at hfill
    obtain ⟨a, -, rfl⟩ := hfill
    rw [hfits.name, hothers.name] at hne
    rw [hothers.isFilled, hothers.isFilled, (h.apart_of_name_ne hslot hplace hne).get_put']
  commutes := by
    intro field other fill gill v u hfield hother hne hfill hgill draft
    obtain ⟨slot, hslot, hfits, hfills⟩ := h.exists_slot hlanguage hfield
    obtain ⟨place, hplace, hothers, hfills'⟩ := h.exists_slot hlanguage hother
    rw [hfills] at hfill
    rw [hfills'] at hgill
    obtain ⟨a, -, rfl⟩ := hfill
    obtain ⟨b, -, rfl⟩ := hgill
    rw [hfits.name, hothers.name] at hne
    exact (h.apart_of_name_ne hslot hplace hne).put_comm a b draft

end

/-- A form is filled in from an object whose members store what the draft holds; members that nobody
asked for do not matter where they are allowed.  This is all that is needed to show that a record
reads back from any way of writing it. -/
theorem writes {form : Form δ α} (hfields : form.fields = fields)
    (hallowed : form.refusesOthers = false) {members : List (String × Bytes)} {v : Bytes} {draft : δ}
    {a : α} (hv : IsObject members v) (hstores : Stores members slots form.blank draft)
    (hfinish : form.finish draft = .ok a) : form.Writes (Language slots) a v := by
  have hindependent : Form.Independent (Language slots) form.fields :=
    hfields ▸ h.independent h.speak
  have hgathers : Form.Gathers (Language slots) members form.fields form.blank draft :=
    hfields ▸ hstores.gathers h.speak h.fits
  refine .object hv ((Form.fills_iff hindependent hv.isValue_values).mpr ⟨hgathers, ?_⟩) hfinish
  exact fun _ _ => .inr hallowed

end LayOut

end Slots

end ClusterLicense.Json
