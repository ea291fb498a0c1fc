/-
  ClusterLicense/Proofs/License/Persisted.lean
  ============================================
  **Which octets a key in JSON is read from.**

  A form with one field and no others has to be filled in from an object with that
  one member, or from an array with one element (`Single`).  The persisted form is
  one such form inside another.  It ends with a bracket, so what is behind it makes
  no difference (`ofJsonStream_eq_ok_iff`).
-/
import ClusterLicense.License.Metadata
import ClusterLicense.Proofs.Json.Form
import ClusterLicense.Proofs.License.Envelope

namespace ClusterLicense.LicenseKey

open Json (Blanks Form IsArray IsObject IsValue Quotes Reader Recognizes Value isBlank)

/-! ### Values with one part -/

section

variable {α : Type} {name member : String} {read : Reader α} {language : α → Bytes → Prop}

/-- An object whose only member has the name, or an array with one element. -/
inductive Single (member : String) (language : α → Bytes → Prop) (a : α) : Bytes → Prop where
  | object {v s : Bytes} (hs : IsObject [(member, v)] s) (h : language a v) :
      Single member language a s
  | array {v s : Bytes} (hs : IsArray [v] s) (h : language a v) : Single member language a s

def OnlyValue (language : α → Bytes → Prop) (fill : Option α → Option α) (v : Bytes) : Prop :=
  ∃ a, language a v ∧ (fun _ => some a) = fill

theorem writes_singleForm_iff {a : α} {v : Bytes} :
    (singleForm name member read).Writes (fun _ => OnlyValue language) a v ↔
      Single member language a v := by
  constructor
  · rintro (⟨hv, hfills, hfinish⟩ | ⟨hv, hfills, hfinish⟩)
    · cases hfills with
      | nil => cases hfinish
      | cons first others =>
        cases first with
        | other unknown isAllowed => cases isAllowed
        | field hfound isMissing value =>
          obtain rfl := List.mem_singleton.mp (List.mem_of_find?_eq_some hfound)
          obtain rfl := Form.name_of_find? hfound
          obtain ⟨b, hb, rfl⟩ := value
          cases others with
          | nil =>
            cases hfinish
            exact .object hv hb
          | cons second =>
            -- The field is filled, and no other name is allowed.
            cases second with
            | other unknown isAllowed => cases isAllowed
            | field hfound isMissing =>
              obtain rfl := List.mem_singleton.mp (List.mem_of_find?_eq_some hfound)
              cases isMissing
    · cases hfills with
      | absent leaves => cases leaves
      | value first others =>
        obtain ⟨b, hb, rfl⟩ := first
        cases others
        cases hfinish
        exact .array hv hb
  · rintro (⟨hv, ha⟩ | ⟨hv, ha⟩)
    · have hfound : (singleForm name member read).fields.find? (·.name == member) =
          (singleForm name member read).fields.head? := by
        apply List.find?_cons_of_pos
        exact beq_self_eq_true member
      exact .object hv (.cons (.field hfound rfl ⟨a, ha, rfl⟩) (.nil _)) rfl
    · have hvalue : OnlyValue language _ _ := ⟨a, ha, rfl⟩
      exact .array hv (.value hvalue (.nil _)) rfl

/-- A form with a single field reads an object with the one member or an array with the one element,
and stops behind it. -/
theorem singleForm_read_eq_ok_iff (h : Recognizes read language) {s rest : Bytes} {a : α} :
    (singleForm name member read).read s = .ok (a, rest) ↔
      ∃ w v, Blanks w ∧ Single member language a v ∧ s = w ++ (v ++ rest) := by
  have hspeaks : (singleForm name member read).Speaks
      fun _ => OnlyValue language := by
    intro field hfield
    obtain rfl := List.mem_singleton.mp hfield
    exact h.bind_pure fun a (_ : Option α) => some a
  simp only [Form.read_eq_ok_iff hspeaks, writes_singleForm_iff]

theorem recognizes_singleForm (h : Recognizes read language) :
    Recognizes (singleForm name member read).read (Single member language) where
  isValue := by
    rintro a v (⟨hs, -⟩ | ⟨hs, -⟩)
    · exact hs.isValue
    · exact hs.isValue
  sound hread := (singleForm_read_eq_ok_iff h).mp hread
  complete hw hv _ := (singleForm_read_eq_ok_iff h).mpr ⟨_, _, hw, hv, rfl⟩

end

/-! ### Keys -/

/-- The text of a key in JSON. -/
def IsPersisted : String → Bytes → Prop := Single licenseMember (Single keyMember Quotes)

theorem recognizes_persistedForm : Recognizes persistedForm.read IsPersisted :=
  recognizes_singleForm (recognizes_singleForm (Json.recognizes_text "a string"))

/-- A license in JSON is two such forms, one inside the other, and what is inside the second is the
text of the key. -/
theorem persistedForm_read_eq_ok_iff {s rest : Bytes} {text : String} :
    persistedForm.read s = .ok (text, rest) ↔
      ∃ w v, Blanks w ∧ IsPersisted text v ∧ s = w ++ (v ++ rest) :=
  singleForm_read_eq_ok_iff (recognizes_singleForm (Json.recognizes_text "a string"))

variable {input rest : Bytes} {key : LicenseKey}

/-- Nothing but blanks is refused beforehand, and would not be read either. -/
theorem persistedForm_read_of_blank (h : input.all isBlank = true) (text : String) :
    persistedForm.read input ≠ .ok (text, rest) := by
  intro hread
  obtain ⟨w, v, -, hv, rfl⟩ := persistedForm_read_eq_ok_iff.mp hread
  obtain ⟨b, octets, rfl, hb⟩ := (recognizes_persistedForm.isValue hv).cons
  have hblank : isBlank b = true := List.all_eq_true.mp h b (by simp)
  rw [Json.not_isBlank_of_not_isDelimiter hb] at hblank
  cases hblank

/-- **A key is read from an object that tells its text**, with blanks before it and anything behind
it. -/
theorem ofJsonStream_eq_ok_iff :
    ofJsonStream input = .ok (key, rest) ↔
      ∃ w v text, Blanks w ∧ IsPersisted text v ∧ ofText text = .ok key ∧
        input = w ++ (v ++ rest) := by
  have hform : ofJsonStream input = .ok (key, rest) ↔
      ∃ text, persistedForm.read input = .ok (text, rest) ∧ ofText text = .ok key := by
    unfold ofJsonStream
    split_ifs with hblank
    · have hnone (text : String) : persistedForm.read input ≠ .ok (text, rest) :=
        persistedForm_read_of_blank hblank text
      simp [hnone]
    · cases hread : persistedForm.read input with
      | error fault => simp
      | ok found =>
        obtain ⟨text, after⟩ := found
        cases htext : ofText text with
        | error cause => simp [htext]
        | ok found => simp [htext, and_comm]
  rw [hform]
  simp only [persistedForm_read_eq_ok_iff]
  constructor
  · rintro ⟨text, ⟨w, v, hw, hv, rfl⟩, htext⟩
    exact ⟨w, v, text, hw, hv, htext, rfl⟩
  · rintro ⟨w, v, text, hw, hv, htext, rfl⟩
    exact ⟨text, ⟨w, v, hw, hv, rfl⟩, htext⟩

end ClusterLicense.LicenseKey
