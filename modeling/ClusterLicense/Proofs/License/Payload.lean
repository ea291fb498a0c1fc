/-
  ClusterLicense/Proofs/License/Payload.lean
  ==========================================
  **Which octets a record is read from.**

  Each field has its own place in the draft (`layOut_slots`), so the members of a
  payload may stand in any order; each field of the record has exactly one member,
  apart from a signature that is missing, and the members with other names are run
  through (`Describes`).  An array does as well, with its elements in the order of the
  fields (`Lists`).  Around the object or the array there may be blanks, and nothing
  else (`parse_eq_ok_iff`).
-/
import ClusterLicense.License.Record
import ClusterLicense.Proofs.Json.Slots

namespace ClusterLicense.LicenseRecord

open Json (Blanks Form IsArray IsObject OrNull Quotes Slot Slots.LayOut Slots.Speak values)

/-! ### Fields -/

/-- What the fields are written with, and how each value changes the draft. -/
def FieldValue (name : String) (fill : Draft → Draft) (v : Bytes) : Prop :=
  if name = expirationMember then
    ∃ expiration : Int64, v = Decimal.ofInt expiration.toInt ∧
      (fun draft => { draft with expiration := some expiration }) = fill
  else if name = issuedToMember then
    ∃ issuedTo, Quotes issuedTo v ∧
      (fun draft => { draft with issuedTo := some issuedTo }) = fill
  else
    ∃ signature, OrNull Quotes signature v ∧
      (fun draft => { draft with signature := some signature }) = fill

def expirationSlot : Slot Draft where
  name := expirationMember
  Value := Int64
  get := (·.expiration)
  put expiration draft := { draft with expiration := some expiration }
  language expiration v := v = Decimal.ofInt expiration.toInt

def issuedToSlot : Slot Draft where
  name := issuedToMember
  Value := String
  get := (·.issuedTo)
  put issuedTo draft := { draft with issuedTo := some issuedTo }
  language := Quotes

def signatureSlot : Slot Draft where
  name := signatureMember
  Value := Option String
  get := (·.signature)
  put signature draft := { draft with signature := some signature }
  language := OrNull Quotes

def slots : List (Slot Draft) := [expirationSlot, issuedToSlot, signatureSlot]

/-- The three fields of a record have a place in the draft each, and filling one place leaves the
others alone.  All that is known about the order of members comes from this. -/
theorem layOut_slots : Slots.LayOut slots form.fields where
  fits := by
    have hexpiration := Json.recognizes_int64.bind_pure expirationSlot.put
    have hissuedTo := (Json.recognizes_text "a string").bind_pure issuedToSlot.put
    have hsignature := ((Json.recognizes_text "a string").optional
      fun _ _ => Json.head?_quotes).bind_pure signatureSlot.put
    exact .cons ⟨rfl, fun _ => rfl, hexpiration⟩ (.cons ⟨rfl, fun _ => rfl, hissuedTo⟩
      (.cons ⟨rfl, fun _ => rfl, hsignature⟩ .nil))
  get_put := by simp [slots, expirationSlot, issuedToSlot, signatureSlot]
  apart := by
    refine .cons (List.forall_mem_cons.mpr ⟨?_, List.forall_mem_singleton.mpr ?_⟩)
      (List.pairwise_pair.mpr ?_)
    all_goals exact ⟨by decide, fun _ _ => rfl, fun _ _ => rfl, fun _ _ _ => rfl⟩

theorem speak_fieldValue : Slots.Speak slots FieldValue :=
  List.forall_mem_cons.mpr ⟨rfl, List.forall_mem_cons.mpr ⟨rfl, List.forall_mem_singleton.mpr rfl⟩⟩

theorem speaks_form : form.Speaks FieldValue := layOut_slots.speaks speak_fieldValue rfl

theorem independent_fields : Form.Independent FieldValue form.fields :=
  layOut_slots.independent speak_fieldValue

/-! ### Members -/

inductive SignatureValues : Option String → List Bytes → Prop where
  | missing : SignatureValues none []
  | written {signature : Option String} {v : Bytes} (h : OrNull Quotes signature v) :
      SignatureValues signature [v]

/-- The members tell what the record says: once each, in any spelling.  Other members may stand
among them. -/
structure Describes (members : List (String × Bytes)) (record : LicenseRecord) : Prop where
  expiration : values expirationMember members = [Decimal.ofInt record.expiration.toInt]
  issuedTo : ∃ v, Quotes record.issuedTo v ∧ values issuedToMember members = [v]
  signature : SignatureValues record.signature (values signatureMember members)

theorem finish_eq_ok_iff {draft : Draft} {record : LicenseRecord} :
    form.finish draft = .ok record ↔ draft.expiration = some record.expiration ∧
      draft.issuedTo = some record.issuedTo ∧ draft.signature.join = record.signature := by
  obtain ⟨expiration, issuedTo, signature⟩ := draft
  obtain ⟨_, _, _⟩ := record
  cases expiration with
  | none => simp [form]
  | some expiration =>
    cases issuedTo with
    | none => simp [form]
    | some issuedTo => simp [form]

theorem signature_of_gathers {members : List (String × Bytes)} {draft result : Draft}
    (hdraft : draft.signature = none)
    (h : Form.Gathers FieldValue members (form.fields.drop 2) draft result) :
    result.expiration = draft.expiration ∧ result.issuedTo = draft.issuedTo ∧
      SignatureValues result.signature.join (values signatureMember members) := by
  cases h with
  | missing none others =>
    cases others
    rw [hdraft]
    exact ⟨rfl, rfl, none ▸ .missing⟩
  | present isMissing only value others =>
    obtain ⟨signature, hsignature, rfl⟩ := value
    cases others
    exact ⟨rfl, rfl, only ▸ .written hsignature⟩

/-- Members describe a record exactly if gathering them, field by field, gives a draft that can be
finished as the record.  The signature may be missing, and the other two may not. -/
theorem describes_iff {members : List (String × Bytes)} {record : LicenseRecord} :
    Describes members record ↔ ∃ draft,
      Form.Gathers FieldValue members form.fields form.blank draft ∧
        form.finish draft = .ok record := by
  constructor
  · rintro ⟨hexpiration, ⟨v, hv, hissuedTo⟩, hsignature⟩
    obtain ⟨draft, hlast, hfinish⟩ : ∃ draft, Form.Gathers FieldValue members
        (form.fields.drop 2) ⟨some record.expiration, some record.issuedTo, none⟩ draft ∧
          form.finish draft = .ok record := by
      generalize hmembers : values signatureMember members = vs at hsignature
      obtain ⟨expiration, issuedTo, signature⟩ := record
      cases hsignature with
      | missing => exact ⟨_, .missing hmembers (.nil _), rfl⟩
      | written h => exact ⟨_, .present rfl hmembers ⟨_, h, rfl⟩ (.nil _), rfl⟩
    exact ⟨draft, .present rfl hexpiration ⟨_, rfl, rfl⟩
      (.present rfl hissuedTo ⟨_, hv, rfl⟩ hlast), hfinish⟩
  · rintro ⟨draft, hgathers, hfinish⟩
    obtain ⟨hexpiration, hissuedTo, hsignature⟩ := finish_eq_ok_iff.mp hfinish
    cases hgathers with
    | missing none others =>
      -- Nothing but the first field fills in the expiration.
      exfalso
      cases others with
      | missing none others =>
        rw [(signature_of_gathers rfl others).1] at hexpiration
        cases hexpiration
      | present isMissing only value others =>
        obtain ⟨_, -, rfl⟩ := value
        rw [(signature_of_gathers rfl others).1] at hexpiration
        cases hexpiration
    | present isMissing onlyExpiration value others =>
      obtain ⟨expiration, rfl, rfl⟩ := value
      cases others with
      | missing none others =>
        rw [(signature_of_gathers rfl others).2.1] at hissuedTo
        cases hissuedTo
      | present isMissing onlyHolder value others =>
        obtain ⟨holder, hholder, rfl⟩ := value
        obtain ⟨hsameExpiration, hsameHolder, hwritten⟩ := signature_of_gathers rfl others
        rw [hsameExpiration] at hexpiration
        rw [hsameHolder] at hissuedTo
        rw [hsignature] at hwritten
        obtain rfl := Option.some.inj hexpiration
        obtain rfl := Option.some.inj hissuedTo
        exact ⟨onlyExpiration, ⟨_, hholder, onlyHolder⟩, hwritten⟩

/-! ### Elements -/

/-- The elements tell what the record says, in the order of the fields. -/
def Lists (elements : List Bytes) (record : LicenseRecord) : Prop :=
  ∃ v vs, elements = Decimal.ofInt record.expiration.toInt :: v :: vs ∧
    Quotes record.issuedTo v ∧ SignatureValues record.signature vs

/-- The same for an array: the elements are given to the fields in their order, and a missing third
one is no signature. -/
theorem lists_iff {elements : List Bytes} {record : LicenseRecord} :
    Lists elements record ↔ ∃ draft,
      Form.FillsInOrder FieldValue form.fields form.blank elements draft ∧
        form.finish draft = .ok record := by
  constructor
  · rintro ⟨v, vs, rfl, hv, hsignature⟩
    obtain ⟨expiration, issuedTo, signature⟩ := record
    have hexpiration : FieldValue expirationMember _ (Decimal.ofInt expiration.toInt) :=
      ⟨expiration, rfl, rfl⟩
    have hissuedTo : FieldValue issuedToMember _ v := ⟨issuedTo, hv, rfl⟩
    cases hsignature with
    | missing =>
      exact ⟨_, .value hexpiration (.value hissuedTo (.absent rfl (.nil _))), rfl⟩
    | written h =>
      have hsignature : FieldValue signatureMember _ _ := ⟨signature, h, rfl⟩
      exact ⟨_, .value hexpiration (.value hissuedTo (.value hsignature (.nil _))), rfl⟩
  · rintro ⟨draft, hfills, hfinish⟩
    cases hfills with
    | absent leaves => cases leaves
    | value first others =>
      obtain ⟨expiration, rfl, rfl⟩ := first
      cases others with
      | absent leaves => cases leaves
      | value second others =>
        obtain ⟨issuedTo, hissuedTo, rfl⟩ := second
        cases others with
        | absent leaves others =>
          cases leaves
          cases others
          cases hfinish
          exact ⟨_, _, rfl, hissuedTo, .missing⟩
        | value third others =>
          obtain ⟨signature, hsignature, rfl⟩ := third
          cases others
          cases hfinish
          exact ⟨_, _, rfl, hissuedTo, .written hsignature⟩

/-! ### Payloads -/

/-- What a record is read from: an object or an array that tells what it says. -/
def IsPayload (record : LicenseRecord) (v : Bytes) : Prop :=
  (∃ members, IsObject members v ∧ Describes members record) ∨
    ∃ elements, IsArray elements v ∧ Lists elements record

theorem writes_iff {record : LicenseRecord} {v : Bytes} :
    form.Writes FieldValue record v ↔ IsPayload record v := by
  have hfills {members : List (String × Bytes)} {draft : Draft} (h : IsObject members v) :
      form.Fills FieldValue form.blank members draft ↔
        Form.Gathers FieldValue members form.fields form.blank draft := by
    rw [Form.fills_iff independent_fields h.isValue_values]
    exact and_iff_left fun _ _ => .inr rfl
  constructor
  · rintro (⟨hv, h, hfinish⟩ | ⟨hv, h, hfinish⟩)
    · exact .inl ⟨_, hv, describes_iff.mpr ⟨_, (hfills hv).mp h, hfinish⟩⟩
    · exact .inr ⟨_, hv, lists_iff.mpr ⟨_, h, hfinish⟩⟩
  · rintro (⟨members, hv, h⟩ | ⟨elements, hv, h⟩)
    · obtain ⟨draft, hgathers, hfinish⟩ := describes_iff.mp h
      exact .object hv ((hfills hv).mpr hgathers) hfinish
    · obtain ⟨draft, hinOrder, hfinish⟩ := lists_iff.mp h
      exact .array hv hinOrder hfinish

/-- A payload is parsed as a record exactly if it is a value that tells what the record says, with
blanks on both sides and nothing else. -/
theorem parse_eq_ok_iff {payload : Bytes} {record : LicenseRecord} :
    parse payload = .ok record ↔
      ∃ w v u, Blanks w ∧ IsPayload record v ∧ Blanks u ∧ payload = w ++ (v ++ u) := by
  simp only [← writes_iff]
  rw [← (Form.recognizes_read speaks_form).whole_eq_ok_iff, parse]
  cases form.read.whole payload with
  | ok found => simp
  | error fault => simp

/-- The octets are an object that tells what the record says, with blanks around it. -/
def Tells (payload : Bytes) (record : LicenseRecord) : Prop :=
  ∃ w v u members, Blanks w ∧ Blanks u ∧ IsObject members v ∧ Describes members record ∧
    payload = w ++ (v ++ u)

theorem parse_of_tells {payload : Bytes} {record : LicenseRecord} (h : Tells payload record) :
    parse payload = .ok record := by
  obtain ⟨w, v, u, members, hw, hu, hv, hdescribes, rfl⟩ := h
  exact parse_eq_ok_iff.mpr ⟨w, v, u, hw, .inl ⟨members, hv, hdescribes⟩, hu, rfl⟩

theorem parse_eq_error {payload : Bytes} {cause : LicenseError} (h : parse payload = .error cause) :
    ∃ detail, cause = .parse detail := by
  unfold parse at h
  split at h
  · cases h
  · exact ⟨_, (Except.error.inj h).symm⟩

end ClusterLicense.LicenseRecord
