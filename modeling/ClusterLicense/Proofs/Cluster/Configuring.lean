/-
  ClusterLicense/Proofs/Cluster/Configuring.lean
  ==============================================
  **A configuration in JSON overlays the defaults.**

  A node may be told any part of its configuration, and any part of the thresholds in
  it (`Overlay`).  What it is told replaces the default, and everything else keeps it
  (`Overlay.over`).  Only the outcome is checked, so a part that is in order for
  itself is refused where it does not go with a default that it leaves alone.

  A text tells what its members describe, in any order and spelling, and members with
  other names do not matter (`Tells`).  The compact form of a configuration tells all
  of it, so nothing but the check stands between a configuration and its own text.
-/
import ClusterLicense.Cluster.Config
import ClusterLicense.Proofs.Json.Slots

namespace ClusterLicense

open Json (Blanks Form Given IsObject OrNull Quotes Slot Slots.LayOut Slots.Stores Value values)

/-! ### Thresholds -/

namespace ExpiryThresholds

variable {given : Draft}

def IsWritten (n : Int64) (v : Bytes) : Prop := v = Decimal.ofInt n.toInt

def moderateSlot : Slot Draft where
  name := moderateMember
  Value := Int64
  get := (·.moderate)
  put moderate draft := { draft with moderate := some moderate }
  language := IsWritten

def severeSlot : Slot Draft where
  name := severeMember
  Value := Int64
  get := (·.severe)
  put severe draft := { draft with severe := some severe }
  language := IsWritten

def slots : List (Slot Draft) := [moderateSlot, severeSlot]

/-- The two thresholds have a place each, and filling one leaves the other as it is or as the
default has it. -/
theorem layOut_slots : Slots.LayOut slots form.fields where
  fits := by
    have hread {put : Int64 → Draft → Draft} := Json.recognizes_int64.bind_pure put
    exact .cons ⟨rfl, fun _ => rfl, hread⟩ (.cons ⟨rfl, fun _ => rfl, hread⟩ .nil)
  get_put := by simp [slots, moderateSlot, severeSlot]
  apart := List.pairwise_pair.mpr
    ⟨by decide, fun _ _ => rfl, fun _ _ => rfl, fun _ _ _ => rfl⟩

def Draft.over (given : Draft) (thresholds : ExpiryThresholds) : ExpiryThresholds :=
  ⟨given.moderate.getD thresholds.moderate, given.severe.getD thresholds.severe⟩

/-- The members describe what is given of the thresholds: each once, or not at all.  Other members
may stand among them. -/
structure Describes (members : List (String × Bytes)) (given : Draft) : Prop where
  moderate : Given IsWritten given.moderate (values moderateMember members)
  severe : Given IsWritten given.severe (values severeMember members)

/-- The octets are an object that describes what is given of the thresholds. -/
def Draft.IsWrittenAs (given : Draft) (v : Bytes) : Prop :=
  ∃ members, IsObject members v ∧ Describes members given

/-- Members for a part of the thresholds fill in that part over the defaults, whatever else stands
among them. -/
theorem writes_of_isWrittenAs {v : Bytes} (h : given.IsWrittenAs v) :
    form.Writes (Json.Slots.Language slots) (given.over default) v := by
  obtain ⟨members, hv, hmoderate, hsevere⟩ := h
  obtain ⟨moderate, severe⟩ := given
  have hstores : Slots.Stores members slots form.blank ⟨moderate, severe⟩ := by
    refine .cons rfl hmoderate (?_ : _ = ⟨moderate, none⟩) (.cons rfl hsevere ?_ (.nil _))
    · cases moderate <;> rfl
    · cases severe <;> rfl
  exact layOut_slots.writes rfl rfl hv hstores rfl

def Draft.members (given : Draft) : List (String × Value) :=
  Value.member? moderateMember (fun n => .integer n.toInt) given.moderate ++
    Value.member? severeMember (fun n => .integer n.toInt) given.severe

theorem describes_of_perm {members : List (String × Value)} (h : members.Perm given.members) :
    Describes (members.map Value.written) given := by
  have hwrite (n : Int64) : IsWritten n (Value.integer n.toInt).compact := rfl
  refine ⟨Json.given_of_perm (fun n => .integer n.toInt) (fun n _ => hwrite n) h ?_,
    Json.given_of_perm (fun n => .integer n.toInt) (fun n _ => hwrite n) h ?_⟩
  all_goals
    simp (disch := decide) only [Draft.members, List.map_append, Json.values_append,
      Json.values_member?_self, Json.values_member?_of_ne, List.append_nil, List.nil_append]

theorem isWrittenAs_of_perm {members : List (String × Value)} (h : members.Perm given.members) :
    given.IsWrittenAs (Value.object members).compact :=
  ⟨_, Value.isObject_compact members, describes_of_perm h⟩

end ExpiryThresholds

/-! ### Configurations -/

namespace LicensingConfig

structure Overlay where
  passphrase : Option String
  /-- The file, if its member is given; the member may be null. -/
  publicKeyPath : Option (Option String)
  expiry : Option ExpiryThresholds.Draft

variable {given : Overlay} {config : LicensingConfig} {text : String}

def Overlay.over (given : Overlay) (config : LicensingConfig) : LicensingConfig where
  passphrase := given.passphrase.getD config.passphrase
  publicKeyPath := given.publicKeyPath.getD config.publicKeyPath
  expiry := given.expiry.elim config.expiry (·.over config.expiry)

/-! #### Reading -/

def passphraseSlot : Slot Draft where
  name := passphraseMember
  Value := String
  get := (·.passphrase)
  put passphrase draft := { draft with passphrase := some passphrase }
  language := Quotes

def publicKeyPathSlot : Slot Draft where
  name := publicKeyPathMember
  Value := Option String
  get := (·.publicKeyPath)
  put path draft := { draft with publicKeyPath := some path }
  language := OrNull Quotes

def expirySlot : Slot Draft where
  name := expiryMember
  Value := ExpiryThresholds
  get := (·.expiry)
  put expiry draft := { draft with expiry := some expiry }
  language := ExpiryThresholds.form.Writes (Json.Slots.Language ExpiryThresholds.slots)

def slots : List (Slot Draft) := [passphraseSlot, publicKeyPathSlot, expirySlot]

theorem layOut_slots : Slots.LayOut slots form.fields where
  fits := by
    have hpassphrase := (Json.recognizes_text "a string").bind_pure passphraseSlot.put
    have hpath := ((Json.recognizes_text "path string").optional
      fun _ _ => Json.head?_quotes).bind_pure publicKeyPathSlot.put
    have hexpiry := (Form.recognizes_read
      (ExpiryThresholds.layOut_slots.speaks ExpiryThresholds.layOut_slots.speak rfl)).bind_pure
        expirySlot.put
    exact .cons ⟨rfl, fun _ => rfl, hpassphrase⟩ (.cons ⟨rfl, fun _ => rfl, hpath⟩
      (.cons ⟨rfl, fun _ => rfl, hexpiry⟩ .nil))
  get_put := by simp [slots, passphraseSlot, publicKeyPathSlot, expirySlot]
  apart := by
    refine .cons (List.forall_mem_cons.mpr ⟨?_, List.forall_mem_singleton.mpr ?_⟩)
      (List.pairwise_pair.mpr ?_)
    all_goals exact ⟨by decide, fun _ _ => rfl, fun _ _ => rfl, fun _ _ _ => rfl⟩

/-- The members describe what is given: each of it once, and nothing else of the configuration.
Other members may stand among them. -/
structure Describes (members : List (String × Bytes)) (given : Overlay) : Prop where
  passphrase : Given Quotes given.passphrase (values passphraseMember members)
  publicKeyPath : Given (OrNull Quotes) given.publicKeyPath (values publicKeyPathMember members)
  expiry : Given ExpiryThresholds.Draft.IsWrittenAs given.expiry (values expiryMember members)

/-- The same one level up, where the thresholds are themselves the value of a member: what is given
of them is put over the thresholds of the default. -/
theorem writes_of_describes {members : List (String × Bytes)} {v : Bytes}
    (hv : IsObject members v) (h : Describes members given) :
    form.Writes (Json.Slots.Language slots) (given.over default) v := by
  obtain ⟨passphrase, path, expiry⟩ := given
  obtain ⟨hpassphrase, hpath, hgiven⟩ := h
  -- What is stored are whole thresholds, with the defaults for what is not given of them.
  have hexpiry := hgiven.map (·.over .default) fun _ _ => ExpiryThresholds.writes_of_isWrittenAs
  have hstores : Slots.Stores members slots form.blank
      ⟨passphrase, path, expiry.map (·.over .default)⟩ := by
    refine .cons rfl hpassphrase (?_ : _ = ⟨passphrase, none, none⟩)
      (.cons rfl hpath (?_ : _ = ⟨passphrase, path, none⟩) (.cons rfl hexpiry ?_ (.nil _)))
    · cases passphrase <;> rfl
    · cases path <;> rfl
    · cases expiry <;> rfl
  refine layOut_slots.writes rfl rfl hv hstores ?_
  cases expiry <;> rfl

/-- The text is an object that describes what is given, with blanks around it. -/
def Tells (text : String) (given : Overlay) : Prop :=
  ∃ w v u members, Blanks w ∧ Blanks u ∧ IsObject members v ∧ Describes members given ∧
    Utf8.encode text = w ++ (v ++ u)

/-- A text that tells a part of a configuration is read as the default with this part replaced.
Nothing has been checked at this point. -/
theorem read_of_tells (h : Tells text given) :
    form.read.whole (Utf8.encode text) = .ok (given.over default) := by
  obtain ⟨w, v, u, members, hw, hu, hv, hdescribes, htext⟩ := h
  have hspeaks : form.Speaks (Json.Slots.Language slots) :=
    layOut_slots.speaks layOut_slots.speak rfl
  have hrecognizes := Form.recognizes_read hspeaks
  exact hrecognizes.whole_eq_ok_iff.mpr ⟨w, v, u, hw, writes_of_describes hv hdescribes, hu, htext⟩

/-! #### Checking -/

/-- What is asked of a configuration. -/
structure IsSound (config : LicensingConfig) : Prop where
  /-- The passphrase counts in octets, not in characters. -/
  passphrase : (Utf8.encode config.passphrase).length = 16
  severe : 0 ≤ config.expiry.severe
  moderate : config.expiry.severe ≤ config.expiry.moderate

/-- The check passes exactly the sound configurations: a passphrase with octets enough, if there is
one, and thresholds in order. -/
theorem validate_eq_ok_iff : config.validate = .ok () ↔ config.IsSound := by
  unfold validate
  simp only [refuse_if_eq_ok_iff, not_not, and_true]
  constructor
  · rintro ⟨hpassphrase, hsevere, hmoderate⟩
    exact ⟨hpassphrase, hsevere, hmoderate⟩
  · rintro ⟨hpassphrase, hsevere, hmoderate⟩
    exact ⟨hpassphrase, hsevere, hmoderate⟩

/-- A configuration is refused for itself, whichever of the two checks it does not pass.  The error
is of one kind, so that a caller can tell it from a text that cannot be read. -/
theorem validate_eq_ok_or (config : LicensingConfig) :
    config.validate = .ok () ∨ ∃ detail, config.validate = .error (.config detail) := by
  by_cases hlength : (Utf8.encode config.passphrase).length ≠ SymmetricKey.size
  · exact .inr ⟨_, if_pos hlength⟩
  by_cases hinvalid : ¬ config.expiry.IsValid
  · exact .inr ⟨_, (if_neg hlength).trans (if_pos hinvalid)⟩
  · exact .inl ((if_neg hlength).trans (if_neg hinvalid))

theorem validate_of_not_isSound (h : ¬ config.IsSound) :
    ∃ detail, config.validate = .error (.config detail) :=
  config.validate_eq_ok_or.resolve_left (mt validate_eq_ok_iff.mp h)

/-- Whatever was read is checked once more as a whole, also what came from the defaults. -/
theorem ofJson_of_read (h : form.read.whole (Utf8.encode text) = .ok config) :
    ofJson text = config.validate >>= fun _ => .ok config := by
  simp only [ofJson, h]
  rfl

/-! #### Writing -/

/-- The members for what is given, in the order of the fields; `expiry` are those of the
thresholds. -/
def Overlay.members (given : Overlay) (expiry : List (String × Value)) :
    List (String × Value) :=
  Value.member? passphraseMember .string given.passphrase ++
    (Value.member? publicKeyPathMember .ofOption given.publicKeyPath ++
      Value.member? expiryMember (fun _ => .object expiry) given.expiry)

/-- The members are those for what is given, in any order, also within the thresholds. -/
def Lists (members : List (String × Value)) (given : Overlay) : Prop :=
  ∃ expiry, (∀ part ∈ given.expiry, expiry.Perm part.members) ∧ members.Perm (given.members expiry)

theorem describes_of_lists {members : List (String × Value)} (h : Lists members given) :
    Describes (members.map Value.written) given := by
  obtain ⟨expiry, hexpiry, hmembers⟩ := h
  have hpath (path : Option String) : OrNull Quotes path (Value.ofOption path).compact := by
    cases path with
    | none => exact .null
    | some path => exact .value (Json.quotes_quoted path)
  have hpart : ∀ part ∈ given.expiry, part.IsWrittenAs (Value.object expiry).compact :=
    fun part hpart => ExpiryThresholds.isWrittenAs_of_perm (hexpiry part hpart)
  refine ⟨Json.given_of_perm .string (fun _ _ => Json.quotes_quoted _) hmembers ?_,
    Json.given_of_perm .ofOption (fun path _ => hpath path) hmembers ?_,
    Json.given_of_perm (fun _ => .object expiry) hpart hmembers ?_⟩
  all_goals
    simp (disch := decide) only [Overlay.members, List.map_append, Json.values_append,
      Json.values_member?_self, Json.values_member?_of_ne, List.append_nil, List.nil_append]

theorem tells_of_lists {members : List (String × Value)} (h : Lists members given)
    (htext : Utf8.encode text = (Value.object members).compact) : Tells text given := by
  refine ⟨[], _, [], _, Json.blanks_nil, Json.blanks_nil, Value.isObject_compact members,
    describes_of_lists h, ?_⟩
  rw [htext, List.nil_append, List.append_nil]

def whole (config : LicensingConfig) : Overlay :=
  ⟨some config.passphrase, some config.publicKeyPath,
    some ⟨some config.expiry.moderate, some config.expiry.severe⟩⟩

theorem tells_whole (htext : Utf8.encode text = config.json.compact) : Tells text config.whole := by
  refine tells_of_lists ⟨_, ?_, .refl _⟩ htext
  rintro part ⟨⟩
  exact .refl _

/-! #### Overlaying -/

theorem ofJson_of_tells (h : Tells text given) :
    ofJson text = (given.over default).validate >>= fun _ => .ok (given.over default) :=
  ofJson_of_read (read_of_tells h)

/-- **A configuration in JSON overlays the defaults.**  Whatever part of the configuration is given,
with whatever values, there is a text for it in every order of the members; and each text that tells
it, in any order and spelling, gives the defaults with that part replaced, if the outcome is sound,
and is refused as a configuration if it is not.  So a configuration is read back from its own text
if and only if it passes its check. -/
theorem ofJson_overlays_defaults :
    (∀ given members, Lists members given →
      ∃ text, Utf8.encode text = (Value.object members).compact ∧ Tells text given) ∧
    (∀ given text, Tells text given →
      ((given.over default).IsSound → ofJson text = .ok (given.over default)) ∧
      (¬ (given.over default).IsSound → ∃ detail, ofJson text = .error (.config detail))) ∧
    ∀ config : LicensingConfig, ∃ text, Utf8.encode text = config.json.compact ∧
      (ofJson text = .ok config ↔ config.validate = .ok ()) := by
  refine ⟨?_, ?_, ?_⟩
  · intro given members hlists
    obtain ⟨text, htext⟩ := (Value.object members).isText_compact
    exact ⟨text, htext.symm, tells_of_lists hlists htext.symm⟩
  · intro given text htells
    rw [ofJson_of_tells htells]
    constructor
    · intro hsound
      rw [validate_eq_ok_iff.mpr hsound, ok_bind]
    · intro hunsound
      obtain ⟨detail, hrefused⟩ := validate_of_not_isSound hunsound
      exact ⟨detail, by rw [hrefused, error_bind]⟩
  · intro config
    obtain ⟨text, htext⟩ := config.json.isText_compact
    refine ⟨text, htext.symm, ?_⟩
    have hwhole : config.whole.over default = config := rfl
    rw [ofJson_of_tells (tells_whole htext.symm), hwhole, bind_eq_ok_iff]
    exact ⟨fun ⟨_, hvalid, _⟩ => hvalid, fun hvalid => ⟨(), hvalid, rfl⟩⟩

/-! #### Parts of a configuration -/

/-- A passphrase of 15 characters, one of them in two octets, and a threshold that goes with the
default of the other. -/
def soundPart : Overlay := ⟨some "0123456789abcdé", none, some ⟨some 172800000, none⟩⟩

def soundMembers : List (String × Value) :=
  [(expiryMember, .object [(ExpiryThresholds.moderateMember, .integer 172800000)]),
    (passphraseMember, .string "0123456789abcdé")]

def soundText : String :=
  "\x7b\"expiry\":\x7b\"moderate_ms\":172800000\x7d,\"passphrase\":\"0123456789abcdé\"\x7d"

theorem lists_soundMembers : Lists soundMembers soundPart := by
  refine ⟨_, ?_, .swap _ _ []⟩
  rintro part ⟨⟩
  exact .refl _

def crossedPart : Overlay := ⟨none, none, some ⟨some 1000, none⟩⟩

def crossedText : String := "\x7b \"expiry\": \x7b\"moderate_ms\":1000\x7d \x7d"

theorem tells_crossedText : Tells crossedText crossedPart := by
  have hspace : Blanks [32] := Json.blanks_singleton rfl
  have hname (name : String) := Json.quotes_quoted name
  have hpart : IsObject [(ExpiryThresholds.moderateMember, Decimal.ofInt 1000)] _ :=
    ⟨_, .item .first (.intro Json.blanks_nil (hname _) Json.blanks_nil Json.blanks_nil
      (Value.isValue_compact (.integer 1000))) (.close Json.blanks_nil), rfl⟩
  have hobject : IsObject [(expiryMember, _)] _ :=
    ⟨_, .item .first (.intro hspace (hname _) Json.blanks_nil hspace hpart.isValue)
      (.close hspace), rfl⟩
  have hthresholds : ExpiryThresholds.Draft.IsWrittenAs ⟨some 1000, none⟩ _ :=
    ⟨_, hpart, .written rfl, .missing⟩
  exact ⟨[], _, [], _, Json.blanks_nil, Json.blanks_nil, hobject,
    ⟨.missing, .missing, .written hthresholds⟩, by decide +kernel⟩

/-- One part that goes with the defaults, one that does not, and a configuration that is not read
back. -/
theorem ofJson_overlays_defaults_parts :
    (Lists soundMembers soundPart ∧ Tells soundText soundPart ∧
      (soundPart.over default).IsSound ∧
      ofJson soundText = .ok ⟨"0123456789abcdé", none, ⟨172800000, 86400000⟩⟩) ∧
    (Tells crossedText crossedPart ∧ ¬ (crossedPart.over default).IsSound ∧
      ∃ detail, ofJson crossedText = .error (.config detail)) ∧
    ∃ text, Utf8.encode text = (LicensingConfig.mk "short" none .default).json.compact ∧
      ofJson text ≠ .ok ⟨"short", none, .default⟩ := by
  obtain ⟨hwritten, hread, hback⟩ := ofJson_overlays_defaults
  have hsound : (soundPart.over default).IsSound :=
    ⟨by decide +kernel, by decide +kernel, by decide +kernel⟩
  have hunsound : ¬ (crossedPart.over default).IsSound :=
    fun hsound => absurd hsound.moderate (by decide +kernel)
  obtain ⟨text, htext, htells⟩ := hwritten _ _ lists_soundMembers
  obtain rfl : text = soundText := Utf8.encode_injective (htext.trans (by decide +kernel))
  obtain ⟨short, hshort, hiff⟩ := hback ⟨"short", none, .default⟩
  refine ⟨⟨lists_soundMembers, htells, hsound, (hread _ _ htells).1 hsound⟩,
    ⟨tells_crossedText, hunsound, (hread _ _ tells_crossedText).2 hunsound⟩, short, hshort, ?_⟩
  rw [ne_eq, hiff, validate_eq_ok_iff]
  exact fun hsound => absurd hsound.passphrase (by decide +kernel)

end LicensingConfig

end ClusterLicense
