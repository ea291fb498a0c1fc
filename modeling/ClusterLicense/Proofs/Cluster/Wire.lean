/-
  ClusterLicense/Proofs/Cluster/Wire.lean
  =======================================
  **Which of the keys that a node makes can be sent.**

  The envelope of a key has room for 2 GiB, and so has the length on the wire; but
  whoever reads the wire refuses envelopes of more than 64 KiB.  A key whose record
  is too long for that is made, written and accepted all the same, and then it can
  be read nowhere.  So the length of the stored record decides.
-/
import ClusterLicense.Proofs.Cluster.Bootstrapping
import ClusterLicense.Proofs.Json.Text
import ClusterLicense.Proofs.License.Metadata

namespace ClusterLicense

namespace LicenseKey

variable {key : LicenseKey} {kind : LicenseKind} {payload : Bytes}

/-- What is written of a key where there is room is read with the given result and to the end,
be it the key by itself or the change to the key. -/
structure Delivers (key : LicenseKey) (received : Except LicenseError LicenseKey) : Prop where
  alone : ∃ sink, key.write (.empty none) = (.ok (), sink) ∧
    read sink.written = received.map fun found => (found, [])
  change : ∃ sink, (LicenseDiff.complete key).write (.empty none) = (.ok (), sink) ∧
    LicenseDiff.read sink.written = received.map fun found => (.complete found, [])

/-- Both messages carry the same octets, so the key is read from both or refused from both, and the
bound on the envelope decides. -/
theorem delivers (hlength : key.envelope.length ≤ largestLength) :
    key.Delivers
      (if key.envelope.length ≤ largestEnvelope then .ok key else .error key.refusal) := by
  have hread := read_wire hlength []
  have hchange := LicenseDiff.read_complete hlength []
  rw [List.append_nil] at hread hchange
  refine ⟨⟨_, write_unbounded hlength [], ?_⟩, ⟨_, LicenseDiff.write_complete hlength [], ?_⟩⟩
  · rw [List.nil_append, hread, apply_ite (Except.map _)]
    rfl
  · rw [List.nil_append, hchange, apply_ite (Except.map _)]
    rfl

theorem Delivers.unique {received other : Except LicenseError LicenseKey}
    (h : key.Delivers received) (hother : key.Delivers other) : received = other := by
  obtain ⟨sink, hwrite, hread⟩ := h.alone
  obtain ⟨sink', hwrite', hread'⟩ := hother.alone
  obtain rfl := (Prod.mk.inj (hwrite.symm.trans hwrite')).2
  rw [hread] at hread'
  cases received with
  | ok found =>
    cases other with
    | ok again =>
      obtain ⟨rfl, -⟩ := Prod.mk.inj (Except.ok.inj hread')
      rfl
    | error cause => cases hread'
  | error cause =>
    cases other with
    | ok again => cases hread'
    | error reason => exact congrArg Except.error (Except.error.inj hread')

/-- The key reaches whoever reads the wire if and only if the condition holds, and else is
refused. -/
structure DeliveredIff (key : LicenseKey) (short : Prop) : Prop where
  delivered : key.Delivers (.ok key) ↔ short
  refused : ¬ short → key.Delivers (.error key.refusal)

/-- Twelve octets of header, and the payload filled up to whole blocks. -/
theorem length_enclose (symmetricKey : SymmetricKey) (kind : LicenseKind) (payload : Bytes) :
    (enclose symmetricKey kind payload).envelope.length = 12 + 16 * (payload.length / 16 + 1) := by
  simp only [enclose, wrap, List.length_append, Bytes.length_ofInt32, SymmetricKey.length_encrypt,
    SymmetricKey.blockSize]
  omega

/-- The bound on the envelope, told of the payload: it has to leave room for the header and for at
least one octet of padding. -/
theorem deliveredIff_enclose (symmetricKey : SymmetricKey) (hfits : Fits payload) :
    (enclose symmetricKey kind payload).DeliveredIff (payload.length < 65520) := by
  have hlength := length_enclose symmetricKey kind payload
  rw [Fits, SymmetricKey.blockSize, largestLength] at hfits
  have hdelivers := @delivers (enclose symmetricKey kind payload)
    (by rw [hlength, largestLength]; omega)
  have hshort : (enclose symmetricKey kind payload).envelope.length ≤ largestEnvelope ↔
      payload.length < 65520 := by
    rw [hlength, largestEnvelope]
    omega
  by_cases h : payload.length < 65520
  · rw [if_pos (hshort.mpr h)] at hdelivers
    exact ⟨iff_of_true hdelivers h, fun hlong => absurd h hlong⟩
  · rw [if_neg (mt hshort.mp h)] at hdelivers
    refine ⟨iff_of_false ?_ h, fun _ => hdelivers⟩
    intro hother
    cases hdelivers.unique hother

end LicenseKey

/-- The keys that a node makes for a record: any that it creates, and those that it plans for
fresh clusters. -/
inductive LicenseKey.MadeFor (key : LicenseKey) (record : LicenseRecord) : Prop where
  | created (verifier : Verifier) (kind : LicenseKind)
      (h : verifier.createKey kind currentVersion record = .ok key)
  | planned (node : Coordinator) (t : Transition) (h : node.plan t = .ok (.bootstrap key record))

/-- **A key that was made for a record can be sent if and only if the stored record is short
enough.** Nodes make keys of any length that fits into an envelope and read only short ones, so
between the two bounds there are keys that no other node ever gets. -/
theorem made_key_delivered_iff_short {key : LicenseKey} {record : LicenseRecord}
    (hmade : key.MadeFor record) : key.DeliveredIff (record.stored.length < 65520) := by
  obtain ⟨verifier, kind, hcreate⟩ : ∃ verifier : Verifier, ∃ kind,
      verifier.createKey kind LicenseKey.currentVersion record = .ok key := by
    cases hmade with
    | created verifier kind h => exact ⟨verifier, kind, h⟩
    | planned node t h =>
      obtain ⟨-, -, -, -, -, hcreate⟩ := Coordinator.plan_eq_bootstrap_iff.mp h
      exact ⟨node.verifier, .selfGenerated, hcreate⟩
  obtain ⟨-, hfits, rfl⟩ := Verifier.createKey_eq_ok_iff.mp hcreate
  exact LicenseKey.deliveredIff_enclose verifier.symmetricKey hfits

theorem crateKey_delivered :
    Verifier.crateKey.MadeFor (.selfGenerated "crate") ∧
      Verifier.crateKey.Delivers (.ok Verifier.crateKey) := by
  have hmade : Verifier.crateKey.MadeFor (.selfGenerated "crate") :=
    .created Verifier.shipped .selfGenerated Verifier.createKey_crate
  have hshort : (LicenseRecord.selfGenerated "crate").stored.length < 65520 := by decide +kernel
  exact ⟨hmade, (made_key_delivered_iff_short hmade).delivered.mpr hshort⟩

/-! ### Names of clusters

A name takes as many octets as it has, or up to six times as many where all of it has to be
escaped. -/

theorem length_stored_selfGenerated (name : String) :
    (LicenseRecord.selfGenerated name).stored.length = (Json.quoted name).length + 54 := by
  have hexpiration : (Decimal.ofInt Int64.maxValue.toInt).length = 19 := by decide +kernel
  simp only [LicenseRecord.length_stored, LicenseRecord.selfGenerated, hexpiration, Option.elim]
  omega

/-- A name can grow by a factor of six where it is escaped, and is still short enough if it has at
most 10910 octets. -/
theorem ofCluster_delivered (symmetricKey : SymmetricKey) {name : String}
    (hname : (Utf8.encode name).length ≤ 10910) :
    (LicenseKey.ofCluster symmetricKey name).Delivers (.ok (.ofCluster symmetricKey name)) := by
  have hlength := length_stored_selfGenerated name
  have hquoted := Json.length_quoted name
  have hfits : LicenseKey.Fits (LicenseRecord.selfGenerated name).stored := by
    rw [LicenseKey.Fits, SymmetricKey.blockSize, LicenseKey.largestLength]
    omega
  have hdelivered := @LicenseKey.deliveredIff_enclose .selfGenerated _ symmetricKey hfits
  exact hdelivered.delivered.mpr (by omega)

/-! ### A cluster with a long name -/

def longName : String := String.ofList (List.replicate 65536 'a')

def longState : Snapshot := ⟨longName, true, true, none⟩

def longKey : LicenseKey := .ofCluster .shipped longName

theorem encode_longName : Utf8.encode longName = List.replicate 65536 97 := by
  have hoctets : ∀ b ∈ List.replicate 65536 (97 : UInt8), b < 128 := by
    intro b hb
    rw [List.eq_of_mem_replicate hb]
    decide
  have hname : longName = String.ofList ((List.replicate 65536 (97 : UInt8)).map Char.ofUInt8) := by
    rw [List.map_replicate]
    rfl
  rw [hname, Utf8.encode_ofList_map_ofUInt8 hoctets]

/-- The key is made, planned, accepted and written, and then nobody can read it.  Only the name of
the cluster is long. -/
theorem longKey_not_delivered :
    Verifier.shipped.createKey .selfGenerated LicenseKey.currentVersion (.selfGenerated longName) =
        .ok longKey ∧
      (Coordinator.fresh Verifier.shipped).plan ⟨longState, longState⟩ =
        .ok (.bootstrap longKey (.selfGenerated longName)) ∧
      (∀ now, Verifier.shipped.accepts longKey now = true) ∧
      longKey.Delivers (.error longKey.refusal) ∧ ¬ longKey.Delivers (.ok longKey) := by
  have hlength := length_stored_selfGenerated longName
  have hquoted := Json.length_quoted longName
  rw [encode_longName, List.length_replicate] at hquoted
  have hfits : LicenseKey.Fits (LicenseRecord.selfGenerated longName).stored := by
    rw [LicenseKey.Fits, SymmetricKey.blockSize, LicenseKey.largestLength]
    omega
  have hlong : ¬ (LicenseRecord.selfGenerated longName).stored.length < 65520 := by omega
  have hdelivered := @LicenseKey.deliveredIff_enclose .selfGenerated _ .shipped hfits
  refine ⟨Verifier.createKey_ofCluster hfits, ?_, Verifier.accepts_ofCluster hfits,
    hdelivered.refused hlong, mt hdelivered.delivered.mp hlong⟩
  exact Coordinator.plan_of_isFresh ⟨rfl, rfl, rfl, rfl⟩ hfits

end ClusterLicense
