/-
  ClusterLicense/Proofs/Cluster/Warning.lean
  ==========================================
  **A warning never gets less urgent**, and never contradicts the verifier.

  The verifier compares an instant with the expiration, and the health check
  subtracts it, rounding to 64 bits at both ends of the range.  Rounding keeps the
  order and the sign of what is left (`clamp_le_clamp`, `clamp_lt_zero_iff`), so the
  two agree on what has expired.  How urgent a record is depends on nothing but what is
  left and on the thresholds; it falls with the first and rises with the second
  (`rank_urgency_le`), and this alone does not need the thresholds to be in order.
-/
import ClusterLicense.Cluster.Coordinator
import ClusterLicense.Cluster.Expiry
import ClusterLicense.Proofs.Cluster.Configuring
import ClusterLicense.Proofs.License.Creation

namespace ClusterLicense

namespace LicenseRecord

variable {record sooner : LicenseRecord} {now later : Int64}
  {thresholds lower higher : ExpiryThresholds}

/-! ### What is left -/

/-- A difference that leaves the range of 64 bits is the end of the range that it leaves. -/
theorem toInt_clamp (n : Int) :
    (clamp n).toInt = max Int64.minValue.toInt (min n Int64.maxValue.toInt) := by
  have hleast : Int64.minValue.toInt = -2 ^ 63 := by decide
  have hlargest : Int64.maxValue.toInt = 2 ^ 63 - 1 := by decide
  unfold clamp
  split_ifs with hbelow habove
  · omega
  · omega
  · rw [Int64.toInt_ofInt_of_le (by omega) (by omega)]
    omega

theorem clamp_le_clamp {m n : Int} (h : m ≤ n) : clamp m ≤ clamp n := by
  rw [Int64.le_iff_toInt_le, toInt_clamp, toInt_clamp]
  omega

/-- Rounding does not cross zero.  So the sign of what is left can be relied on, although the number
cannot. -/
theorem clamp_lt_zero_iff {n : Int} : clamp n < 0 ↔ n < 0 := by
  have hleast : Int64.minValue.toInt = -2 ^ 63 := by decide
  have hlargest : Int64.maxValue.toInt = 2 ^ 63 - 1 := by decide
  rw [Int64.lt_iff_toInt_lt, toInt_clamp, Int64.toInt_zero]
  omega

/-- Less than nothing is left exactly of a record that has expired, also where the difference was
cut off. -/
theorem millisUntilExpiry_lt_zero_iff :
    record.millisUntilExpiry now < 0 ↔ record.isExpired now = true := by
  rw [millisUntilExpiry, clamp_lt_zero_iff, isExpired, decide_eq_true_eq, Int64.lt_iff_toInt_lt]
  omega

/-- Less is left of a record that expires sooner, and less later on.  The difference is monotone in
both, and cutting it off at the ends of 64 bits keeps the order. -/
theorem millisUntilExpiry_le (hexpiration : sooner.expiration ≤ record.expiration)
    (hlater : now ≤ later) : sooner.millisUntilExpiry later ≤ record.millisUntilExpiry now := by
  rw [Int64.le_iff_toInt_le] at hexpiration hlater
  exact clamp_le_clamp (by omega)

/-! ### Urgency -/

/-- How urgent the window is that a record is in; outside of all windows nothing is. -/
def urgency (record : LicenseRecord) (thresholds : ExpiryThresholds) (now : Int64) : Severity :=
  ((ExpiryNotification.classify record now thresholds).map ExpiryNotification.severity).getD .none

theorem urgency_eq (record : LicenseRecord) (thresholds : ExpiryThresholds) (now : Int64) :
    record.urgency thresholds now =
      if record.millisUntilExpiry now ≤ thresholds.severe then .high
      else if record.millisUntilExpiry now ≤ thresholds.moderate then .medium
      else .none := by
  simp only [urgency, ExpiryNotification.classify]
  split_ifs
  · rfl
  · rfl
  · rfl

/-- The less is left and the wider the windows are, the more urgent a record is.  All the ways in
which a warning could relax are cases of this one. -/
theorem rank_urgency_le (hleft : sooner.millisUntilExpiry later ≤ record.millisUntilExpiry now)
    (hmoderate : lower.moderate ≤ higher.moderate) (hsevere : lower.severe ≤ higher.severe) :
    (record.urgency lower now).rank ≤ (sooner.urgency higher later).rank := by
  rw [urgency_eq, urgency_eq]
  by_cases hhigh : record.millisUntilExpiry now ≤ lower.severe
  · rw [if_pos hhigh, if_pos (Int64.le_trans hleft (Int64.le_trans hhigh hsevere))]
  · rw [if_neg hhigh]
    by_cases hmedium : record.millisUntilExpiry now ≤ lower.moderate
    · rw [if_pos hmedium, if_pos (Int64.le_trans hleft (Int64.le_trans hmedium hmoderate))]
      split_ifs
      · decide
      · decide
    · rw [if_neg hmedium]
      exact Nat.zero_le _

/-- Once a record has expired it is in the severe window, unless that window ends before the
expiration. -/
theorem urgency_of_isExpired (hexpired : record.isExpired now = true)
    (hsevere : 0 ≤ thresholds.severe) : record.urgency thresholds now = .high := by
  have hleft := millisUntilExpiry_lt_zero_iff.mpr hexpired
  rw [urgency_eq, if_pos (Int64.le_trans (Int64.le_of_lt hleft) hsevere)]

end LicenseRecord

/-! ### The health check -/

/-- A check fails if and only if something is urgent. -/
theorem ExpiryCheck.passes_eq_false_iff {check : ExpiryCheck} :
    check.passes = false ↔ check.severity ≠ .none := by
  unfold passes severity
  cases check.notification with
  | none => simp
  | some notification =>
    cases notification with
    | moderate => simp [ExpiryNotification.severity]
    | severe => simp [ExpiryNotification.severity]

theorem ExpiryCheck.severity_of_record (record : LicenseRecord) (thresholds : ExpiryThresholds)
    (now : Int64) :
    (ExpiryCheck.mk (some record) thresholds now).severity = record.urgency thresholds now := rfl

/-- A verifier that finds a key expired has read its record, and it is that record which has
expired. -/
theorem Verifier.isExpired_of_check {verifier : Verifier} {key : LicenseKey} {record : LicenseRecord}
    {now expiration : Int64} (hdata : verifier.licenseData key = .ok record)
    (hcheck : verifier.check key now = .error (.expired expiration)) :
    record.isExpired now = true := by
  obtain ⟨decoded, hdecode, hdecrypt⟩ := licenseData_eq_ok_iff.mp hdata
  rw [check_of_decrypt hdecode hdecrypt] at hcheck
  split_ifs at hcheck with hexpired hmismatch
  · exact decide_eq_true hexpired
  · cases hcheck

/-- **A warning never gets less urgent, and never contradicts the verifier.**  What is left of a
record is below zero if and only if the record has expired.  Its urgency does not fall as time goes
by, nor with an earlier expiration or wider windows.  With the record of a key in the cache, the
health check fails at an instant at which the verifier finds the key expired, and nothing is more
urgent. -/
theorem warning_never_relaxes (record : LicenseRecord) (now : Int64) :
    (record.millisUntilExpiry now < 0 ↔ record.isExpired now = true) ∧
    (∀ thresholds later, now ≤ later →
      (record.urgency thresholds now).rank ≤ (record.urgency thresholds later).rank) ∧
    (∀ thresholds, ∀ sooner : LicenseRecord, sooner.expiration ≤ record.expiration →
      (record.urgency thresholds now).rank ≤ (sooner.urgency thresholds now).rank) ∧
    (∀ lower higher : ExpiryThresholds,
      lower.moderate ≤ higher.moderate → lower.severe ≤ higher.severe →
      (record.urgency lower now).rank ≤ (record.urgency higher now).rank) ∧
    ∀ (config : LicensingConfig) (coordinator : Coordinator) (verifier : Verifier) key expiration,
      config.validate = .ok () → coordinator.cached = some record →
      verifier.licenseData key = .ok record →
      verifier.check key now = .error (.expired expiration) →
      (ExpiryCheck.mk coordinator.cached config.expiry now).passes = false ∧
        (ExpiryCheck.mk coordinator.cached config.expiry now).severity = .high := by
  refine ⟨LicenseRecord.millisUntilExpiry_lt_zero_iff, ?_, ?_, ?_, ?_⟩
  · intro thresholds later hlater
    have hleft := LicenseRecord.millisUntilExpiry_le (Int64.le_refl record.expiration) hlater
    exact LicenseRecord.rank_urgency_le hleft (Int64.le_refl _) (Int64.le_refl _)
  · intro thresholds sooner hsooner
    have hleft := LicenseRecord.millisUntilExpiry_le hsooner (Int64.le_refl now)
    exact LicenseRecord.rank_urgency_le hleft (Int64.le_refl _) (Int64.le_refl _)
  · intro lower higher hmoderate hsevere
    exact LicenseRecord.rank_urgency_le (Int64.le_refl _) hmoderate hsevere
  · intro config coordinator verifier key expiration hvalid hcached hdata hcheck
    have hsound := LicensingConfig.validate_eq_ok_iff.mp hvalid
    have hexpired := Verifier.isExpired_of_check hdata hcheck
    have hhigh : (ExpiryCheck.mk coordinator.cached config.expiry now).severity = .high := by
      rw [hcached, ExpiryCheck.severity_of_record]
      exact LicenseRecord.urgency_of_isExpired hexpired hsound.severe
    refine ⟨ExpiryCheck.passes_eq_false_iff.mpr ?_, hhigh⟩
    rw [hhigh]
    exact Severity.noConfusion

/-! ### At the ends of the range and of a window -/

/-- Expired at every instant but one. -/
def lapsedRecord : LicenseRecord := ⟨Int64.minValue, "acme", none⟩

/-- At the instant zero in the moderate window for the first time. -/
def brinkRecord : LicenseRecord := ⟨ExpiryThresholds.default.moderate, "acme", none⟩

def widestWindows : ExpiryThresholds := ⟨Int64.maxValue, Int64.maxValue⟩

def lapsedKey : LicenseKey := .enclose .shipped .enterprise lapsedRecord.stored

/-- More than 64 bits past the expiration, across the edge of a window, to an earlier expiration, to
wider windows, and on a node that still has the record of an expired key. -/
theorem warning_never_relaxes_lapsedRecord :
    (lapsedRecord.isExpired Int64.maxValue = true ∧
      lapsedRecord.millisUntilExpiry Int64.maxValue < 0) ∧
    ((-1 : Int64) ≤ 0 ∧ brinkRecord.urgency .default (-1) = .none ∧
      brinkRecord.urgency .default 0 = .medium ∧
      (brinkRecord.urgency .default (-1)).rank ≤ (brinkRecord.urgency .default 0).rank) ∧
    (lapsedRecord.expiration ≤ brinkRecord.expiration ∧
      (brinkRecord.urgency .default 0).rank ≤ (lapsedRecord.urgency .default 0).rank) ∧
    (ExpiryThresholds.default.moderate ≤ widestWindows.moderate ∧
      ExpiryThresholds.default.severe ≤ widestWindows.severe ∧
      (brinkRecord.urgency .default 0).rank ≤ (brinkRecord.urgency widestWindows 0).rank) ∧
    LicensingConfig.default.validate = .ok () ∧
    (Verifier.mk .shipped ⟨15, 3⟩).licenseData lapsedKey = .ok lapsedRecord ∧
    (Verifier.mk .shipped ⟨15, 3⟩).check lapsedKey 0 = .error (.expired Int64.minValue) ∧
    ∃ coordinator : Coordinator, coordinator.cached = some lapsedRecord ∧
      (ExpiryCheck.mk coordinator.cached .default 0).passes = false ∧
      (ExpiryCheck.mk coordinator.cached .default 0).severity = .high := by
  have hfits : LicenseKey.Fits lapsedRecord.stored := by decide +kernel
  have hparse := LicenseRecord.parse_stored lapsedRecord
  have hdata : (Verifier.mk .shipped ⟨15, 3⟩).licenseData lapsedKey = .ok lapsedRecord :=
    Verifier.licenseData_enclose ⟨.shipped, ⟨15, 3⟩⟩ hfits hparse
  have hcheck : (Verifier.mk .shipped ⟨15, 3⟩).check lapsedKey 0 = .error (.expired _) :=
    Verifier.check_enclose_expired ⟨.shipped, ⟨15, 3⟩⟩ hfits hparse (by decide)
  have hvalid : LicensingConfig.default.validate = .ok () := by decide +kernel
  obtain ⟨hnegative, -⟩ := warning_never_relaxes lapsedRecord Int64.maxValue
  obtain ⟨-, hlater, -⟩ := warning_never_relaxes brinkRecord (-1)
  obtain ⟨-, -, hsooner, hwider, -⟩ := warning_never_relaxes brinkRecord 0
  obtain ⟨-, -, -, -, hexpired⟩ := warning_never_relaxes lapsedRecord 0
  let coordinator := (Coordinator.fresh ⟨.shipped, ⟨15, 3⟩⟩).perform (.replace lapsedRecord)
  refine ⟨⟨by decide, hnegative.mpr (by decide)⟩,
    ⟨by decide, by decide, by decide, hlater _ _ (by decide)⟩, ⟨by decide, hsooner _ _ (by decide)⟩,
    ⟨by decide, by decide, hwider _ _ (by decide) (by decide)⟩, hvalid, hdata, hcheck,
    coordinator, rfl, ?_⟩
  exact hexpired .default coordinator _ _ _ hvalid rfl hdata hcheck

end ClusterLicense
