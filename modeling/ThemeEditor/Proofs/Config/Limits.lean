/-
# ThemeEditor.Proofs.Config.Limits -- what a configuration in force keeps to

A configuration has no faults exactly when its number of theme files, its timeout and
the address of its service are within their limits (`limitFaults_eq_nil_iff`), and one
that was loaded has none (`withinLimits_of_load`).
-/
import ThemeEditor.Config.Load

namespace ThemeEditor.Config

set_option autoImplicit false

/-- The values of a configuration are within their limits. -/
structure WithinLimits (c : Config) : Prop where
  fewest : minFileCount ≤ c.fileCount
  most : c.fileCount ≤ maxFileCount
  timeout : ∀ n, c.timeout? = some n → n ≠ 0 ∧ n ≤ maxTimeout
  service : isWebAddress c.serviceUrl = true

theorem limitFaults_eq_nil_iff (c : Config) : c.limitFaults = [] ↔ c.WithinLimits := by
  have files : (if c.fileCount < minFileCount || maxFileCount < c.fileCount then
      [LimitFault.fileCount c.fileCount] else []) = [] ↔
      minFileCount ≤ c.fileCount ∧ c.fileCount ≤ maxFileCount := by
    simp
  have service : (if isWebAddress c.serviceUrl then [] else [LimitFault.serviceUrl c.serviceUrl]) =
      [] ↔ isWebAddress c.serviceUrl = true := by
    simp
  rw [limitFaults, List.append_eq_nil_iff, List.append_eq_nil_iff, files, service]
  constructor
  · rintro ⟨⟨⟨fewest, most⟩, patience⟩, address⟩
    refine ⟨fewest, most, fun n set => ?_, address⟩
    rw [set] at patience
    simpa using patience
  · intro limits
    refine ⟨⟨⟨limits.fewest, limits.most⟩, ?_⟩, limits.service⟩
    cases set : c.timeout? with
    | none => rfl
    | some n => simpa using limits.timeout n set

/-- A configuration that was loaded is within its limits. -/
theorem withinLimits_of_load {d : Disk} {env : Environment} {path : Option String} {c : Config}
    (loaded : load d env path = .ok c) : c.WithinLimits := by
  unfold load at loaded
  split at loaded
  · cases loaded
  · split at loaded
    · cases loaded
    · split at loaded
      · next faultless =>
        cases loaded
        exact (limitFaults_eq_nil_iff _).1 (List.isEmpty_iff.1 faultless)
      · cases loaded

end ThemeEditor.Config
