import Mathlib.Data.List.Nodup

/-!
**Providers, release metadata and upgrade plans: the data of the clusterctl upgrader.**

The upgrader vendored under `cmd/clusterctl/client/cluster/upgrader.go` moves a management
cluster's providers (one core provider, and bootstrap, control-plane and infrastructure
providers) to new versions while keeping them on one API version of Cluster API, the
*contract*.  This module holds the data the upgrader reads and builds: the inventory's
provider records, the release metadata of a provider, the upgrade information derived from
it, and the upgrade items and plans.

Several helpers the upgrader calls live in files that are not part of the source:
`ProviderType.Order`, `Provider.InstanceName`, `ProviderList.FilterCore`,
`Metadata.GetReleaseSeriesForVersion`, and the methods of `upgradeInfo`.  Each is modelled from
the spec and says so in its docstring; the collaborators that fetch data (the inventory, the
provider repository, the version parser) are parameters of `ProviderUpgrader`.

Main definitions:

* `CapiOperator.Provider`, `CapiOperator.Provider.instanceName`, `CapiOperator.filterCore`;
* `CapiOperator.Metadata.getReleaseSeriesForVersion` — the release series of a version;
* `CapiOperator.UpgradeInfo.getContractsForUpgrade`,
  `CapiOperator.UpgradeInfo.getLatestNextVersion`, `CapiOperator.versionTag`;
* `CapiOperator.UpgradeItem`, `CapiOperator.UpgradePlan`,
  `CapiOperator.UpgradePlan.isPartialUpgrade`;
* `CapiOperator.ProviderUpgrader` — the upgrader's collaborators.

Main results:

* `CapiOperator.UpgradeInfo.getContractsForUpgrade_eq_cons` — **the current contract comes
  first** among the contracts for upgrade, so that list is never empty;
* `CapiOperator.UpgradeInfo.mem_getContractsForUpgrade` — a contract is for upgrade exactly
  when it is the current one or that of a next version;
* `CapiOperator.UpgradePlan.isPartialUpgrade_iff` — a plan is partial exactly when some item
  has no next version;
* `CapiOperator.UpgradeInfo.getLatestNextVersion_eq_some` — the version chosen for a contract
  is a next version of that contract no other one is newer than, and
  `CapiOperator.UpgradeInfo.getLatestNextVersion_eq_none` — none is chosen only when no next
  version has the contract.
-/

set_option relaxedAutoImplicit false
set_option autoImplicit false

namespace CapiOperator

/-- Go's `error`, by its message. -/
abbrev Error := String

/-- `errors.Wrapf(err, msg)` of `github.com/pkg/errors`: `nil` when `err` is `nil`, otherwise
an error whose message is `msg` followed by the cause's. -/
def errorsWrapf (err : Option Error) (msg : String) : Option Error :=
  err.map fun cause => msg ++ ": " ++ cause

@[simp] theorem errorsWrapf_none (msg : String) : errorsWrapf none msg = none := rfl

/-- `clusterv1.GroupVersion.Version`: the API version of the `sigs.k8s.io/cluster-api/api/v1beta1`
package the upgrader imports, the only contract it upgrades to. -/
def clusterv1Version : String := "v1beta1"

/-! ### Providers -/

/-- Modelled from the spec: the four provider types of a management cluster. -/
inductive ProviderType where
  | core
  | bootstrap
  | controlPlane
  | infrastructure
  deriving DecidableEq, Repr

/-- Modelled from the spec: `ProviderType.Order`, the fixed precedence
`Core < Bootstrap < ControlPlane < Infrastructure` used to order an upgrade. -/
def ProviderType.order : ProviderType → ℕ
  | core => 0
  | bootstrap => 1
  | controlPlane => 2
  | infrastructure => 3

/-- An entry of the provider inventory, `clusterctlv1.Provider`, with the fields the upgrader
reads. -/
structure Provider where
  /-- The object's name (`ObjectMeta.Name`). -/
  name : String
  /-- The namespace the provider is installed in (`Namespace`). -/
  ns : String
  /-- `ProviderName`, the name of the provider in the clusterctl configuration. -/
  providerName : String
  /-- `GetProviderType()`. -/
  providerType : ProviderType
  /-- The installed version. -/
  version : String
  deriving DecidableEq, Repr

/-- Modelled from the spec: the prefix the manifest label of a provider of this type starts
with. -/
def ProviderType.labelPrefix : ProviderType → String
  | core => ""
  | bootstrap => "bootstrap-"
  | controlPlane => "control-plane-"
  | infrastructure => "infrastructure-"

/-- Modelled from the spec: `Provider.ManifestLabel`, the provider's type and name as one
label. -/
def Provider.manifestLabel (p : Provider) : String :=
  p.providerType.labelPrefix ++ p.providerName

/-- Modelled from the spec: `Provider.InstanceName`, the name that identifies an inventory
entry, `namespace/manifest-label`. -/
def Provider.instanceName (p : Provider) : String :=
  p.ns ++ "/" ++ p.manifestLabel

/-- Modelled from the spec: `ProviderList.FilterCore`, the core providers of the inventory. -/
def filterCore (providers : List Provider) : List Provider :=
  providers.filter fun p => p.providerType = .core

theorem mem_filterCore {providers : List Provider} {p : Provider} :
    p ∈ filterCore providers ↔ p ∈ providers ∧ p.providerType = .core := by
  simp [filterCore]

/-! ### Versions and release metadata -/

/-- A semantic version, `version.Version`, by the components the upgrader compares. -/
structure Version where
  major : ℕ
  minor : ℕ
  patch : ℕ
  deriving DecidableEq, Repr, Inhabited

/-- `Version.LessThan`: the lexicographic order of the components. -/
def Version.lessThan (v w : Version) : Bool :=
  v.major < w.major || (v.major == w.major &&
    (v.minor < w.minor || (v.minor == w.minor && v.patch < w.patch)))

theorem Version.lessThan_irrefl (v : Version) : v.lessThan v = false := by
  simp [Version.lessThan]

theorem Version.lessThan_asymm {v w : Version} (h : v.lessThan w) : w.lessThan v = false := by
  simp only [Version.lessThan, Bool.or_eq_true, Bool.and_eq_true, decide_eq_true_eq,
    beq_iff_eq, Bool.or_eq_false_iff, Bool.and_eq_false_iff, decide_eq_false_iff_not,
    beq_eq_false_iff_ne, ne_eq] at *
  omega

/-- Not being below is transitive: the order is total. -/
theorem Version.lessThan_false_trans {u v w : Version} (h₁ : u.lessThan v = false)
    (h₂ : v.lessThan w = false) : u.lessThan w = false := by
  simp only [Version.lessThan, Bool.or_eq_false_iff, Bool.and_eq_false_iff,
    decide_eq_false_iff_not, beq_eq_false_iff_ne, ne_eq] at *
  omega

/-- `Version.String`. -/
def Version.toString (v : Version) : String :=
  Nat.repr v.major ++ "." ++ Nat.repr v.minor ++ "." ++ Nat.repr v.patch

/-- A release series of a provider's metadata: the versions `major.minor.*` and their
contract. -/
structure ReleaseSeries where
  major : ℕ
  minor : ℕ
  contract : String
  deriving DecidableEq, Repr

/-- The release metadata of a provider, `clusterctlv1.Metadata`. -/
structure Metadata where
  releaseSeries : List ReleaseSeries
  deriving DecidableEq, Repr, Inhabited

/-- Modelled from the spec: `Metadata.GetReleaseSeriesForVersion`, the release series whose
range holds the version, if there is one. -/
def Metadata.getReleaseSeriesForVersion (m : Metadata) (v : Version) : Option ReleaseSeries :=
  m.releaseSeries.find? fun rs => rs.major = v.major ∧ rs.minor = v.minor

/-! ### Upgrade information -/

/-- Modelled from the spec: `upgradeInfo`, what the upgrader knows about one provider: its
release metadata, the contract of its installed version, and the versions newer than the
installed one. -/
structure UpgradeInfo where
  metadata : Metadata
  currentContract : String
  nextVersions : List Version
  deriving DecidableEq, Repr, Inhabited

/-- The contracts of the next versions that lie in a release series, in order. -/
def UpgradeInfo.nextContracts (i : UpgradeInfo) : List String :=
  i.nextVersions.filterMap fun v => (i.metadata.getReleaseSeriesForVersion v).map (·.contract)

/-- Appends `contract` to `contracts` unless it is listed already. -/
def addContract (contracts : List String) (contract : String) : List String :=
  if contract ∈ contracts then contracts else contracts ++ [contract]

/-- Modelled from the spec: `upgradeInfo.getContractsForUpgrade`, the current contract and then
the contracts of the next versions, each once, in the order they are first introduced. -/
def UpgradeInfo.getContractsForUpgrade (i : UpgradeInfo) : List String :=
  i.nextContracts.foldl addContract [i.currentContract]

theorem foldl_addContract_eq_cons (l : List String) (c : String) (cs : List String) :
    ∃ rest, l.foldl addContract (c :: cs) = c :: rest := by
  induction l generalizing cs with
  | nil => exact ⟨cs, rfl⟩
  | cons x l ih =>
      unfold List.foldl addContract
      split
      · exact ih cs
      · exact ih (cs ++ [x])

theorem mem_foldl_addContract (l acc : List String) (c : String) :
    c ∈ l.foldl addContract acc ↔ c ∈ acc ∨ c ∈ l := by
  induction l generalizing acc with
  | nil => simp
  | cons x l ih =>
      rw [List.foldl_cons, ih]
      by_cases hx : x ∈ acc <;> simp only [addContract, hx, if_true, if_false,
        List.mem_append, List.mem_singleton, List.mem_cons] <;> aesop

/-- **The current contract comes first** among the contracts for upgrade. -/
theorem UpgradeInfo.getContractsForUpgrade_eq_cons (i : UpgradeInfo) :
    ∃ rest, i.getContractsForUpgrade = i.currentContract :: rest :=
  foldl_addContract_eq_cons _ _ _

theorem UpgradeInfo.mem_getContractsForUpgrade (i : UpgradeInfo) (c : String) :
    c ∈ i.getContractsForUpgrade ↔ c = i.currentContract ∨ c ∈ i.nextContracts := by
  simp [getContractsForUpgrade, mem_foldl_addContract]

/-- Keeps the later of the two versions. -/
def latestOf (latest : Option Version) (v : Version) : Option Version :=
  match latest with
  | none => some v
  | some l => if l.lessThan v then some v else some l

/-- Modelled from the spec: `upgradeInfo.getLatestNextVersion`, the highest next version whose
release series has the given contract, if there is one. -/
def UpgradeInfo.getLatestNextVersion (i : UpgradeInfo) (contract : String) : Option Version :=
  i.nextVersions.foldl (fun latest v =>
    if (i.metadata.getReleaseSeriesForVersion v).map (·.contract) = some contract then
      latestOf latest v
    else latest) none

/-- The version's release series, in the provider's metadata, is for the contract. -/
def UpgradeInfo.HasContract (i : UpgradeInfo) (contract : String) (v : Version) : Prop :=
  (i.metadata.getReleaseSeriesForVersion v).map (·.contract) = some contract

instance (i : UpgradeInfo) (contract : String) (v : Version) :
    Decidable (i.HasContract contract v) :=
  inferInstanceAs (Decidable (_ = _))

/-- `v` is a next version of the contract that no next version of the contract exceeds. -/
def UpgradeInfo.IsLatestFor (i : UpgradeInfo) (contract : String) (v : Version) : Prop :=
  v ∈ i.nextVersions ∧ i.HasContract contract v ∧
    ∀ w ∈ i.nextVersions, i.HasContract contract w → v.lessThan w = false

/-- `latestOf` keeps one of the running value and the new version, and neither exceeds it. -/
theorem latestOf_spec (acc : Option Version) (v : Version) :
    ∃ m, latestOf acc v = some m ∧ (m = v ∨ acc = some m) ∧ m.lessThan v = false ∧
      ∀ a, acc = some a → m.lessThan a = false := by
  cases acc with
  | none => exact ⟨v, rfl, .inl rfl, Version.lessThan_irrefl v, by simp⟩
  | some a =>
      by_cases h : a.lessThan v
      · refine ⟨v, by simp [latestOf, h], .inl rfl, Version.lessThan_irrefl v, ?_⟩
        rintro _ ⟨⟩
        exact Version.lessThan_asymm h
      · refine ⟨a, by simp [latestOf, h], .inr rfl, by simpa using h, ?_⟩
        rintro _ ⟨⟩
        exact Version.lessThan_irrefl a

section LatestFold

variable (P : Version → Prop) [DecidablePred P]

/-- The fold of `getLatestNextVersion`, for a test `P`, ends with none only when it started
with none and no version passed the test. -/
theorem foldl_latestOf_eq_none (l : List Version) {acc : Option Version}
    (h : l.foldl (fun latest v => if P v then latestOf latest v else latest) acc = none) :
    acc = none ∧ ∀ w ∈ l, ¬P w := by
  induction l generalizing acc with
  | nil => exact ⟨h, by simp⟩
  | cons x l ih =>
      rw [List.foldl_cons] at h
      by_cases hx : P x
      · obtain ⟨m, hm, -⟩ := latestOf_spec acc x
        rw [if_pos hx, hm] at h
        exact absurd (ih h).1 (by simp)
      · rw [if_neg hx] at h
        obtain ⟨hacc, hl⟩ := ih h
        exact ⟨hacc, List.forall_mem_cons.2 ⟨hx, hl⟩⟩

/-- Otherwise it ends with the start or a version that passed the test, and neither the start
nor any version that passed the test exceeds it. -/
theorem foldl_latestOf_eq_some (l : List Version) {acc : Option Version} {r : Version}
    (h : l.foldl (fun latest v => if P v then latestOf latest v else latest) acc = some r) :
    (acc = some r ∨ r ∈ l ∧ P r) ∧ (∀ a, acc = some a → r.lessThan a = false) ∧
      ∀ w ∈ l, P w → r.lessThan w = false := by
  induction l generalizing acc with
  | nil =>
      refine ⟨.inl h, ?_, by simp⟩
      rintro a rfl
      cases h
      exact Version.lessThan_irrefl _
  | cons x l ih =>
      rw [List.foldl_cons] at h
      by_cases hx : P x
      · obtain ⟨m, hm, hmx, hmv, hma⟩ := latestOf_spec acc x
        rw [if_pos hx, hm] at h
        obtain ⟨hr, hrm, hl⟩ := ih h
        have hrm' := hrm m rfl
        refine ⟨?_, fun a ha => Version.lessThan_false_trans hrm' (hma a ha),
          List.forall_mem_cons.2 ⟨fun _ => Version.lessThan_false_trans hrm' hmv, hl⟩⟩
        rcases hr with hr | ⟨hrl, hrP⟩
        · obtain rfl := Option.some.inj hr
          rcases hmx with rfl | hacc
          · exact .inr ⟨List.mem_cons_self _ _, hx⟩
          · exact .inl hacc
        · exact .inr ⟨List.mem_cons_of_mem _ hrl, hrP⟩
      · rw [if_neg hx] at h
        obtain ⟨hr, hacc, hl⟩ := ih h
        exact ⟨hr.imp id fun h => ⟨List.mem_cons_of_mem _ h.1, h.2⟩, hacc,
          List.forall_mem_cons.2 ⟨fun hP => absurd hP hx, hl⟩⟩

end LatestFold

/-- **`getLatestNextVersion` finds a greatest next version of the contract.** -/
theorem UpgradeInfo.getLatestNextVersion_eq_some {i : UpgradeInfo} {contract : String}
    {v : Version} (h : i.getLatestNextVersion contract = some v) :
    i.IsLatestFor contract v := by
  obtain ⟨hv, -, hl⟩ := foldl_latestOf_eq_some (i.HasContract contract) i.nextVersions h
  obtain ⟨hmem, hc⟩ := hv.resolve_left (by simp)
  exact ⟨hmem, hc, hl⟩

/-- And it finds none only when no next version is of the contract. -/
theorem UpgradeInfo.getLatestNextVersion_eq_none {i : UpgradeInfo} {contract : String}
    (h : i.getLatestNextVersion contract = none) :
    ∀ w ∈ i.nextVersions, ¬i.HasContract contract w :=
  (foldl_latestOf_eq_none (i.HasContract contract) i.nextVersions h).2

/-- Modelled from the spec: `versionTag`, the tag of a version, and the empty string, meaning
"no change", for none. -/
def versionTag : Option Version → String
  | none => ""
  | some v => "v" ++ v.toString

@[simp] theorem versionTag_none : versionTag none = "" := rfl

theorem versionTag_eq_empty {v : Option Version} : versionTag v = "" ↔ v = none := by
  cases v with
  | none => simp
  | some v =>
      simp only [versionTag, reduceCtorEq, iff_false]
      intro h
      have hlen := congrArg String.length h
      rw [String.length_append] at hlen
      have hv : "v".length = 1 := rfl
      have he : "".length = 0 := rfl
      omega

/-! ### Upgrade items and plans -/

/-- `UpgradeItem`: a provider and the version to move it to; the empty string means the
provider is not touched. -/
structure UpgradeItem where
  provider : Provider
  nextVersion : String
  deriving DecidableEq, Repr

/-- `UpgradeItem.InstanceName`, through the embedded provider. -/
def UpgradeItem.instanceName (u : UpgradeItem) : String :=
  u.provider.instanceName

/-- `UpgradePlan`: a target contract and an upgrade item per provider. -/
structure UpgradePlan where
  contract : String
  providers : List UpgradeItem
  deriving DecidableEq, Repr

/-- `UpgradePlan.isPartialUpgrade`: some item of the plan has no target version. -/
def UpgradePlan.isPartialUpgrade (u : UpgradePlan) : Bool :=
  u.providers.any fun i => i.nextVersion == ""

theorem UpgradePlan.isPartialUpgrade_iff (u : UpgradePlan) :
    u.isPartialUpgrade ↔ ∃ i ∈ u.providers, i.nextVersion = "" := by
  simp [isPartialUpgrade]

/-! ### The upgrader's collaborators -/

/-- `providerUpgrader`, by what its collaborators answer.  The upgrader only reads through
them while it plans: `list` is `providerInventory.List()`; `getUpgradeInfo` is the upgrade
information of a provider fetched from its repository (the function is not part of the
source), or the error fetching it; `parseSemantic` is `version.ParseSemantic`, a version or
the parser's error, of which the upgrader relies on one property: the empty string is not a
semantic version. -/
structure ProviderUpgrader where
  list : Except Error (List Provider)
  getUpgradeInfo : Provider → Except Error UpgradeInfo
  parseSemantic : String → Except Error Version
  parseSemantic_empty : ∀ v, parseSemantic "" ≠ .ok v

end CapiOperator
