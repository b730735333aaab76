import Mathlib.Data.List.Nodup
import CapiOperator.Plan

/-!
**Custom upgrade plans: `createCustomPlan`.**

`ApplyCustomPlan` upgrades the providers a user names, each to the version the user gives.
`createCustomPlan` turns the request into a plan, and has to keep the management cluster on
one contract: the target contract is that of the core provider's target version (its
requested version if some item names it, its installed version otherwise), it must be the
contract this clusterctl supports, every requested version must support it, and every
provider the request leaves out must already support it.

The main result, `CapiOperator.ProviderUpgrader.createCustomPlan_ok_iff`, says exactly which
requests are accepted, for every inventory with distinct instance names, every request (with
or without the core provider, naming unknown providers or a provider twice) and every
release metadata: the checks of the three loops of `createCustomPlan`, which look at the
core's first item, every item, and every provider the request leaves out, add up to "every
provider ends in a release series of the supported contract".

Main definitions:

* `CapiOperator.ProviderUpgrader.getProviderContractByVersion`,
  `CapiOperator.ProviderUpgrader.createCustomPlan`;
* `CapiOperator.ProviderUpgrader.LiesInReleaseSeries` — a version of a provider lies in one
  of its release series for a contract;
* `CapiOperator.ProviderUpgrader.ConsistentAfter` — every provider ends on the contract.

Main results:

* `CapiOperator.ProviderUpgrader.createCustomPlan_ok_iff` — **which requests
  `createCustomPlan` accepts**, and that an accepted request leaves every provider of the
  cluster on the supported contract.
-/

set_option relaxedAutoImplicit false
set_option autoImplicit false

namespace CapiOperator

/-- A `forM` in `Except` succeeds exactly when every element does. -/
theorem forM_eq_ok {ε α : Type} {f : α → Except ε Unit} :
    ∀ {l : List α}, l.forM f = .ok () ↔ ∀ a ∈ l, f a = .ok ()
  | [] => by simp [pure, Except.pure]
  | a :: l => by
      rw [List.forM_cons', except_bind_eq_ok, List.forall_mem_cons, ← forM_eq_ok (l := l)]
      constructor
      · rintro ⟨⟨⟩, ha, hl⟩
        exact ⟨ha, hl⟩
      · rintro ⟨ha, hl⟩
        exact ⟨(), ha, hl⟩

namespace ProviderUpgrader

variable (u : ProviderUpgrader)

/-! ### The contract of a target version -/

/-- `providerUpgrader.getProviderContractByVersion`: the contract a provider supports once
moved to the target version.  The parser's error is wrapped as `errors.Wrapf` wraps it: the
message, a colon, and the parser's own message. -/
def getProviderContractByVersion (provider : Provider) (targetVersion : String) :
    Except Error String := do
  let targetSemVersion ← (u.parseSemantic targetVersion).mapError fun err =>
    "failed to parse target version for the " ++ provider.instanceName ++ " provider: " ++ err
  let upgradeInfo ← u.getUpgradeInfo provider
  let some releaseSeries := upgradeInfo.metadata.getReleaseSeriesForVersion targetSemVersion
    | throw ("invalid target version: version " ++ targetVersion ++ " for the provider " ++
        provider.instanceName ++ " does not match any release series")
  pure releaseSeries.contract

/-- The version parses as a semantic version lying in one of the provider's release series,
and that series is for the contract. -/
def LiesInReleaseSeries (provider : Provider) (version contract : String) : Prop :=
  ∃ v info rs, u.parseSemantic version = .ok v ∧ u.getUpgradeInfo provider = .ok info ∧
    info.metadata.getReleaseSeriesForVersion v = some rs ∧ rs.contract = contract

theorem getProviderContractByVersion_eq_ok {provider : Provider} {version contract : String} :
    u.getProviderContractByVersion provider version = .ok contract ↔
      u.LiesInReleaseSeries provider version contract := by
  unfold getProviderContractByVersion LiesInReleaseSeries
  cases hv : u.parseSemantic version with
  | error e => simp [Except.mapError, bind, Except.bind]
  | ok v =>
      cases hi : u.getUpgradeInfo provider with
      | error e => simp [Except.mapError, bind, Except.bind]
      | ok info =>
          cases hrs : info.metadata.getReleaseSeriesForVersion v <;>
            simp [hrs, Except.mapError, bind, Except.bind, pure, Except.pure, throw, throwThe,
              MonadExceptOf.throw]

/-- A version in a release series is not the empty string, which does not parse. -/
theorem LiesInReleaseSeries.ne_empty {provider : Provider} {version contract : String}
    (h : u.LiesInReleaseSeries provider version contract) : version ≠ "" := by
  rintro rfl
  obtain ⟨v, -, -, hv, -⟩ := h
  exact u.parseSemantic_empty v hv

/-! ### `createCustomPlan` -/

/-- The loop of `createCustomPlan` choosing the core provider's target version: the next
version of the first item naming the core provider, or its installed version. -/
def targetCoreProviderVersion (coreProvider : Provider) : List UpgradeItem → String
  | [] => coreProvider.version
  | item :: rest =>
      if item.instanceName = coreProvider.instanceName then item.nextVersion
      else targetCoreProviderVersion coreProvider rest

/-- The body of the item loop of `createCustomPlan`: the item names a provider of the
management cluster, and its target version supports the target contract. -/
def checkUpgradeItem (providerList : List Provider) (targetContract : String)
    (upgradeItem : UpgradeItem) : Except Error Unit := do
  let some provider := providerList.find? fun p => p.instanceName = upgradeItem.instanceName
    | throw ("unable to complete that upgrade: the provider " ++ upgradeItem.instanceName ++
        " in not part of the management cluster")
  let contract ← u.getProviderContractByVersion provider upgradeItem.nextVersion
  if contract ≠ targetContract then
    throw ("unable to complete that upgrade: the target version for the provider " ++
      upgradeItem.instanceName ++ " supports the " ++ contract ++ " API Version of Cluster API " ++
      "(contract), while the management cluster is using " ++ targetContract)

/-- The body of the lagging-provider loop of `createCustomPlan`: a provider the request leaves
out must already support the target contract. -/
def checkNotLagging (upgradeInstanceNames : List String) (targetContract : String)
    (provider : Provider) : Except Error Unit :=
  if provider.instanceName ∈ upgradeInstanceNames then pure ()
  else do
    let contract ← u.getProviderContractByVersion provider provider.version
    if contract ≠ targetContract then
      throw ("unable to complete that upgrade: the provider " ++ provider.instanceName ++
        " supports the " ++ contract ++ " API Version of Cluster API (contract), while the " ++
        "management cluster is being updated to " ++ targetContract ++ ". Please include the " ++
        provider.instanceName ++ " provider in the upgrade")

/-- `providerUpgrader.createCustomPlan`.  The source appends each item to the plan once it has
passed its checks and returns at the first that fails, so a plan it returns holds exactly the
requested items. -/
def createCustomPlan (upgradeItems : List UpgradeItem) : Except Error UpgradePlan := do
  let providerList ← u.list
  match filterCore providerList with
  | [coreProvider] =>
      let targetCoreVersion := targetCoreProviderVersion coreProvider upgradeItems
      let targetContract ← u.getProviderContractByVersion coreProvider targetCoreVersion
      if targetContract ≠ clusterv1Version then
        throw ("current version of clusterctl could only upgrade to " ++ clusterv1Version ++
          " contract, requested " ++ targetContract)
      upgradeItems.forM (u.checkUpgradeItem providerList targetContract)
      let upgradeInstanceNames := upgradeItems.map UpgradeItem.instanceName
      providerList.forM (u.checkNotLagging upgradeInstanceNames targetContract)
      pure { contract := targetContract, providers := upgradeItems }
  | coreProviders => throw (invalidManagementCluster coreProviders.length)

theorem targetCoreProviderVersion_cases (coreProvider : Provider) (items : List UpgradeItem) :
    (∃ item ∈ items, item.instanceName = coreProvider.instanceName ∧
      targetCoreProviderVersion coreProvider items = item.nextVersion) ∨
    ((∀ item ∈ items, item.instanceName ≠ coreProvider.instanceName) ∧
      targetCoreProviderVersion coreProvider items = coreProvider.version) := by
  induction items with
  | nil => simp [targetCoreProviderVersion]
  | cons item rest ih =>
      by_cases hname : item.instanceName = coreProvider.instanceName
      · exact .inl ⟨item, List.mem_cons_self _ _, hname,
          by simp [targetCoreProviderVersion, hname]⟩
      · simp only [targetCoreProviderVersion, hname, if_false, List.mem_cons, forall_eq_or_imp,
          exists_eq_or_imp, false_and, false_or, ne_eq, not_false_eq_true, true_and]
        exact ih

theorem checkUpgradeItem_eq_ok {inv : List Provider}
    (hdistinct : (inv.map Provider.instanceName).Nodup) (targetContract : String)
    (item : UpgradeItem) :
    u.checkUpgradeItem inv targetContract item = .ok () ↔
      ∃ p ∈ inv, p.instanceName = item.instanceName ∧
        u.LiesInReleaseSeries p item.nextVersion targetContract := by
  rw [← exists_congr fun p => and_congr_right fun _ => and_congr_right fun _ =>
    u.getProviderContractByVersion_eq_ok]
  unfold checkUpgradeItem
  cases hfind : inv.find? fun p => p.instanceName = item.instanceName with
  | none =>
      rw [List.find?_eq_none] at hfind
      simp only [throw, throwThe, MonadExceptOf.throw, reduceCtorEq, false_iff, not_exists,
        not_and]
      exact fun p hp hname => absurd hname (by simpa using hfind p hp)
  | some p =>
      have hp := List.mem_of_find?_eq_some hfind
      have hname : p.instanceName = item.instanceName := by simpa using List.find?_some hfind
      have hunique : ∀ q ∈ inv, q.instanceName = item.instanceName → q = p := fun q hq hq' =>
        List.inj_on_of_nodup_map hdistinct hq hp (hq'.trans hname.symm)
      rw [show (∃ q ∈ inv, q.instanceName = item.instanceName ∧
          u.getProviderContractByVersion q item.nextVersion = .ok targetContract) ↔
          u.getProviderContractByVersion p item.nextVersion = .ok targetContract from
        ⟨fun ⟨q, hq, hq', hqc⟩ => hunique q hq hq' ▸ hqc, fun h => ⟨p, hp, hname, h⟩⟩]
      cases hc : u.getProviderContractByVersion p item.nextVersion with
      | error e => simp [hc, bind, Except.bind]
      | ok c =>
          by_cases htc : c = targetContract <;>
            simp [hc, htc, bind, Except.bind, pure, Except.pure, throw, throwThe,
              MonadExceptOf.throw]

theorem checkNotLagging_eq_ok {names : List String} {targetContract : String}
    {provider : Provider} :
    u.checkNotLagging names targetContract provider = .ok () ↔
      provider.instanceName ∈ names ∨
        u.LiesInReleaseSeries provider provider.version targetContract := by
  rw [← u.getProviderContractByVersion_eq_ok]
  unfold checkNotLagging
  by_cases hmem : provider.instanceName ∈ names
  · simp [hmem, pure, Except.pure]
  · simp only [hmem, if_false, false_or]
    cases u.getProviderContractByVersion provider provider.version with
    | error e => simp [bind, Except.bind]
    | ok c =>
        by_cases htc : c = targetContract <;>
          simp [htc, bind, Except.bind, pure, Except.pure, throw, throwThe, MonadExceptOf.throw]

theorem createCustomPlan_of_length_ne_one {inv : List Provider} (hlist : u.list = .ok inv)
    (hcore : (filterCore inv).length ≠ 1) (items : List UpgradeItem) :
    u.createCustomPlan items = .error (invalidManagementCluster (filterCore inv).length) := by
  simp only [createCustomPlan, hlist, bind, Except.bind]
  split
  · simp_all
  · rfl

/-- `createCustomPlan` with one core provider accepts a request exactly when the core's target
version supports the supported contract and every item and every provider left out pass their
checks; the plan is then the request, on that contract. -/
theorem createCustomPlan_eq_ok {inv : List Provider} {core : Provider} (hlist : u.list = .ok inv)
    (hcore : filterCore inv = [core]) {items : List UpgradeItem} {plan : UpgradePlan} :
    u.createCustomPlan items = .ok plan ↔
      u.getProviderContractByVersion core (targetCoreProviderVersion core items) =
        .ok clusterv1Version ∧
      (∀ item ∈ items, u.checkUpgradeItem inv clusterv1Version item = .ok ()) ∧
      (∀ p ∈ inv, u.checkNotLagging (items.map UpgradeItem.instanceName) clusterv1Version p =
        .ok ()) ∧
      plan = { contract := clusterv1Version, providers := items } := by
  simp only [createCustomPlan, hlist, hcore, bind, Except.bind]
  cases u.getProviderContractByVersion core (targetCoreProviderVersion core items) with
  | error e => simp
  | ok t =>
      by_cases htv : t = clusterv1Version
      · subst htv
        simp only [ne_eq, not_true_eq_false, if_false, pure, Except.pure, ← forM_eq_ok, true_and]
        cases items.forM (u.checkUpgradeItem inv clusterv1Version) <;>
          cases inv.forM
            (u.checkNotLagging (items.map UpgradeItem.instanceName) clusterv1Version) <;>
          simp [eq_comm]
      · simp [htv, throw, throwThe, MonadExceptOf.throw]

/-! ### Which requests are accepted -/

/-- Every provider of the inventory ends on the contract: each item naming it moves it to a
version in one of its release series for the contract, and if no item names it, its installed
version lies in one. -/
def ConsistentAfter (inv : List Provider) (items : List UpgradeItem) (contract : String) :
    Prop :=
  ∀ p ∈ inv, (∀ item ∈ items, item.instanceName = p.instanceName →
      u.LiesInReleaseSeries p item.nextVersion contract) ∧
    ((∀ item ∈ items, item.instanceName ≠ p.instanceName) →
      u.LiesInReleaseSeries p p.version contract)

theorem checkNotLagging_map_eq_ok {items : List UpgradeItem} {contract : String}
    {p : Provider} :
    u.checkNotLagging (items.map UpgradeItem.instanceName) contract p = .ok () ↔
      ((∀ item ∈ items, item.instanceName ≠ p.instanceName) →
        u.LiesInReleaseSeries p p.version contract) := by
  rw [checkNotLagging_eq_ok, List.mem_map, or_iff_not_imp_left]
  simp

/-- The target contract of a request meeting the conditions is the supported one: the core's
first item, or its installed version if no item names it, lies in a series for it. -/
theorem targetContract_of_consistent {inv : List Provider} {core : Provider}
    (hdistinct : (inv.map Provider.instanceName).Nodup) (hcore : core ∈ inv)
    {items : List UpgradeItem} {contract : String}
    (hitems : ∀ item ∈ items, ∃ p ∈ inv, p.instanceName = item.instanceName ∧
      u.LiesInReleaseSeries p item.nextVersion contract)
    (hrest : (∀ item ∈ items, item.instanceName ≠ core.instanceName) →
      u.LiesInReleaseSeries core core.version contract) :
    u.getProviderContractByVersion core (targetCoreProviderVersion core items) = .ok contract := by
  rw [getProviderContractByVersion_eq_ok]
  rcases targetCoreProviderVersion_cases core items with
    ⟨item, hitem, hname, htarget⟩ | ⟨hnone, htarget⟩
  · obtain ⟨p, hp, hpname, hlies⟩ := hitems item hitem
    rw [htarget, ← List.inj_on_of_nodup_map hdistinct hp hcore (hpname.trans hname)]
    exact hlies
  · rw [htarget]
    exact hrest hnone

/-- What an accepted request has passed: the inventory has one core provider, every item names
a provider of it and targets a version of the supported contract, and every provider no item
names is on that contract; the plan is the request. -/
theorem createCustomPlan_accepted {inv : List Provider} (hlist : u.list = .ok inv)
    (hdistinct : (inv.map Provider.instanceName).Nodup) {items : List UpgradeItem}
    {plan : UpgradePlan} (h : u.createCustomPlan items = .ok plan) :
    (filterCore inv).length = 1 ∧
    (∀ item ∈ items, ∃ p ∈ inv, p.instanceName = item.instanceName ∧
      u.LiesInReleaseSeries p item.nextVersion clusterv1Version) ∧
    (∀ p ∈ inv, (∀ item ∈ items, item.instanceName ≠ p.instanceName) →
      u.LiesInReleaseSeries p p.version clusterv1Version) ∧
    plan = { contract := clusterv1Version, providers := items } := by
  by_cases hone : (filterCore inv).length = 1
  · obtain ⟨core, hcore⟩ := List.length_eq_one.1 hone
    obtain ⟨-, hitems, hlag, rfl⟩ := (u.createCustomPlan_eq_ok hlist hcore).1 h
    exact ⟨hone,
      fun item hitem => (u.checkUpgradeItem_eq_ok hdistinct _ item).1 (hitems item hitem),
      fun p hp => (u.checkNotLagging_map_eq_ok).1 (hlag p hp), rfl⟩
  · rw [u.createCustomPlan_of_length_ne_one hlist hone] at h
    cases h

/-- A request meeting the conditions leaves every provider on the contract, and gives every
item a version. -/
theorem consistentAfter_of_accepted {inv : List Provider}
    (hdistinct : (inv.map Provider.instanceName).Nodup) {items : List UpgradeItem}
    {contract : String}
    (hitems : ∀ item ∈ items, ∃ p ∈ inv, p.instanceName = item.instanceName ∧
      u.LiesInReleaseSeries p item.nextVersion contract)
    (hrest : ∀ p ∈ inv, (∀ item ∈ items, item.instanceName ≠ p.instanceName) →
      u.LiesInReleaseSeries p p.version contract) :
    (∀ item ∈ items, item.nextVersion ≠ "") ∧ u.ConsistentAfter inv items contract := by
  refine ⟨fun item hitem => ?_, fun p hp => ⟨fun item hitem hname => ?_, hrest p hp⟩⟩
  · obtain ⟨p, -, -, hlies⟩ := hitems item hitem
    exact LiesInReleaseSeries.ne_empty u hlies
  · obtain ⟨q, hq, hqname, hlies⟩ := hitems item hitem
    rwa [← List.inj_on_of_nodup_map hdistinct hq hp (hqname.trans hname)]

/-- **Which requests `createCustomPlan` accepts.**  For an inventory with distinct instance
names, a request is accepted exactly when the inventory has one core provider, every item
names a provider of the inventory and targets a version lying in one of its release series for
the supported contract, and every provider no item names already lies in one.  The plan is
then the request, on the supported contract: no item is left without a version, and every
provider of the cluster ends on the supported contract. -/
theorem createCustomPlan_ok_iff {inv : List Provider} (hlist : u.list = .ok inv)
    (hdistinct : (inv.map Provider.instanceName).Nodup) (items : List UpgradeItem) :
    ((∃ plan, u.createCustomPlan items = .ok plan) ↔
      (filterCore inv).length = 1 ∧
      (∀ item ∈ items, ∃ p ∈ inv, p.instanceName = item.instanceName ∧
        u.LiesInReleaseSeries p item.nextVersion clusterv1Version) ∧
      ∀ p ∈ inv, (∀ item ∈ items, item.instanceName ≠ p.instanceName) →
        u.LiesInReleaseSeries p p.version clusterv1Version) ∧
    ∀ plan, u.createCustomPlan items = .ok plan →
      plan.contract = clusterv1Version ∧ plan.providers = items ∧
      (∀ item ∈ items, item.nextVersion ≠ "") ∧ u.ConsistentAfter inv items clusterv1Version := by
  refine ⟨⟨fun ⟨plan, h⟩ => ?_, fun ⟨hone, hitems, hrest⟩ => ?_⟩, fun plan h => ?_⟩
  · obtain ⟨hone, hitems, hrest, -⟩ := u.createCustomPlan_accepted hlist hdistinct h
    exact ⟨hone, hitems, hrest⟩
  · obtain ⟨core, hcore⟩ := List.length_eq_one.1 hone
    have hcoreMem : core ∈ inv := (mem_filterCore.1 (hcore ▸ List.mem_singleton_self core)).1
    exact ⟨_, (u.createCustomPlan_eq_ok hlist hcore).2
      ⟨u.targetContract_of_consistent hdistinct hcoreMem hitems (hrest core hcoreMem),
        fun item hitem => (u.checkUpgradeItem_eq_ok hdistinct _ item).2 (hitems item hitem),
        fun p hp => (u.checkNotLagging_map_eq_ok).2 (hrest p hp), rfl⟩⟩
  · obtain ⟨-, hitems, hrest, rfl⟩ := u.createCustomPlan_accepted hlist hdistinct h
    exact ⟨rfl, rfl, u.consistentAfter_of_accepted hdistinct hitems hrest⟩

/-- The scenario's request to move only the core provider to `v1.0.0` (`v1beta1`) is refused:
the control-plane provider, left on `v1alpha4`, lags behind. -/
theorem createCustomPlan_fleet_lagging :
    ¬∃ plan, fleetUpgrader.createCustomPlan [⟨fleetCore, "v1.0.0"⟩] = .ok plan := by
  intro h
  have hlag := ((createCustomPlan_ok_iff fleetUpgrader rfl (by decide) _).1.1 h).2.2
    fleetControlPlane (by simp) (by simp [UpgradeItem.instanceName, Provider.instanceName,
      Provider.manifestLabel, fleetCore, fleetControlPlane, ProviderType.labelPrefix])
  obtain ⟨v, info, rs, hv, hi, hrs, hc⟩ := hlag
  obtain rfl : v = ⟨0, 4, 2⟩ := Except.ok.inj (hv.symm.trans rfl)
  obtain rfl : info = fleetControlPlaneInfo := Except.ok.inj (hi.symm.trans rfl)
  obtain rfl : rs = ⟨0, 4, "v1alpha4"⟩ := Option.some.inj (hrs.symm.trans rfl)
  exact absurd hc (by decide)

end ProviderUpgrader

end CapiOperator
