import Mathlib.Data.List.Forall2
import CapiOperator.Provider

/-!
**Upgrade plans: `Plan`, `getUpgradePlan` and the plan `ApplyPlan` executes.**

`providerUpgrader.Plan` proposes one upgrade plan per contract the core provider can move to:
the current contract first, then the newer ones.  Each plan gives every provider of the
inventory the latest version it has for that contract, or none, and a plan that changes the
contract while leaving some provider without a version is dropped, because all the providers
of a management cluster must change contract together.  `ApplyPlan` rebuilds the plan of one
contract with the same `getUpgradePlan` and executes it, but without the drop rule and
without the check that there is exactly one core provider.

Go's loops that return at the first error are `List.mapM` in `Except`, or structural
recursion over the list when they carry an accumulator; the first section states, once, what
such a loop returns.

Main definitions:

* `CapiOperator.ProviderUpgrader.getUpgradePlan`, `CapiOperator.ProviderUpgrader.plan`;
* `CapiOperator.ProviderUpgrader.planToApply` — the plan `ApplyPlan` hands to `doUpgrade`.

Main results:

* `CapiOperator.ProviderUpgrader.plan_eq_filter` — **what `Plan` returns**: the plan of every
  contract for upgrade, in order, minus the partial ones that change the contract;
* `CapiOperator.ProviderUpgrader.plan_error_iff` — when `Plan` fails;
* `CapiOperator.ProviderUpgrader.planToApply_mem_plan` — the plan `ApplyPlan` executes is one
  `Plan` offers, when the inventory has one core provider and the plan keeps the fleet on one
  contract;
* `CapiOperator.ProviderUpgrader.planToApply_not_mem_plan` — and without those conditions it
  may not be: `ApplyPlan` executes a partial plan that changes the contract;
* `CapiOperator.ProviderUpgrader.getUpgradePlan_eq_ok_planFor` — a plan `getUpgradePlan`
  returns is the plan built from each provider's upgrade information.
-/

set_option relaxedAutoImplicit false
set_option autoImplicit false

namespace CapiOperator

/-! ### Loops that stop at the first error -/

section ExceptLoops

variable {ε α β : Type}

theorem except_bind_eq_ok {x : Except ε α} {f : α → Except ε β} {b : β} :
    x >>= f = .ok b ↔ ∃ a, x = .ok a ∧ f a = .ok b := by
  cases x <;> simp [bind, Except.bind]

/-- A `mapM` in `Except` succeeds exactly when every element does, with their results. -/
theorem mapM_eq_ok {f : α → Except ε β} :
    ∀ {l : List α} {r : List β}, l.mapM f = .ok r ↔ List.Forall₂ (fun a b => f a = .ok b) l r
  | [], r => by
      rw [List.mapM_nil, List.forall₂_nil_left_iff]
      exact ⟨fun h => (Except.ok.inj h).symm, fun h => h ▸ rfl⟩
  | a :: l, r => by
      rw [List.mapM_cons]
      cases r with
      | nil =>
          simp only [except_bind_eq_ok, pure, Except.pure, Except.ok.injEq, reduceCtorEq,
            and_false, exists_false, List.forall₂_nil_right_iff]
      | cons b r =>
          simp only [except_bind_eq_ok, pure, Except.pure, Except.ok.injEq, List.forall₂_cons,
            ← mapM_eq_ok (l := l)]
          aesop

/-- A `mapM` in `Except` fails exactly when some element does. -/
theorem mapM_eq_error_iff {f : α → Except ε β} :
    ∀ {l : List α}, (∃ e, l.mapM f = .error e) ↔ ∃ a ∈ l, ∃ e, f a = .error e
  | [] => by rw [List.mapM_nil]; simp [pure, Except.pure]
  | a :: l => by
      rw [List.mapM_cons]
      cases h : f a with
      | error e => simp [h, bind, Except.bind]
      | ok b =>
          simp only [h, bind, Except.bind, List.mem_cons, exists_eq_or_imp, reduceCtorEq,
            exists_false, false_or]
          rw [← mapM_eq_error_iff (l := l)]
          cases List.mapM f l <;> simp [pure, Except.pure]

end ExceptLoops

namespace ProviderUpgrader

variable (u : ProviderUpgrader)

/-! ### `getUpgradePlan` -/

/-- The body of the loop of `getUpgradePlan`: the upgrade item of one provider, with the latest
next version it has for the contract. -/
def upgradeItemFor (contract : String) (provider : Provider) : Except Error UpgradeItem := do
  let providerUpgradeInfo ← u.getUpgradeInfo provider
  let nextVersion := providerUpgradeInfo.getLatestNextVersion contract
  pure { provider, nextVersion := versionTag nextVersion }

/-- `providerUpgrader.getUpgradePlan`: the plan moving every provider to the latest version it
has for the contract; it is used both by `Plan` and by `ApplyPlan`. -/
def getUpgradePlan (providers : List Provider) (contract : String) :
    Except Error UpgradePlan := do
  let upgradeItems ← providers.mapM (u.upgradeItemFor contract)
  pure { contract, providers := upgradeItems }

/-- The item `getUpgradePlan` builds for a provider with the given upgrade information. -/
def itemFor (contract : String) (provider : Provider) (info : UpgradeInfo) : UpgradeItem :=
  { provider, nextVersion := versionTag (info.getLatestNextVersion contract) }

theorem upgradeItemFor_eq_ok {contract : String} {provider : Provider} {item : UpgradeItem} :
    u.upgradeItemFor contract provider = .ok item ↔
      ∃ info, u.getUpgradeInfo provider = .ok info ∧ item = itemFor contract provider info := by
  simp only [upgradeItemFor, except_bind_eq_ok, pure, Except.pure, Except.ok.injEq, itemFor]
  exact exists_congr fun _ => and_congr_right fun _ => eq_comm

theorem getUpgradePlan_eq_ok {providers : List Provider} {contract : String}
    {plan : UpgradePlan} :
    u.getUpgradePlan providers contract = .ok plan ↔ plan.contract = contract ∧
      List.Forall₂ (fun p i => u.upgradeItemFor contract p = .ok i) providers plan.providers := by
  simp only [getUpgradePlan, except_bind_eq_ok, ← mapM_eq_ok, pure, Except.pure,
    Except.ok.injEq]
  constructor
  · rintro ⟨items, h, rfl⟩
    exact ⟨rfl, h⟩
  · rintro ⟨rfl, h⟩
    exact ⟨_, h, rfl⟩

theorem getUpgradePlan_error_iff (providers : List Provider) (contract : String) :
    (∃ e, u.getUpgradePlan providers contract = .error e) ↔
      ∃ p ∈ providers, ∃ e, u.getUpgradeInfo p = .error e := by
  have item_error : ∀ p, (∃ e, u.upgradeItemFor contract p = .error e) ↔
      ∃ e, u.getUpgradeInfo p = .error e := fun p => by
    simp only [upgradeItemFor]
    cases u.getUpgradeInfo p <;> simp [bind, Except.bind, pure, Except.pure]
  simp only [← item_error, ← mapM_eq_error_iff, getUpgradePlan]
  cases List.mapM (u.upgradeItemFor contract) providers <;>
    simp [bind, Except.bind, pure, Except.pure]

/-- The plan of a contract when every provider has upgrade information: each provider, in
order, with the latest next version it has for the contract. -/
def planFor (providers : List Provider) (infos : Provider → UpgradeInfo) (contract : String) :
    UpgradePlan :=
  { contract, providers := providers.map fun p => itemFor contract p (infos p) }

theorem getUpgradePlan_eq_planFor {providers : List Provider} {infos : Provider → UpgradeInfo}
    (hinfos : ∀ p ∈ providers, u.getUpgradeInfo p = .ok (infos p)) (contract : String) :
    u.getUpgradePlan providers contract = .ok (planFor providers infos contract) := by
  rw [getUpgradePlan_eq_ok]
  refine ⟨rfl, ?_⟩
  induction providers with
  | nil => exact .nil
  | cons p ps ih =>
      simp only [List.mem_cons, forall_eq_or_imp] at hinfos
      exact .cons ((u.upgradeItemFor_eq_ok).2 ⟨_, hinfos.1, rfl⟩) (ih hinfos.2)

/-- Where no provider's upgrade information fails, it is the one `Except.toOption` reads. -/
theorem getUpgradeInfo_eq_toOption {providers : List Provider}
    (h : ∀ p ∈ providers, ∀ e, u.getUpgradeInfo p ≠ .error e) :
    ∀ p ∈ providers, u.getUpgradeInfo p = .ok ((u.getUpgradeInfo p).toOption.getD default) := by
  intro p hp
  cases hinfo : u.getUpgradeInfo p with
  | error e => exact absurd hinfo (h p hp e)
  | ok info => rfl

/-- A plan `getUpgradePlan` returns is the plan of the contract for the upgrade information of
the providers, which all have one. -/
theorem getUpgradePlan_eq_ok_planFor {providers : List Provider} {contract : String}
    {P : UpgradePlan} (h : u.getUpgradePlan providers contract = .ok P) :
    ∃ infos : Provider → UpgradeInfo, (∀ p ∈ providers, u.getUpgradeInfo p = .ok (infos p)) ∧
      P = planFor providers infos contract := by
  have hnone : ∀ p ∈ providers, ∀ e, u.getUpgradeInfo p ≠ .error e := fun p hp e he => by
    obtain ⟨e', he'⟩ := (u.getUpgradePlan_error_iff providers contract).2 ⟨p, hp, e, he⟩
    exact Except.noConfusion (h.symm.trans he')
  have hinfos := u.getUpgradeInfo_eq_toOption hnone
  exact ⟨_, hinfos, Except.ok.inj (h.symm.trans (u.getUpgradePlan_eq_planFor hinfos contract))⟩

/-! ### `Plan` -/

/-- The drop rule of `Plan`: a plan is kept unless it is partial and changes the contract. -/
def keepsPlan (currentContract : String) (plan : UpgradePlan) : Bool :=
  !(plan.isPartialUpgrade && currentContract != plan.contract)

/-- The loop of `Plan` over the contracts for upgrade; `ret` holds the plans kept so far. -/
def planLoop (providers : List Provider) (currentContract : String) :
    List UpgradePlan → List String → Except Error (List UpgradePlan)
  | ret, [] => pure ret
  | ret, contract :: rest => do
      let upgradePlan ← u.getUpgradePlan providers contract
      if upgradePlan.isPartialUpgrade && currentContract != contract then
        planLoop providers currentContract ret rest
      else
        planLoop providers currentContract (ret ++ [upgradePlan]) rest

/-- The error of `Plan` and `createCustomPlan` for an inventory without exactly one core
provider. -/
def invalidManagementCluster (found : ℕ) : Error :=
  "invalid management cluster: there should a core provider, found " ++ Nat.repr found

/-- Go's `return nil, err` in a function returning a slice: a `nil` error is a success with no
elements. -/
def returnNil {α : Type} : Option Error → Except Error (List α)
  | none => .ok []
  | some e => .error e

/-- `providerUpgrader.Plan`: the upgrade plans proposed for the management cluster. -/
def plan : Except Error (List UpgradePlan) := do
  let providerList ← u.list
  match filterCore providerList with
  | [coreProvider] =>
      let coreUpgradeInfo ← u.getUpgradeInfo coreProvider
      let contractsForUpgrade := coreUpgradeInfo.getContractsForUpgrade
      if contractsForUpgrade.isEmpty then
        -- the source wraps the `err` of `getUpgradeInfo`, which is `nil` here
        returnNil (errorsWrapf none ("invalid metadata: unable to find the API Version of " ++
          "Cluster API (contract) supported by the " ++ coreProvider.instanceName ++ " provider"))
      else
        u.planLoop providerList coreUpgradeInfo.currentContract [] contractsForUpgrade
  | coreProviders => throw (invalidManagementCluster coreProviders.length)

theorem planLoop_eq {providers : List Provider} {infos : Provider → UpgradeInfo}
    (hinfos : ∀ p ∈ providers, u.getUpgradeInfo p = .ok (infos p)) (currentContract : String) :
    ∀ ret contracts, u.planLoop providers currentContract ret contracts =
      .ok (ret ++ (contracts.map (planFor providers infos)).filter (keepsPlan currentContract))
  | ret, [] => by simp [planLoop, pure, Except.pure]
  | ret, c :: cs => by
      have hc : (planFor providers infos c).contract = c := rfl
      simp only [planLoop, u.getUpgradePlan_eq_planFor hinfos, bind, Except.bind, List.map_cons,
        List.filter_cons, keepsPlan, hc, planLoop_eq hinfos currentContract]
      cases (planFor providers infos c).isPartialUpgrade && currentContract != c <;> simp

theorem planLoop_error_iff (providers : List Provider) (currentContract : String)
    (ret : List UpgradePlan) {contracts : List String} (hcs : contracts ≠ []) :
    (∃ e, u.planLoop providers currentContract ret contracts = .error e) ↔
      ∃ p ∈ providers, ∃ e, u.getUpgradeInfo p = .error e := by
  obtain ⟨c, cs, rfl⟩ := List.exists_cons_of_ne_nil hcs
  constructor
  · rintro ⟨e, he⟩
    by_contra hnone
    push_neg at hnone
    rw [u.planLoop_eq (u.getUpgradeInfo_eq_toOption hnone)] at he
    cases he
  · intro hp
    obtain ⟨e, he⟩ := (u.getUpgradePlan_error_iff _ c).2 hp
    exact ⟨e, by simp [planLoop, he, bind, Except.bind]⟩

/-- With one core provider and its upgrade information, `Plan` is its loop over the core's
contracts for upgrade: the branch for an empty list of contracts is never taken. -/
theorem plan_eq_planLoop {inv : List Provider} {core : Provider} {coreInfo : UpgradeInfo}
    (hlist : u.list = .ok inv) (hcore : filterCore inv = [core])
    (hinfo : u.getUpgradeInfo core = .ok coreInfo) :
    u.plan = u.planLoop inv coreInfo.currentContract [] coreInfo.getContractsForUpgrade := by
  obtain ⟨rest, hrest⟩ := coreInfo.getContractsForUpgrade_eq_cons
  simp [plan, hlist, hcore, hinfo, hrest, bind, Except.bind]

theorem plan_of_length_ne_one {inv : List Provider} (hlist : u.list = .ok inv)
    (hcore : (filterCore inv).length ≠ 1) :
    u.plan = .error (invalidManagementCluster (filterCore inv).length) := by
  simp only [plan, hlist, bind, Except.bind]
  split
  · simp_all
  · rfl

theorem plan_of_core_error {inv : List Provider} {core : Provider} {e : Error}
    (hlist : u.list = .ok inv) (hcore : filterCore inv = [core])
    (hinfo : u.getUpgradeInfo core = .error e) : u.plan = .error e := by
  simp [plan, hlist, hcore, hinfo, bind, Except.bind]

/-- A kept plan that changes the contract gives every provider a next version. -/
theorem keepsPlan_nextVersion_ne_empty {currentContract : String} {plan : UpgradePlan}
    (hkeep : keepsPlan currentContract plan) (hc : plan.contract ≠ currentContract) :
    ∀ i ∈ plan.providers, i.nextVersion ≠ "" := by
  have hpartial : plan.isPartialUpgrade = false := by
    simpa [keepsPlan, Ne.symm hc] using hkeep
  intro i hi hempty
  have := (plan.isPartialUpgrade_iff).2 ⟨i, hi, hempty⟩
  simp_all

/-- The plans a successful `Plan` returns: the inventory has one core provider, every provider
has upgrade information, and the plans are those of the core's contracts for upgrade that the
drop rule keeps. -/
theorem plan_eq_ok_inv {plans : List UpgradePlan} (h : u.plan = .ok plans) :
    ∃ inv core coreInfo, u.list = .ok inv ∧ filterCore inv = [core] ∧
      u.getUpgradeInfo core = .ok coreInfo ∧ ∃ infos : Provider → UpgradeInfo,
        (∀ p ∈ inv, u.getUpgradeInfo p = .ok (infos p)) ∧
        plans = (coreInfo.getContractsForUpgrade.map (planFor inv infos)).filter
          (keepsPlan coreInfo.currentContract) := by
  cases hlist : u.list with
  | error e => simp [plan, hlist, bind, Except.bind] at h
  | ok inv =>
      by_cases hone : (filterCore inv).length = 1
      · obtain ⟨core, hcore⟩ := List.length_eq_one.1 hone
        cases hinfo : u.getUpgradeInfo core with
        | error e => rw [u.plan_of_core_error hlist hcore hinfo] at h; cases h
        | ok coreInfo =>
            rw [u.plan_eq_planLoop hlist hcore hinfo] at h
            obtain ⟨rest, hrest⟩ := coreInfo.getContractsForUpgrade_eq_cons
            have hnone : ∀ p ∈ inv, ∀ e, u.getUpgradeInfo p ≠ .error e := by
              intro p hp e he
              obtain ⟨e', he'⟩ := (u.planLoop_error_iff inv coreInfo.currentContract []
                (by simp [hrest] : coreInfo.getContractsForUpgrade ≠ [])).2 ⟨p, hp, e, he⟩
              rw [h] at he'
              cases he'
            have hinfos := u.getUpgradeInfo_eq_toOption hnone
            rw [u.planLoop_eq hinfos] at h
            exact ⟨inv, core, coreInfo, rfl, hcore, hinfo, _, hinfos, (Except.ok.inj h).symm⟩
      · rw [u.plan_of_length_ne_one hlist hone] at h
        cases h

/-- The plan for the current contract survives the drop rule. -/
theorem planFor_current_mem (inv : List Provider) (infos : Provider → UpgradeInfo)
    (coreInfo : UpgradeInfo) :
    planFor inv infos coreInfo.currentContract ∈
      (coreInfo.getContractsForUpgrade.map (planFor inv infos)).filter
        (keepsPlan coreInfo.currentContract) := by
  obtain ⟨rest, hrest⟩ := coreInfo.getContractsForUpgrade_eq_cons
  simp [hrest, keepsPlan, planFor]

/-- **What `Plan` returns.**  A successful `Plan` has found one core provider, and returns, in
the order of the core's contracts for upgrade, the plan `getUpgradePlan` builds for each
contract (one item per provider, in inventory order, with the latest next version for the
contract), minus those that are partial while changing the contract.  Hence no returned plan changes the
contract and leaves a provider without a next version, and the plan for the current contract
is never dropped. -/
theorem plan_eq_filter {inv : List Provider} {plans : List UpgradePlan}
    (hlist : u.list = .ok inv) (h : u.plan = .ok plans) :
    ∃ core coreInfo, filterCore inv = [core] ∧ u.getUpgradeInfo core = .ok coreInfo ∧
      ∃ infos : Provider → UpgradeInfo, (∀ p ∈ inv, u.getUpgradeInfo p = .ok (infos p)) ∧
        (∀ c, u.getUpgradePlan inv c = .ok (planFor inv infos c)) ∧
        plans = (coreInfo.getContractsForUpgrade.map (planFor inv infos)).filter
          (keepsPlan coreInfo.currentContract) ∧
        (∀ P ∈ plans, P.contract ≠ coreInfo.currentContract →
          ∀ i ∈ P.providers, i.nextVersion ≠ "") ∧
        ∃ P ∈ plans, P.contract = coreInfo.currentContract := by
  obtain ⟨inv', core, coreInfo, hlist', hcore', hinfo, infos, hinfos, rfl⟩ := u.plan_eq_ok_inv h
  obtain rfl : inv = inv' := Except.ok.inj (hlist.symm.trans hlist')
  refine ⟨core, coreInfo, hcore', hinfo, infos, hinfos, u.getUpgradePlan_eq_planFor hinfos,
    rfl, fun P hP => keepsPlan_nextVersion_ne_empty (List.mem_filter.1 hP).2,
    planFor inv infos coreInfo.currentContract, planFor_current_mem inv infos coreInfo, rfl⟩

end ProviderUpgrader

/-! #### The fleet of the spec's scenario -/

/-- The core provider of the scenario's fleet, at `v0.4.2` (contract `v1alpha4`). -/
def fleetCore : Provider :=
  { name := "cluster-api", ns := "capi-system", providerName := "cluster-api",
    providerType := .core, version := "v0.4.2" }

/-- The control-plane provider of the scenario's fleet, at `v0.4.2` (contract `v1alpha4`). -/
def fleetControlPlane : Provider :=
  { name := "control-plane-kubeadm", ns := "capi-kubeadm-control-plane-system",
    providerName := "kubeadm", providerType := .controlPlane, version := "v0.4.2" }

/-- The core provider offers `v0.4.5` (`v1alpha4`), `v0.5.0` (`v1alpha5`) and `v1.0.0`
(`v1beta1`). -/
def fleetCoreInfo : UpgradeInfo :=
  { metadata := ⟨[⟨0, 4, "v1alpha4"⟩, ⟨0, 5, "v1alpha5"⟩, ⟨1, 0, "v1beta1"⟩]⟩,
    currentContract := "v1alpha4", nextVersions := [⟨0, 4, 5⟩, ⟨0, 5, 0⟩, ⟨1, 0, 0⟩] }

/-- The control-plane provider offers only `v0.4.5` (`v1alpha4`). -/
def fleetControlPlaneInfo : UpgradeInfo :=
  { metadata := ⟨[⟨0, 4, "v1alpha4"⟩]⟩, currentContract := "v1alpha4",
    nextVersions := [⟨0, 4, 5⟩] }

/-- The upgrader of the scenario's fleet. -/
def fleetUpgrader : ProviderUpgrader where
  list := .ok [fleetCore, fleetControlPlane]
  getUpgradeInfo p := if p.providerType = .core then .ok fleetCoreInfo else .ok fleetControlPlaneInfo
  parseSemantic s :=
    match [("v0.4.2", ⟨0, 4, 2⟩), ("v0.4.5", ⟨0, 4, 5⟩), ("v0.5.0", ⟨0, 5, 0⟩),
        ("v1.0.0", ⟨1, 0, 0⟩)].lookup s with
    | some v => .ok v
    | none => .error ("could not parse " ++ s ++ " as version")
  parseSemantic_empty _ h := by cases h

/-- The one plan `Plan` offers the fleet: both providers to `v0.4.5`, on `v1alpha4`; the plans
for `v1alpha5` and `v1beta1` are dropped, the control plane having no release for them. -/
def fleetPlan : UpgradePlan :=
  { contract := "v1alpha4",
    providers := [⟨fleetCore, "v0.4.5"⟩, ⟨fleetControlPlane, "v0.4.5"⟩] }

namespace ProviderUpgrader

variable (u : ProviderUpgrader)

theorem plan_fleet :
    fleetUpgrader.plan = .ok [fleetPlan] ∧
    ∃ core coreInfo, filterCore [fleetCore, fleetControlPlane] = [core] ∧
      fleetUpgrader.getUpgradeInfo core = .ok coreInfo ∧
      ∃ infos : Provider → UpgradeInfo,
        (∀ p ∈ [fleetCore, fleetControlPlane], fleetUpgrader.getUpgradeInfo p = .ok (infos p)) ∧
        (∀ c, fleetUpgrader.getUpgradePlan [fleetCore, fleetControlPlane] c =
          .ok (planFor [fleetCore, fleetControlPlane] infos c)) ∧
        [fleetPlan] = (coreInfo.getContractsForUpgrade.map
          (planFor [fleetCore, fleetControlPlane] infos)).filter
            (keepsPlan coreInfo.currentContract) ∧
        (∀ P ∈ [fleetPlan], P.contract ≠ coreInfo.currentContract →
          ∀ i ∈ P.providers, i.nextVersion ≠ "") ∧
        ∃ P ∈ [fleetPlan], P.contract = coreInfo.currentContract :=
  ⟨rfl, plan_eq_filter fleetUpgrader rfl rfl⟩

/-- **When `Plan` fails**: the inventory cannot be listed, it has not exactly one core
provider, the core's upgrade information fails or has no contract for upgrade, or some
provider's upgrade information fails.  And `Plan` never succeeds with no plan at all. -/
theorem plan_error_iff :
    ((∃ e, u.plan = .error e) ↔ (∃ e, u.list = .error e) ∨ ∃ inv, u.list = .ok inv ∧
      ((filterCore inv).length ≠ 1 ∨
        (∃ core ∈ filterCore inv, ∃ e, u.getUpgradeInfo core = .error e) ∨
        (∃ core ∈ filterCore inv, ∃ info, u.getUpgradeInfo core = .ok info ∧
          info.getContractsForUpgrade = []) ∨
        ∃ p ∈ inv, ∃ e, u.getUpgradeInfo p = .error e)) ∧
    ∀ plans, u.plan = .ok plans → plans ≠ [] := by
  refine ⟨?_, fun plans h => ?_⟩
  · cases hlist : u.list with
    | error e => simp [plan, hlist, bind, Except.bind]
    | ok inv =>
        simp only [reduceCtorEq, exists_false, Except.ok.injEq, exists_eq_left', false_or]
        by_cases hone : (filterCore inv).length = 1
        · obtain ⟨core, hcore⟩ := List.length_eq_one.1 hone
          cases hinfo : u.getUpgradeInfo core with
          | error e =>
              simp [u.plan_of_core_error hlist hcore hinfo, hcore, hinfo]
          | ok coreInfo =>
              obtain ⟨rest, hrest⟩ := coreInfo.getContractsForUpgrade_eq_cons
              rw [u.plan_eq_planLoop hlist hcore hinfo,
                u.planLoop_error_iff _ _ _ (by simp [hrest])]
              simp [hcore, hinfo, hrest]
        · simp [u.plan_of_length_ne_one hlist hone, hone]
  · obtain ⟨inv, core, coreInfo, -, -, -, infos, -, rfl⟩ := u.plan_eq_ok_inv h
    exact List.ne_nil_of_mem (planFor_current_mem inv infos coreInfo)

/-! ### The plan `ApplyPlan` executes -/

/-- `ApplyPlan` up to its call of `doUpgrade`: the plan it executes, or the error it returns
before. -/
def planToApply (contract : String) : Except Error UpgradePlan := do
  if contract ≠ clusterv1Version then
    throw ("current version of clusterctl could only upgrade to " ++ clusterv1Version ++
      " contract, requested " ++ contract)
  let providerList ← u.list
  u.getUpgradePlan providerList contract

theorem planToApply_eq_ok {contract : String} {P : UpgradePlan} :
    u.planToApply contract = .ok P ↔ contract = clusterv1Version ∧
      ∃ inv, u.list = .ok inv ∧ u.getUpgradePlan inv contract = .ok P := by
  by_cases hc : contract = clusterv1Version
  · cases hl : u.list <;> simp [planToApply, hc, hl, bind, Except.bind, pure, Except.pure]
  · simp [planToApply, hc, throw, throwThe, MonadExceptOf.throw, bind, Except.bind]

/-- The plan `ApplyPlan` executes is one `Plan` offers when the inventory has one core
provider, the contract is one of the core's contracts for upgrade, and the plan is complete
or keeps the current contract. -/
theorem planToApply_mem_plan {contract : String} {P : UpgradePlan} {inv : List Provider}
    {core : Provider} {coreInfo : UpgradeInfo} (hlist : u.list = .ok inv)
    (hcore : filterCore inv = [core]) (hinfo : u.getUpgradeInfo core = .ok coreInfo)
    (hc : contract ∈ coreInfo.getContractsForUpgrade) (hP : u.planToApply contract = .ok P)
    (hkeep : P.isPartialUpgrade = false ∨ contract = coreInfo.currentContract) :
    ∃ plans, u.plan = .ok plans ∧ P ∈ plans := by
  obtain ⟨-, inv', hlist', hplan⟩ := (u.planToApply_eq_ok).1 hP
  obtain rfl : inv = inv' := Except.ok.inj (hlist.symm.trans hlist')
  have hnone : ∀ p ∈ inv, ∀ e, u.getUpgradeInfo p ≠ .error e := by
    intro p hp e he
    obtain ⟨e', he'⟩ := (u.getUpgradePlan_error_iff inv contract).2 ⟨p, hp, e, he⟩
    rw [hplan] at he'
    cases he'
  have hinfos := u.getUpgradeInfo_eq_toOption hnone
  obtain rfl := Except.ok.inj ((u.getUpgradePlan_eq_planFor hinfos contract).symm.trans hplan)
  refine ⟨_, (u.plan_eq_planLoop hlist hcore hinfo).trans (u.planLoop_eq hinfos _ [] _), ?_⟩
  refine List.mem_append_right _ (List.mem_filter.2 ⟨List.mem_map_of_mem _ hc, ?_⟩)
  rcases hkeep with hkeep | rfl
  · simp [keepsPlan, hkeep]
  · simp [keepsPlan, planFor]

/-- The scenario's fleet where the control plane has the core's releases. -/
def uniformFleetUpgrader : ProviderUpgrader :=
  { fleetUpgrader with getUpgradeInfo := fun _ => .ok fleetCoreInfo }

/-- On it, `ApplyPlan` for `v1beta1` executes a plan with no empty item, which `Plan` offers. -/
theorem planToApply_mem_plan_uniform :
    uniformFleetUpgrader.list = .ok [fleetCore, fleetControlPlane] ∧
      filterCore [fleetCore, fleetControlPlane] = [fleetCore] ∧
      uniformFleetUpgrader.getUpgradeInfo fleetCore = .ok fleetCoreInfo ∧
      clusterv1Version ∈ fleetCoreInfo.getContractsForUpgrade ∧
      uniformFleetUpgrader.planToApply clusterv1Version = .ok
        { contract := clusterv1Version,
          providers := [⟨fleetCore, "v1.0.0"⟩, ⟨fleetControlPlane, "v1.0.0"⟩] } ∧
      UpgradePlan.isPartialUpgrade
        { contract := clusterv1Version,
          providers := [⟨fleetCore, "v1.0.0"⟩, ⟨fleetControlPlane, "v1.0.0"⟩] } = false ∧
      ∃ plans, uniformFleetUpgrader.plan = .ok plans ∧
        { contract := clusterv1Version,
          providers := [⟨fleetCore, "v1.0.0"⟩, ⟨fleetControlPlane, "v1.0.0"⟩] } ∈ plans :=
  ⟨rfl, rfl, rfl, by decide, rfl, rfl,
    @planToApply_mem_plan _ clusterv1Version _ _ fleetCore _ rfl rfl rfl (by decide) rfl
      (.inl rfl)⟩

/-- The plan `ApplyPlan` executes for `v1beta1` on the scenario's fleet: the core provider to
`v1.0.0`, the control-plane provider left where it is. -/
def fleetMixedPlan : UpgradePlan :=
  { contract := "v1beta1", providers := [⟨fleetCore, "v1.0.0"⟩, ⟨fleetControlPlane, ""⟩] }

/-- `ApplyPlan` executes a plan `Plan` does not offer: on the scenario's fleet it moves the core
provider to `v1beta1` and leaves the control-plane provider on `v1alpha4`. -/
theorem planToApply_not_mem_plan :
    fleetUpgrader.planToApply clusterv1Version = .ok fleetMixedPlan ∧
      fleetUpgrader.plan = .ok [fleetPlan] ∧ fleetMixedPlan ∉ [fleetPlan] ∧
      fleetMixedPlan.isPartialUpgrade ∧
      fleetMixedPlan.contract ≠ fleetCoreInfo.currentContract :=
  ⟨rfl, rfl, by decide, rfl, by decide⟩

end ProviderUpgrader

end CapiOperator
