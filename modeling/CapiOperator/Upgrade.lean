import Mathlib.Data.List.Sort
import CapiOperator.CustomPlan

/-!
**Executing an upgrade plan: `doUpgrade` and the calls it makes.**

`doUpgrade` is the part of the upgrader that changes the management cluster.  It checks that
each provider has a single instance (for the supported contract), sorts the items by provider
type, scales down every provider that has a next version, then for each of them, in the same
order, fetches the new components, deletes the old ones (keeping CRDs, namespace and inventory
entry) and installs the new ones; for the supported contract it finally deletes the webhook
namespace.  Every call may fail, and `doUpgrade` returns at the first failure.

A run is modelled by the calls it makes: a `CapiOperator.Call` is one request to a
collaborator, and a `CapiOperator.Responder` says which calls fail, as a function of the calls
made before, so that every pattern of failures is covered.  `sort.Slice` is not stable, so the
sort is a parameter, `CapiOperator.SliceSort`, of which only its contract is known.

The two loops of `doUpgrade` are proved equal to running one list of calls,
`CapiOperator.upgradeCalls`, and what a run of a list of calls does is proved once
(`CapiOperator.runCalls_cases`).

Main definitions:

* `CapiOperator.Call`, `CapiOperator.Responder`, `CapiOperator.Run`, `CapiOperator.runCalls`;
* `CapiOperator.doUpgrade`, `CapiOperator.ProviderUpgrader.applyPlan`,
  `CapiOperator.ProviderUpgrader.applyCustomPlan`;
* `CapiOperator.upgradeCalls` — the calls of a run in which nothing fails.

Main results:

* `CapiOperator.doUpgrade_trace` — **the calls `doUpgrade` makes are a prefix of
  `upgradeCalls`**, cut right after the first failing call, whose error it returns;
* `CapiOperator.doUpgrade_redeploys` — `doUpgrade` skips exactly the items without a next
  version, in every plan: no call is made for them; and it redeploys an item whose next
  version is the installed one;
* `CapiOperator.doUpgrade_phases` — **the phases of a run never overlap**: whatever fails,
  no provider is deleted or installed before every provider to upgrade was scaled down, and
  the webhook namespace is deleted only after every new version was installed;
* `CapiOperator.ProviderUpgrader.applyCustomPlan_consistent` — after a successful
  `ApplyCustomPlan`, every requested item has been installed at its version and every provider
  of the cluster is on the supported contract;
* `CapiOperator.ProviderUpgrader.applyPlan_installs_latest` — after a successful `ApplyPlan`,
  every provider of the inventory was drained and installed at the latest next version of the
  contract, or has no such version and was left alone.
-/

set_option relaxedAutoImplicit false
set_option autoImplicit false

namespace CapiOperator

/-! ### Calls and runs -/

/-- `DeleteOptions`: what `Delete` removes with a provider. -/
structure DeleteOptions where
  provider : Provider
  includeNamespace : Bool
  includeCRDs : Bool
  skipInventory : Bool
  deriving DecidableEq, Repr

/-- `repository.ComponentsOptions`: the version and namespace components are fetched for. -/
structure ComponentsOptions where
  version : String
  targetNamespace : String
  deriving DecidableEq, Repr

/-- The components of a provider fetched from its repository with the given options; their
content is not modelled. -/
structure Components where
  provider : Provider
  options : ComponentsOptions
  deriving DecidableEq, Repr

/-- A call `doUpgrade` makes to a collaborator. -/
inductive Call where
  /-- `providerInventory.CheckSingleProviderInstance()`. -/
  | checkSingleProviderInstance
  /-- `scaleDownProvider(provider)`. -/
  | scaleDownProvider (provider : Provider)
  /-- `getUpgradeComponents(item)`: the provider's configuration, its repository, and the
  components of the target version. -/
  | getUpgradeComponents (item : UpgradeItem)
  /-- `providerComponents.Delete(options)`. -/
  | delete (options : DeleteOptions)
  /-- `installComponentsAndUpdateInventory(components, ...)`. -/
  | installComponentsAndUpdateInventory (components : Components)
  /-- `providerComponents.DeleteWebhookNamespace()`. -/
  | deleteWebhookNamespace
  deriving DecidableEq, Repr

/-- The call acts on the provider: scales it down, or fetches, deletes or installs its
components. -/
def Call.Concerns (p : Provider) : Call → Prop
  | .scaleDownProvider q => q = p
  | .getUpgradeComponents item => item.provider = p
  | .delete options => options.provider = p
  | .installComponentsAndUpdateInventory components => components.provider = p
  | .checkSingleProviderInstance | .deleteWebhookNamespace => False

/-- The calls made so far, oldest first. -/
abbrev Trace := List Call

/-- How the collaborators answer: the error a call returns (`none` is `nil`), given the calls
made before it. -/
abbrev Responder := Trace → Call → Option Error

/-- A run that ends with a Go `error`: from the calls made so far, the error it returns and the
calls made then. -/
abbrev Run := Trace → Option Error × Trace

/-- Make one call, and return its error. -/
def call (r : Responder) (c : Call) : Run := fun t => (r t c, t ++ [c])

/-- Run `x`, and `y` after it unless `x` failed. -/
def Run.seq (x y : Run) : Run := fun t =>
  match x t with
  | (none, t') => y t'
  | (some e, t') => (some e, t')

/-- The run that makes no call and returns `nil`. -/
def Run.done : Run := fun t => (none, t)

/-- The run that makes no call and returns an error. -/
def Run.fail (e : Error) : Run := fun t => (some e, t)

@[simp] theorem Run.done_seq (y : Run) : Run.done.seq y = y := rfl

@[simp] theorem Run.seq_done (x : Run) : x.seq Run.done = x := by
  funext t
  simp only [Run.seq, Run.done]
  split <;> simp_all

theorem Run.seq_assoc (x y z : Run) : (x.seq y).seq z = x.seq (y.seq z) := by
  funext t
  simp only [Run.seq]
  cases x t with
  | mk e t' => cases e <;> rfl

/-- Make the calls in order, stopping after the first that fails. -/
def runCalls (r : Responder) : List Call → Run
  | [] => Run.done
  | c :: cs => (call r c).seq (runCalls r cs)

theorem runCalls_append (r : Responder) (cs ds : List Call) :
    runCalls r (cs ++ ds) = (runCalls r cs).seq (runCalls r ds) := by
  induction cs with
  | nil => rfl
  | cons c cs ih =>
      show (call r c).seq (runCalls r (cs ++ ds)) = _
      rw [ih, runCalls, Run.seq_assoc]

/-- The calls succeed one after another, from the trace `t`. -/
def Succeeds (r : Responder) : Trace → List Call → Prop
  | _, [] => True
  | t, c :: cs => r t c = none ∧ Succeeds r (t ++ [c]) cs

/-- **What a run of calls does.**  Either every call succeeds, the run returns `nil` and has
made them all; or the run stops right after the first call that fails, and returns its error. -/
theorem runCalls_cases (r : Responder) (cs : List Call) (t : Trace) :
    (Succeeds r t cs ∧ runCalls r cs t = (none, t ++ cs)) ∨
    ∃ pre c post e, cs = pre ++ c :: post ∧ Succeeds r t pre ∧ r (t ++ pre) c = some e ∧
      runCalls r cs t = (some e, t ++ pre ++ [c]) := by
  induction cs generalizing t with
  | nil => exact .inl ⟨trivial, by simp [runCalls, Run.done]⟩
  | cons c cs ih =>
      cases hc : r t c with
      | some e =>
          exact .inr ⟨[], c, cs, e, rfl, trivial, by simpa using hc,
            by simp [runCalls, Run.seq, call, hc]⟩
      | none =>
          have hstep : runCalls r (c :: cs) t = runCalls r cs (t ++ [c]) := by
            simp [runCalls, Run.seq, call, hc]
          rcases ih (t ++ [c]) with ⟨hs, hrun⟩ | ⟨pre, d, post, e, rfl, hs, hd, hrun⟩
          · exact .inl ⟨⟨hc, hs⟩, by simp [hstep, hrun]⟩
          · exact .inr ⟨c :: pre, d, post, e, rfl, ⟨hc, hs⟩, by simpa using hd,
              by simp [hstep, hrun]⟩

/-- Calls that succeed one after another still do when fewer of them are made. -/
theorem Succeeds.of_prefix {r : Responder} {t : Trace} {cs ds : List Call}
    (h : Succeeds r t cs) (hds : ds <+: cs) : Succeeds r t ds := by
  induction ds generalizing t cs with
  | nil => trivial
  | cons d ds ih =>
      obtain ⟨rest, hrest⟩ := hds
      cases cs with
      | nil => simp at hrest
      | cons c cs =>
          simp only [List.cons_append, List.cons.injEq] at hrest
          obtain ⟨rfl, rfl⟩ := hrest
          exact ⟨h.1, ih h.2 ⟨rest, rfl⟩⟩

/-- A call among calls that succeed one after another returned `nil`. -/
theorem Succeeds.eq_none {r : Responder} {t pre post : Trace} {c : Call}
    (h : Succeeds r t (pre ++ c :: post)) : r (t ++ pre) c = none := by
  induction pre generalizing t with
  | nil => simpa using h.1
  | cons d pre ih => simpa using ih h.2

/-! ### `doUpgrade` -/

/-- The order `doUpgrade` sorts items by: the order of their provider types. -/
def orderLe (a b : UpgradeItem) : Prop :=
  a.provider.providerType.order ≤ b.provider.providerType.order

instance : DecidableRel orderLe := fun _ _ => inferInstanceAs (Decidable (_ ≤ _))

instance : IsTotal UpgradeItem orderLe := ⟨fun _ _ => le_total _ _⟩

instance : IsTrans UpgradeItem orderLe := ⟨fun _ _ _ => le_trans⟩

/-- `sort.Slice` of the items by provider type order: a permutation of its input, sorted.  The
function is not stable, and which permutation it returns is left open. -/
structure SliceSort where
  sort : List UpgradeItem → List UpgradeItem
  perm : ∀ l, (sort l).Perm l
  sorted : ∀ l, (sort l).Sorted orderLe

/-- An insertion sort is one such sort. -/
def insertionSliceSort : SliceSort where
  sort := List.insertionSort orderLe
  perm := List.perm_insertionSort orderLe
  sorted := List.sorted_insertionSort orderLe

/-- The components `getUpgradeComponents` fetches for an item: those of its provider, at the
item's next version, for the provider's namespace. -/
def componentsFor (item : UpgradeItem) : Components :=
  { provider := item.provider,
    options := { version := item.nextVersion, targetNamespace := item.provider.ns } }

/-- The options `doUpgrade` deletes a provider with: CRDs, namespace and inventory entry are
kept. -/
def deleteOptionsFor (item : UpgradeItem) : DeleteOptions :=
  { provider := item.provider, includeNamespace := false, includeCRDs := false,
    skipInventory := true }

/-- The scale-down loop of `doUpgrade`: items without a next version are skipped. -/
def scaleDownLoop (r : Responder) : List UpgradeItem → Run
  | [] => Run.done
  | item :: rest =>
      if item.nextVersion = "" then scaleDownLoop r rest
      else (call r (.scaleDownProvider item.provider)).seq (scaleDownLoop r rest)

/-- The delete-and-install loop of `doUpgrade`: items without a next version are skipped. -/
def replaceLoop (r : Responder) : List UpgradeItem → Run
  | [] => Run.done
  | item :: rest =>
      if item.nextVersion = "" then replaceLoop r rest
      else (call r (.getUpgradeComponents item)).seq <|
        (call r (.delete (deleteOptionsFor item))).seq <|
        (call r (.installComponentsAndUpdateInventory (componentsFor item))).seq <|
        replaceLoop r rest

/-- `providerUpgrader.doUpgrade`. -/
def doUpgrade (r : Responder) (s : SliceSort) (upgradePlan : UpgradePlan) : Run :=
  let checkSingleInstance :=
    if upgradePlan.contract = clusterv1Version then call r .checkSingleProviderInstance
    else Run.done
  let providers := s.sort upgradePlan.providers
  let deleteWebhookNamespace :=
    if upgradePlan.contract = clusterv1Version then call r .deleteWebhookNamespace
    else Run.done
  checkSingleInstance.seq <| (scaleDownLoop r providers).seq <|
    (replaceLoop r providers).seq deleteWebhookNamespace

/-- The calls a run of `doUpgrade` makes when nothing fails, with the items to upgrade taken in
the order `order`. -/
def upgradeCalls (contract : String) (order : List UpgradeItem) : List Call :=
  (if contract = clusterv1Version then [.checkSingleProviderInstance] else []) ++
  order.map (fun item => .scaleDownProvider item.provider) ++
  order.flatMap (fun item => [.getUpgradeComponents item, .delete (deleteOptionsFor item),
    .installComponentsAndUpdateInventory (componentsFor item)]) ++
  (if contract = clusterv1Version then [.deleteWebhookNamespace] else [])

/-- The items `doUpgrade` upgrades: those with a next version, in the sort's order. -/
def upgradeOrder (s : SliceSort) (plan : UpgradePlan) : List UpgradeItem :=
  (s.sort plan.providers).filter fun item => item.nextVersion ≠ ""

theorem scaleDownLoop_eq (r : Responder) (items : List UpgradeItem) :
    scaleDownLoop r items = runCalls r
      ((items.filter fun item => item.nextVersion ≠ "").map
        fun item => .scaleDownProvider item.provider) := by
  induction items with
  | nil => rfl
  | cons item rest ih =>
      by_cases h : item.nextVersion = "" <;> simp [scaleDownLoop, h, ih, runCalls]

theorem replaceLoop_eq (r : Responder) (items : List UpgradeItem) :
    replaceLoop r items = runCalls r
      ((items.filter fun item => item.nextVersion ≠ "").flatMap fun item =>
        [.getUpgradeComponents item, .delete (deleteOptionsFor item),
          .installComponentsAndUpdateInventory (componentsFor item)]) := by
  induction items with
  | nil => rfl
  | cons item rest ih =>
      by_cases h : item.nextVersion = ""
      · simp [replaceLoop, h, ih]
      · simp [replaceLoop, h, ih, runCalls, runCalls_append, Run.seq_assoc]

/-- `doUpgrade` makes the calls of `upgradeCalls`, in the sort's order, until one fails. -/
theorem doUpgrade_eq_runCalls (r : Responder) (s : SliceSort) (plan : UpgradePlan) :
    doUpgrade r s plan = runCalls r (upgradeCalls plan.contract (upgradeOrder s plan)) := by
  have hcheck : ∀ c : Call, runCalls r [c] = call r c := fun c => by simp [runCalls]
  simp only [doUpgrade, upgradeCalls, upgradeOrder, runCalls_append, scaleDownLoop_eq,
    replaceLoop_eq, Run.seq_assoc]
  split <;> simp [hcheck, runCalls]

/-- The order of `doUpgrade` is a permutation of the items with a next version, sorted by
provider type. -/
theorem upgradeOrder_perm_sorted (s : SliceSort) (plan : UpgradePlan) :
    (upgradeOrder s plan).Perm (plan.providers.filter fun item => item.nextVersion ≠ "") ∧
      (upgradeOrder s plan).Sorted orderLe :=
  ⟨(s.perm _).filter _, (s.sorted _).sublist (List.filter_sublist _)⟩

/-- **The calls `doUpgrade` makes.**  There is an order of the items with a next version,
sorted by provider type, such that the calls `doUpgrade` makes are a prefix of `upgradeCalls`
in that order: the single-instance check (for the supported contract), the scale-down of every
item, then for each item its components, its deletion keeping CRDs, namespace and inventory,
and its installation, and last the deletion of the webhook namespace (for the supported
contract).  Either every call succeeds and `doUpgrade` returns `nil` after making them all, or
it stops right after the first failing call and returns that call's error. -/
theorem doUpgrade_trace (r : Responder) (s : SliceSort) (plan : UpgradePlan) :
    ∃ order : List UpgradeItem,
      order.Perm (plan.providers.filter fun item => item.nextVersion ≠ "") ∧
      order.Sorted orderLe ∧
      ((Succeeds r [] (upgradeCalls plan.contract order) ∧
          doUpgrade r s plan [] = (none, upgradeCalls plan.contract order)) ∨
        ∃ pre c post e, upgradeCalls plan.contract order = pre ++ c :: post ∧
          Succeeds r [] pre ∧ r pre c = some e ∧ doUpgrade r s plan [] = (some e, pre ++ [c])) := by
  refine ⟨upgradeOrder s plan, (upgradeOrder_perm_sorted s plan).1,
    (upgradeOrder_perm_sorted s plan).2, ?_⟩
  rw [doUpgrade_eq_runCalls]
  simpa using runCalls_cases r (upgradeCalls plan.contract (upgradeOrder s plan)) []

/-- When nothing fails, `doUpgrade` makes every call of `upgradeCalls`. -/
theorem doUpgrade_of_succeeds (s : SliceSort) (plan : UpgradePlan) :
    doUpgrade (fun _ _ => none) s plan [] =
      (none, upgradeCalls plan.contract (upgradeOrder s plan)) := by
  rw [doUpgrade_eq_runCalls]
  rcases runCalls_cases (fun _ _ => none) (upgradeCalls plan.contract (upgradeOrder s plan)) []
    with ⟨_, hrun⟩ | ⟨pre, c, post, e, hcs, hs, he, hrun⟩
  · simpa using hrun
  · cases he

/-- The calls `doUpgrade` makes are a prefix of `upgradeCalls`. -/
theorem doUpgrade_prefix_of_upgradeCalls (r : Responder) (s : SliceSort) (plan : UpgradePlan) :
    (doUpgrade r s plan []).2 <+: upgradeCalls plan.contract (upgradeOrder s plan) := by
  rw [doUpgrade_eq_runCalls]
  rcases runCalls_cases r (upgradeCalls plan.contract (upgradeOrder s plan)) []
    with ⟨-, hrun⟩ | ⟨pre, c, post, e, hcs, -, -, hrun⟩
  · simp [hrun]
  · rw [hrun, hcs]
    simp

/-- When `doUpgrade` returns `nil` it has made every call of `upgradeCalls`. -/
theorem doUpgrade_eq_of_ok {r : Responder} {s : SliceSort} {plan : UpgradePlan}
    (h : (doUpgrade r s plan []).1 = none) :
    (doUpgrade r s plan []).2 = upgradeCalls plan.contract (upgradeOrder s plan) := by
  rw [doUpgrade_eq_runCalls] at h ⊢
  rcases runCalls_cases r (upgradeCalls plan.contract (upgradeOrder s plan)) []
    with ⟨-, hrun⟩ | ⟨pre, c, post, e, -, -, -, hrun⟩
  · simp [hrun]
  · simp [hrun] at h

/-- `upgradeCalls` scales down, deletes and reinstalls every item of the order. -/
theorem mem_upgradeCalls {contract : String} {order : List UpgradeItem} {item : UpgradeItem}
    (h : item ∈ order) :
    Call.scaleDownProvider item.provider ∈ upgradeCalls contract order ∧
      Call.delete (deleteOptionsFor item) ∈ upgradeCalls contract order ∧
      Call.installComponentsAndUpdateInventory (componentsFor item) ∈
        upgradeCalls contract order := by
  simp only [upgradeCalls, List.mem_append, List.mem_map, List.mem_flatMap, List.mem_cons,
    List.mem_singleton]
  exact ⟨.inl (.inl (.inr ⟨item, h, rfl⟩)), .inl (.inr ⟨item, h, by simp⟩),
    .inl (.inr ⟨item, h, by simp⟩)⟩

/-- What a call of `upgradeCalls` is: the single-instance check, the deletion of the webhook
namespace, or one of the four calls for an item of the order. -/
theorem mem_upgradeCalls_cases {contract : String} {order : List UpgradeItem} {c : Call}
    (hc : c ∈ upgradeCalls contract order) :
    c = .checkSingleProviderInstance ∨ c = .deleteWebhookNamespace ∨
      ∃ item ∈ order, c ∈ [.scaleDownProvider item.provider, .getUpgradeComponents item,
        .delete (deleteOptionsFor item),
        .installComponentsAndUpdateInventory (componentsFor item)] := by
  simp only [upgradeCalls, List.mem_append, List.mem_map, List.mem_flatMap] at hc
  rcases hc with ((hA | ⟨item, hitem, rfl⟩) | ⟨item, hitem, hB⟩) | hW
  · split at hA <;> simp_all
  · exact .inr (.inr ⟨item, hitem, List.mem_cons_self _ _⟩)
  · exact .inr (.inr ⟨item, hitem, List.mem_cons_of_mem _ hB⟩)
  · split at hW <;> simp_all

/-- A call of `upgradeCalls` that acts on a provider acts on the provider of an item of the
order. -/
theorem concerns_of_mem_upgradeCalls {contract : String} {order : List UpgradeItem}
    {c : Call} {p : Provider} (hc : c ∈ upgradeCalls contract order) (hp : c.Concerns p) :
    ∃ item ∈ order, item.provider = p := by
  rcases mem_upgradeCalls_cases hc with rfl | rfl | ⟨item, hitem, hc⟩
  · nomatch hp
  · nomatch hp
  · simp only [List.mem_cons, List.mem_singleton, List.not_mem_nil, or_false] at hc
    rcases hc with rfl | rfl | rfl | rfl <;> exact ⟨item, hitem, hp⟩

theorem mem_upgradeOrder {s : SliceSort} {plan : UpgradePlan} {item : UpgradeItem} :
    item ∈ upgradeOrder s plan ↔ item ∈ plan.providers ∧ item.nextVersion ≠ "" := by
  rw [(upgradeOrder_perm_sorted s plan).1.mem_iff]
  simp

/-- **`doUpgrade` skips exactly the items without a next version.**  Whatever the
collaborators answer, every call of a run is the single-instance check, the deletion of the
webhook namespace, or a call for an item of the plan that has a next version: no call is made
for an item without one.  And when no call fails, it scales down, deletes and reinstalls every
item that has a next version, whether or not that version is the installed one. -/
theorem doUpgrade_redeploys (r : Responder) (s : SliceSort) (plan : UpgradePlan) :
    (∀ c ∈ (doUpgrade r s plan []).2,
      c = .checkSingleProviderInstance ∨ c = .deleteWebhookNamespace ∨
        ∃ item ∈ plan.providers, item.nextVersion ≠ "" ∧
          c ∈ [.scaleDownProvider item.provider, .getUpgradeComponents item,
            .delete (deleteOptionsFor item),
            .installComponentsAndUpdateInventory (componentsFor item)]) ∧
    ((∀ t c, r t c = none) → ∀ item ∈ plan.providers, item.nextVersion ≠ "" →
      Call.scaleDownProvider item.provider ∈ (doUpgrade r s plan []).2 ∧
      Call.delete (deleteOptionsFor item) ∈ (doUpgrade r s plan []).2 ∧
      Call.installComponentsAndUpdateInventory (componentsFor item) ∈
        (doUpgrade r s plan []).2) := by
  refine ⟨fun c hc => ?_, fun hnone item hitem hnext => ?_⟩
  · rcases mem_upgradeCalls_cases ((doUpgrade_prefix_of_upgradeCalls r s plan).subset hc)
      with h | h | ⟨item, hitem, hc⟩
    · exact .inl h
    · exact .inr (.inl h)
    · obtain ⟨hmem, hne⟩ := mem_upgradeOrder.1 hitem
      exact .inr (.inr ⟨item, hmem, hne, hc⟩)
  · obtain rfl : r = fun _ _ => none := funext fun t => funext fun c => hnone t c
    rw [doUpgrade_of_succeeds]
    exact mem_upgradeCalls (mem_upgradeOrder.2 ⟨hitem, hnext⟩)

/-- On the plan that moves the core provider to `v1.0.0` and leaves the control-plane provider
where it is, a run in which nothing fails drains, deletes and reinstalls the core provider. -/
theorem doUpgrade_redeploys_fleet :
    (∀ t c, (fun _ _ => none : Responder) t c = none) ∧
      ⟨fleetCore, "v1.0.0"⟩ ∈ ProviderUpgrader.fleetMixedPlan.providers ∧
      (⟨fleetCore, "v1.0.0"⟩ : UpgradeItem).nextVersion ≠ "" ∧
      (Call.scaleDownProvider fleetCore ∈
          (doUpgrade (fun _ _ => none) insertionSliceSort ProviderUpgrader.fleetMixedPlan []).2 ∧
        Call.delete (deleteOptionsFor ⟨fleetCore, "v1.0.0"⟩) ∈
          (doUpgrade (fun _ _ => none) insertionSliceSort ProviderUpgrader.fleetMixedPlan []).2 ∧
        Call.installComponentsAndUpdateInventory (componentsFor ⟨fleetCore, "v1.0.0"⟩) ∈
          (doUpgrade (fun _ _ => none) insertionSliceSort ProviderUpgrader.fleetMixedPlan []).2) :=
  ⟨fun _ _ => rfl, List.mem_cons_self _ _, by decide,
    (doUpgrade_redeploys _ insertionSliceSort ProviderUpgrader.fleetMixedPlan).2 (fun _ _ => rfl) _
      (List.mem_cons_self _ _) (by decide)⟩

/-- The scenario's core provider once upgraded to `v1.0.0`. -/
def upgradedCore : Provider := { fleetCore with version := "v1.0.0" }

/-- The scenario's fleet after its upgrade to `v1.0.0`: both providers on `v1beta1`. -/
def upgradedFleetUpgrader : ProviderUpgrader where
  list := .ok [upgradedCore, { fleetControlPlane with version := "v1.0.0" }]
  getUpgradeInfo _ := .ok { fleetCoreInfo with currentContract := "v1beta1", nextVersions := [] }
  parseSemantic := fleetUpgrader.parseSemantic
  parseSemantic_empty := fleetUpgrader.parseSemantic_empty

/-- The plan of the request moving the core provider to `v1.0.0`, run again. -/
def rerunPlan : UpgradePlan :=
  { contract := clusterv1Version, providers := [⟨upgradedCore, "v1.0.0"⟩] }

/-- Re-running the request that moved the core provider to `v1.0.0` is accepted, and its plan,
whose next version is the installed version, scales the core provider down, deletes it and
installs it again. -/
theorem doUpgrade_rerun_redeploys :
    upgradedFleetUpgrader.createCustomPlan [⟨upgradedCore, "v1.0.0"⟩] = .ok rerunPlan ∧
    (∀ item ∈ rerunPlan.providers, item.nextVersion = item.provider.version) ∧
    Call.scaleDownProvider upgradedCore ∈
      (doUpgrade (fun _ _ => none) insertionSliceSort rerunPlan []).2 ∧
    Call.delete (deleteOptionsFor ⟨upgradedCore, "v1.0.0"⟩) ∈
      (doUpgrade (fun _ _ => none) insertionSliceSort rerunPlan []).2 ∧
    Call.installComponentsAndUpdateInventory (componentsFor ⟨upgradedCore, "v1.0.0"⟩) ∈
      (doUpgrade (fun _ _ => none) insertionSliceSort rerunPlan []).2 :=
  ⟨rfl, by decide, by decide, by decide, by decide⟩

/-! ### The phases of a run never overlap -/

/-- A call that is not among the first calls of a list comes after all of them. -/
theorem prefix_of_not_mem {pre xs ys : List Call} {c : Call} (h : pre ++ [c] <+: xs ++ ys)
    (hc : c ∉ xs) : xs <+: pre := by
  rcases List.prefix_or_prefix_of_prefix h (List.prefix_append xs ys) with h' | h'
  · exact absurd (h'.subset (by simp)) hc
  · rcases List.prefix_concat_iff.1 h' with rfl | h'
    · exact absurd (by simp) hc
    · exact h'

/-- Where a call of a run of `doUpgrade` stands: every call before it succeeded, and the run up
to it is a prefix of `upgradeCalls`. -/
theorem doUpgrade_call_position (r : Responder) (s : SliceSort) (plan : UpgradePlan)
    {pre post : Trace} {c : Call} (htrace : (doUpgrade r s plan []).2 = pre ++ c :: post) :
    Succeeds r [] pre ∧ pre ++ [c] <+: upgradeCalls plan.contract (upgradeOrder s plan) := by
  have hcalls : pre ++ [c] <+: (doUpgrade r s plan []).2 := htrace ▸ ⟨post, by simp⟩
  refine ⟨?_, hcalls.trans (doUpgrade_prefix_of_upgradeCalls r s plan)⟩
  rw [doUpgrade_eq_runCalls] at hcalls
  rcases runCalls_cases r (upgradeCalls plan.contract (upgradeOrder s plan)) []
    with ⟨hs, hrun⟩ | ⟨pre', c', post', e, -, hs, -, hrun⟩
  · simp only [hrun, List.nil_append] at hcalls
    exact hs.of_prefix ((List.prefix_append pre [c]).trans hcalls)
  · simp only [hrun, List.nil_append] at hcalls
    rcases List.prefix_concat_iff.1 hcalls with heq | hp
    · exact List.append_inj_left' heq rfl ▸ hs
    · exact hs.of_prefix ((List.prefix_append pre [c]).trans hp)

/-- In a run of `upgradeCalls`, a call that is neither the single-instance check nor a
scale-down comes after the scale-down of every item. -/
theorem scaleDown_mem_of_prefix_upgradeCalls {contract : String} {order : List UpgradeItem}
    {pre : Trace} {c : Call} (hcalls : pre ++ [c] <+: upgradeCalls contract order)
    (hcheck : c ≠ .checkSingleProviderInstance) (hscale : ∀ p, c ≠ .scaleDownProvider p)
    {item : UpgradeItem} (hitem : item ∈ order) : Call.scaleDownProvider item.provider ∈ pre := by
  unfold upgradeCalls at hcalls
  rw [List.append_assoc (_ ++ _)] at hcalls
  refine (prefix_of_not_mem hcalls ?_).subset
    (List.mem_append_right _ (List.mem_map_of_mem _ hitem))
  simp only [List.mem_append, List.mem_map, not_or, not_exists, not_and]
  refine ⟨fun hA => ?_, fun i _ hi => hscale _ hi.symm⟩
  split at hA <;> simp_all

/-- In a run of `upgradeCalls`, the webhook namespace is deleted after every item was
installed. -/
theorem install_mem_of_prefix_upgradeCalls {contract : String} {order : List UpgradeItem}
    {pre : Trace} (hcalls : pre ++ [.deleteWebhookNamespace] <+: upgradeCalls contract order)
    {item : UpgradeItem} (hitem : item ∈ order) :
    Call.installComponentsAndUpdateInventory (componentsFor item) ∈ pre := by
  unfold upgradeCalls at hcalls
  refine (prefix_of_not_mem hcalls ?_).subset
    (List.mem_append_right _ (List.mem_flatMap.2 ⟨item, hitem, by simp⟩))
  simp only [List.mem_append, List.mem_map, List.mem_flatMap, List.mem_cons,
    List.mem_singleton, List.not_mem_nil, or_false, not_or, not_exists, not_and]
  refine ⟨⟨fun hA => ?_, fun _ _ h => Call.noConfusion h⟩, fun _ _ => by simp⟩
  split at hA <;> simp_all

/-- **The phases of `doUpgrade` never overlap.**  Whatever the collaborators answer, every call
of a run comes after calls that all succeeded; a call that is neither the single-instance check
nor a scale-down comes after the scale-down of every provider the run upgrades; and the webhook
namespace is deleted only after every one of them was reinstalled. -/
theorem doUpgrade_phases (r : Responder) (s : SliceSort) (plan : UpgradePlan)
    {pre post : Trace} {c : Call} (htrace : (doUpgrade r s plan []).2 = pre ++ c :: post) :
    Succeeds r [] pre ∧
      (c ≠ .checkSingleProviderInstance → (∀ p, c ≠ .scaleDownProvider p) →
        ∀ item ∈ upgradeOrder s plan, Call.scaleDownProvider item.provider ∈ pre) ∧
      (c = .deleteWebhookNamespace → ∀ item ∈ upgradeOrder s plan,
        Call.installComponentsAndUpdateInventory (componentsFor item) ∈ pre) := by
  obtain ⟨hs, hcalls⟩ := doUpgrade_call_position r s plan htrace
  exact ⟨hs,
    fun hcheck hscale _ hitem => scaleDown_mem_of_prefix_upgradeCalls hcalls hcheck hscale hitem,
    fun hc _ hitem => install_mem_of_prefix_upgradeCalls (hc ▸ hcalls) hitem⟩

/-- The calls of the core provider's upgrade to `v1.0.0` before the webhook namespace goes. -/
def fleetCoreUpgradeCalls : Trace :=
  [.checkSingleProviderInstance, .scaleDownProvider fleetCore,
    .getUpgradeComponents ⟨fleetCore, "v1.0.0"⟩, .delete (deleteOptionsFor ⟨fleetCore, "v1.0.0"⟩),
    .installComponentsAndUpdateInventory (componentsFor ⟨fleetCore, "v1.0.0"⟩)]

/-- The core provider's upgrade to `v1.0.0` ends by deleting the webhook namespace, after it
has drained and reinstalled the core provider. -/
theorem doUpgrade_phases_fleet :
    (doUpgrade (fun _ _ => none) insertionSliceSort
        { contract := clusterv1Version, providers := [⟨fleetCore, "v1.0.0"⟩] } []).2 =
      fleetCoreUpgradeCalls ++ [.deleteWebhookNamespace] ∧
    Succeeds (fun _ _ => none) [] fleetCoreUpgradeCalls ∧
      (Call.deleteWebhookNamespace ≠ .checkSingleProviderInstance →
        (∀ p, Call.deleteWebhookNamespace ≠ .scaleDownProvider p) →
        ∀ item ∈ upgradeOrder insertionSliceSort
          { contract := clusterv1Version, providers := [⟨fleetCore, "v1.0.0"⟩] },
          Call.scaleDownProvider item.provider ∈ fleetCoreUpgradeCalls) ∧
      (Call.deleteWebhookNamespace = .deleteWebhookNamespace → ∀ item ∈ upgradeOrder
          insertionSliceSort { contract := clusterv1Version, providers := [⟨fleetCore, "v1.0.0"⟩] },
        Call.installComponentsAndUpdateInventory (componentsFor item) ∈ fleetCoreUpgradeCalls) :=
  ⟨rfl, @doUpgrade_phases (fun _ _ => none) insertionSliceSort
    { contract := clusterv1Version, providers := [⟨fleetCore, "v1.0.0"⟩] }
    fleetCoreUpgradeCalls [] .deleteWebhookNamespace rfl⟩

/-! ### `ApplyPlan` and `ApplyCustomPlan` -/

namespace ProviderUpgrader

variable (u : ProviderUpgrader)

/-- `providerUpgrader.ApplyPlan`. -/
def applyPlan (r : Responder) (s : SliceSort) (contract : String) : Run :=
  match u.planToApply contract with
  | .ok upgradePlan => doUpgrade r s upgradePlan
  | .error e => Run.fail e

/-- `providerUpgrader.ApplyCustomPlan`. -/
def applyCustomPlan (r : Responder) (s : SliceSort) (upgradeItems : List UpgradeItem) : Run :=
  match u.createCustomPlan upgradeItems with
  | .ok upgradePlan => doUpgrade r s upgradePlan
  | .error e => Run.fail e

/-- **The fleet is consistent after a successful `ApplyCustomPlan`.**  For an inventory with
distinct instance names, when `ApplyCustomPlan` returns `nil` every requested item has been
installed at its version, and every provider of the cluster is on the supported contract. -/
theorem applyCustomPlan_consistent {inv : List Provider} (hlist : u.list = .ok inv)
    (hdistinct : (inv.map Provider.instanceName).Nodup) (r : Responder) (s : SliceSort)
    (items : List UpgradeItem) (h : (u.applyCustomPlan r s items []).1 = none) :
    u.ConsistentAfter inv items clusterv1Version ∧
    ∀ item ∈ items, Call.installComponentsAndUpdateInventory (componentsFor item) ∈
      (u.applyCustomPlan r s items []).2 := by
  unfold applyCustomPlan at h ⊢
  cases hplan : u.createCustomPlan items with
  | error e => simp [hplan, Run.fail] at h
  | ok plan =>
      simp only [hplan] at h ⊢
      obtain ⟨-, hitems, hrest, rfl⟩ := u.createCustomPlan_accepted hlist hdistinct hplan
      obtain ⟨hnext, hconsistent⟩ := u.consistentAfter_of_accepted hdistinct hitems hrest
      refine ⟨hconsistent, fun item hitem => ?_⟩
      rw [doUpgrade_eq_of_ok h]
      exact (mem_upgradeCalls (mem_upgradeOrder.2 ⟨hitem, hnext item hitem⟩)).2.2

/-- Re-running the request that moved the core provider to `v1.0.0` succeeds, keeps the fleet on
`v1beta1` and reinstalls the core provider. -/
theorem applyCustomPlan_consistent_rerun :
    upgradedFleetUpgrader.list = .ok [upgradedCore, { fleetControlPlane with version := "v1.0.0" }] ∧
    ([upgradedCore, { fleetControlPlane with version := "v1.0.0" }].map
      Provider.instanceName).Nodup ∧
    (upgradedFleetUpgrader.applyCustomPlan (fun _ _ => none) insertionSliceSort
      [⟨upgradedCore, "v1.0.0"⟩] []).1 = none ∧
    upgradedFleetUpgrader.ConsistentAfter
        [upgradedCore, { fleetControlPlane with version := "v1.0.0" }]
        [⟨upgradedCore, "v1.0.0"⟩] clusterv1Version ∧
      ∀ item ∈ [⟨upgradedCore, "v1.0.0"⟩],
        Call.installComponentsAndUpdateInventory (componentsFor item) ∈
          (upgradedFleetUpgrader.applyCustomPlan (fun _ _ => none) insertionSliceSort
            [⟨upgradedCore, "v1.0.0"⟩] []).2 :=
  ⟨rfl, by decide, rfl,
    applyCustomPlan_consistent upgradedFleetUpgrader rfl (by decide) _ _ _ rfl⟩

/-- **What a successful `ApplyPlan` did.**  It was asked for the supported contract; every
provider of the inventory that has a next version of that contract was reinstalled at the
greatest such version, each installation coming after the provider's scale-down, and no call
acted on any other provider. -/
theorem applyPlan_installs_latest {inv : List Provider} (hlist : u.list = .ok inv)
    (r : Responder) (s : SliceSort) (contract : String)
    (h : (u.applyPlan r s contract []).1 = none) :
    contract = clusterv1Version ∧ ∀ p ∈ inv, ∃ info, u.getUpgradeInfo p = .ok info ∧
      ((∃ v, info.IsLatestFor contract v ∧
          Call.installComponentsAndUpdateInventory (componentsFor ⟨p, versionTag (some v)⟩) ∈
            (u.applyPlan r s contract []).2 ∧
          ∀ pre post, (u.applyPlan r s contract []).2 = pre ++
              Call.installComponentsAndUpdateInventory (componentsFor ⟨p, versionTag (some v)⟩) ::
                post →
            Call.scaleDownProvider p ∈ pre) ∨
        ((∀ w ∈ info.nextVersions, ¬info.HasContract contract w) ∧
          ∀ c ∈ (u.applyPlan r s contract []).2, ¬c.Concerns p)) := by
  unfold applyPlan at h ⊢
  cases hP : u.planToApply contract with
  | error e => simp [hP, Run.fail] at h
  | ok P =>
      simp only [hP] at h ⊢
      obtain ⟨hc, inv', hlist', hplan⟩ := (u.planToApply_eq_ok).1 hP
      obtain rfl : inv = inv' := Except.ok.inj (hlist.symm.trans hlist')
      obtain ⟨infos, hinfos, rfl⟩ := u.getUpgradePlan_eq_ok_planFor hplan
      rw [doUpgrade_eq_of_ok h]
      refine ⟨hc, fun p hp => ⟨infos p, hinfos p hp, ?_⟩⟩
      cases hv : (infos p).getLatestNextVersion contract with
      | some v =>
          have hfor : itemFor contract p (infos p) = ⟨p, versionTag (some v)⟩ := by
            simp [itemFor, hv]
          have hitem : itemFor contract p (infos p) ∈ upgradeOrder s (planFor inv infos contract) :=
            mem_upgradeOrder.2 ⟨List.mem_map_of_mem _ hp, by simp [hfor, versionTag_eq_empty]⟩
          rw [hfor] at hitem
          refine .inl ⟨v, UpgradeInfo.getLatestNextVersion_eq_some hv, (mem_upgradeCalls hitem).2.2,
            fun pre post htrace => ?_⟩
          have hcalls : pre ++ [.installComponentsAndUpdateInventory
              (componentsFor ⟨p, versionTag (some v)⟩)] <+:
              upgradeCalls (planFor inv infos contract).contract
                (upgradeOrder s (planFor inv infos contract)) :=
            ⟨post, by rw [htrace]; simp⟩
          exact scaleDown_mem_of_prefix_upgradeCalls hcalls (fun h => Call.noConfusion h)
            (fun _ h => Call.noConfusion h) hitem
      | none =>
          refine .inr ⟨UpgradeInfo.getLatestNextVersion_eq_none hv, fun c hc hcp => ?_⟩
          obtain ⟨item, hitem, hitemp⟩ := concerns_of_mem_upgradeCalls hc hcp
          obtain ⟨hmem, hne⟩ := mem_upgradeOrder.1 hitem
          obtain ⟨q, -, rfl⟩ := List.mem_map.1 hmem
          obtain rfl : q = p := hitemp
          simp [itemFor, hv] at hne

/-- `ApplyPlan` for `v1beta1` on it succeeds and moves both providers to `v1.0.0`, each drained
before it is installed. -/
theorem applyPlan_installs_latest_uniform :
    uniformFleetUpgrader.list = .ok [fleetCore, fleetControlPlane] ∧
      (uniformFleetUpgrader.applyPlan (fun _ _ => none) insertionSliceSort
        clusterv1Version []).1 = none ∧
      clusterv1Version = clusterv1Version ∧ ∀ p ∈ [fleetCore, fleetControlPlane], ∃ info,
        uniformFleetUpgrader.getUpgradeInfo p = .ok info ∧
        ((∃ v, info.IsLatestFor clusterv1Version v ∧
            Call.installComponentsAndUpdateInventory (componentsFor ⟨p, versionTag (some v)⟩) ∈
              (uniformFleetUpgrader.applyPlan (fun _ _ => none) insertionSliceSort
                clusterv1Version []).2 ∧
            ∀ pre post, (uniformFleetUpgrader.applyPlan (fun _ _ => none) insertionSliceSort
                clusterv1Version []).2 = pre ++ Call.installComponentsAndUpdateInventory
                  (componentsFor ⟨p, versionTag (some v)⟩) :: post →
              Call.scaleDownProvider p ∈ pre) ∨
          ((∀ w ∈ info.nextVersions, ¬info.HasContract clusterv1Version w) ∧
            ∀ c ∈ (uniformFleetUpgrader.applyPlan (fun _ _ => none) insertionSliceSort
              clusterv1Version []).2, ¬c.Concerns p)) :=
  ⟨rfl, rfl, uniformFleetUpgrader.applyPlan_installs_latest rfl (fun _ _ => none)
    insertionSliceSort clusterv1Version rfl⟩

end ProviderUpgrader

end CapiOperator
