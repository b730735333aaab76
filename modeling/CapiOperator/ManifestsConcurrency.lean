import Mathlib.Data.List.Nodup
import CapiOperator.ManifestsDownloader

/-!
**Concurrent `downloadManifests` runs against one API server.**

Every provider's phase reconciler runs `downloadManifests` on its own, and the API server
serialises their requests.  A run makes two of them: the `List` of `checkConfigMapExists`,
then, when nothing matched, the `Create` of `createManifestsConfigMap`.  Between the two, other
runs may list and create.  A schedule, a list of provider indices, says whose request comes
next; a provider whose run is done starts a new one, as a new reconcile does.

The check is cluster-wide and the create namespaced.  Two providers of the same type, name and
version in two namespaces both find nothing, both create, and the next run of either finds two
ConfigMaps and fails.  What holds over every schedule is weaker: ConfigMap names stay unique in
a namespace and every operator-managed ConfigMap is one a provider created for itself, so no
namespace ever holds two ConfigMaps matching one provider's selector; and when no two providers
share a type, name and version, no `List` finds more than one.  No download is lost: once a
run has returned `nil`, a ConfigMap with its provider's labels stays in the cluster.  And a
ConfigMap a user left under the manifests ConfigMap's name blocks the provider for ever.

Main definitions:

* `CapiOperator.RunState`, `CapiOperator.Cluster`;
* `CapiOperator.stepDownload`, `CapiOperator.runSchedule`;
* `CapiOperator.StoreInvariant`, `CapiOperator.DoneHasConfigMap`, `CapiOperator.Blocked`.

Main results:

* `CapiOperator.downloadManifests_eq_solo_run` — `downloadManifests` is a run of the step
  machine with nothing interleaved;
* `CapiOperator.runSchedule_storeInvariant` — the store invariant holds over every schedule;
* `CapiOperator.runSchedule_namespace_unique` — no namespace holds two ConfigMaps matching one
  provider's selector;
* `CapiOperator.runSchedule_listMatching_le_one` — with distinct type, name and version, no
  `List` finds more than one ConfigMap;
* `CapiOperator.runSchedule_more_than_one` — two installations of one provider in two
  namespaces make a run fail with the "more than one config maps" error;
* `CapiOperator.runSchedule_done_keeps_configMap` — **no download is lost**: a provider whose
  run returned `nil` has a ConfigMap with its labels after every later request;
* `CapiOperator.runSchedule_blocked` — a ConfigMap under the provider's manifests ConfigMap
  name without its labels keeps every run of the provider from returning `nil`.
-/

set_option relaxedAutoImplicit false
set_option autoImplicit false

namespace CapiOperator

/-! ### The step machine -/

/-- Where a provider's `downloadManifests` run is. -/
inductive RunState where
  /-- No run has started. -/
  | idle
  /-- The run has listed, found nothing, and is about to fetch and create. -/
  | listed
  /-- The run has returned this error (`none` is `nil`). -/
  | done (result : Option PhaseError)
  deriving DecidableEq, Repr

/-- Where a run is after its first step: returned, or on to the create. -/
def RunState.afterCheck : Option (Option PhaseError) → RunState
  | some result => .done result
  | none => .listed

/-- The ConfigMaps of the cluster and the run of each provider, by index. -/
structure Cluster where
  configMaps : List ConfigMap
  runs : ℕ → RunState

/-- The cluster with run `i` moved to `s`. -/
def Cluster.setRun (c : Cluster) (i : ℕ) (s : RunState) : Cluster :=
  { c with runs := Function.update c.runs i s }

@[simp] theorem Cluster.setRun_configMaps (c : Cluster) (i : ℕ) (s : RunState) :
    (c.setRun i s).configMaps = c.configMaps := rfl

@[simp] theorem Cluster.setRun_runs_self (c : Cluster) (i : ℕ) (s : RunState) :
    (c.setRun i s).runs i = s := by
  simp [Cluster.setRun]

@[simp] theorem Cluster.setRun_runs_ne (c : Cluster) {i j : ℕ} (s : RunState) (h : j ≠ i) :
    (c.setRun i s).runs j = c.runs j := by
  simp [Cluster.setRun, h]

/-- A cluster with these ConfigMaps where no run has started. -/
def initCluster (store : List ConfigMap) : Cluster := ⟨store, fun _ => .idle⟩

section Steps

variable (env : DownloadEnv) (client : ConfigMapClient) (rs : List PhaseReconciler)

/-- One request of provider `i`'s run: its `Create` when it has listed, its `List` otherwise
(starting a new run when the last one is done). -/
def stepDownload (i : ℕ) (c : Cluster) : Cluster :=
  match rs[i]? with
  | none => c
  | some r =>
      if c.runs i = .listed then
        let outcome := downloadCreate env client r c.configMaps
        { c with configMaps := outcome.2 }.setRun i (.done outcome.1)
      else c.setRun i (RunState.afterCheck (downloadCheck client r c.configMaps))

/-- The requests of a schedule, one after the other. -/
def runSchedule : List ℕ → Cluster → Cluster
  | [], c => c
  | i :: sched, c => runSchedule sched (stepDownload env client rs i c)

variable {env client rs}

theorem stepDownload_check {i : ℕ} {r : PhaseReconciler} {c : Cluster} (hr : rs[i]? = some r)
    (h : c.runs i ≠ .listed) :
    stepDownload env client rs i c =
      c.setRun i (RunState.afterCheck (downloadCheck client r c.configMaps)) := by
  simp [stepDownload, hr, h]

theorem stepDownload_create {i : ℕ} {r : PhaseReconciler} {c : Cluster}
    (hr : rs[i]? = some r) (h : c.runs i = .listed) :
    stepDownload env client rs i c =
      { c with configMaps := (downloadCreate env client r c.configMaps).2 }.setRun i
        (.done (downloadCreate env client r c.configMaps).1) := by
  simp [stepDownload, hr, h]

/-- **`downloadManifests` is a run of the step machine that nothing interleaves with**: from a
run that is not between its two requests, one or two requests of provider `i` end its run with
the result and the ConfigMaps of `downloadManifests`. -/
theorem downloadManifests_eq_solo_run {i : ℕ} {r : PhaseReconciler} {c : Cluster}
    (hr : rs[i]? = some r) (h : c.runs i ≠ .listed) :
    ∃ n ∈ [1, 2],
      (runSchedule env client rs (List.replicate n i) c).runs i =
          .done (downloadManifests env client r c.configMaps).1 ∧
        (runSchedule env client rs (List.replicate n i) c).configMaps =
          (downloadManifests env client r c.configMaps).2 := by
  rcases hcheck : downloadCheck client r c.configMaps with _ | result
  · refine ⟨2, by simp, ?_⟩
    have hlisted : stepDownload env client rs i c = c.setRun i .listed := by
      rw [stepDownload_check hr h, hcheck, RunState.afterCheck]
    simp only [List.replicate, runSchedule, hlisted,
      stepDownload_create hr (Cluster.setRun_runs_self c i _)]
    simp [downloadManifests, hcheck]
  · refine ⟨1, by simp, ?_⟩
    simp [runSchedule, stepDownload_check hr h, downloadManifests, hcheck, RunState.afterCheck]

/-- A request leaves the ConfigMaps as they were, or creates one a provider made for itself. -/
theorem stepDownload_configMaps (i : ℕ) (c : Cluster) :
    (stepDownload env client rs i c).configMaps = c.configMaps ∨
      ∃ r ∈ rs, ∃ metadata components,
        createConfigMap client c.configMaps (manifestsConfigMap r.provider metadata components) =
          .ok (stepDownload env client rs i c).configMaps := by
  rcases hr : rs[i]? with _ | r
  · simp [stepDownload, hr]
  · by_cases h : c.runs i = .listed
    · rw [stepDownload_create hr h]
      rcases downloadCreate_store env client r c.configMaps with hc | ⟨-, hc⟩
      · exact .inl hc.2
      · exact .inr ⟨r, List.getElem?_mem hr, hc⟩
    · exact .inl (by rw [stepDownload_check hr h, Cluster.setRun_configMaps])

/-- A request of provider `i` leaves the other runs as they are. -/
theorem stepDownload_runs_ne {i j : ℕ} (c : Cluster) (h : j ≠ i) :
    (stepDownload env client rs i c).runs j = c.runs j := by
  unfold stepDownload
  split
  · rfl
  · split <;> simp [h]

/-- No request removes a ConfigMap. -/
theorem stepDownload_configMaps_subset (i : ℕ) (c : Cluster) :
    c.configMaps ⊆ (stepDownload env client rs i c).configMaps := by
  rcases stepDownload_configMaps i c with heq | ⟨r, -, _, _, hc⟩
  · exact heq ▸ List.Subset.refl _
  · rw [(createConfigMap_eq_ok hc).2]
    exact List.subset_append_left _ _

/-- A request ends its run without error only when its `List` found a ConfigMap with the
provider's labels, or its `Create` of the provider's manifests ConfigMap succeeded. -/
theorem stepDownload_done_none {i : ℕ} {r : PhaseReconciler} {c : Cluster}
    (hr : rs[i]? = some r) (h : (stepDownload env client rs i c).runs i = .done none) :
    downloadCheck client r c.configMaps = some none ∨
      (c.runs i = .listed ∧ ∃ metadata components, createConfigMap client c.configMaps
        (manifestsConfigMap r.provider metadata components) =
          .ok (downloadCreate env client r c.configMaps).2) := by
  by_cases hl : c.runs i = .listed
  · rw [stepDownload_create hr hl, Cluster.setRun_runs_self, RunState.done.injEq] at h
    rcases downloadCreate_store env client r c.configMaps with ⟨⟨e, he, -⟩, -⟩ | ⟨-, hc⟩
    · rw [he] at h
      cases h
    · exact .inr ⟨hl, hc⟩
  · rw [stepDownload_check hr hl, Cluster.setRun_runs_self] at h
    left
    cases hcheck : downloadCheck client r c.configMaps with
    | none => rw [hcheck, RunState.afterCheck] at h; cases h
    | some result => rw [hcheck, RunState.afterCheck, RunState.done.injEq] at h; rw [h]

theorem runSchedule_append (sched₁ sched₂ : List ℕ) (c : Cluster) :
    runSchedule env client rs (sched₁ ++ sched₂) c =
      runSchedule env client rs sched₂ (runSchedule env client rs sched₁ c) := by
  induction sched₁ generalizing c with
  | nil => rfl
  | cons i sched ih => exact ih _

theorem runSchedule_configMaps_subset (sched : List ℕ) (c : Cluster) :
    c.configMaps ⊆ (runSchedule env client rs sched c).configMaps := by
  induction sched generalizing c with
  | nil => exact List.Subset.refl _
  | cons i sched ih => exact (stepDownload_configMaps_subset i c).trans (ih _)

end Steps

/-! ### What every schedule keeps -/

/-- What holds of the ConfigMaps of every reachable cluster: a name is taken once in a
namespace, and every operator-managed ConfigMap is one a provider created for itself, in its
namespace, under its name and labels. -/
structure StoreInvariant (rs : List PhaseReconciler) (store : List ConfigMap) : Prop where
  nodup : (store.map fun cm => (cm.ns, cm.name)).Nodup
  managed : ∀ cm ∈ store, cm.labels.lookup operatorManagedLabel = some "true" →
    ∃ r ∈ rs, cm.ns = r.provider.ns ∧ cm.name = configMapName r.provider ∧
      cm.labels = prepareConfigMapLabels r.provider

namespace StoreInvariant

variable {rs : List PhaseReconciler}

/-- A cluster with unique names and no operator-managed ConfigMap satisfies the invariant. -/
theorem init {store : List ConfigMap} (hnodup : (store.map fun cm => (cm.ns, cm.name)).Nodup)
    (hunmanaged : ∀ cm ∈ store, cm.labels.lookup operatorManagedLabel ≠ some "true") :
    StoreInvariant rs store :=
  ⟨hnodup, fun cm hcm hm => absurd hm (hunmanaged cm hcm)⟩

/-- A `Create` of a provider's manifests ConfigMap keeps the invariant. -/
theorem create {client : ConfigMapClient} {store store' : List ConfigMap} {r : PhaseReconciler}
    {metadata components : String} (h : StoreInvariant rs store) (hr : r ∈ rs)
    (hc : createConfigMap client store (manifestsConfigMap r.provider metadata components) =
      .ok store') :
    StoreInvariant rs store' := by
  obtain ⟨hfree, rfl⟩ := createConfigMap_eq_ok hc
  constructor
  · simp only [List.map_append, List.map_cons, List.map_nil, List.nodup_append,
      List.nodup_singleton, List.disjoint_singleton, List.mem_map, not_exists, not_and]
    exact ⟨h.nodup, trivial, fun cm hcm heq => hfree cm hcm (Prod.mk.inj heq)⟩
  · intro cm hcm hm
    rcases List.mem_append.mp hcm with hold | hnew
    · exact h.managed cm hold hm
    · obtain rfl := List.mem_singleton.mp hnew
      exact ⟨r, hr, rfl, rfl, rfl⟩

/-- Every request keeps the invariant. -/
theorem step {env : DownloadEnv} {client : ConfigMapClient} {c : Cluster} (i : ℕ)
    (h : StoreInvariant rs c.configMaps) :
    StoreInvariant rs (stepDownload env client rs i c).configMaps := by
  rcases stepDownload_configMaps i c with heq | ⟨r, hr, _, _, hc⟩
  · exact heq ▸ h
  · exact h.create hr hc

/-- The ConfigMaps that share one namespace and one name are at most one. -/
theorem length_le_one_of_key {store : List ConfigMap} (h : StoreInvariant rs store)
    {p : ConfigMap → Prop} [DecidablePred p] (key : String × String)
    (hkey : ∀ cm ∈ store, p cm → (cm.ns, cm.name) = key) :
    (store.filter p).length ≤ 1 := by
  have hnodup : ((store.filter p).map fun cm => (cm.ns, cm.name)).Nodup :=
    h.nodup.sublist ((List.filter_sublist store).map _)
  have hkeys : ((store.filter p).map fun cm => (cm.ns, cm.name)) =
      List.replicate (store.filter p).length key := by
    refine List.eq_replicate_iff.mpr ⟨List.length_map _ _, fun k hk => ?_⟩
    obtain ⟨cm, hcm, rfl⟩ := List.mem_map.mp hk
    obtain ⟨hmem, hp⟩ := List.mem_filter.mp hcm
    exact hkey cm hmem (of_decide_eq_true hp)
  exact List.nodup_replicate.mp (hkeys ▸ hnodup)

/-- **No namespace holds two ConfigMaps matching one provider's selector.** -/
theorem namespace_unique {store : List ConfigMap} (h : StoreInvariant rs store)
    (p : GenericProvider) (ns : String) :
    (store.filter fun cm => cm.ns = ns ∧
      MatchesLabels (prepareConfigMapLabels p) cm.labels).length ≤ 1 := by
  refine h.length_le_one_of_key (ns, configMapName p) fun cm hcm ⟨hns, hmatch⟩ => ?_
  obtain ⟨q, -, -, hname, hlabels⟩ := h.managed cm hcm (managed_of_matchesLabels hmatch)
  rw [hlabels] at hmatch
  rw [hns, hname, configMapName_eq_of_matchesLabels hmatch]

end StoreInvariant

/-- **The store invariant holds after every schedule.** -/
theorem runSchedule_storeInvariant {env : DownloadEnv} {client : ConfigMapClient}
    {rs : List PhaseReconciler} (sched : List ℕ) {c : Cluster}
    (h : StoreInvariant rs c.configMaps) :
    StoreInvariant rs (runSchedule env client rs sched c).configMaps := by
  induction sched generalizing c with
  | nil => exact h
  | cons i sched ih => exact ih (h.step i)

/-! ### Installations of two providers -/

/-- `docker` at `v1.4.3`, installed in `capd-system` and in `capd-system-2`. -/
def twoDockerInstalls : List PhaseReconciler :=
  [⟨dockerInfra, "v1.4.3"⟩, ⟨dockerInfraElsewhere, "v1.4.3"⟩]

/-- Both list, both create, and the first lists again. -/
def listListCreateCreateList : List ℕ := [0, 1, 0, 1, 0]

/-- A ConfigMap the operator does not manage. -/
def kubeRootCA : ConfigMap :=
  { name := "kube-root-ca.crt", ns := "capd-system", labels := [],
    data := [("ca.crt", "certificate")], ownerReferences := [] }

/-! ### Over every schedule -/

/-- **Over every schedule from a cluster without operator-managed ConfigMaps, no namespace
ever holds two ConfigMaps matching one provider's selector.** -/
theorem runSchedule_namespace_unique {env : DownloadEnv} {client : ConfigMapClient}
    {rs : List PhaseReconciler} {store : List ConfigMap}
    (hnodup : (store.map fun cm => (cm.ns, cm.name)).Nodup)
    (hunmanaged : ∀ cm ∈ store, cm.labels.lookup operatorManagedLabel ≠ some "true")
    (sched : List ℕ) (p : GenericProvider) (ns : String) :
    ((runSchedule env client rs sched (initCluster store)).configMaps.filter fun cm =>
      cm.ns = ns ∧ MatchesLabels (prepareConfigMapLabels p) cm.labels).length ≤ 1 :=
  (runSchedule_storeInvariant sched (StoreInvariant.init hnodup hunmanaged)).namespace_unique p ns

/-- After both installations of `docker` have created their ConfigMaps, `capd-system` holds
one of them. -/
theorem runSchedule_namespace_unique_twoDocker :
    ([kubeRootCA].map fun cm => (cm.ns, cm.name)).Nodup ∧
    (∀ cm ∈ [kubeRootCA], cm.labels.lookup operatorManagedLabel ≠ some "true") ∧
    ((runSchedule servingEnv atomicClient twoDockerInstalls listListCreateCreateList
      (initCluster [kubeRootCA])).configMaps.filter fun cm => cm.ns = dockerInfra.ns ∧
        MatchesLabels (prepareConfigMapLabels dockerInfra) cm.labels).length ≤ 1 :=
  ⟨by decide, by decide, runSchedule_namespace_unique (by decide) (by decide) _ _ _⟩

/-- The two providers differ in namespace and use no selector, the cluster starts empty, and
after both have created their ConfigMap the next run of the first fails with the "more than
one config maps" error. -/
theorem runSchedule_more_than_one :
    (twoDockerInstalls.map fun r => (r.provider.ns, r.provider.kind, r.provider.name)).Nodup ∧
      (∀ r ∈ twoDockerInstalls, r.provider.fetchConfigSelector = none) ∧
      (runSchedule servingEnv atomicClient twoDockerInstalls listListCreateCreateList
          (initCluster [])).runs 0 =
        .done (some (wrapPhaseError (moreThanOneConfigMapError
          (prepareConfigMapLabels dockerInfra))
          "failed to check that config map with manifests exists" preflightCheckCondition)) :=
  ⟨by decide, by decide, rfl⟩

/-! ### No download is lost -/

/-- Every provider whose run has returned `nil` has a ConfigMap with its labels in the
cluster. -/
def DoneHasConfigMap (rs : List PhaseReconciler) (c : Cluster) : Prop :=
  ∀ i r, rs[i]? = some r → r.provider.fetchConfigSelector = none → c.runs i = .done none →
    ∃ cm ∈ c.configMaps, MatchesLabels (prepareConfigMapLabels r.provider) cm.labels

namespace DoneHasConfigMap

variable {env : DownloadEnv} {client : ConfigMapClient} {rs : List PhaseReconciler}

theorem step {c : Cluster} (j : ℕ) (h : DoneHasConfigMap rs c) :
    DoneHasConfigMap rs (stepDownload env client rs j c) := by
  intro i r hr hsel hdone
  by_cases hij : i = j
  · subst hij
    rcases stepDownload_done_none hr hdone with hcheck | ⟨hlisted, md, comps, hc⟩
    · obtain ⟨cm, hcm⟩ := downloadCheck_eq_some_none hsel hcheck
      have hmem : cm ∈ listMatching c.configMaps (prepareConfigMapLabels r.provider) := by
        simp [hcm]
      obtain ⟨hmem, hmatch⟩ := List.mem_filter.mp hmem
      exact ⟨cm, stepDownload_configMaps_subset i c hmem, of_decide_eq_true hmatch⟩
    · rw [stepDownload_create hr hlisted, Cluster.setRun_configMaps, (createConfigMap_eq_ok hc).2]
      exact ⟨_, List.mem_append_right _ (List.mem_singleton_self _),
        matchesLabels_self r.provider⟩
  · rw [stepDownload_runs_ne c hij] at hdone
    obtain ⟨cm, hcm, hmatch⟩ := h i r hr hsel hdone
    exact ⟨cm, stepDownload_configMaps_subset j c hcm, hmatch⟩

theorem runSchedule (sched : List ℕ) {c : Cluster} (h : DoneHasConfigMap rs c) :
    DoneHasConfigMap rs (CapiOperator.runSchedule env client rs sched c) := by
  induction sched generalizing c with
  | nil => exact h
  | cons i sched ih => exact ih (h.step i)

end DoneHasConfigMap

/-- **No download is lost.**  Over every schedule, once a provider's run has returned `nil`, a
ConfigMap with the provider's labels is in the cluster, then and after every later request. -/
theorem runSchedule_done_keeps_configMap {env : DownloadEnv} {client : ConfigMapClient}
    {rs : List PhaseReconciler} {store : List ConfigMap} (sched₁ sched₂ : List ℕ) {i : ℕ}
    {r : PhaseReconciler} (hr : rs[i]? = some r) (hsel : r.provider.fetchConfigSelector = none)
    (hdone : (runSchedule env client rs sched₁ (initCluster store)).runs i = .done none) :
    ∃ cm ∈ (runSchedule env client rs (sched₁ ++ sched₂) (initCluster store)).configMaps,
      MatchesLabels (prepareConfigMapLabels r.provider) cm.labels := by
  have hinit : DoneHasConfigMap rs (initCluster store) := fun _ _ _ _ h => by cases h
  obtain ⟨cm, hcm, hmatch⟩ := hinit.runSchedule sched₁ i r hr hsel hdone
  rw [runSchedule_append]
  exact ⟨cm, runSchedule_configMaps_subset sched₂ _ hcm, hmatch⟩

/-- The `docker` installation in `capd-system` downloads alone, then both installations run:
its ConfigMap stays. -/
theorem runSchedule_done_keeps_configMap_docker :
    twoDockerInstalls[0]? = some ⟨dockerInfra, "v1.4.3"⟩ ∧ dockerInfra.fetchConfigSelector = none ∧
    (runSchedule servingEnv atomicClient twoDockerInstalls [0, 0] (initCluster [])).runs 0 =
      .done none ∧
    ∃ cm ∈ (runSchedule servingEnv atomicClient twoDockerInstalls ([0, 0] ++ [1, 1, 0])
        (initCluster [])).configMaps,
      MatchesLabels (prepareConfigMapLabels dockerInfra) cm.labels :=
  ⟨rfl, rfl, rfl, @runSchedule_done_keeps_configMap _ _ twoDockerInstalls [] [0, 0] [1, 1, 0] 0
    ⟨dockerInfra, "v1.4.3"⟩ rfl rfl rfl⟩

/-! ### A ConfigMap in the way -/

/-- What keeps provider `i` from ever downloading: a ConfigMap under its manifests
ConfigMap's name in its namespace, none with its labels, and no run that returned `nil`. -/
def Blocked (i : ℕ) (r : PhaseReconciler) (c : Cluster) : Prop :=
  (∃ b ∈ c.configMaps, b.ns = r.provider.ns ∧ b.name = configMapName r.provider) ∧
    listMatching c.configMaps (prepareConfigMapLabels r.provider) = [] ∧
    c.runs i ≠ .done none

namespace Blocked

variable {env : DownloadEnv} {client : ConfigMapClient} {rs : List PhaseReconciler} {i : ℕ}
  {r : PhaseReconciler}

/-- A `Create` of a manifests ConfigMap, with the blocking ConfigMap present, makes none that
matches the blocked provider's labels, when every provider of those labels shares its
namespace. -/
theorem create_not_matching {client : ConfigMapClient} {store store' : List ConfigMap}
    {q : PhaseReconciler} {metadata components : String}
    (hblocker : ∃ b ∈ store, b.ns = r.provider.ns ∧ b.name = configMapName r.provider)
    (hsame : MatchesLabels (prepareConfigMapLabels r.provider) (prepareConfigMapLabels q.provider) →
      q.provider.ns = r.provider.ns)
    (hc : createConfigMap client store (manifestsConfigMap q.provider metadata components) =
      .ok store') :
    listMatching store' (prepareConfigMapLabels r.provider) =
      listMatching store (prepareConfigMapLabels r.provider) := by
  obtain ⟨hfree, rfl⟩ := createConfigMap_eq_ok hc
  obtain ⟨b, hb, hbns, hbname⟩ := hblocker
  have hnot : ¬MatchesLabels (prepareConfigMapLabels r.provider)
      (prepareConfigMapLabels q.provider) := fun hmatch =>
    hfree b hb ⟨hbns.trans (hsame hmatch).symm,
      hbname.trans (configMapName_eq_of_matchesLabels hmatch).symm⟩
  simp [listMatching, manifestsConfigMap, hnot]

theorem step {c : Cluster} (hr : rs[i]? = some r) (hsel : r.provider.fetchConfigSelector = none)
    (hsame : ∀ q ∈ rs, MatchesLabels (prepareConfigMapLabels r.provider)
      (prepareConfigMapLabels q.provider) → q.provider.ns = r.provider.ns)
    (j : ℕ) (h : Blocked i r c) : Blocked i r (stepDownload env client rs j c) := by
  obtain ⟨⟨b, hb, hbns, hbname⟩, hnone, hrun⟩ := h
  have hnone' : listMatching (stepDownload env client rs j c).configMaps
      (prepareConfigMapLabels r.provider) = [] := by
    rcases stepDownload_configMaps j c with heq | ⟨q, hq, _, _, hc⟩
    · rw [heq, hnone]
    · rw [create_not_matching ⟨b, hb, hbns, hbname⟩ (hsame q hq) hc, hnone]
  refine ⟨⟨b, stepDownload_configMaps_subset j c hb, hbns, hbname⟩, hnone', ?_⟩
  by_cases hij : i = j
  · subst hij
    intro hdone
    rcases stepDownload_done_none hr hdone with hcheck | ⟨-, md, comps, hc⟩
    · obtain ⟨cm, hcm⟩ := downloadCheck_eq_some_none hsel hcheck
      rw [hnone] at hcm
      cases hcm
    · exact (createConfigMap_eq_ok hc).1 b hb ⟨hbns, hbname⟩
  · rw [stepDownload_runs_ne c hij]
    exact hrun

theorem runSchedule (hr : rs[i]? = some r) (hsel : r.provider.fetchConfigSelector = none)
    (hsame : ∀ q ∈ rs, MatchesLabels (prepareConfigMapLabels r.provider)
      (prepareConfigMapLabels q.provider) → q.provider.ns = r.provider.ns)
    (sched : List ℕ) {c : Cluster} (h : Blocked i r c) :
    Blocked i r (CapiOperator.runSchedule env client rs sched c) := by
  induction sched generalizing c with
  | nil => exact h
  | cons j sched ih => exact ih (h.step hr hsel hsame j)

end Blocked

/-- **A ConfigMap in the way blocks a download for ever.**  When the provider's namespace holds
a ConfigMap under the name of the provider's manifests ConfigMap and no ConfigMap has the
provider's labels, no run of the provider ever returns `nil`, over every schedule, as long as
every provider with the same labels is in the same namespace: the download never adopts or
replaces the ConfigMap in its way. -/
theorem runSchedule_blocked {env : DownloadEnv} {client : ConfigMapClient}
    {rs : List PhaseReconciler} {store : List ConfigMap} {i : ℕ} {r : PhaseReconciler}
    (hr : rs[i]? = some r) (hsel : r.provider.fetchConfigSelector = none)
    (hsame : ∀ q ∈ rs, MatchesLabels (prepareConfigMapLabels r.provider)
      (prepareConfigMapLabels q.provider) → q.provider.ns = r.provider.ns)
    (hblocker : ∃ b ∈ store, b.ns = r.provider.ns ∧ b.name = configMapName r.provider)
    (hnone : listMatching store (prepareConfigMapLabels r.provider) = []) (sched : List ℕ) :
    (runSchedule env client rs sched (initCluster store)).runs i ≠ .done none :=
  (Blocked.runSchedule hr hsel hsame sched ⟨hblocker, hnone, fun h => by cases h⟩).2.2

/-- A ConfigMap the user made, named `infrastructure-docker-v1.4.3`, in `capd-system`. -/
def dockerNameTaken : ConfigMap :=
  { name := "infrastructure-docker-v1.4.3", ns := "capd-system", labels := [],
    data := [], ownerReferences := [] }

/-- `docker` never downloads while that ConfigMap is there. -/
theorem runSchedule_blocked_docker :
    [(⟨dockerInfra, "v1.4.3"⟩ : PhaseReconciler)][0]? = some ⟨dockerInfra, "v1.4.3"⟩ ∧
    dockerInfra.fetchConfigSelector = none ∧
    (∀ q ∈ [(⟨dockerInfra, "v1.4.3"⟩ : PhaseReconciler)], MatchesLabels
      (prepareConfigMapLabels dockerInfra) (prepareConfigMapLabels q.provider) →
        q.provider.ns = dockerInfra.ns) ∧
    (∃ b ∈ [dockerNameTaken], b.ns = dockerInfra.ns ∧ b.name = configMapName dockerInfra) ∧
    listMatching [dockerNameTaken] (prepareConfigMapLabels dockerInfra) = [] ∧
    (runSchedule servingEnv atomicClient [⟨dockerInfra, "v1.4.3"⟩] [0, 0, 0, 0]
      (initCluster [dockerNameTaken])).runs 0 ≠ .done none :=
  ⟨rfl, rfl, by decide, ⟨dockerNameTaken, List.mem_singleton_self _, rfl, rfl⟩, by decide,
    @runSchedule_blocked servingEnv atomicClient _ _ 0 ⟨dockerInfra, "v1.4.3"⟩ rfl rfl
      (by decide) ⟨dockerNameTaken, List.mem_singleton_self _, rfl, rfl⟩ (by decide) _⟩

end CapiOperator
