import Mathlib.Data.List.Sort
import Mathlib.Data.String.Basic
import CapiOperator.Provider

/-!
**Downloading provider manifests into a ConfigMap: `downloadManifests`.**

Before installing a provider, the operator stores the provider's `metadata.yaml` and
components manifest in a ConfigMap, labelled with the provider's version, type and name and
with the operator's managed-by label.  `downloadManifests` first lists the ConfigMaps carrying
those labels; if one is found it stops, otherwise it fetches the two files from the provider's
repository and creates the ConfigMap in the provider's namespace.  A provider that names its
own ConfigMap through `FetchConfig.Selector` downloads nothing.

The list is not restricted to the provider's namespace, while the ConfigMap is created in it:
a ConfigMap with the same labels in another namespace, that of a provider of the same type,
name and version, stops the download, and the provider's own namespace never gets one.

The function is modelled as two steps, one per request it makes to the API server:
`CapiOperator.downloadCheck` (the list, and the decision it leads to) and
`CapiOperator.downloadCreate` (the fetch, and the create); `downloadManifests` runs one after
the other.  `CapiOperator.ManifestsConcurrency` runs the steps of several providers
interleaved.

Main definitions:

* `CapiOperator.GenericProvider`, `CapiOperator.ConfigMap`,
  `CapiOperator.prepareConfigMapLabels`, `CapiOperator.MatchesLabels`;
* `CapiOperator.checkConfigMapExists`, `CapiOperator.createManifestsConfigMap`;
* `CapiOperator.downloadManifests`.

Main results:

* `CapiOperator.downloadManifests_error` — a failed download reports on the preflight condition
  and leaves the ConfigMaps as they were;
* `CapiOperator.downloadManifests_ok_exists` — after a successful download exactly one ConfigMap
  carries the provider's labels: one that was there before, or the one created in the
  provider's namespace;
* `CapiOperator.downloadManifests_idempotent` — a second download changes nothing;
* `CapiOperator.downloadManifests_skips_other_namespace` — the one ConfigMap may be in another
  namespace, leaving the provider's own without any.
-/

set_option relaxedAutoImplicit false
set_option autoImplicit false

namespace CapiOperator

/-! ### Providers and ConfigMaps -/

/-- The fields of a provider object (`genericprovider.GenericProvider`) the download reads. -/
structure GenericProvider where
  name : String
  ns : String
  /-- `GetObjectKind().GroupVersionKind()`, as API version and kind. -/
  apiVersion : String
  kind : String
  uid : String
  /-- `GetType()`, the provider type the kind stands for. -/
  providerType : String
  /-- `GetSpec().Version`. -/
  version : String
  /-- `GetSpec().FetchConfig.Selector` when both are set: the labels of a ConfigMap the user
  provides. -/
  fetchConfigSelector : Option (List (String × String))
  deriving DecidableEq, Repr

/-- The phase reconciler of a provider, by what the download reads: the provider and the
version to fetch (`options.Version`). -/
structure PhaseReconciler where
  provider : GenericProvider
  optionsVersion : String
  deriving DecidableEq, Repr

/-- A `metav1.OwnerReference`. -/
structure OwnerReference where
  apiVersion : String
  kind : String
  name : String
  uid : String
  deriving DecidableEq, Repr

/-- A `corev1.ConfigMap`. -/
structure ConfigMap where
  name : String
  ns : String
  labels : List (String × String)
  data : List (String × String)
  ownerReferences : List OwnerReference
  deriving DecidableEq, Repr

/-- `configMapVersionLabel`. -/
def configMapVersionLabel : String := "provider.cluster.x-k8s.io/version"

/-- `configMapTypeLabel`. -/
def configMapTypeLabel : String := "provider.cluster.x-k8s.io/type"

/-- `configMapNameLabel`. -/
def configMapNameLabel : String := "provider.cluster.x-k8s.io/name"

/-- `operatorManagedLabel`. -/
def operatorManagedLabel : String := "managed-by.operator.cluster.x-k8s.io"

/-- `prepareConfigMapLabels`: the labels of the ConfigMap holding a provider's manifests. -/
def prepareConfigMapLabels (p : GenericProvider) : List (String × String) :=
  [(configMapVersionLabel, p.version), (configMapTypeLabel, p.providerType),
    (configMapNameLabel, p.name), (operatorManagedLabel, "true")]

/-- A label set matches a selector when it has every label of the selector, with its value
(`labels.SelectorFromSet`). -/
def MatchesLabels (selector labels : List (String × String)) : Prop :=
  ∀ kv ∈ selector, labels.lookup kv.1 = some kv.2

instance (selector labels : List (String × String)) : Decidable (MatchesLabels selector labels) :=
  inferInstanceAs (Decidable (∀ kv ∈ selector, _))

/-- The ConfigMaps of the cluster, in every namespace, that match a selector. -/
def listMatching (store : List ConfigMap) (selector : List (String × String)) :
    List ConfigMap :=
  store.filter fun cm => MatchesLabels selector cm.labels

/-! ### The API server and the repository -/

/-- The API server's answers besides the store's content: an error of `List`, and an error of
`Create` other than a name clash. -/
structure ConfigMapClient where
  listError : Option Error
  createError : ConfigMap → Option Error

/-- A provider repository: `GetFile(version, path)` and `ComponentsPath()`. -/
structure Repository where
  getFile : String → String → Except Error String
  componentsPath : String

/-- What the download fetches through: `repositoryFactory(providerConfig, variables)`, and the
name of the metadata file (`metadataFile`, a constant the source does not contain). -/
structure DownloadEnv where
  repositoryFactory : Except Error Repository
  metadataFile : String

/-- `operatorv1.PreflightCheckCondition`, a constant the source does not contain. -/
def preflightCheckCondition : String := "PreflightCheckPassed"

/-- `operatorv1.ComponentsFetchErrorReason`, a constant the source does not contain. -/
def componentsFetchErrorReason : String := "ComponentsFetchError"

/-- The error of a reconcile phase: its reason, the condition it sets, and the cause. -/
structure PhaseError where
  reason : String
  conditionType : String
  err : Error
  deriving DecidableEq, Repr

/-- `wrapPhaseError` (not in the source): an error of a phase, with its reason and condition. -/
def wrapPhaseError (err : Error) (reason conditionType : String) : PhaseError :=
  { reason, conditionType, err }

/-! ### `downloadManifests` -/

/-- Modelled from `k8s.io/apimachinery` (not in the source): `metav1.LabelSelector.String()`, the
generated printer, for a selector of match labels only.  It prints the labels in the sorted
order of their keys, each as `key: value,`, inside
`&LabelSelector{MatchLabels:map[string]string{…},MatchExpressions:[]LabelSelectorRequirement{},}`. -/
def labelSelectorString (matchLabels : List (String × String)) : String :=
  "&LabelSelector\x7bMatchLabels:map[string]string\x7b" ++
    String.join ((matchLabels.insertionSort fun a b => a.1 ≤ b.1).map
      fun kv => kv.1 ++ ": " ++ kv.2 ++ ",") ++
    "\x7d,MatchExpressions:[]LabelSelectorRequirement\x7b\x7d,\x7d"

/-- The error of `checkConfigMapExists` when several ConfigMaps match, with the selector as
`labelSelector.String()` prints it. -/
def moreThanOneConfigMapError (selector : List (String × String)) : Error :=
  "more than one config maps were found for given selector: " ++ labelSelectorString selector

/-- `phaseReconciler.checkConfigMapExists`: lists the ConfigMaps matching the selector, in all
namespaces, and says whether there is one; several is an error. -/
def checkConfigMapExists (client : ConfigMapClient) (store : List ConfigMap)
    (selector : List (String × String)) : Except Error Bool :=
  match client.listError with
  | some e => .error ("failed to list ConfigMaps: " ++ e)
  | none =>
      let items := listMatching store selector
      if items.length > 1 then .error (moreThanOneConfigMapError selector)
      else .ok (items.length = 1)

/-- The name `createManifestsConfigMap` gives the ConfigMap: `type-name-version`. -/
def configMapName (p : GenericProvider) : String :=
  p.providerType ++ "-" ++ p.name ++ "-" ++ p.version

/-- The ConfigMap `createManifestsConfigMap` creates, owned by the provider. -/
def manifestsConfigMap (p : GenericProvider) (metadata components : String) : ConfigMap :=
  { name := configMapName p, ns := p.ns, labels := prepareConfigMapLabels p,
    data := [("metadata", metadata), ("components", components)],
    ownerReferences := [⟨p.apiVersion, p.kind, p.name, p.uid⟩] }

/-- `ctrlClient.Create` of a ConfigMap: the API server refuses a name already taken in the
namespace. -/
def createConfigMap (client : ConfigMapClient) (store : List ConfigMap) (cm : ConfigMap) :
    Except Error (List ConfigMap) :=
  if store.any fun c => c.ns = cm.ns ∧ c.name = cm.name then
    .error ("configmaps \"" ++ cm.name ++ "\" already exists")
  else
    match client.createError cm with
    | some e => .error e
    | none => .ok (store ++ [cm])

/-- `phaseReconciler.createManifestsConfigMap`. -/
def createManifestsConfigMap (client : ConfigMapClient) (store : List ConfigMap)
    (p : GenericProvider) (metadata components : String) : Except Error (List ConfigMap) :=
  createConfigMap client store (manifestsConfigMap p metadata components)

/-- The first step of `downloadManifests`, up to and with its `List`: the result it returns
with, or `none` to go on with the download. -/
def downloadCheck (client : ConfigMapClient) (r : PhaseReconciler) (store : List ConfigMap) :
    Option (Option PhaseError) :=
  if r.provider.fetchConfigSelector.isSome then some none
  else
    match checkConfigMapExists client store (prepareConfigMapLabels r.provider) with
    | .error e => some (some (wrapPhaseError e
        "failed to check that config map with manifests exists" preflightCheckCondition))
    | .ok true => some none
    | .ok false => none

/-- The message of a failed read of a file from the repository.  The source prints the
variable it has just assigned the failed read's (empty) result to, not the file's name. -/
def failedToReadError (name : String) (err : Error) : Error :=
  "failed to read \"\" from the repository for provider \"" ++ name ++ "\": " ++ err

/-- The second step of `downloadManifests`: fetch the two files and create the ConfigMap. -/
def downloadCreate (env : DownloadEnv) (client : ConfigMapClient) (r : PhaseReconciler)
    (store : List ConfigMap) : Option PhaseError × List ConfigMap :=
  let fetchError := fun err => some (wrapPhaseError err componentsFetchErrorReason
    preflightCheckCondition)
  match env.repositoryFactory with
  | .error e => (fetchError ("failed to create repo from provider url for provider \"" ++
      r.provider.name ++ "\": " ++ e), store)
  | .ok repo =>
      match repo.getFile r.optionsVersion env.metadataFile with
      | .error e => (fetchError (failedToReadError r.provider.name e), store)
      | .ok metadataFile =>
          match repo.getFile r.optionsVersion repo.componentsPath with
          | .error e => (fetchError (failedToReadError r.provider.name e), store)
          | .ok componentsFile =>
              match createManifestsConfigMap client store r.provider metadataFile
                  componentsFile with
              | .error e => (fetchError ("failed to create config map for provider \"" ++
                  r.provider.name ++ "\": " ++ e), store)
              | .ok store' => (none, store')

/-- `phaseReconciler.downloadManifests`: the error it returns (`none` is `nil`) and the
ConfigMaps of the cluster afterwards. -/
def downloadManifests (env : DownloadEnv) (client : ConfigMapClient) (r : PhaseReconciler)
    (store : List ConfigMap) : Option PhaseError × List ConfigMap :=
  match downloadCheck client r store with
  | some result => (result, store)
  | none => downloadCreate env client r store

/-! ### Labels -/

/-- The label a selector asks for is found in `prepareConfigMapLabels` with the provider's
value: the four keys are distinct. -/
@[simp] theorem lookup_prepareConfigMapLabels (p : GenericProvider) :
    (prepareConfigMapLabels p).lookup configMapVersionLabel = some p.version ∧
      (prepareConfigMapLabels p).lookup configMapTypeLabel = some p.providerType ∧
      (prepareConfigMapLabels p).lookup configMapNameLabel = some p.name ∧
      (prepareConfigMapLabels p).lookup operatorManagedLabel = some "true" :=
  ⟨rfl, rfl, rfl, rfl⟩

theorem matchesLabels_prepareConfigMapLabels_iff (p : GenericProvider)
    (labels : List (String × String)) :
    MatchesLabels (prepareConfigMapLabels p) labels ↔
      labels.lookup configMapVersionLabel = some p.version ∧
        labels.lookup configMapTypeLabel = some p.providerType ∧
        labels.lookup configMapNameLabel = some p.name ∧
        labels.lookup operatorManagedLabel = some "true" := by
  simp [MatchesLabels, prepareConfigMapLabels]

/-- A ConfigMap made for `q` matches the selector of `p` exactly when the two providers have
the same version, type and name. -/
theorem matchesLabels_prepareConfigMapLabels_same {p q : GenericProvider} :
    MatchesLabels (prepareConfigMapLabels p) (prepareConfigMapLabels q) ↔
      q.version = p.version ∧ q.providerType = p.providerType ∧ q.name = p.name := by
  simp [matchesLabels_prepareConfigMapLabels_iff]

/-- So both have the same ConfigMap name. -/
theorem configMapName_eq_of_matchesLabels {p q : GenericProvider}
    (h : MatchesLabels (prepareConfigMapLabels p) (prepareConfigMapLabels q)) :
    configMapName q = configMapName p := by
  obtain ⟨hv, ht, hn⟩ := matchesLabels_prepareConfigMapLabels_same.mp h
  simp only [configMapName, hv, ht, hn]

theorem matchesLabels_self (p : GenericProvider) :
    MatchesLabels (prepareConfigMapLabels p) (prepareConfigMapLabels p) :=
  (matchesLabels_prepareConfigMapLabels_iff p _).mpr (lookup_prepareConfigMapLabels p)

/-- Only operator-managed ConfigMaps match a provider's selector. -/
theorem managed_of_matchesLabels {p : GenericProvider} {labels : List (String × String)}
    (h : MatchesLabels (prepareConfigMapLabels p) labels) :
    labels.lookup operatorManagedLabel = some "true" :=
  ((matchesLabels_prepareConfigMapLabels_iff p _).mp h).2.2.2

/-! ### The two requests -/

theorem checkConfigMapExists_eq_ok {client : ConfigMapClient} {store : List ConfigMap}
    {selector : List (String × String)} {b : Bool}
    (h : checkConfigMapExists client store selector = .ok b) :
    client.listError = none ∧ (listMatching store selector).length ≤ 1 ∧
      (b = true ↔ (listMatching store selector).length = 1) := by
  unfold checkConfigMapExists at h
  split at h
  · cases h
  · dsimp only at h
    split at h
    · cases h
    · cases h
      exact ⟨‹_›, by omega, by simp⟩

/-- `Create` either refuses a taken name or adds the ConfigMap. -/
theorem createConfigMap_eq_ok {client : ConfigMapClient} {store store' : List ConfigMap}
    {cm : ConfigMap} (h : createConfigMap client store cm = .ok store') :
    (∀ c ∈ store, ¬(c.ns = cm.ns ∧ c.name = cm.name)) ∧ store' = store ++ [cm] := by
  unfold createConfigMap at h
  split at h
  · cases h
  · rename_i hfree
    split at h
    · cases h
    · cases h
      simp only [List.any_eq_true, decide_eq_true_eq, not_exists, not_and] at hfree
      exact ⟨fun c hc ⟨hns, hname⟩ => hfree c hc hns hname, rfl⟩

/-- The second step fails on the preflight condition leaving the ConfigMaps as they were, or
creates the provider's. -/
theorem downloadCreate_store (env : DownloadEnv) (client : ConfigMapClient)
    (r : PhaseReconciler) (store : List ConfigMap) :
    ((∃ e, (downloadCreate env client r store).1 = some e ∧
        e.conditionType = preflightCheckCondition) ∧
      (downloadCreate env client r store).2 = store) ∨
      ((downloadCreate env client r store).1 = none ∧ ∃ metadata components,
        createConfigMap client store (manifestsConfigMap r.provider metadata components) =
          .ok (downloadCreate env client r store).2) := by
  unfold downloadCreate
  repeat' split
  -- every failure keeps the store; the last branch creates
  all_goals first | exact .inl ⟨⟨_, rfl, rfl⟩, rfl⟩ | exact .inr ⟨rfl, _, _, ‹_›⟩

/-- The first step goes on to download only when no ConfigMap matches, in any namespace. -/
theorem downloadCheck_eq_none {client : ConfigMapClient} {r : PhaseReconciler}
    {store : List ConfigMap} (h : downloadCheck client r store = none) :
    r.provider.fetchConfigSelector = none ∧
      listMatching store (prepareConfigMapLabels r.provider) = [] := by
  unfold downloadCheck at h
  split at h
  · cases h
  · rename_i hsel
    refine ⟨Option.not_isSome_iff_eq_none.mp hsel, ?_⟩
    split at h <;> try cases h
    obtain ⟨-, hle, hone⟩ := checkConfigMapExists_eq_ok ‹_›
    exact List.length_eq_zero.mp (by simp at hone; omega)

/-- Without a selector, the first step ends the run without error only when exactly one
ConfigMap matches, in any namespace. -/
theorem downloadCheck_eq_some_none {client : ConfigMapClient} {r : PhaseReconciler}
    {store : List ConfigMap} (hsel : r.provider.fetchConfigSelector = none)
    (h : downloadCheck client r store = some none) :
    ∃ cm, listMatching store (prepareConfigMapLabels r.provider) = [cm] := by
  unfold downloadCheck at h
  rw [if_neg (by simp [hsel])] at h
  split at h <;> try cases h
  exact List.length_eq_one.mp ((checkConfigMapExists_eq_ok ‹_›).2.2.mp rfl)

/-- The first step's errors are on the preflight condition. -/
theorem downloadCheck_eq_some_some {client : ConfigMapClient} {r : PhaseReconciler}
    {store : List ConfigMap} {e : PhaseError} (h : downloadCheck client r store = some (some e)) :
    e.conditionType = preflightCheckCondition := by
  unfold downloadCheck at h
  split at h
  · cases h
  · split at h <;> cases h
    rfl

/-- **A failed download reports on the preflight condition and leaves the ConfigMaps of the
cluster as they were.** -/
theorem downloadManifests_error {env : DownloadEnv} {client : ConfigMapClient}
    {r : PhaseReconciler} {store : List ConfigMap} {e : PhaseError}
    (h : (downloadManifests env client r store).1 = some e) :
    e.conditionType = preflightCheckCondition ∧ (downloadManifests env client r store).2 = store := by
  unfold downloadManifests at h ⊢
  rcases hcheck : downloadCheck client r store with _ | result <;> simp only [hcheck] at h ⊢
  · rcases downloadCreate_store env client r store with
      ⟨⟨e', he', hcond⟩, hstore⟩ | ⟨hnone, -⟩
    · exact ⟨(Option.some.inj (he'.symm.trans h)) ▸ hcond, hstore⟩
    · simp [hnone] at h
  · subst h
    exact ⟨downloadCheck_eq_some_some hcheck, trivial⟩

/-! ### A provider installed in two namespaces -/

/-- The infrastructure provider `docker` at `v1.4.3` in `capd-system`. -/
def dockerInfra : GenericProvider :=
  { name := "docker", ns := "capd-system",
    apiVersion := "operator.cluster.x-k8s.io/v1alpha1", kind := "InfrastructureProvider",
    uid := "uid-1", providerType := "infrastructure", version := "v1.4.3",
    fetchConfigSelector := none }

/-- The same provider installed a second time, in `capd-system-2`. -/
def dockerInfraElsewhere : GenericProvider :=
  { dockerInfra with ns := "capd-system-2", uid := "uid-2" }

/-- A repository that serves every file. -/
def servingEnv : DownloadEnv :=
  { repositoryFactory :=
      .ok ⟨fun _ path => .ok ("contents of " ++ path), "infrastructure-components.yaml"⟩,
    metadataFile := "metadata.yaml" }

/-- An API server whose requests fail only on a name clash. -/
def atomicClient : ConfigMapClient := ⟨none, fun _ => none⟩

/-- A repository that has the components but no metadata file. -/
def noMetadataEnv : DownloadEnv :=
  { repositoryFactory := .ok ⟨fun _ path => if path = "metadata.yaml" then .error "404 Not Found"
      else .ok ("contents of " ++ path), "infrastructure-components.yaml"⟩,
    metadataFile := "metadata.yaml" }

/-! ### What a successful download leaves -/

/-- What a successful download did: found the provider's one ConfigMap, in any namespace, and
changed nothing; or found none and created the provider's. -/
theorem downloadManifests_ok_cases {env : DownloadEnv} {client : ConfigMapClient}
    {r : PhaseReconciler} {store : List ConfigMap}
    (hsel : r.provider.fetchConfigSelector = none)
    (h : (downloadManifests env client r store).1 = none) :
    ((downloadManifests env client r store).2 = store ∧
        ∃ cm, listMatching store (prepareConfigMapLabels r.provider) = [cm]) ∨
      (listMatching store (prepareConfigMapLabels r.provider) = [] ∧ ∃ metadata components,
        createConfigMap client store (manifestsConfigMap r.provider metadata components) =
          .ok (downloadManifests env client r store).2) := by
  unfold downloadManifests at h ⊢
  rcases hcheck : downloadCheck client r store with _ | result <;> simp only [hcheck] at h ⊢
  · refine .inr ⟨(downloadCheck_eq_none hcheck).2, ?_⟩
    rcases downloadCreate_store env client r store with ⟨⟨e, he, -⟩, -⟩ | ⟨-, hc⟩
    · simp [he] at h
    · exact hc
  · exact .inl ⟨trivial, downloadCheck_eq_some_none hsel (h ▸ hcheck)⟩

/-- Creating the provider's ConfigMap where none matched makes it the only match. -/
theorem listMatching_create {client : ConfigMapClient} {store store' : List ConfigMap}
    {p : GenericProvider} {metadata components : String}
    (hnone : listMatching store (prepareConfigMapLabels p) = [])
    (hc : createConfigMap client store (manifestsConfigMap p metadata components) = .ok store') :
    listMatching store' (prepareConfigMapLabels p) = [manifestsConfigMap p metadata components] := by
  rw [(createConfigMap_eq_ok hc).2]
  simp only [listMatching, List.filter_append] at hnone ⊢
  simp [hnone, manifestsConfigMap, matchesLabels_self]

/-- With a single match the first step ends the run without error, whichever namespace the
match is in. -/
theorem downloadManifests_of_single_match {env : DownloadEnv} {client : ConfigMapClient}
    {r : PhaseReconciler} {store : List ConfigMap} {cm : ConfigMap}
    (hsel : r.provider.fetchConfigSelector = none) (hlist : client.listError = none)
    (hone : listMatching store (prepareConfigMapLabels r.provider) = [cm]) :
    downloadManifests env client r store = (none, store) := by
  simp [downloadManifests, downloadCheck, checkConfigMapExists, hsel, hlist, hone]

/-- **After a successful download exactly one ConfigMap of the cluster matches the provider's
labels**: one that was there before, in any namespace, or the one created in the provider's
namespace. -/
theorem downloadManifests_ok_exists {env : DownloadEnv} {client : ConfigMapClient}
    {r : PhaseReconciler} {store : List ConfigMap}
    (hsel : r.provider.fetchConfigSelector = none)
    (h : (downloadManifests env client r store).1 = none) :
    ∃ cm, listMatching (downloadManifests env client r store).2
        (prepareConfigMapLabels r.provider) = [cm] ∧ (cm ∈ store ∨ cm.ns = r.provider.ns) := by
  rcases downloadManifests_ok_cases hsel h with ⟨hstore, cm, hcm⟩ | ⟨hnone, md, comps, hc⟩
  · have hmem : cm ∈ listMatching store (prepareConfigMapLabels r.provider) := by simp [hcm]
    exact ⟨cm, by rw [hstore, hcm], .inl (List.mem_filter.mp hmem).1⟩
  · exact ⟨_, listMatching_create hnone hc, .inr rfl⟩

/-- The first download of `docker` creates its ConfigMap in `capd-system`. -/
theorem downloadManifests_ok_exists_first :
    dockerInfra.fetchConfigSelector = none ∧
    (downloadManifests servingEnv atomicClient ⟨dockerInfra, "v1.4.3"⟩ []).1 = none ∧
    ∃ cm, listMatching (downloadManifests servingEnv atomicClient ⟨dockerInfra, "v1.4.3"⟩ []).2
        (prepareConfigMapLabels dockerInfra) = [cm] ∧
      (cm ∈ ([] : List ConfigMap) ∨ cm.ns = dockerInfra.ns) :=
  ⟨rfl, by decide, downloadManifests_ok_exists rfl (by decide)⟩

/-- **Downloading again changes nothing**: after a successful download, a new run, with any
repository, returns without error and leaves the ConfigMaps as they are. -/
theorem downloadManifests_idempotent {env env' : DownloadEnv} {client : ConfigMapClient}
    {r : PhaseReconciler} {store : List ConfigMap}
    (hsel : r.provider.fetchConfigSelector = none) (hlist : client.listError = none)
    (h : (downloadManifests env client r store).1 = none) :
    downloadManifests env' client r (downloadManifests env client r store).2 =
      (none, (downloadManifests env client r store).2) := by
  rcases downloadManifests_ok_cases hsel h with ⟨hstore, cm, hcm⟩ | ⟨hnone, md, comps, hc⟩
  · rw [hstore]
    exact downloadManifests_of_single_match hsel hlist hcm
  · exact downloadManifests_of_single_match hsel hlist (listMatching_create hnone hc)

/-- The second download of `docker`, after the first, does nothing. -/
theorem downloadManifests_idempotent_docker :
    dockerInfra.fetchConfigSelector = none ∧ atomicClient.listError = none ∧
    (downloadManifests servingEnv atomicClient ⟨dockerInfra, "v1.4.3"⟩ []).1 = none ∧
    downloadManifests noMetadataEnv atomicClient ⟨dockerInfra, "v1.4.3"⟩
        (downloadManifests servingEnv atomicClient ⟨dockerInfra, "v1.4.3"⟩ []).2 =
      (none, (downloadManifests servingEnv atomicClient ⟨dockerInfra, "v1.4.3"⟩ []).2) :=
  ⟨rfl, rfl, by decide, downloadManifests_idempotent rfl rfl (by decide)⟩

/-! ### A ConfigMap of the same labels in another namespace -/

/-- The cluster after the provider in `capd-system-2` has downloaded its manifests. -/
def storeWithOtherNamespace : List ConfigMap :=
  [manifestsConfigMap dockerInfraElsewhere "metadata" "components"]

/-- The download of `docker` in `capd-system`, when the same provider in `capd-system-2` has its
ConfigMap, returns without error and creates nothing: `capd-system` has no ConfigMap with the
provider's labels. -/
theorem downloadManifests_skips_other_namespace :
    dockerInfra.fetchConfigSelector = none ∧
      downloadManifests servingEnv atomicClient ⟨dockerInfra, "v1.4.3"⟩
        storeWithOtherNamespace = (none, storeWithOtherNamespace) ∧
      ¬∃ cm ∈ storeWithOtherNamespace, cm.ns = dockerInfra.ns ∧
        MatchesLabels (prepareConfigMapLabels dockerInfra) cm.labels :=
  ⟨rfl, @downloadManifests_of_single_match _ _ _ _
    (manifestsConfigMap dockerInfraElsewhere "metadata" "components") rfl rfl (by decide),
    by decide⟩

end CapiOperator
