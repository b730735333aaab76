import Mathlib.Data.List.Forall2
import CapiOperator.Plan

/-!
**Draining a provider: `scaleDownProvider` and `scaleDownDeployment`.**

Before replacing a provider, `doUpgrade` scales its Deployments down, so that no old pod
survives the upgrade.  `scaleDownProvider` lists the provider's Deployments and drains them
one after another; `scaleDownDeployment` first retries "read the Deployment, and set its
desired replicas to zero unless they are zero already", then retries "read the Deployment
and check that no replica is left".  Each read and write may fail, and the API server may
answer anything: a `nil` desired replica count, replicas that change between two reads.

A run is modelled by the log of the requests it made to the API server together with their
answers; the server answers each request as a function of the log before it, which covers
every sequence of answers.  `retryWithExponentialBackoff`, which the source calls but does
not contain, runs its operation up to its step budget until the operation succeeds; the
sleeps between attempts are not modelled.

Main definitions:

* `CapiOperator.ApiServer`, `CapiOperator.Event`, `CapiOperator.Log`;
* `CapiOperator.retryWithExponentialBackoff`;
* `CapiOperator.scaleDownDeployment`, `CapiOperator.scaleDownProvider`;
* `CapiOperator.Drained` — the log of a Deployment's drain shows it set to zero desired
  replicas and then observed with none;
* `CapiOperator.ScalesDown` — a request that reads a Deployment or sets it to zero desired
  replicas.

Main results:

* `CapiOperator.retry_succeedsWith` — a retried operation succeeds only through a successful
  attempt;
* `CapiOperator.scaleDownDeployment_drained` — a Deployment is reported scaled down only once it
  was set to zero and then observed at zero;
* `CapiOperator.scaleDownProvider_drained` — **a provider is reported drained only after each
  of its Deployments, in turn, was set to zero desired replicas and then observed with no
  replica**;
* `CapiOperator.scaleDownProvider_only_scales_down` — succeeding or not, the drain makes no
  request when creating the client or listing fails, and otherwise only reads the provider's
  Deployments and writes zero desired replicas to them;
* `CapiOperator.scaleDownProvider_requestsAtMost` — whatever the API server answers, draining
  `n` Deployments makes at most `n` times the requests of one Deployment's two retry budgets.
-/

set_option relaxedAutoImplicit false
set_option autoImplicit false

namespace CapiOperator

/-! ### Deployments and the API server -/

/-- `client.ObjectKey`: the namespace and name of an object. -/
structure ObjectKey where
  ns : String
  name : String
  deriving DecidableEq, Repr

/-- The replica counts of a Deployment as the API server returns it: `Spec.Replicas`, the
desired count (a pointer, possibly `nil`), and `Status.Replicas`, the observed count. -/
structure Replicas where
  spec : Option ℤ
  status : ℤ
  deriving DecidableEq, Repr

/-- A Deployment of the list `scaleDownProvider` drains.  The drain reads only its key: the
replica counts it acts on are those its own reads return. -/
structure Deployment where
  key : ObjectKey
  deriving DecidableEq, Repr

/-- A request the drain made to the API server, with the answer it got. -/
inductive Event where
  /-- `c.Get(ctx, key, deployment)` and the Deployment's replica counts, or the error. -/
  | get (key : ObjectKey) (result : Except Error Replicas)
  /-- `c.Update(ctx, deployment)` with the replica counts written, and the error, if any. -/
  | update (key : ObjectKey) (replicas : Replicas) (result : Option Error)
  deriving Repr

/-- The requests made so far, oldest first. -/
abbrev Log := List Event

/-- The API server, by its answers: creating a client (`proxy.NewClient()`), listing the
Deployments of a provider (in its namespace, with the clusterctl label and the provider's
manifest label), and reading and updating a Deployment, each answer a function of the
requests made before it. -/
structure ApiServer where
  newClient : Option Error
  list : Provider → Except Error (List Deployment)
  get : Log → ObjectKey → Except Error Replicas
  update : Log → ObjectKey → Replicas → Option Error

/-! ### Retrying an operation -/

/-- Modelled from the spec: `retryWithExponentialBackoff` (not in the source), which runs the
operation up to `steps` times until it returns `nil`, and otherwise returns the error of the
last attempt; with no step at all it times out. -/
def retryWithExponentialBackoff (steps : ℕ) (operation : Log → Option Error × Log)
    (log : Log) : Option Error × Log :=
  match steps with
  | 0 => (some "timed out waiting for the condition", log)
  | n + 1 =>
      match operation log with
      | (none, log') => (none, log')
      | (some e, log') => if n = 0 then (some e, log') else retryWithExponentialBackoff n operation log'

/-- An operation only appends to the log, and only events satisfying `P`. -/
def Appends (operation : Log → Option Error × Log) (P : Event → Prop) : Prop :=
  ∀ log, ∃ seg, (operation log).2 = log ++ seg ∧ ∀ e ∈ seg, P e

/-- Two appends in a row are one. -/
theorem appended_trans {P : Event → Prop} {log log₁ log₂ seg₁ seg₂ : Log}
    (h₁ : log₁ = log ++ seg₁) (hP₁ : ∀ e ∈ seg₁, P e) (h₂ : log₂ = log₁ ++ seg₂)
    (hP₂ : ∀ e ∈ seg₂, P e) : ∃ seg, log₂ = log ++ seg ∧ ∀ e ∈ seg, P e :=
  ⟨seg₁ ++ seg₂, by rw [h₂, h₁, List.append_assoc],
    fun e he => (List.mem_append.mp he).elim (hP₁ e) (hP₂ e)⟩

theorem Appends.mono {operation : Log → Option Error × Log} {P Q : Event → Prop}
    (h : Appends operation P) (hPQ : ∀ e, P e → Q e) : Appends operation Q := fun log =>
  let ⟨seg, hseg, hP⟩ := h log
  ⟨seg, hseg, fun e he => hPQ e (hP e he)⟩

/-- When the operation succeeds, what it appended to the log holds an event satisfying `P`. -/
def SucceedsWith (operation : Log → Option Error × Log) (P : Event → Prop) : Prop :=
  ∀ log log', operation log = (none, log') → ∃ seg, log' = log ++ seg ∧ ∃ e ∈ seg, P e

/-- **A retried operation succeeds only through a successful attempt**: what the attempts
before it appended only adds to the log. -/
theorem retry_succeedsWith {operation : Log → Option Error × Log} {P Q : Event → Prop}
    (happ : Appends operation Q) (hok : SucceedsWith operation P) :
    ∀ steps, SucceedsWith (retryWithExponentialBackoff steps operation) P
  | 0 => fun log log' h => by simp [retryWithExponentialBackoff] at h
  | n + 1 => fun log log' h => by
      obtain ⟨seg, hseg, -⟩ := happ log
      simp only [retryWithExponentialBackoff] at h
      split at h
      · next hop => exact hok log log' (hop.trans h)
      · next e log₁ hop =>
          have hlog₁ : log₁ = log ++ seg := by rw [← hseg, hop]
          split at h
          · cases h
          · obtain ⟨seg', rfl, ev, hev, hP⟩ := retry_succeedsWith happ hok n log₁ log' h
            exact ⟨seg ++ seg', by rw [hlog₁, List.append_assoc],
              ev, List.mem_append_right _ hev, hP⟩

/-- Retrying an operation appends what its attempts append. -/
theorem retry_appends {operation : Log → Option Error × Log} {P : Event → Prop}
    (happ : Appends operation P) : ∀ steps, Appends (retryWithExponentialBackoff steps operation) P
  | 0 => fun log => ⟨[], by simp [retryWithExponentialBackoff]⟩
  | n + 1 => fun log => by
      obtain ⟨seg, hseg, hP⟩ := happ log
      simp only [retryWithExponentialBackoff]
      split
      · next hop => exact ⟨seg, by rw [← hseg, hop], hP⟩
      · next e log₁ hop =>
          have hlog₁ : log₁ = log ++ seg := by rw [← hseg, hop]
          split
          · exact ⟨seg, hlog₁, hP⟩
          · obtain ⟨seg', hseg', hP'⟩ := retry_appends happ n log₁
            exact appended_trans hlog₁ hP hseg' hP'

/-! ### `scaleDownDeployment` -/

/-- The operation the first loop of `scaleDownDeployment` retries: read the Deployment, and
set its desired replicas to zero unless they are zero already. -/
def scaleToZero (api : ApiServer) (deploy : Deployment) (log : Log) : Option Error × Log :=
  match api.get log deploy.key with
  | .error e =>
      (errorsWrapf (some e) ("failed to get Deployment/" ++ deploy.key.name),
        log ++ [.get deploy.key (.error e)])
  | .ok deployment =>
      let log := log ++ [.get deploy.key (.ok deployment)]
      if deployment.spec = some 0 then (none, log)
      else
        let scaled := { deployment with spec := some 0 }
        match api.update log deploy.key scaled with
        | some e =>
            (errorsWrapf (some e) ("failed to update Deployment/" ++ deploy.key.name),
              log ++ [.update deploy.key scaled (some e)])
        | none => (none, log ++ [.update deploy.key scaled none])

/-- The operation the second loop of `scaleDownDeployment` retries: read the Deployment, and
fail while it still has replicas. -/
def waitScaledToZero (api : ApiServer) (deploy : Deployment) (log : Log) : Option Error × Log :=
  match api.get log deploy.key with
  | .error e =>
      (errorsWrapf (some e) ("failed to get Deployment/" ++ deploy.key.name),
        log ++ [.get deploy.key (.error e)])
  | .ok deployment =>
      let log := log ++ [.get deploy.key (.ok deployment)]
      if deployment.status = 0 then (none, log)
      else (some ("Deployment still has " ++ toString deployment.status ++ " replicas"), log)

/-- `deploymentScaleToZeroBackOff` allows 60 reads; its durations are not modelled. -/
def deploymentScaleToZeroSteps : ℕ := 60

/-- `scaleDownDeployment`: scale the Deployment to zero, then wait until all its replicas are
gone.  `writeSteps` is the step budget of `newWriteBackoff()`, which the source does not
contain. -/
def scaleDownDeployment (writeSteps : ℕ) (api : ApiServer) (deploy : Deployment) (log : Log) :
    Option Error × Log :=
  match retryWithExponentialBackoff writeSteps (scaleToZero api deploy) log with
  | (some e, log) => (errorsWrapf (some e) "failed to scale down Deployment", log)
  | (none, log) =>
      match retryWithExponentialBackoff deploymentScaleToZeroSteps (waitScaledToZero api deploy)
          log with
      | (some e, log) =>
          (errorsWrapf (some e) "failed to wait until Deployment is scaled down", log)
      | (none, log) => (none, log)

/-- The loop of `scaleDownProvider` over the provider's Deployments, which stops at the first
that fails. -/
def scaleDownDeployments (writeSteps : ℕ) (api : ApiServer) :
    List Deployment → Log → Option Error × Log
  | [], log => (none, log)
  | deploy :: rest, log =>
      match scaleDownDeployment writeSteps api deploy log with
      | (some e, log) => (some e, log)
      | (none, log) => scaleDownDeployments writeSteps api rest log

/-- `providerUpgrader.scaleDownProvider`. -/
def scaleDownProvider (writeSteps : ℕ) (api : ApiServer) (provider : Provider) (log : Log) :
    Option Error × Log :=
  match api.newClient with
  | some e => (some e, log)
  | none =>
      match api.list provider with
      | .error e =>
          (errorsWrapf (some e) ("failed to list Deployments for provider " ++ provider.name), log)
      | .ok deploymentList => scaleDownDeployments writeSteps api deploymentList log

/-! ### What a successful drain has seen -/

/-- The event shows the Deployment at `key` with zero desired replicas: a read that returned
them, or a successful write of them. -/
def ScaledToZero (key : ObjectKey) : Event → Prop
  | .get k (.ok r) => k = key ∧ r.spec = some 0
  | .update k r none => k = key ∧ r.spec = some 0
  | _ => False

/-- The event is a read of the Deployment at `key` that found no replica. -/
def ObservedAtZero (key : ObjectKey) : Event → Prop
  | .get k (.ok r) => k = key ∧ r.status = 0
  | _ => False

/-- The event is a read of the Deployment at `key`, or a write of zero desired replicas to it. -/
def ScalesDown (key : ObjectKey) : Event → Prop
  | .get k _ => k = key
  | .update k r _ => k = key ∧ r.spec = some 0

/-- The log of a Deployment's drain shows it with zero desired replicas, and afterwards with no
replica left. -/
def Drained (deploy : Deployment) (seg : Log) : Prop :=
  ∃ l₁ l₂, seg = l₁ ++ l₂ ∧ (∃ e ∈ l₁, ScaledToZero deploy.key e) ∧
    ∃ e ∈ l₂, ObservedAtZero deploy.key e

theorem scaleToZero_appends (api : ApiServer) (deploy : Deployment) :
    Appends (scaleToZero api deploy) (ScalesDown deploy.key) := by
  intro log
  unfold scaleToZero
  split
  · exact ⟨_, rfl, by simp [ScalesDown]⟩
  · dsimp only
    split
    · exact ⟨_, rfl, by simp [ScalesDown]⟩
    · split <;> exact ⟨_, List.append_assoc _ _ _, by simp [ScalesDown]⟩

theorem scaleToZero_succeedsWith (api : ApiServer) (deploy : Deployment) :
    SucceedsWith (scaleToZero api deploy) (ScaledToZero deploy.key) := by
  intro log log' h
  unfold scaleToZero at h
  split at h
  · simp [errorsWrapf] at h
  · next r _ =>
      split at h
      · next hspec =>
          cases h
          exact ⟨_, rfl, _, List.mem_singleton_self _, rfl, hspec⟩
      · dsimp only at h
        split at h
        · simp [errorsWrapf] at h
        · cases h
          exact ⟨[.get deploy.key (.ok r), .update deploy.key { r with spec := some 0 } none],
            by simp, .update deploy.key { r with spec := some 0 } none, by simp, rfl, rfl⟩

theorem waitScaledToZero_appends (api : ApiServer) (deploy : Deployment) :
    Appends (waitScaledToZero api deploy) (ScalesDown deploy.key) := by
  intro log
  unfold waitScaledToZero
  split
  · exact ⟨_, rfl, by simp [ScalesDown]⟩
  · split <;> exact ⟨_, rfl, by simp [ScalesDown]⟩

theorem waitScaledToZero_succeedsWith (api : ApiServer) (deploy : Deployment) :
    SucceedsWith (waitScaledToZero api deploy) (ObservedAtZero deploy.key) := by
  intro log log' h
  unfold waitScaledToZero at h
  split at h
  · simp [errorsWrapf] at h
  · split at h
    · next hstatus =>
        cases h
        exact ⟨_, rfl, _, List.mem_singleton_self _, rfl, hstatus⟩
    · cases h

/-- A Deployment is reported scaled down only once it was seen with zero desired replicas and
then with no replica. -/
theorem scaleDownDeployment_drained {writeSteps : ℕ} {api : ApiServer} {deploy : Deployment}
    {log log' : Log} (h : scaleDownDeployment writeSteps api deploy log = (none, log')) :
    ∃ seg, log' = log ++ seg ∧ Drained deploy seg := by
  unfold scaleDownDeployment at h
  split at h
  · simp [errorsWrapf] at h
  · next log₁ h₁ =>
      obtain ⟨seg₁, rfl, hscaled⟩ := retry_succeedsWith (scaleToZero_appends api deploy)
        (scaleToZero_succeedsWith api deploy) writeSteps log log₁ h₁
      split at h
      · simp [errorsWrapf] at h
      · rename_i log₂ h₂
        cases h
        obtain ⟨seg₂, rfl, hobserved⟩ :=
          retry_succeedsWith (waitScaledToZero_appends api deploy)
            (waitScaledToZero_succeedsWith api deploy) _ _ _ h₂
        exact ⟨seg₁ ++ seg₂, List.append_assoc _ _ _, seg₁, seg₂, rfl, hscaled,
          hobserved⟩

theorem scaleDownDeployments_drained {writeSteps : ℕ} {api : ApiServer} :
    ∀ {deployments : List Deployment} {log log' : Log},
      scaleDownDeployments writeSteps api deployments log = (none, log') →
      ∃ segs, List.Forall₂ Drained deployments segs ∧ log' = log ++ segs.flatten
  | [], log, log', h => by
      cases h
      exact ⟨[], .nil, by simp⟩
  | deploy :: rest, log, log', h => by
      unfold scaleDownDeployments at h
      split at h
      · cases h
      · next log₁ h₁ =>
          obtain ⟨seg, rfl, hseg⟩ := scaleDownDeployment_drained h₁
          obtain ⟨segs, hsegs, rfl⟩ := scaleDownDeployments_drained h
          exact ⟨seg :: segs, .cons hseg hsegs, by simp⟩

/-- **A provider is reported drained only after each of its Deployments was drained.**  If
`scaleDownProvider` returns `nil`, the provider's Deployments were listed, and the requests it
made split, Deployment after Deployment in the order of the list, into one part per
Deployment in which a read returned zero desired replicas or a write of zero succeeded, and a
later read returned no replica. -/
theorem scaleDownProvider_drained {writeSteps : ℕ} {api : ApiServer} {provider : Provider}
    {log log' : Log} (h : scaleDownProvider writeSteps api provider log = (none, log')) :
    ∃ deployments segs, api.list provider = .ok deployments ∧
      List.Forall₂ Drained deployments segs ∧ log' = log ++ segs.flatten := by
  unfold scaleDownProvider at h
  split at h
  · cases h
  · split at h
    · simp [errorsWrapf] at h
    · next deployments hlist =>
        obtain ⟨segs, hsegs, rfl⟩ := scaleDownDeployments_drained h
        exact ⟨deployments, segs, hlist, hsegs, rfl⟩

/-! ### What every drain does to the cluster -/

/-- A Deployment's drain only reads it and writes zero desired replicas to it. -/
theorem scaleDownDeployment_appends (writeSteps : ℕ) (api : ApiServer) (deploy : Deployment) :
    Appends (scaleDownDeployment writeSteps api deploy) (ScalesDown deploy.key) := by
  intro log
  obtain ⟨seg₁, hseg₁, hP₁⟩ :=
    retry_appends (scaleToZero_appends api deploy) writeSteps log
  unfold scaleDownDeployment
  split
  · next e log₁ h₁ => exact ⟨seg₁, by rw [← hseg₁, h₁], hP₁⟩
  · next log₁ h₁ =>
      obtain ⟨seg₂, hseg₂, hP₂⟩ := retry_appends (waitScaledToZero_appends api deploy)
        deploymentScaleToZeroSteps log₁
      have hlog₁ : log₁ = log ++ seg₁ := by rw [← hseg₁, h₁]
      split
      all_goals
        next log₂ h₂ => exact appended_trans hlog₁ hP₁ (by rw [← hseg₂, h₂]) hP₂

/-- The loop over the Deployments touches only them, and writes only zero desired replicas. -/
theorem scaleDownDeployments_appends (writeSteps : ℕ) (api : ApiServer) :
    ∀ deployments : List Deployment, Appends (scaleDownDeployments writeSteps api deployments)
      fun ev => ∃ d ∈ deployments, ScalesDown d.key ev
  | [] => fun log => ⟨[], by simp [scaleDownDeployments], by simp⟩
  | deploy :: rest => fun log => by
      have hhead : Appends (scaleDownDeployment writeSteps api deploy)
          fun ev => ∃ d ∈ deploy :: rest, ScalesDown d.key ev :=
        (scaleDownDeployment_appends writeSteps api deploy).mono fun ev h =>
          ⟨deploy, List.mem_cons_self _ _, h⟩
      have htail : Appends (scaleDownDeployments writeSteps api rest)
          fun ev => ∃ d ∈ deploy :: rest, ScalesDown d.key ev :=
        (scaleDownDeployments_appends writeSteps api rest).mono fun ev ⟨d, hd, h⟩ =>
          ⟨d, List.mem_cons_of_mem _ hd, h⟩
      obtain ⟨seg₁, hseg₁, hP₁⟩ := hhead log
      unfold scaleDownDeployments
      split
      · next e log₁ h₁ => exact ⟨seg₁, by rw [← hseg₁, h₁], hP₁⟩
      · next log₁ h₁ =>
          obtain ⟨seg₂, hseg₂, hP₂⟩ := htail log₁
          exact appended_trans (by rw [← hseg₁, h₁]) hP₁ hseg₂ hP₂

/-- **Whether it succeeds or not, `scaleDownProvider` only reads the provider's Deployments and
writes zero desired replicas to them**: it makes no request when the client or the list fails,
and otherwise every request concerns a Deployment of the list. -/
theorem scaleDownProvider_only_scales_down (writeSteps : ℕ) (api : ApiServer)
    (provider : Provider) (log : Log) :
    ∃ seg, (scaleDownProvider writeSteps api provider log).2 = log ++ seg ∧
      (∀ e, api.newClient = some e → seg = []) ∧
      (∀ e, api.list provider = .error e → seg = []) ∧
      ∀ deployments, api.list provider = .ok deployments →
        ∀ ev ∈ seg, ∃ d ∈ deployments, ScalesDown d.key ev := by
  unfold scaleDownProvider
  cases hc : api.newClient with
  | some e =>
      exact ⟨[], by simp, fun _ _ => rfl, fun _ _ => rfl, fun _ _ _ hev => nomatch hev⟩
  | none =>
      cases hl : api.list provider with
      | error e =>
          exact ⟨[], by simp, (fun _ h => nomatch h), fun _ _ => rfl,
            fun _ _ _ hev => nomatch hev⟩
      | ok deployments =>
          obtain ⟨seg, hseg, hP⟩ := scaleDownDeployments_appends writeSteps api deployments log
          refine ⟨seg, hseg, (fun _ h => nomatch h), (fun _ h => nomatch h), ?_⟩
          rintro _ ⟨⟩
          exact hP

/-! ### How many requests a drain makes -/

/-- The operation makes at most `n` requests. -/
def RequestsAtMost (operation : Log → Option Error × Log) (n : ℕ) : Prop :=
  ∀ log, (operation log).2.length ≤ log.length + n

/-- A retried operation makes at most its step budget times the requests of one attempt. -/
theorem retry_requestsAtMost {operation : Log → Option Error × Log} {n : ℕ}
    (h : RequestsAtMost operation n) :
    ∀ steps, RequestsAtMost (retryWithExponentialBackoff steps operation) (steps * n)
  | 0 => fun log => by simp [retryWithExponentialBackoff]
  | k + 1 => fun log => by
      have hop := h log
      rw [Nat.add_mul, Nat.one_mul]
      simp only [retryWithExponentialBackoff]
      split
      · next hok => rw [hok] at hop; simp only at hop ⊢; omega
      · next e log₁ hfail =>
          rw [hfail] at hop
          simp only at hop
          split
          · simp only; omega
          · have := retry_requestsAtMost h k log₁
            omega

theorem scaleToZero_requestsAtMost (api : ApiServer) (deploy : Deployment) :
    RequestsAtMost (scaleToZero api deploy) 2 := by
  intro log
  unfold scaleToZero
  split
  · simp
  · dsimp only
    split
    · simp
    · split <;> simp

theorem waitScaledToZero_requestsAtMost (api : ApiServer) (deploy : Deployment) :
    RequestsAtMost (waitScaledToZero api deploy) 1 := by
  intro log
  unfold waitScaledToZero
  split
  · simp
  · split <;> simp

/-- A Deployment's drain makes at most `2 · writeSteps + 60` requests. -/
theorem scaleDownDeployment_requestsAtMost (writeSteps : ℕ) (api : ApiServer)
    (deploy : Deployment) :
    RequestsAtMost (scaleDownDeployment writeSteps api deploy)
      (2 * writeSteps + deploymentScaleToZeroSteps) := by
  intro log
  have h₁ := retry_requestsAtMost (scaleToZero_requestsAtMost api deploy) writeSteps log
  unfold scaleDownDeployment
  split
  · next e log₁ hop => rw [hop] at h₁; simp only at h₁ ⊢; omega
  · next log₁ hop =>
      rw [hop] at h₁
      have h₂ := retry_requestsAtMost (waitScaledToZero_requestsAtMost api deploy)
        deploymentScaleToZeroSteps log₁
      split <;> next log₂ hwait => rw [hwait] at h₂; simp only at h₁ h₂ ⊢; omega

theorem scaleDownDeployments_requestsAtMost (writeSteps : ℕ) (api : ApiServer) :
    ∀ deployments : List Deployment, RequestsAtMost (scaleDownDeployments writeSteps api deployments)
      (deployments.length * (2 * writeSteps + deploymentScaleToZeroSteps))
  | [] => fun log => by simp [scaleDownDeployments]
  | deploy :: rest => fun log => by
      have h₁ := scaleDownDeployment_requestsAtMost writeSteps api deploy log
      unfold scaleDownDeployments
      split
      · next e log₁ hop =>
          rw [hop] at h₁
          simp only [List.length_cons, Nat.add_mul, Nat.one_mul] at h₁ ⊢
          omega
      · next log₁ hop =>
          rw [hop] at h₁
          have h₂ := scaleDownDeployments_requestsAtMost writeSteps api rest log₁
          simp only [List.length_cons, Nat.add_mul, Nat.one_mul] at h₁ ⊢
          omega

/-- The most requests a drain of the provider makes: two retry budgets per Deployment the
provider lists, and none when the list fails. -/
def drainBound (writeSteps : ℕ) (api : ApiServer) (provider : Provider) : ℕ :=
  match api.list provider with
  | .ok deployments => deployments.length * (2 * writeSteps + deploymentScaleToZeroSteps)
  | .error _ => 0

/-- **The drain makes a bounded number of requests**: whatever the API server answers,
`scaleDownProvider` makes at most `2 · writeSteps + 60` requests per Deployment it lists, and
none when the client or the list fails. -/
theorem scaleDownProvider_requestsAtMost (writeSteps : ℕ) (api : ApiServer) (provider : Provider) :
    RequestsAtMost (scaleDownProvider writeSteps api provider)
      (drainBound writeSteps api provider) := by
  intro log
  unfold scaleDownProvider drainBound
  split
  · exact Nat.le_add_right _ _
  · split
    · next e hlist => simp [hlist]
    · next deployments hlist =>
        simpa [hlist] using scaleDownDeployments_requestsAtMost writeSteps api deployments log

/-- The controller Deployment of the scenario's core provider. -/
def capiControllerManager : Deployment :=
  { key := ⟨"capi-system", "capi-controller-manager"⟩ }

/-- An API server whose Deployment has one replica until it is updated, and none after. -/
def drainingServer : ApiServer where
  newClient := none
  list _ := .ok [capiControllerManager]
  get log _ := if log.length = 0 then .ok ⟨some 1, 1⟩ else .ok ⟨some 0, 0⟩
  update _ _ _ := none

/-- Draining the core provider on that server reads one replica, writes zero, and reads zero:
one drained segment for its one Deployment. -/
theorem scaleDownProvider_drained_capi :
    scaleDownProvider 10 drainingServer fleetCore [] =
      (none, [.get capiControllerManager.key (.ok ⟨some 1, 1⟩),
        .update capiControllerManager.key ⟨some 0, 1⟩ none,
        .get capiControllerManager.key (.ok ⟨some 0, 0⟩)]) ∧
    ∃ deployments segs, drainingServer.list fleetCore = .ok deployments ∧
      List.Forall₂ Drained deployments segs ∧
      [.get capiControllerManager.key (.ok ⟨some 1, 1⟩),
        .update capiControllerManager.key ⟨some 0, 1⟩ none,
        .get capiControllerManager.key (.ok ⟨some 0, 0⟩)] = [] ++ segs.flatten :=
  ⟨rfl, @scaleDownProvider_drained 10 _ _ _ _ rfl⟩

end CapiOperator
