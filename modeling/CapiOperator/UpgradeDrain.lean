import CapiOperator.Upgrade
import CapiOperator.ScaleDown

/-!
**Upgrading against the API server: `doUpgrade` with its drains.**

`doUpgrade` calls `scaleDownProvider` for every provider it upgrades, and each of those drains
talks to the API server.  `CapiOperator.Upgrade` treats the call as one answer of a responder;
`CapiOperator.ScaleDown` models the drain request by request.  This module puts the two
together: the responder answers a `scaleDownProvider` call by running the drain against the API
server, on the log of the requests the drains before it made, and answers the other calls as
any responder may.  The log holds the drains' Deployment reads and writes; the deletions and
installations go through the components client and come after every drain.

What the two levels say separately then holds of the whole run: a drain that returns `nil` has
drained each Deployment of its provider, and every call that fetches, deletes or installs
components comes after the drain of every provider the run upgrades.

Main definitions:

* `CapiOperator.drainRequests`, `CapiOperator.apiLog` — the log of the drains' requests after
  the calls of a run;
* `CapiOperator.drainingResponder` — `doUpgrade`'s collaborators with the drains of
  `scaleDownProvider` made against the API server;
* `CapiOperator.drainsBound` — the most requests the drains of a list of items may make.

Main results:

* `CapiOperator.drained_of_answer_eq_none` — the two levels agree: a `scaleDownProvider` call
  answered `nil` drained each Deployment of its provider in the requests it added to the log;
* `CapiOperator.doUpgrade_drains_before_replace` — **no component of a provider is fetched,
  deleted or installed before every Deployment of every provider the run upgrades was set to
  zero desired replicas and then seen with no replica**;
* `CapiOperator.doUpgrade_requests_le` — whatever the API server answers, a run makes at most
  two retry budgets of requests per Deployment of the providers it upgrades.
-/

set_option relaxedAutoImplicit false
set_option autoImplicit false

namespace CapiOperator

/-! ### The log of the drains -/

section Log

variable (writeSteps : ℕ) (api : ApiServer)

/-- The log after one more call of `doUpgrade`: a `scaleDownProvider` call drains its provider
request by request; the other calls make no Deployment request of a drain. -/
def drainRequests (log : Log) : Call → Log
  | .scaleDownProvider provider => (scaleDownProvider writeSteps api provider log).2
  | _ => log

/-- The log of the drains' requests after the calls of a trace. -/
def apiLog (t : Trace) : Log :=
  t.foldl (drainRequests writeSteps api) []

/-- `doUpgrade`'s collaborators when `scaleDownProvider` is the drain of
`CapiOperator.scaleDownProvider`, made against the API server on the log the drains before it
left; `r` answers the other calls. -/
def drainingResponder (r : Responder) : Responder
  | t, .scaleDownProvider provider =>
      (scaleDownProvider writeSteps api provider (apiLog writeSteps api t)).1
  | t, c => r t c

theorem apiLog_concat (t : Trace) (c : Call) :
    apiLog writeSteps api (t ++ [c]) = drainRequests writeSteps api (apiLog writeSteps api t) c := by
  simp [apiLog]

/-- A call adds requests to the log and removes none. -/
theorem prefix_drainRequests (log : Log) (c : Call) : log <+: drainRequests writeSteps api log c := by
  cases c with
  | scaleDownProvider provider =>
      show log <+: (scaleDownProvider writeSteps api provider log).2
      unfold scaleDownProvider
      split
      · exact List.prefix_refl _
      · split
        · exact List.prefix_refl _
        · next deployments _ =>
            obtain ⟨seg, hseg, -⟩ := scaleDownDeployments_appends writeSteps api deployments log
            exact ⟨seg, hseg.symm⟩
  | _ => exact List.prefix_refl _

/-- The log only grows along a run. -/
theorem apiLog_prefix_append (t₁ t₂ : Trace) :
    apiLog writeSteps api t₁ <+: apiLog writeSteps api (t₁ ++ t₂) := by
  induction t₂ using List.reverseRecOn with
  | nil => simp
  | append_singleton t₂ c ih =>
      rw [← List.append_assoc, apiLog_concat]
      exact ih.trans (prefix_drainRequests writeSteps api _ c)

variable {writeSteps api}

/-- A Deployment of a drained list has its own drained segment of the log. -/
theorem exists_drained_of_mem {deployments : List Deployment} {segs : List Log}
    (h : List.Forall₂ Drained deployments segs) {d : Deployment} (hd : d ∈ deployments) :
    ∃ seg ∈ segs, Drained d seg := by
  induction h with
  | nil => cases hd
  | cons hhead _ ih =>
      rcases List.mem_cons.1 hd with rfl | hd
      · exact ⟨_, List.mem_cons_self _ _, hhead⟩
      · obtain ⟨seg, hseg, hdrained⟩ := ih hd
        exact ⟨seg, List.mem_cons_of_mem _ hseg, hdrained⟩

/-- **The two levels agree.**  A `scaleDownProvider` call the responder answered with `nil`
listed the provider's Deployments and drained each of them, in turn, in the requests it added
to the log. -/
theorem drained_of_answer_eq_none {r : Responder} {t : Trace} {provider : Provider}
    (h : drainingResponder writeSteps api r t (.scaleDownProvider provider) = none) :
    ∃ deployments segs, api.list provider = .ok deployments ∧
      List.Forall₂ Drained deployments segs ∧
      apiLog writeSteps api (t ++ [.scaleDownProvider provider]) =
        apiLog writeSteps api t ++ segs.flatten := by
  rw [apiLog_concat, drainRequests]
  simp only [drainingResponder] at h
  unfold scaleDownProvider at h ⊢
  cases hc : api.newClient with
  | some e => simp [hc] at h
  | none =>
      cases hl : api.list provider with
      | error e => simp [hc, hl, errorsWrapf] at h
      | ok deployments =>
          simp only [hc, hl] at h ⊢
          obtain ⟨segs, hsegs, hlog⟩ :=
            scaleDownDeployments_drained (Prod.ext h rfl : _ = (none, _))
          exact ⟨deployments, segs, rfl, hsegs, hlog⟩

end Log

/-! ### Nothing is replaced before it is drained -/

/-- **No component is fetched, deleted or installed before every Deployment is drained.**
Whatever the API server and the other collaborators answer, a call of a run of `doUpgrade`
that is neither the single-instance check nor a scale-down comes after every Deployment of
every provider the run upgrades was set to zero desired replicas and then seen with no
replica: the log of the drains up to the call has a drained segment for each of them. -/
theorem doUpgrade_drains_before_replace (writeSteps : ℕ) (api : ApiServer) (r : Responder)
    (s : SliceSort) (plan : UpgradePlan) {pre post : Trace} {c : Call}
    (htrace : (doUpgrade (drainingResponder writeSteps api r) s plan []).2 = pre ++ c :: post)
    (hcheck : c ≠ .checkSingleProviderInstance) (hscale : ∀ p, c ≠ .scaleDownProvider p) :
    ∀ item ∈ upgradeOrder s plan, ∃ deployments, api.list item.provider = .ok deployments ∧
      ∀ d ∈ deployments, ∃ seg, seg <:+: apiLog writeSteps api pre ∧ Drained d seg := by
  obtain ⟨hs, hcalls⟩ := doUpgrade_call_position _ s plan htrace
  intro item hitem
  obtain ⟨pre₁, pre₂, rfl⟩ :=
    List.append_of_mem (scaleDown_mem_of_prefix_upgradeCalls hcalls hcheck hscale hitem)
  have hanswer := hs.eq_none
  rw [List.nil_append] at hanswer
  obtain ⟨deployments, segs, hlist, hsegs, hlog⟩ := drained_of_answer_eq_none hanswer
  refine ⟨deployments, hlist, fun d hd => ?_⟩
  obtain ⟨seg, hseg, hdrained⟩ := exists_drained_of_mem hsegs hd
  have hgrows := apiLog_prefix_append writeSteps api
    (pre₁ ++ [.scaleDownProvider item.provider]) pre₂
  rw [hlog, List.append_assoc, List.singleton_append] at hgrows
  exact ⟨seg, (List.infix_of_mem_flatten hseg).trans
    ((List.suffix_append _ _).isInfix.trans hgrows.isInfix), hdrained⟩

/-- The core provider's upgrade to `v1.0.0`, with its drain against the draining server: when
it deletes the core provider's components, the controller Deployment has been drained. -/
theorem doUpgrade_drains_before_replace_fleet :
    (doUpgrade (drainingResponder 10 drainingServer fun _ _ => none) insertionSliceSort
        { contract := clusterv1Version, providers := [⟨fleetCore, "v1.0.0"⟩] } []).2 =
      [.checkSingleProviderInstance, .scaleDownProvider fleetCore,
        .getUpgradeComponents ⟨fleetCore, "v1.0.0"⟩] ++
      .delete (deleteOptionsFor ⟨fleetCore, "v1.0.0"⟩) ::
        [.installComponentsAndUpdateInventory (componentsFor ⟨fleetCore, "v1.0.0"⟩),
          .deleteWebhookNamespace] ∧
    Call.delete (deleteOptionsFor ⟨fleetCore, "v1.0.0"⟩) ≠ .checkSingleProviderInstance ∧
    (∀ p, Call.delete (deleteOptionsFor ⟨fleetCore, "v1.0.0"⟩) ≠ .scaleDownProvider p) ∧
    ⟨fleetCore, "v1.0.0"⟩ ∈ upgradeOrder insertionSliceSort
      { contract := clusterv1Version, providers := [⟨fleetCore, "v1.0.0"⟩] } ∧
    ∃ deployments, drainingServer.list fleetCore = .ok deployments ∧
      ∀ d ∈ deployments, ∃ seg, seg <:+: apiLog 10 drainingServer
        [.checkSingleProviderInstance, .scaleDownProvider fleetCore,
          .getUpgradeComponents ⟨fleetCore, "v1.0.0"⟩] ∧ Drained d seg :=
  ⟨rfl, (fun h => Call.noConfusion h), (fun _ h => Call.noConfusion h),
    List.mem_singleton_self _,
    @doUpgrade_drains_before_replace 10 drainingServer (fun _ _ => none) insertionSliceSort
      { contract := clusterv1Version, providers := [⟨fleetCore, "v1.0.0"⟩] }
      [.checkSingleProviderInstance, .scaleDownProvider fleetCore,
        .getUpgradeComponents ⟨fleetCore, "v1.0.0"⟩]
      [.installComponentsAndUpdateInventory (componentsFor ⟨fleetCore, "v1.0.0"⟩),
        .deleteWebhookNamespace]
      (.delete (deleteOptionsFor ⟨fleetCore, "v1.0.0"⟩)) rfl (fun h => Call.noConfusion h)
      (fun _ h => Call.noConfusion h) ⟨fleetCore, "v1.0.0"⟩ (List.mem_singleton_self _)⟩

/-! ### How many requests an upgrade makes -/

section Requests

variable (writeSteps : ℕ) (api : ApiServer)

/-- The most requests a call's drain makes. -/
def callBound : Call → ℕ
  | .scaleDownProvider provider => drainBound writeSteps api provider
  | _ => 0

/-- The most requests the drains of a list of calls make. -/
def callsBound : List Call → ℕ
  | [] => 0
  | c :: cs => callBound writeSteps api c + callsBound cs

/-- The most requests the drains of the items' providers make. -/
def drainsBound : List UpgradeItem → ℕ
  | [] => 0
  | item :: rest => drainBound writeSteps api item.provider + drainsBound rest

theorem callsBound_append (cs ds : List Call) :
    callsBound writeSteps api (cs ++ ds) =
      callsBound writeSteps api cs + callsBound writeSteps api ds := by
  induction cs with
  | nil => simp [callsBound]
  | cons c cs ih => simp only [List.cons_append, callsBound.eq_2, ih, Nat.add_assoc]

/-- Only the scale-downs of `upgradeCalls` drain. -/
theorem callsBound_upgradeCalls (contract : String) (order : List UpgradeItem) :
    callsBound writeSteps api (upgradeCalls contract order) = drainsBound writeSteps api order := by
  unfold upgradeCalls
  induction order with
  | nil => split <;> rfl
  | cons item order ih =>
      simp only [List.map_cons, List.flatMap_cons, List.cons_append, callsBound_append,
        callsBound, callBound, drainsBound] at ih ⊢
      omega

theorem drainRequests_length_le (log : Log) (c : Call) :
    (drainRequests writeSteps api log c).length ≤ log.length + callBound writeSteps api c := by
  cases c with
  | scaleDownProvider provider => exact scaleDownProvider_requestsAtMost writeSteps api provider log
  | _ => exact Nat.le_add_right _ _

theorem foldl_drainRequests_length_le (cs : List Call) (log : Log) :
    (cs.foldl (drainRequests writeSteps api) log).length ≤
      log.length + callsBound writeSteps api cs := by
  induction cs generalizing log with
  | nil => simp [callsBound]
  | cons c cs ih =>
      have h₁ := drainRequests_length_le writeSteps api log c
      have h₂ := ih (drainRequests writeSteps api log c)
      simp only [List.foldl_cons, callsBound]
      omega

/-- **An upgrade makes a bounded number of requests to the API server.**  Whatever the API
server and the other collaborators answer, the drains of a run of `doUpgrade` make at most
`2 · writeSteps + 60` Deployment requests per Deployment of the providers it upgrades. -/
theorem doUpgrade_requests_le (r : Responder) (s : SliceSort) (plan : UpgradePlan) :
    (apiLog writeSteps api (doUpgrade (drainingResponder writeSteps api r) s plan []).2).length ≤
      drainsBound writeSteps api (upgradeOrder s plan) := by
  obtain ⟨rest, hrest⟩ :=
    doUpgrade_prefix_of_upgradeCalls (drainingResponder writeSteps api r) s plan
  have hgrows := (apiLog_prefix_append writeSteps api
    (doUpgrade (drainingResponder writeSteps api r) s plan []).2 rest).length_le
  rw [hrest] at hgrows
  have hall := foldl_drainRequests_length_le writeSteps api
    (upgradeCalls plan.contract (upgradeOrder s plan)) []
  rw [callsBound_upgradeCalls] at hall
  exact hgrows.trans (by simpa [apiLog] using hall)

end Requests

end CapiOperator
