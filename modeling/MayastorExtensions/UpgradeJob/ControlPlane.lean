import MayastorExtensions.UpgradeJob.DataPlane

/-!
# The gate on the control plane

Before a Pod of the data plane is restarted, `control_plane_is_running` lists the Pods of the core
agent, of the REST API and of etcd and asks whether they are ready.  The scan over the conditions
of a Pod stops at the first entry of type `Ready` and accepts a list that has none, and a list of
Pods may be empty.
-/

namespace MayastorExtensions.UpgradeJob

open Scheduled

/-! ## Ready entries -/

/-- The entries of type `Ready` among the conditions of a Pod, if its status has conditions. -/
def Pod.readyEntries (pod : Pod) : Option (List PodCondition) :=
  (pod.status.bind PodStatus.conditions).map fun conditions ↦
    conditions.filter fun condition ↦ condition.type_ = "Ready"

/-- The Pod has a condition of type `Ready` with status `True`. -/
def Pod.Ready (pod : Pod) : Prop :=
  ∃ entries, pod.readyEntries = some entries ∧ ∃ entry ∈ entries, entry.status = "True"

/-- The Pod has conditions, none of which is of type `Ready`. -/
def Pod.Silent (pod : Pod) : Prop :=
  pod.readyEntries = some []

/-- The first entry of type `Ready` says that the Pod is not ready, and a later one that it is. -/
def Pod.Contradictory (pod : Pod) : Prop :=
  ∃ first rest, pod.readyEntries = some (first :: rest) ∧ first.status ≠ "True" ∧
    ∃ entry ∈ rest, entry.status = "True"

/-- The Pod has no conditions, or entries of type `Ready` of which none says that it is. -/
def Pod.Unready (pod : Pod) : Prop :=
  ∀ entries, pod.readyEntries = some entries →
    entries ≠ [] ∧ ∀ entry ∈ entries, entry.status ≠ "True"

/-- The scan over one Pod. -/
def Pod.accepted (pod : Pod) : Bool :=
  match pod.status.bind PodStatus.conditions with
  | some conditions => readyScan conditions
  | none => false

/-- The scan is decided by the first entry of type `Ready`. -/
theorem readyScan_eq (conditions : List PodCondition) :
    readyScan conditions =
      ((conditions.filter fun condition ↦ condition.type_ = "Ready").head?.all fun entry ↦
        entry.status = "True") := by
  induction conditions with
  | nil => rfl
  | cons condition rest ih =>
    rw [readyScan, List.filter_cons]
    by_cases htype : condition.type_ = "Ready"
    · simp [htype]
    · simp [htype, ih]

theorem accepted_eq (pod : Pod) :
    pod.accepted = (pod.readyEntries.any fun entries ↦
      entries.head?.all fun entry ↦ entry.status = "True") := by
  unfold Pod.accepted Pod.readyEntries
  cases pod.status.bind PodStatus.conditions with
  | none => rfl
  | some conditions => exact readyScan_eq conditions

/-- The scan and the conditions disagree about silent and about contradictory Pods. -/
theorem accepted_iff (pod : Pod) :
    pod.accepted ↔ ¬pod.Unready ∧ ¬pod.Contradictory := by
  rw [accepted_eq]
  unfold Pod.Unready Pod.Contradictory
  match pod.readyEntries with
  | none => simp
  | some [] => simp
  | some (first :: rest) =>
    by_cases hfirst : first.status = "True" <;> simp [hfirst]

theorem ready_iff (pod : Pod) : pod.Ready ↔ ¬pod.Unready ∧ ¬pod.Silent := by
  unfold Pod.Ready Pod.Unready Pod.Silent
  match pod.readyEntries with
  | none => simp
  | some [] => simp
  | some (first :: rest) =>
    by_cases hfirst : first.status = "True" <;> simp [hfirst]

theorem allPodsAreReady_iff (pods : List Pod) :
    allPodsAreReady pods ↔ ∀ pod ∈ pods, pod.accepted := by
  induction pods with
  | nil => simp [allPodsAreReady]
  | cons pod rest ih =>
    rw [List.forall_mem_cons, ← ih, allPodsAreReady, Pod.accepted]
    cases pod.status.bind PodStatus.conditions with
    | none => simp
    | some conditions => simp

/-! ## The three lists -/

/-- The Pods that the three list requests return. -/
structure ControlPlanePods where
  core : List Pod
  rest : List Pod
  etcd : List Pod

namespace ControlPlanePods

def all (pods : ControlPlanePods) : List Pod :=
  pods.core ++ pods.rest ++ pods.etcd

/-- Every Pod is ready, and the core agent and the REST API have one. -/
def Running (pods : ControlPlanePods) : Prop :=
  (∀ pod ∈ pods.all, pod.Ready) ∧ pods.core ≠ [] ∧ pods.rest ≠ []

/-- What the gate takes for ready without a `Ready` entry that says so. -/
def Unfounded (pods : ControlPlanePods) : Prop :=
  (∃ pod ∈ pods.all, pod.Silent) ∨ pods.core = [] ∨ pods.rest = []

end ControlPlanePods

/-- The lists at the time of each request. -/
def listedPods (cluster : Cluster) (first second third : List Move) : ControlPlanePods where
  core := (after first cluster).podsMatching { app := .agentCore }
  rest := (after second (after first cluster)).podsMatching { app := .apiRest }
  etcd := (after third (after second (after first cluster))).podsMatching { app := .etcd }

/-- Three served list requests, with anything that the cluster does before each of them. -/
def servedThrice (first second third : List Move) (later : List (Tick Move)) : List (Tick Move) :=
  ⟨first, .served⟩ :: ⟨second, .served⟩ :: ⟨third, .served⟩ :: later

theorem controlPlaneIsRunning_eq (namespace_ : String) (cluster : Cluster)
    (first second third : List Move) (later : List (Tick Move)) (trace : List JobEntry) :
    (controlPlaneIsRunning namespace_
      ⟨cluster, servedThrice first second third later, trace⟩).1 =
        .ok (let pods := listedPods cluster first second third
          allPodsAreReady pods.core && allPodsAreReady pods.rest && allPodsAreReady pods.etcd) :=
  rfl

/-- The gate opens when no Pod on the lists is unready or contradictory. -/
theorem controlPlaneIsRunning_true_iff (namespace_ : String) (cluster : Cluster)
    (first second third : List Move) (later : List (Tick Move)) (trace : List JobEntry) :
    (controlPlaneIsRunning namespace_
        ⟨cluster, servedThrice first second third later, trace⟩).1 = .ok true ↔
      ∀ pod ∈ (listedPods cluster first second third).all, ¬pod.Unready ∧ ¬pod.Contradictory := by
  rw [controlPlaneIsRunning_eq]
  simp only [Except.ok.injEq, Bool.and_eq_true, allPodsAreReady_iff, accepted_iff,
    ControlPlanePods.all, List.forall_mem_append]

/-- However the Pods change between the requests, the gate is right about the lists it was given if
and only if one of the Pods is unready, or a contradictory Pod is listed exactly when the lists are
unfounded. -/
theorem controlPlaneIsRunning_gate_iff (namespace_ : String) (cluster : Cluster)
    (first second third : List Move) (later : List (Tick Move)) (trace : List JobEntry) :
    ((controlPlaneIsRunning namespace_
        ⟨cluster, servedThrice first second third later, trace⟩).1 = .ok true ↔
      (listedPods cluster first second third).Running) ↔
      (∃ pod ∈ (listedPods cluster first second third).all, pod.Unready) ∨
        ((∃ pod ∈ (listedPods cluster first second third).all, pod.Contradictory) ↔
          (listedPods cluster first second third).Unfounded) := by
  rw [controlPlaneIsRunning_true_iff]
  generalize listedPods cluster first second third = pods
  have hrunning : pods.Running ↔
      (¬∃ pod ∈ pods.all, pod.Unready) ∧ ¬pods.Unfounded := by
    unfold ControlPlanePods.Running ControlPlanePods.Unfounded
    simp only [ready_iff, forall_and, not_exists, not_and, not_or]
    exact and_assoc
  have hopen : (∀ pod ∈ pods.all, ¬pod.Unready ∧ ¬pod.Contradictory) ↔
      (¬∃ pod ∈ pods.all, pod.Unready) ∧ ¬∃ pod ∈ pods.all, pod.Contradictory := by
    simp only [forall_and, not_exists, not_and]
  rw [hrunning, hopen]
  by_cases hunready : ∃ pod ∈ pods.all, pod.Unready
  · simp [hunready]
  · simp only [hunready, not_false_eq_true, true_and, false_or]
    exact not_iff_not

/-- A Pod of the control plane with the given conditions. -/
def controlPlanePod (name : String) (app : App) (conditions : List PodCondition) : Pod where
  name := name
  app := some app
  revisionHash := none
  spec := none
  status := some ⟨some conditions⟩
  chart := "mayastor-2.7.0"

/-- The core agent has been scheduled and nothing has been said about its readiness yet. -/
def scheduledCore : Cluster :=
  { (default : Cluster) with
    pods := [controlPlanePod "agent-core" .agentCore [⟨"PodScheduled", "True"⟩],
      controlPlanePod "api-rest" .apiRest [⟨"PodScheduled", "True"⟩, ⟨"Ready", "True"⟩],
      controlPlanePod "etcd-0" .etcd [⟨"PodScheduled", "True"⟩, ⟨"Ready", "True"⟩]] }

/-- The gate opens for a core agent that is not ready. -/
theorem controlPlaneIsRunning_not_ready :
    ¬∀ (namespace_ : String) (cluster : Cluster) (first second third : List Move)
      (later : List (Tick Move)) (trace : List JobEntry),
      (controlPlaneIsRunning namespace_
          ⟨cluster, servedThrice first second third later, trace⟩).1 = .ok true ↔
        (listedPods cluster first second third).Running := by
  intro hclaim
  have hcore : controlPlanePod "agent-core" .agentCore [⟨"PodScheduled", "True"⟩] ∈
      (listedPods scheduledCore [] [] []).all := by decide
  have hrunning := (hclaim "mayastor" scheduledCore [] [] [] [] []).mp (by decide)
  have hready := hrunning.1 _ hcore
  obtain ⟨entries, hentries, entry, hentry, _⟩ := hready
  have hnone : entries = [] := (Option.some.inj hentries).symm
  rw [hnone] at hentry
  cases hentry

end MayastorExtensions.UpgradeJob
