import MayastorExtensions.Library.Segment
import MayastorExtensions.Plugin.Preflight

/-!
# The upgrade command

`UpgradeArgs::apply` and what is around it in `plugin/upgrade.rs`, and the command of the plugin
that runs it behind the preflight checks.  The five objects are created, and then the plugin waits
for the first word of the upgrade-job: a minute of polls for the events of the Job, of which the
latest decides.  If it says that the upgrade-job found the upgrade invalid, the objects are deleted
again.

What the API answers to a poll is not the plugin's doing, so the listings are a parameter, one for
each poll.
-/

namespace MayastorExtensions.Plugin

open Scheduled

/-! ## Events -/

/-- The fields of a core/v1 Event that the plugin reads; times are counted in microseconds. -/
structure CoreEvent where
  reason : Option String
  action : Option String
  message : Option String
  eventTime : Option ℕ
  deriving DecidableEq, Repr

structure UpgradeEvent where
  fromVersion : String
  toVersion : String
  message : String
  deriving DecidableEq, Repr

/-- The order of optional times: none comes first. -/
def timeLe : Option ℕ → Option ℕ → Bool
  | none, _ => true
  | some _, none => false
  | some time, some other => time ≤ other

def upgradeEvents (events : List CoreEvent) : List CoreEvent :=
  events.filter fun event ↦ event.reason = some UpgradeJob.upgradeEventReason

/-- The first event after a stable sort from the latest to the earliest. -/
def latestUpgradeEvent (events : List CoreEvent) : Option CoreEvent :=
  ((upgradeEvents events).mergeSort fun event other ↦ timeLe other.eventTime event.eventTime).head?

/-! ## Requests and errors -/

inductive CommandCall where
  | resource (call : Call)
  | deleteEvents (fieldSelector : String)
  | listEvents (fieldSelector : String)
  | listPods (label : String)
  deriving DecidableEq, Repr

inductive CommandError where
  | resource (error : Error)
  | check (error : CheckError)
  | deleteEventsWithFieldSelector (field : String)
  | listEventsWithFieldSelector (field : String)
  | upgradeEventNotPresent
  | eventSerdeDeserialization (event : String)
  | messageInEventNotPresent
  | listPodsWithLabel (label namespace_ : String)
  | podNameNotPresent
  deriving DecidableEq, Repr

/-- A computation of the upgrade command. -/
abbrev UpgradeCommand (α : Type) := Program Kube Move CommandCall CommandError α

/-- The computations on the five objects, as part of the command. -/
def onResources {α : Type} (command : Command α) : UpgradeCommand α :=
  Program.embed CommandCall.resource CommandError.resource command

def MAX_RETRY_ATTEMPTS : ℕ := 6

def AGENT_CORE_POD_LABEL : String := "app=agent-core"

def API_REST_POD_LABEL : String := "app=api-rest"

def IO_ENGINE_POD_LABEL : String := "app=io-engine"

def upgradeEventSelector (versionTag : Option String) (releaseName componentName : String) :
    String :=
  "involvedObject.kind=Job,involvedObject.name=" ++
    upgradeNameConcat versionTag releaseName componentName

/-! ## The command -/

/-- The arguments of the command; the REST checks and the resources read their parts of them. -/
structure UpgradeCommandArgs where
  resources : UpgradeArgs
  dryRun : Bool
  allowUnstable : Bool
  skipReplicaRebuild : Bool
  skipCordonedNodeValidation : Bool
  skipSingleReplicaVolumeValidation : Bool

def UpgradeCommandArgs.preflight (args : UpgradeCommandArgs) : PreflightArgs where
  allowUnstable := args.allowUnstable
  skipUpgradePathValidationForUnsupportedVersion :=
    args.resources.skipUpgradePathValidationForUnsupportedVersion
  skipReplicaRebuild := args.skipReplicaRebuild
  skipCordonedNodeValidation := args.skipCordonedNodeValidation
  skipSingleReplicaVolumeValidation := args.skipSingleReplicaVolumeValidation

/-- What the command finds outside of the cluster's objects: the JSON of event messages, the events
that each poll lists, and the names of the Pods with a label. -/
structure Surroundings where
  fromStr : String → Option UpgradeEvent
  listing : ℕ → List CoreEvent
  pods : String → List (Option String)

section Command

variable (surroundings : Surroundings) (versionTag : Option String) (ns : String)

def deleteUpgradeEvents (releaseName : String) : UpgradeCommand Unit :=
  let selector := upgradeEventSelector versionTag releaseName UPGRADE_JOB_NAME_SUFFIX
  Program.query (.deleteEvents selector) (.deleteEventsWithFieldSelector selector) fun _ ↦ ()

/-- The poll with the given number. -/
def getLatestUpgradeEvent (releaseName : String) (poll : ℕ) : UpgradeCommand CoreEvent := do
  let selector := upgradeEventSelector versionTag releaseName UPGRADE_JOB_NAME_SUFFIX
  let events ← Program.query (.listEvents selector) (.listEventsWithFieldSelector selector)
    fun _ ↦ surroundings.listing poll
  match latestUpgradeEvent events with
  | none => Program.fail .upgradeEventNotPresent
  | some event => pure event

def handleUpgradeEvent (latestEvent : CoreEvent) : UpgradeCommand Unit :=
  match latestEvent.action with
  | none => pure ()
  | some action =>
    if action = "Validation Failed" then
      match latestEvent.message with
      | none => Program.fail .messageInEventNotPresent
      | some data =>
        match surroundings.fromStr data with
        | none => Program.fail (.eventSerdeDeserialization data)
        | some _ => onResources (deleteUpgradeResources versionTag ns)
    else pure ()

/-- The polls that are left: the first one that finds an event is the last. -/
def pollEvents (releaseName : String) : List ℕ → UpgradeCommand Unit
  | [] => pure ()
  | poll :: rest => do
    match ← Program.attempt (getLatestUpgradeEvent surroundings versionTag releaseName poll) with
    | .ok latestEvent => handleUpgradeEvent surroundings versionTag ns latestEvent
    | .error _ => pollEvents releaseName rest

def apply (args : UpgradeArgs) : UpgradeCommand Unit := do
  onResources (Program.query .tryDefault .k8sClientGeneration fun _ ↦ ())
  let releaseName ← onResources (getReleaseName ns)
  deleteUpgradeEvents versionTag releaseName
  onResources (createUpgradeResources versionTag ns args)
  pollEvents surroundings versionTag ns releaseName (List.range MAX_RETRY_ATTEMPTS)

/-- The names of the Pods with a label. -/
def listPods (label : String) : UpgradeCommand (List String) := do
  onResources (Program.query .tryDefault .k8sClient fun _ ↦ ())
  let pods ← Program.query (.listPods label) (.listPodsWithLabel label ns) fun _ ↦
    surroundings.pods label
  Program.ofExcept (pods.mapM fun name ↦
    match name with
    | none => .error .podNameNotPresent
    | some name => .ok name)

/-- The names of the Pods of the control plane and of the data plane that an upgrade restarts. -/
def dummyApply : UpgradeCommand (List String × List String) := do
  let agentCore ← listPods surroundings ns AGENT_CORE_POD_LABEL
  let apiRest ← listPods surroundings ns API_REST_POD_LABEL
  let ioEngine ← listPods surroundings ns IO_ENGINE_POD_LABEL
  pure (agentCore ++ apiRest, ioEngine)

def execute (args : UpgradeCommandArgs) : UpgradeCommand Unit :=
  if args.dryRun then do
    let _ ← dummyApply surroundings ns
    pure ()
  else apply surroundings versionTag ns args.resources

/-- The command behind its checks.  The checks only read, so what they find is not tied to the
objects that the rest of the command works on. -/
def upgradeCommand (args : UpgradeCommandArgs) (checks : Machine Site Site CheckCall) :
    UpgradeCommand Unit := fun m ↦
  match (preflightCheck versionTag ns args.preflight checks).1 with
  | .ok _ => execute surroundings versionTag ns args m
  | .error stop => (.error (stop.map .check), m)

end Command

/-! ## The five objects together -/

/-- The objects of one upgrade. -/
inductive Piece where
  | object (kind : Kind)
  | configMap
  | job
  deriving DecidableEq

/-- Which of the objects of a release exist. -/
def Kube.has (versionTag : Option String) (releaseName : String) (kube : Kube) : Piece → Bool
  | .object kind =>
    kube.objects kind (upgradeNameConcat versionTag releaseName kind.nameSuffix)
  | .configMap =>
    (kube.configMaps
      (upgradeNameConcat versionTag releaseName UPGRADE_CONFIG_MAP_NAME_SUFFIX)).isSome
  | .job => (kube.jobs (upgradeNameConcat versionTag releaseName UPGRADE_JOB_NAME_SUFFIX)).isSome

/-- The Deployments, and which of the objects exist. -/
def Holds (versionTag : Option String) (releaseName : String) (deployments : List Deployment)
    (pieces : Piece → Bool) (kube : Kube) : Prop :=
  kube.deployments = deployments ∧ kube.has versionTag releaseName = pieces

/-- The environment of the plugin: any change of the status of a Job. -/
def anyStatus : Tick Move → Prop := fun _ ↦ True

section Pieces

variable {versionTag : Option String} {releaseName ns : String} {deployments : List Deployment}
  {pieces : Piece → Bool}

theorem after_holds {moves : List Move} {kube : Kube}
    (h : Holds versionTag releaseName deployments pieces kube) :
    Holds versionTag releaseName deployments pieces (after moves kube) := by
  refine after_invariant _ (fun step _ current hcurrent ↦ ?_) h
  cases step with
  | setStatus name status =>
    refine ⟨hcurrent.1, ?_⟩
    rw [← hcurrent.2]
    funext piece
    cases piece with
    | object kind => rfl
    | configMap => rfl
    | job =>
      by_cases hname : upgradeNameConcat versionTag releaseName UPGRADE_JOB_NAME_SUFFIX = name
      · simp [Kube.has, Interferes.move, hname]
      · simp [Kube.has, Interferes.move, hname]

/-- A query finds the objects as they are. -/
theorem query_holds {o ε α : Type} {call : o} {error : ε} {reply : Kube → α} :
    Triple anyStatus (fun kube _ ↦ Holds versionTag releaseName deployments pieces kube)
      (Program.query call error reply : Program Kube Move o ε α)
      (fun value kube _ ↦ value = reply kube ∧
        Holds versionTag releaseName deployments pieces kube)
      fun _ _ ↦ True :=
  Triple.query (fun _ _ _ ↦ trivial) (fun _ _ _ _ h ↦ ⟨rfl, after_holds h⟩)
    fun _ _ _ _ _ _ ↦ trivial

/-- A request whose effect is to create or delete one of the objects. -/
theorem request_holds {call : Call} {error : Error} {effect : Kube → Kube} (piece : Piece)
    (present : Bool) (heffect : ∀ kube, (effect kube).deployments = kube.deployments ∧
      (effect kube).has versionTag releaseName =
        Function.update (kube.has versionTag releaseName) piece present) :
    Triple anyStatus (fun kube _ ↦ Holds versionTag releaseName deployments pieces kube)
      (Program.request call error effect fun _ ↦ () : Command Unit)
      (fun _ kube _ ↦ Holds versionTag releaseName deployments
        (Function.update pieces piece present) kube)
      fun _ _ ↦ True := by
  refine Triple.request (fun _ _ _ ↦ trivial) ?_ (fun _ _ _ _ _ ↦ trivial)
    fun _ _ _ _ _ ↦ trivial
  intro kube trace moves _ h
  have hafter : Holds versionTag releaseName deployments pieces (after moves kube) := after_holds h
  obtain ⟨hdeployments, hhas⟩ := hafter
  obtain ⟨hsame, hpieces⟩ := heffect (after moves kube)
  exact ⟨hsame.trans hdeployments, by rw [hpieces, hhas]⟩

theorem setObject_has (kind : Kind) (present : Bool) (kube : Kube) :
    (kube.setObject kind (upgradeNameConcat versionTag releaseName kind.nameSuffix)
        present).has versionTag releaseName =
      Function.update (kube.has versionTag releaseName) (.object kind) present := by
  funext piece
  cases piece with
  | object other =>
    by_cases hkind : other = kind
    · subst hkind
      simp [Kube.has, Kube.setObject]
    · simp [Kube.has, Kube.setObject, hkind]
  | configMap => simp [Kube.has, Kube.setObject]
  | job => simp [Kube.has, Kube.setObject]

theorem setConfigMap_has (data : Option (List (String × String))) (kube : Kube) :
    (kube.setConfigMap (upgradeNameConcat versionTag releaseName UPGRADE_CONFIG_MAP_NAME_SUFFIX)
        data).has versionTag releaseName =
      Function.update (kube.has versionTag releaseName) .configMap data.isSome := by
  funext piece
  cases piece <;> simp [Kube.has, Kube.setConfigMap]

theorem setJob_has (job : Option Job) (kube : Kube) :
    (kube.setJob (upgradeNameConcat versionTag releaseName UPGRADE_JOB_NAME_SUFFIX)
        job).has versionTag releaseName =
      Function.update (kube.has versionTag releaseName) .job job.isSome := by
  funext piece
  cases piece <;> simp [Kube.has, Kube.setJob]

/-- Whether an object is there after an action on it. -/
def Actions.present : Actions → Bool
  | .create => true
  | .delete => false

/-- An action that finds nothing to do. -/
theorem holds_of_found {piece : Piece} {present : Bool} {kube : Kube}
    (h : Holds versionTag releaseName deployments pieces kube)
    (hfound : kube.has versionTag releaseName piece = present) :
    Holds versionTag releaseName deployments (Function.update pieces piece present) kube := by
  refine ⟨h.1, ?_⟩
  rw [← hfound, h.2, Function.update_eq_self]

theorem objectActions_holds (kind : Kind) (action : Actions) :
    Triple anyStatus (fun kube _ ↦ Holds versionTag releaseName deployments pieces kube)
      (objectActions versionTag kind releaseName action)
      (fun _ kube _ ↦ Holds versionTag releaseName deployments
        (Function.update pieces (.object kind) action.present) kube)
      fun _ _ ↦ True := by
  refine Triple.bind _ query_holds fun found ↦ ?_
  cases found with
  | true =>
    cases action with
    | create => exact Triple.pure fun _ _ h ↦ holds_of_found h.2 h.1.symm
    | delete =>
      exact Triple.weaken
        (request_holds (.object kind) false fun kube ↦ ⟨rfl, setObject_has kind false kube⟩)
        (fun _ _ h ↦ h.2) (fun _ _ _ h ↦ h) fun _ _ h ↦ h
  | false =>
    cases action with
    | create =>
      exact Triple.weaken
        (request_holds (.object kind) true fun kube ↦ ⟨rfl, setObject_has kind true kube⟩)
        (fun _ _ h ↦ h.2) (fun _ _ _ h ↦ h) fun _ _ h ↦ h
    | delete => exact Triple.pure fun _ _ h ↦ holds_of_found h.2 h.1.symm

theorem deleteConfigMap_holds :
    Triple anyStatus (fun kube _ ↦ Holds versionTag releaseName deployments pieces kube)
      (deleteConfigMap (upgradeNameConcat versionTag releaseName UPGRADE_CONFIG_MAP_NAME_SUFFIX))
      (fun _ kube _ ↦ Holds versionTag releaseName deployments
        (Function.update pieces .configMap false) kube)
      fun _ _ ↦ True :=
  request_holds .configMap false fun kube ↦ ⟨rfl, setConfigMap_has none kube⟩

theorem createConfigMap_holds (data : List (String × String)) :
    Triple anyStatus (fun kube _ ↦ Holds versionTag releaseName deployments pieces kube)
      (createConfigMap (upgradeNameConcat versionTag releaseName UPGRADE_CONFIG_MAP_NAME_SUFFIX)
        data)
      (fun _ kube _ ↦ Holds versionTag releaseName deployments
        (Function.update pieces .configMap true) kube)
      fun _ _ ↦ True :=
  request_holds .configMap true fun kube ↦ ⟨rfl, setConfigMap_has (some data) kube⟩

theorem configMapActions_holds (action : Actions) (args : UpgradeArgs) :
    Triple anyStatus (fun kube _ ↦ Holds versionTag releaseName deployments pieces kube)
      (configMapActions versionTag releaseName action args)
      (fun _ kube _ ↦ Holds versionTag releaseName deployments
        (Function.update pieces .configMap action.present) kube)
      fun _ _ ↦ True := by
  refine Triple.bind _ (Triple.ofExcept (fun _ _ _ _ h ↦ h) fun _ _ _ ↦ trivial) fun data ↦ ?_
  refine Triple.bind _ query_holds fun found ↦ ?_
  cases found with
  | true =>
    cases action with
    | create =>
      refine Triple.bind _ (deleteConfigMap_holds.weaken (fun _ _ h ↦ h.2) (fun _ _ _ h ↦ h)
        fun _ _ h ↦ h) fun _ ↦ ?_
      refine Triple.bind _ (createConfigMap_holds data.1) fun _ ↦ Triple.pure fun _ _ h ↦ ?_
      rwa [Function.update_idem] at h
    | delete =>
      refine Triple.bind _ (deleteConfigMap_holds.weaken (fun _ _ h ↦ h.2) (fun _ _ _ h ↦ h)
        fun _ _ h ↦ h) fun _ ↦ ?_
      exact Triple.pure fun _ _ h ↦ h
  | false =>
    cases action with
    | create =>
      refine Triple.bind _ ((createConfigMap_holds data.1).weaken (fun _ _ h ↦ h.2)
        (fun _ _ _ h ↦ h) fun _ _ h ↦ h) fun _ ↦ ?_
      exact Triple.pure fun _ _ h ↦ h
    | delete => exact Triple.pure fun _ _ h ↦ holds_of_found h.2 h.1.symm

/-- Reading the api-rest Deployment. -/
theorem getDeploymentForRest_holds :
    Triple anyStatus (fun kube _ ↦ Holds versionTag releaseName deployments pieces kube)
      (getDeploymentForRest ns)
      (fun deployment kube _ ↦ deployments.head? = some deployment ∧
        Holds versionTag releaseName deployments pieces kube)
      fun _ _ ↦ True := by
  refine Triple.bind _ query_holds fun _ ↦ ?_
  refine Triple.bind _ (query_holds.weaken (fun _ _ h ↦ h.2) (fun _ _ _ h ↦ h) fun _ _ h ↦ h)
    fun found ↦ ?_
  cases found with
  | nil => exact Triple.fail fun _ _ _ ↦ trivial
  | cons deployment rest =>
    refine Triple.pure ?_
    rintro kube _ ⟨hfound, hholds⟩
    exact ⟨by rw [← hholds.1, ← hfound]; rfl, hholds⟩

theorem jobActions_holds (action : Actions) (args : UpgradeArgs)
    (setFileMap : Option (List (String × String))) :
    Triple anyStatus (fun kube _ ↦ Holds versionTag releaseName deployments pieces kube)
      (jobActions versionTag ns releaseName action args setFileMap)
      (fun _ kube _ ↦ Holds versionTag releaseName deployments
        (Function.update pieces .job action.present) kube)
      fun _ _ ↦ True := by
  refine Triple.bind _ query_holds fun found ↦ ?_
  cases found with
  | true =>
    cases action with
    | create => exact Triple.pure fun _ _ h ↦ holds_of_found h.2 h.1.symm
    | delete =>
      exact Triple.weaken (request_holds .job false fun kube ↦ ⟨rfl, setJob_has none kube⟩)
        (fun _ _ h ↦ h.2) (fun _ _ _ h ↦ h) fun _ _ h ↦ h
  | false =>
    cases action with
    | create =>
      refine Triple.bind _ (getDeploymentForRest_holds.weaken (fun _ _ h ↦ h.2)
        (fun _ _ _ h ↦ h.2) fun _ _ h ↦ h) fun deployment ↦ ?_
      refine Triple.bind _ (Triple.ofExcept (fun _ _ _ _ h ↦ h) fun _ _ _ ↦ trivial) fun img ↦ ?_
      refine Triple.bind _ (Triple.ofExcept (fun _ _ _ _ h ↦ h) fun _ _ _ ↦ trivial)
        fun setFile ↦ ?_
      exact request_holds .job true fun kube ↦ ⟨rfl, setJob_has (some _) kube⟩
    | delete => exact Triple.pure fun _ _ h ↦ holds_of_found h.2 h.1.symm

/-- The clients, and the name of the release. -/
theorem newUpgradeResources_holds {deployment : Deployment}
    (hdeployment : deployments.head? = some deployment) :
    Triple anyStatus (fun kube _ ↦ Holds versionTag releaseName deployments pieces kube)
      (newUpgradeResources ns)
      (fun found kube _ ↦ found = deployment.releaseName ∧
        Holds versionTag releaseName deployments pieces kube)
      fun _ _ ↦ True := by
  refine Triple.bind _ query_holds fun _ ↦ ?_
  refine Triple.bind _ (getDeploymentForRest_holds.weaken (fun _ _ h ↦ h.2) (fun _ _ _ h ↦ h)
    fun _ _ h ↦ h) fun found ↦ Triple.pure ?_
  rintro _ _ ⟨hfound, hholds⟩
  rw [hdeployment] at hfound
  obtain rfl := Option.some.inj hfound
  exact ⟨rfl, hholds⟩

/-- A creation that returns has created whatever was missing. -/
theorem createUpgradeResources_holds {deployment : Deployment} (args : UpgradeArgs)
    (hdeployment : deployments.head? = some deployment) :
    Triple anyStatus
      (fun kube _ ↦ Holds versionTag deployment.releaseName deployments pieces kube)
      (createUpgradeResources versionTag ns args)
      (fun _ kube _ ↦ Holds versionTag deployment.releaseName deployments (fun _ ↦ true) kube)
      fun _ _ ↦ True := by
  refine Triple.bind _ (newUpgradeResources_holds hdeployment) fun found ↦ Triple.assume ?_
  rintro rfl
  refine Triple.bind _ (objectActions_holds .serviceAccount .create) fun _ ↦ ?_
  refine Triple.bind _ (objectActions_holds .clusterRole .create) fun _ ↦ ?_
  refine Triple.bind _ (objectActions_holds .clusterRoleBinding .create) fun _ ↦ ?_
  refine Triple.bind _ (configMapActions_holds .create args) fun setFileMap ↦ ?_
  refine (jobActions_holds .create args (some setFileMap)).weaken (fun _ _ h ↦ h) ?_
    fun _ _ h ↦ h
  rintro _ kube _ ⟨hsame, hhas⟩
  refine ⟨hsame, hhas.trans ?_⟩
  funext piece
  rcases piece with ⟨_ | _ | _⟩ | _ | _ <;> simp [Function.update, Actions.present]

/-- A deletion that returns has deleted whatever was there. -/
theorem deleteUpgradeResources_holds {deployment : Deployment}
    (hdeployment : deployments.head? = some deployment) :
    Triple anyStatus
      (fun kube _ ↦ Holds versionTag deployment.releaseName deployments pieces kube)
      (deleteUpgradeResources versionTag ns)
      (fun _ kube _ ↦ Holds versionTag deployment.releaseName deployments (fun _ ↦ false) kube)
      fun _ _ ↦ True := by
  refine Triple.bind _ (newUpgradeResources_holds hdeployment) fun found ↦ Triple.assume ?_
  rintro rfl
  refine Triple.bind _ (jobActions_holds .delete UpgradeArgs.new none) fun _ ↦ ?_
  refine Triple.bind _ (configMapActions_holds .delete UpgradeArgs.new) fun _ ↦ ?_
  refine Triple.bind _ (objectActions_holds .clusterRoleBinding .delete) fun _ ↦ ?_
  refine Triple.bind _ (objectActions_holds .clusterRole .delete) fun _ ↦ ?_
  refine (objectActions_holds .serviceAccount .delete).weaken (fun _ _ h ↦ h) ?_ fun _ _ h ↦ h
  rintro _ kube _ ⟨hsame, hhas⟩
  refine ⟨hsame, hhas.trans ?_⟩
  funext piece
  rcases piece with ⟨_ | _ | _⟩ | _ | _ <;> simp [Function.update, Actions.present]

end Pieces

/-! ## The outcome of the command -/

/-- The event says that the upgrade-job found the upgrade invalid, in words that can be read. -/
def Rejects (surroundings : Surroundings) (event : CoreEvent) : Prop :=
  event.action = some "Validation Failed" ∧
    ∃ data note, event.message = some data ∧ surroundings.fromStr data = some note

/-- What the command leaves behind when it returns: all five objects, or none of them after a poll
whose latest event rejects the upgrade. -/
def Settled (surroundings : Surroundings) (versionTag : Option String) (polls : List ℕ)
    (releaseName : String) (deployments : List Deployment) (kube : Kube) : Prop :=
  Holds versionTag releaseName deployments (fun _ ↦ true) kube ∨
    (∃ poll ∈ polls, ∃ event, latestUpgradeEvent (surroundings.listing poll) = some event ∧
      Rejects surroundings event) ∧
        Holds versionTag releaseName deployments (fun _ ↦ false) kube

section Outcome

variable {surroundings : Surroundings} {versionTag : Option String} {ns : String}
  {deployments : List Deployment} {deployment : Deployment} {releaseName : String}
  {pieces : Piece → Bool}

/-- What a computation on the objects does, as part of the command. -/
theorem onResources_holds {α : Type} {command : Command α} {before : Kube → Prop}
    {returned : α → Kube → Prop}
    (h : Triple anyStatus (fun kube _ ↦ before kube) command
      (fun value kube _ ↦ returned value kube) fun _ _ ↦ True) :
    Triple anyStatus (fun kube _ ↦ before kube) (onResources command)
      (fun value kube _ ↦ returned value kube) fun _ _ ↦ True := by
  have hstart : Triple anyStatus (fun kube trace ↦ before kube ∧ trace = []) command
      (fun value kube _ ↦ returned value kube) fun _ _ ↦ True :=
    h.weaken (fun _ _ hbefore ↦ hbefore.1) (fun _ _ _ hreturned ↦ hreturned)
      fun _ _ hstopped ↦ hstopped
  refine (hstart.embed CommandCall.resource CommandError.resource fun _ ↦ True).weaken
    (fun _ _ hbefore ↦ ⟨hbefore, trivial⟩) ?_ fun _ _ _ ↦ trivial
  rintro value kube _ ⟨-, -, -, -, hreturned⟩
  exact hreturned

theorem handleUpgradeEvent_holds (event : CoreEvent)
    (hdeployment : deployments.head? = some deployment) :
    Triple anyStatus
      (fun kube _ ↦ Holds versionTag deployment.releaseName deployments (fun _ ↦ true) kube)
      (handleUpgradeEvent surroundings versionTag ns event)
      (fun _ kube _ ↦
        Holds versionTag deployment.releaseName deployments (fun _ ↦ true) kube ∨
          Rejects surroundings event ∧
            Holds versionTag deployment.releaseName deployments (fun _ ↦ false) kube)
      fun _ _ ↦ True := by
  unfold handleUpgradeEvent
  cases haction : event.action with
  | none => exact Triple.pure fun _ _ h ↦ .inl h
  | some action =>
    dsimp only
    split
    next hfailed =>
      cases hmessage : event.message with
      | none => exact Triple.fail fun _ _ _ ↦ trivial
      | some data =>
        cases hnote : surroundings.fromStr data with
        | none => simpa only [hnote] using Triple.fail fun _ _ _ ↦ trivial
        | some note =>
          simp only [hnote]
          refine (onResources_holds (deleteUpgradeResources_holds hdeployment)).weaken
            (fun _ _ h ↦ h) (fun _ _ _ h ↦ .inr ⟨⟨?_, data, note, hmessage, hnote⟩, h⟩)
            fun _ _ h ↦ h
          rw [haction, hfailed]
    next => exact Triple.pure fun _ _ h ↦ .inl h

/-- A poll that finds an event finds the latest of its listing. -/
theorem getLatestUpgradeEvent_holds (poll : ℕ) :
    Triple anyStatus (fun kube _ ↦ Holds versionTag releaseName deployments pieces kube)
      (getLatestUpgradeEvent surroundings versionTag releaseName poll)
      (fun event kube _ ↦ latestUpgradeEvent (surroundings.listing poll) = some event ∧
        Holds versionTag releaseName deployments pieces kube)
      (fun kube _ ↦ Holds versionTag releaseName deployments pieces kube) := by
  refine Triple.bind (fun events kube _ ↦ events = surroundings.listing poll ∧
      Holds versionTag releaseName deployments pieces kube)
    (Triple.query (fun _ _ h ↦ h) ?_ ?_) fun events ↦ Triple.assume ?_
  · exact fun _ _ _ _ h ↦ ⟨rfl, after_holds h⟩
  · exact fun _ _ _ _ _ h ↦ after_holds h
  · rintro rfl
    cases hlatest : latestUpgradeEvent (surroundings.listing poll) with
    | none => exact Triple.fail fun _ _ h ↦ h
    | some event => exact Triple.pure fun _ _ h ↦ ⟨rfl, h⟩

/-- The polls, one after the other. -/
theorem pollEvents_settled (hdeployment : deployments.head? = some deployment) (polls : List ℕ) :
    Triple anyStatus
      (fun kube _ ↦ Holds versionTag deployment.releaseName deployments (fun _ ↦ true) kube)
      (pollEvents surroundings versionTag ns deployment.releaseName polls)
      (fun _ kube _ ↦
        Settled surroundings versionTag polls deployment.releaseName deployments kube)
      fun _ _ ↦ True := by
  induction polls with
  | nil => exact Triple.pure fun _ _ h ↦ .inl h
  | cons poll rest ih =>
    refine Triple.bind (fun result kube _ ↦
      (∀ event, result = .ok event →
        latestUpgradeEvent (surroundings.listing poll) = some event) ∧
          Holds versionTag deployment.releaseName deployments (fun _ ↦ true) kube)
      (Triple.attempt ((getLatestUpgradeEvent_holds poll).weaken (fun _ _ h ↦ h) ?_ ?_))
      fun result ↦ Triple.assume fun hlatest ↦ ?_
    · rintro event kube _ ⟨hevent, hholds⟩
      refine ⟨fun other hother ↦ ?_, hholds⟩
      rw [hevent, Except.ok.inj hother]
    · intro kube _ hholds
      exact ⟨fun _ ↦ ⟨fun event hevent ↦ (by cases hevent), hholds⟩, trivial⟩
    · cases result with
      | ok event =>
        refine (handleUpgradeEvent_holds event hdeployment).weaken (fun _ _ h ↦ h) ?_
          fun _ _ h ↦ h
        rintro _ kube _ (hpresent | ⟨hrejects, habsent⟩)
        · exact .inl hpresent
        · exact .inr ⟨⟨poll, List.mem_cons_self, event, hlatest event rfl, hrejects⟩, habsent⟩
      | error error =>
        refine ih.weaken (fun _ _ h ↦ h) ?_ fun _ _ h ↦ h
        rintro _ kube _ (hpresent | ⟨⟨later, hlater, hrejects⟩, habsent⟩)
        · exact .inl hpresent
        · exact .inr ⟨⟨later, List.mem_cons_of_mem _ hlater, hrejects⟩, habsent⟩

theorem apply_settled (args : UpgradeArgs) (hdeployment : deployments.head? = some deployment) :
    Triple anyStatus
      (fun kube _ ↦ Holds versionTag deployment.releaseName deployments pieces kube)
      (apply surroundings versionTag ns args)
      (fun _ kube _ ↦ Settled surroundings versionTag (List.range MAX_RETRY_ATTEMPTS)
        deployment.releaseName deployments kube)
      fun _ _ ↦ True := by
  have hclient : Triple anyStatus
      (fun kube _ ↦ Holds versionTag deployment.releaseName deployments pieces kube)
      (onResources (Program.query .tryDefault .k8sClientGeneration fun _ ↦ ()))
      (fun _ kube _ ↦ Holds versionTag deployment.releaseName deployments pieces kube)
      fun _ _ ↦ True :=
    onResources_holds (query_holds.weaken (fun _ _ h ↦ h) (fun _ _ _ h ↦ h.2) fun _ _ h ↦ h)
  have hname : Triple anyStatus
      (fun kube _ ↦ Holds versionTag deployment.releaseName deployments pieces kube)
      (onResources (getReleaseName ns))
      (fun found kube _ ↦ found = deployment.releaseName ∧
        Holds versionTag deployment.releaseName deployments pieces kube)
      fun _ _ ↦ True := by
    apply onResources_holds
    refine Triple.bind _ getDeploymentForRest_holds fun found ↦ Triple.pure ?_
    rintro _ _ ⟨hfound, hholds⟩
    rw [hdeployment] at hfound
    obtain rfl := Option.some.inj hfound
    exact ⟨rfl, hholds⟩
  refine Triple.bind _ hclient fun _ ↦ ?_
  refine Triple.bind _ hname fun found ↦ Triple.assume ?_
  rintro rfl
  refine Triple.bind _ query_holds fun _ ↦ ?_
  refine Triple.bind _ ((onResources_holds (createUpgradeResources_holds args hdeployment)).weaken
    (fun _ _ h ↦ h.2) (fun _ _ _ h ↦ h) fun _ _ h ↦ h) fun _ ↦ ?_
  exact pollEvents_settled hdeployment _

/-- Without an api-rest Deployment the command does not return. -/
theorem apply_needs_deployment (args : UpgradeArgs) (releaseName : String) :
    Triple anyStatus (fun kube _ ↦ Holds versionTag releaseName [] pieces kube)
      (apply surroundings versionTag ns args) (fun _ _ _ ↦ False) fun _ _ ↦ True := by
  refine Triple.bind _ (onResources_holds query_holds) fun _ ↦ ?_
  have hname : Triple anyStatus (fun kube _ ↦ Holds versionTag releaseName [] pieces kube)
      (getReleaseName ns) (fun _ _ _ ↦ False) fun _ _ ↦ True := by
    refine Triple.bind _ getDeploymentForRest_holds fun found ↦ Triple.pure ?_
    rintro _ _ ⟨hfound, -⟩
    cases hfound
  refine Triple.bind _ ((onResources_holds hname).weaken (fun _ _ h ↦ h.2) (fun _ _ _ h ↦ h)
    fun _ _ h ↦ h) fun _ ↦ ?_
  exact fun _ _ hfalse ↦ hfalse.elim

end Outcome

/-- When the upgrade command returns without an error, and not from a dry run, the checks have been
passed, and the cluster is in one of two states, whatever the Job controller did meanwhile and
whichever polls failed: all five upgrade objects exist, or none of them does and the latest event of
one of the polls was the upgrade-job's rejection of the upgrade. -/
theorem upgradeCommand_settled {surroundings : Surroundings} {versionTag : Option String}
    {ns : String} {args : UpgradeCommandArgs} {checks : Machine Site Site CheckCall}
    {m m' : Machine Kube Move CommandCall} (hdryRun : args.dryRun = false)
    (h : upgradeCommand surroundings versionTag ns args checks m = (.ok (), m')) :
    (preflightCheck versionTag ns args.preflight checks).1 = .ok () ∧
      ∃ deployment, m.state.deployments.head? = some deployment ∧
        Settled surroundings versionTag (List.range MAX_RETRY_ATTEMPTS) deployment.releaseName
          m.state.deployments m'.state := by
  unfold upgradeCommand at h
  split at h
  next value hchecks =>
    refine ⟨hchecks, ?_⟩
    rw [execute, hdryRun, if_neg Bool.false_ne_true] at h
    cases hdeployment : m.state.deployments with
    | nil =>
      have hfalse := (apply_needs_deployment args.resources "").apply_ok h (fun _ _ ↦ trivial)
        ⟨hdeployment, rfl⟩
      exact hfalse.elim
    | cons deployment rest =>
      refine ⟨deployment, rfl, ?_⟩
      exact (apply_settled args.resources rfl).apply_ok h (fun _ _ ↦ trivial) ⟨hdeployment, rfl⟩
  next => cases h

/-- An installation of version 2.6.1 without volumes. -/
def quietSite : Site where
  deployments := [⟨some [(helmReleaseVersionKey, "2.6.1")], none⟩]
  nodes := []
  volumes := []
  paging := .full Volume
  claims := []

/-- The second poll finds the word of the upgrade-job that the values are not valid. -/
def rejectedListing (poll : ℕ) : List CoreEvent :=
  if poll = 0 then []
  else [⟨some "MayastorUpgrade", some "Validation Failed",
    some "\x7b\"fromVersion\":\"2.6.1\",\"toVersion\":\"2.7.0\",\"message\":\"\"\x7d", some 1⟩]

def rejectedSurroundings : Surroundings where
  fromStr := fun data ↦
    if data = "\x7b\"fromVersion\":\"2.6.1\",\"toVersion\":\"2.7.0\",\"message\":\"\"\x7d" then
      some ⟨"2.6.1", "2.7.0", ""⟩
    else none
  listing := rejectedListing
  pods := fun _ ↦ []

/-- All checks, and no dry run. -/
def checkedArgs : UpgradeCommandArgs where
  resources := UpgradeArgs.new
  dryRun := false
  allowUnstable := false
  skipReplicaRebuild := false
  skipCordonedNodeValidation := false
  skipSingleReplicaVolumeValidation := false

theorem upgradeCommand_settled_rejected :
    ∃ m, upgradeCommand rejectedSurroundings (some "v2.7.0") "mayastor" checkedArgs
        ⟨quietSite, undisturbed 10, []⟩ ⟨installed, undisturbed 40, []⟩ = (.ok (), m) ∧
      ∃ deployment, installed.deployments.head? = some deployment ∧
        Settled rejectedSurroundings (some "v2.7.0") (List.range MAX_RETRY_ATTEMPTS)
          deployment.releaseName installed.deployments m.state := by
  have hok : (upgradeCommand rejectedSurroundings (some "v2.7.0") "mayastor" checkedArgs
      ⟨quietSite, undisturbed 10, []⟩ ⟨installed, undisturbed 40, []⟩).1 = .ok () := by
    decide +kernel
  cases hrun : upgradeCommand rejectedSurroundings (some "v2.7.0") "mayastor" checkedArgs
      ⟨quietSite, undisturbed 10, []⟩ ⟨installed, undisturbed 40, []⟩ with
  | mk result m =>
    rw [hrun] at hok
    obtain rfl : result = _ := hok
    obtain ⟨-, hsettled⟩ := upgradeCommand_settled rfl hrun
    exact ⟨m, rfl, hsettled⟩

end MayastorExtensions.Plugin
