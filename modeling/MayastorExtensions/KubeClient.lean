import MayastorExtensions.Library.Paging
import MayastorExtensions.Library.Yaml

/-!
# List requests to Kubernetes

The upgrade job and the support tool list Kubernetes objects page by page, in seven loops that are
written out each time: `common/kube_client.rs` and the CRD lookup of `helm/values.rs` in the upgrade
job, `k8s_resources/client.rs` in the support tool.  Five of them stop when a page has no continue
token, two also when the token is empty.

The API server is a parameter, a function of the list parameters.  What a loop does with the items
does not depend on the kind of object, so the types of the objects are parameters as well.
-/

namespace MayastorExtensions.KubeClient

open Paging

/-! ## Requests -/

/-- The parameters of a list request. -/
structure ListParams where
  labelSelector : Option String := none
  fieldSelector : Option String := none
  limit : Option ℕ := none
  continueToken : Option String := none
  deriving DecidableEq, Repr

/-- An error of the Kubernetes client; a refusal of the API server carries its code. -/
inductive KubeError where
  | api (code : ℕ)
  | other
  deriving DecidableEq, Repr

/-- Answers to list requests. -/
abbrev Api (ε α : Type) := ListParams → Except ε (ObjectList α)

/-- The requests of a loop differ in their token only. -/
def Api.list {ε α : Type} (api : Api ε α) (params : ListParams) (token : Option String) :
    Except ε (ObjectList α) :=
  api { params with continueToken := token }

/-! ## The upgrade job -/

/-- A request of the upgrade job, which builds a client for it first. -/
inductive RequestError where
  | client (source : KubeError)
  | list (source : KubeError)
  deriving DecidableEq, Repr

inductive Error where
  | k8sClientGeneration (source : KubeError)
  | listPodsWithLabelAndField (source : KubeError) (label field namespace_ : String)
  | listNodesWithLabelAndField (source : KubeError) (label field : String)
  | listCtrlRevsWithLabelAndField (source : KubeError) (label field namespace_ : String)
  | listCrds (source : KubeError)
  deriving DecidableEq, Repr

def KUBE_API_PAGE_SIZE : ℕ := 500

/-- Limit and selectors of the upgrade job's requests. -/
def selecting (labelSelector fieldSelector : Option String) : ListParams :=
  { labelSelector, fieldSelector, limit := some KUBE_API_PAGE_SIZE }

/-- The loop of the upgrade job: it stops without a token, and a failed request ends it with the
error of the listing. -/
def untilNone {α β : Type} (select : α → Option β) (context : KubeError → Error) :
    Client α β RequestError Error where
  select := select
  stops := fun _ ↦ false
  fail
    | .client source => .error (.k8sClientGeneration source)
    | .list source => .error (context source)

section UpgradeJob

variable {Pod Node ControllerRevision : Type}

def listPods (podsApi : String → Api RequestError Pod) (namespace_ : String)
    (labelSelector fieldSelector : Option String) (fuel : ℕ) : Option (Except Error (List Pod)) :=
  (untilNone some fun source ↦ .listPodsWithLabelAndField source (labelSelector.getD "")
    (fieldSelector.getD "") namespace_).collect
      ((podsApi namespace_).list (selecting labelSelector fieldSelector)) fuel none []

def listNodesMetadata (nodesApi : Api RequestError Node)
    (labelSelector fieldSelector : Option String) (fuel : ℕ) : Option (Except Error (List Node)) :=
  (untilNone some fun source ↦ .listNodesWithLabelAndField source (labelSelector.getD "")
    (fieldSelector.getD "")).collect
      (nodesApi.list (selecting labelSelector fieldSelector)) fuel none []

def listControllerRevisions (controllerRevisionsApi : String → Api RequestError ControllerRevision)
    (namespace_ : String) (labelSelector fieldSelector : Option String) (fuel : ℕ) :
    Option (Except Error (List ControllerRevision)) :=
  (untilNone some fun source ↦ .listCtrlRevsWithLabelAndField source (labelSelector.getD "")
    (fieldSelector.getD "") namespace_).collect
      ((controllerRevisionsApi namespace_).list (selecting labelSelector fieldSelector)) fuel none
      []

/-- The metadata of a CRD; the API server gives every object a name. -/
structure PartialObjectMeta where
  name : String
  deriving DecidableEq, Repr

/-- The loop of `safe_crd_install`, which keeps the names of all CRDs; its client is built once. -/
def allCrdNames (crdsApi : Except KubeError (Api KubeError PartialObjectMeta)) (fuel : ℕ) :
    Option (Except Error (List String)) :=
  match crdsApi with
  | .error source => some (.error (.k8sClientGeneration source))
  | .ok api =>
    Client.collect ⟨fun crd ↦ some crd.name, fun _ ↦ false, fun source ↦ .error (.listCrds source)⟩
      (api.list (selecting none none)) fuel none []

end UpgradeJob

/-! ## The support tool -/

inductive K8sResourceError where
  | clientError (source : KubeError)
  | customError (message : String)
  deriving DecidableEq, Repr

/-- An object of a type that is only known at run time. -/
structure DynamicObject where
  data : Yaml.Tree

def SPEC : String := "spec"

def DRIVER : String := "driver"

def asStr : Yaml.Tree → Option String
  | .scalar .str text => some text
  | _ => none

/-- The filter of `list_volumesnapshotcontents`. -/
def hasDriver (driverSelector : Option String) (item : DynamicObject) : Bool :=
  match driverSelector with
  | none => true
  | some driverSelector =>
    match Yaml.Tree.child (some item.data) (.key SPEC) with
    | none => false
    | some value =>
      match Yaml.Tree.child (some value) (.key DRIVER) with
      | none => false
      | some value =>
        match asStr value with
        | none => false
        | some driver => driver = driverSelector

/-- Limit and selectors of the support tool's requests. -/
def selectingAll (labelSelector fieldSelector : String) (limit : ℕ) : ListParams :=
  { labelSelector := some labelSelector, fieldSelector := some fieldSelector, limit := some limit }

section Supportability

variable {Pod Event : Type}

def getPods (podsApi : Api KubeError Pod) (labelSelector fieldSelector : String) (fuel : ℕ) :
    Option (Except K8sResourceError (List Pod)) :=
  Client.collect ⟨some, fun _ ↦ false, fun source ↦ .error (.clientError source)⟩
    (podsApi.list (selectingAll labelSelector fieldSelector 100)) fuel none []

def getEvents (eventsApi : Api KubeError Event) (labelSelector fieldSelector : String) (fuel : ℕ) :
    Option (Except K8sResourceError (List Event)) :=
  Client.collect ⟨some, String.isEmpty, fun source ↦ .error (.clientError source)⟩
    (eventsApi.list (selectingAll labelSelector fieldSelector 100)) fuel none []

/-- Snapshot contents of a driver.  A 404 in the middle of the listing drops what was read. -/
def listVolumesnapshotcontents
    (vscApi : Except K8sResourceError (Api KubeError DynamicObject))
    (driverSelector labelSelector fieldSelector : Option String) (fuel : ℕ) :
    Option (Except K8sResourceError (List DynamicObject)) :=
  match vscApi with
  | .error error => some (.error error)
  | .ok api =>
    Client.collect
      ⟨Option.guard (hasDriver driverSelector), String.isEmpty, fun
        | .api code => if code = 404 then .ok [] else .error (.clientError (.api code))
        | .other => .error (.clientError .other)⟩
      (api.list (selectingAll (labelSelector.getD "") (fieldSelector.getD "") 2)) fuel none []

end Supportability

/-! ## What the loops return -/

section Loops

variable {Pod Node ControllerRevision Event : Type}

/-- Every loop returns all pages in order, each once, if the last page has no token.  If it has an
empty one, the five loops that only stop without a token do not; the other two always do. -/
theorem listings_read_iff :
    (∀ (podsApi : String → Api RequestError Pod) (namespace_ : String)
      (labels fields : Option String) (listing : Listing Pod RequestError),
      (podsApi namespace_).list (selecting labels fields) = listing.list →
      (Reads listing listing.items (listPods podsApi namespace_ labels fields) ↔
        listing.last.continue_ = none)) ∧
    (∀ (nodesApi : Api RequestError Node) (labels fields : Option String)
      (listing : Listing Node RequestError),
      nodesApi.list (selecting labels fields) = listing.list →
      (Reads listing listing.items (listNodesMetadata nodesApi labels fields) ↔
        listing.last.continue_ = none)) ∧
    (∀ (controllerRevisionsApi : String → Api RequestError ControllerRevision)
      (namespace_ : String) (labels fields : Option String)
      (listing : Listing ControllerRevision RequestError),
      (controllerRevisionsApi namespace_).list (selecting labels fields) = listing.list →
      (Reads listing listing.items
          (listControllerRevisions controllerRevisionsApi namespace_ labels fields) ↔
        listing.last.continue_ = none)) ∧
    (∀ (crdsApi : Api KubeError PartialObjectMeta) (listing : Listing PartialObjectMeta KubeError),
      crdsApi.list (selecting none none) = listing.list →
      (Reads listing (listing.items.map PartialObjectMeta.name) (allCrdNames (.ok crdsApi)) ↔
        listing.last.continue_ = none)) ∧
    (∀ (podsApi : Api KubeError Pod) (labels fields : String) (listing : Listing Pod KubeError),
      podsApi.list (selectingAll labels fields 100) = listing.list →
      (Reads listing listing.items (getPods podsApi labels fields) ↔
        listing.last.continue_ = none)) ∧
    (∀ (eventsApi : Api KubeError Event) (labels fields : String)
      (listing : Listing Event KubeError),
      eventsApi.list (selectingAll labels fields 100) = listing.list →
      Reads listing listing.items (getEvents eventsApi labels fields)) ∧
    ∀ (vscApi : Api KubeError DynamicObject) (driver labels fields : Option String)
      (listing : Listing DynamicObject KubeError),
      vscApi.list (selectingAll (labels.getD "") (fields.getD "") 2) = listing.list →
      Reads listing (listing.items.filter (hasDriver driver))
        (listVolumesnapshotcontents (.ok vscApi) driver labels fields) := by
  refine ⟨?_, ?_, ?_, ?_, ?_, ?_, ?_⟩
  · intro podsApi namespace_ labels fields listing hlist
    exact reads_iff_of_never_stops (fun _ ↦ rfl) hlist List.filterMap_some
  · intro nodesApi labels fields listing hlist
    exact reads_iff_of_never_stops (fun _ ↦ rfl) hlist List.filterMap_some
  · intro controllerRevisionsApi namespace_ labels fields listing hlist
    exact reads_iff_of_never_stops (fun _ ↦ rfl) hlist List.filterMap_some
  · intro crdsApi listing hlist
    exact reads_iff_of_never_stops (fun _ ↦ rfl) hlist (congrFun List.filterMap_eq_map' _)
  · intro podsApi labels fields listing hlist
    exact reads_iff_of_never_stops (fun _ ↦ rfl) hlist List.filterMap_some
  · intro eventsApi labels fields listing hlist
    exact reads_of_stops_empty (fun _ ↦ String.isEmpty_iff) hlist List.filterMap_some
  · intro vscApi driver labels fields listing hlist
    exact reads_of_stops_empty (fun _ ↦ String.isEmpty_iff) hlist
      (congrFun List.filterMap_eq_filter _)

end Loops

/-- A list of two pages, the second with or without an empty token. -/
def twoPages {α ε : Type} (first second : α) (continue_ : Option String)
    (hends : continue_ = none ∨ continue_ = some "") : Listing α ε where
  list token := .ok (if token = some "page-2" then ⟨[second], continue_⟩
    else ⟨[first], some "page-2"⟩)
  front := [([first], "page-2")]
  last := ⟨[second], continue_⟩
  follows := ⟨rfl, rfl⟩
  tokens := by simp
  ends := hends
  restarts := rfl

/-- A server that has one list for all requests. -/
def serving {α ε : Type} (listing : Listing α ε) : Api ε α := fun params ↦
  listing.list params.continueToken

/-- Pods on two pages, as the upgrade job lists them. -/
def podPages : Listing String RequestError := twoPages "etcd-0" "etcd-1" none (.inl rfl)

/-- The same pods, with an empty token on the second page. -/
def podPagesEmptyToken : Listing String RequestError :=
  twoPages "etcd-0" "etcd-1" (some "") (.inr rfl)

/-- Events on two pages with an empty token, as the support tool lists them. -/
def eventPagesEmptyToken : Listing String KubeError :=
  twoPages "Pulled" "Started" (some "") (.inr rfl)

theorem listings_read_twoPages :
    Reads podPages ["etcd-0", "etcd-1"]
      (listPods (fun _ ↦ serving podPages) "mayastor" none none) ∧
    Reads eventPagesEmptyToken ["Pulled", "Started"]
      (getEvents (serving eventPagesEmptyToken) "" "") :=
  ⟨((@listings_read_iff String String String String).1 (fun _ ↦ serving podPages) "mayastor" none
      none podPages rfl).mpr rfl,
    (@listings_read_iff String String String String).2.2.2.2.2.1 (serving eventPagesEmptyToken)
      "" "" eventPagesEmptyToken rfl⟩

/-- Two pages of pods, the second with an empty token: the loop of the upgrade job does not
return. -/
theorem not_reads_emptyToken :
    ¬ Reads podPagesEmptyToken podPagesEmptyToken.items
        (listPods (fun _ ↦ serving podPagesEmptyToken) "mayastor" none none) ∧
      ∀ fuel, listPods (fun _ ↦ serving podPagesEmptyToken) "mayastor" none none fuel = none := by
  have hhangs (fuel : ℕ) :
      listPods (fun _ ↦ serving podPagesEmptyToken) "mayastor" none none fuel = none :=
    collect_of_restarts (fun _ ↦ rfl) podPagesEmptyToken.follows rfl rfl
      podPagesEmptyToken.follows fuel []
  refine ⟨fun hreads ↦ ?_, hhangs⟩
  have hreturns := hreads 2 (by decide)
  rw [hhangs] at hreturns
  cases hreturns

end MayastorExtensions.KubeClient
