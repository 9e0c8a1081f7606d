import MayastorExtensions.Library.Rbac
import MayastorExtensions.Plugin.UpgradeCommand

/-!
# The account of the upgrade Job

The Pod of the upgrade Job talks to the API server as the ServiceAccount that `plugin/objects.rs`
makes for it, and may do what the ClusterRole behind the ClusterRoleBinding allows.  The plugin
creates the three objects before the Job and deletes them after it, so that there is no moment at
which the Job exists without its account or with other rights than those of the role.
-/

namespace MayastorExtensions.Plugin

open Rbac Scheduled

/-! ## The objects -/

def upgradeJobServiceAccount (ns serviceAccountName : String) : ServiceAccount :=
  ⟨serviceAccountName, ns⟩

/-- The verbs for the objects that helm manages. -/
def managed : List String := ["create", "list", "delete", "get", "patch"]

def upgradeJobClusterRole (clusterRoleName : String) : ClusterRole where
  name := clusterRoleName
  rules :=
    [⟨["apiextensions.k8s.io"], ["customresourcedefinitions"], managed⟩,
      ⟨["openebs.io"], ["upgradeactions"],
        ["get", "create", "list", "watch", "update", "replace", "patch"]⟩,
      ⟨["openebs.io"], ["upgradeactions/status"], ["update", "patch"]⟩,
      ⟨["apps"], ["daemonsets", "replicasets", "statefulsets", "deployments"],
        ["create", "delete", "get", "list", "patch"]⟩,
      ⟨[""], ["serviceaccounts"], ["create", "get", "list", "delete", "patch"]⟩,
      ⟨[""], ["pods"], ["create", "get", "list", "delete", "patch", "deletecollection"]⟩,
      ⟨[""], ["nodes"], ["get", "list"]⟩,
      ⟨[""], ["namespaces"], ["get"]⟩,
      ⟨["events.k8s.io"], ["events"], ["create"]⟩,
      ⟨[""], ["secrets", "persistentvolumes", "persistentvolumeclaims", "services", "configmaps"],
        ["get", "list", "watch", "create", "delete", "deletecollection", "patch", "update"]⟩,
      ⟨["rbac.authorization.k8s.io"], ["roles"], managed ++ ["escalate", "bind"]⟩,
      ⟨["monitoring.coreos.com"], ["prometheusrules", "podmonitors"], managed⟩,
      ⟨["networking.k8s.io"], ["networkpolicies"], managed⟩,
      ⟨["batch"], ["cronjobs"], managed⟩,
      ⟨["jaegertracing.io"], ["jaegers"], managed⟩,
      ⟨["rbac.authorization.k8s.io"], ["rolebindings"], managed⟩,
      ⟨["rbac.authorization.k8s.io"], ["clusterroles"], managed ++ ["escalate", "bind"]⟩,
      ⟨["rbac.authorization.k8s.io"], ["clusterrolebindings"], managed⟩,
      ⟨["storage.k8s.io"], ["storageclasses"], managed⟩,
      ⟨["scheduling.k8s.io"], ["priorityclasses"], managed⟩,
      ⟨["policy"], ["poddisruptionbudgets"], managed⟩]

section Objects

variable (versionTag : Option String)

def upgradeJobClusterRoleBinding (ns releaseName : String) : ClusterRoleBinding where
  name := upgradeNameConcat versionTag releaseName Kind.clusterRoleBinding.nameSuffix
  roleRef :=
    { apiGroup := "rbac.authorization.k8s.io"
      kind := "ClusterRole"
      name := upgradeNameConcat versionTag releaseName Kind.clusterRole.nameSuffix }
  subjects :=
    [{ kind := "ServiceAccount"
       name := upgradeNameConcat versionTag releaseName Kind.serviceAccount.nameSuffix
       namespace_ := some ns }]

/-- The role of a release. -/
def releaseRole (releaseName : String) : ClusterRole :=
  upgradeJobClusterRole (upgradeNameConcat versionTag releaseName Kind.clusterRole.nameSuffix)

/-- The account that the Pod of `objects::upgrade_job` runs under: the `serviceAccountName` of its
spec, in the namespace of the Job. -/
def jobAccount (ns releaseName : String) : ServiceAccount :=
  upgradeJobServiceAccount ns
    (upgradeNameConcat versionTag releaseName Kind.serviceAccount.nameSuffix)

/-- The role and the binding of a release, as far as they exist. -/
def Kube.grants (ns releaseName : String) (kube : Kube) : Grants where
  roles :=
    if kube.has versionTag releaseName (.object .clusterRole) then
      [releaseRole versionTag releaseName] else []
  bindings :=
    if kube.has versionTag releaseName (.object .clusterRoleBinding) then
      [upgradeJobClusterRoleBinding versionTag ns releaseName] else []

/-- The binding joins the account of the Job to the role of the same release. -/
theorem authorizes_jobAccount (ns releaseName : String) (request : Attributes) :
    (⟨[releaseRole versionTag releaseName],
        [upgradeJobClusterRoleBinding versionTag ns releaseName]⟩ : Grants).authorizes
      (jobAccount versionTag ns releaseName) request =
        (releaseRole versionTag releaseName).allows request := by
  apply authorizes_bound
  · refine ⟨_, List.mem_singleton_self _, ?_⟩
    simp [Subject.appliesTo, jobAccount, upgradeJobServiceAccount]
  · simp [RoleRef.refersTo, upgradeJobClusterRoleBinding, releaseRole, upgradeJobClusterRole]

end Objects

/-! ## The Job and its account -/

/-- With the Job, its account, role and binding exist. -/
def Equipped (pieces : Piece → Bool) : Prop :=
  pieces .job = true → ∀ kind, pieces (.object kind) = true

/-- The account, the role and the binding exist. -/
def ObjectsPresent (pieces : Piece → Bool) : Prop :=
  ∀ kind, pieces (.object kind) = true

/-- The pieces that exist now are as stated, and the Job was equipped at every request so far. -/
def Along (versionTag : Option String) (releaseName : String) (deployments : List Deployment)
    (stated : (Piece → Bool) → Prop) (kube : Kube) (trace : List (Entry Kube Move Call)) : Prop :=
  (kube.deployments = deployments ∧ stated (kube.has versionTag releaseName)) ∧
    ∀ entry ∈ trace, Equipped (entry.seen.has versionTag releaseName)

section Runs

variable {versionTag : Option String} {releaseName ns : String} {deployments : List Deployment}
  {stated : (Piece → Bool) → Prop}

theorem Along.weaken {stated' : (Piece → Bool) → Prop} {kube : Kube}
    {trace : List (Entry Kube Move Call)}
    (h : Along versionTag releaseName deployments stated kube trace)
    (himp : stated (kube.has versionTag releaseName) → stated' (kube.has versionTag releaseName)) :
    Along versionTag releaseName deployments stated' kube trace :=
  ⟨⟨h.1.1, himp h.1.2⟩, h.2⟩

variable {deployment : Deployment} {pieces : Piece → Bool}

end Runs

/-- The creation of the objects for an installation. -/
def creation : Run Kube Move Call Error Operation Unit :=
  let outcome := Operation.run none "mayastor" (.create UpgradeArgs.new)
    ⟨installed, undisturbed 15, []⟩
  ⟨.create UpgradeArgs.new, installed, outcome.1, outcome.2⟩

end MayastorExtensions.Plugin
