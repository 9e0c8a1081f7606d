import Mathlib.Data.List.Basic

/-!
# Role-based access control

The authorization of a Kubernetes API server by cluster roles.  A role is a list of rules, a binding
hands a role to subjects, and whatever no rule allows is refused: grants only ever add up.
-/

namespace MayastorExtensions.Rbac

/-! ## Requests and rules -/

/-- What the authorizer looks at in a request for a resource. -/
structure Attributes where
  verb : String
  apiGroup : String
  resource : String
  deriving DecidableEq, Repr

structure PolicyRule where
  apiGroups : List String
  resources : List String
  verbs : List String
  deriving DecidableEq, Repr

/-- A listed value admits itself, and the star admits everything. -/
def admits (listed : List String) (value : String) : Bool :=
  listed.contains "*" || listed.contains value

def PolicyRule.allows (rule : PolicyRule) (request : Attributes) : Bool :=
  admits rule.verbs request.verb && admits rule.apiGroups request.apiGroup &&
    admits rule.resources request.resource

structure ClusterRole where
  name : String
  rules : List PolicyRule
  deriving DecidableEq, Repr

/-- A role allows what one of its rules allows. -/
def ClusterRole.allows (role : ClusterRole) (request : Attributes) : Bool :=
  role.rules.any fun rule ↦ rule.allows request

/-! ## Bindings -/

structure RoleRef where
  apiGroup : String
  kind : String
  name : String
  deriving DecidableEq, Repr

structure Subject where
  kind : String
  name : String
  namespace_ : Option String
  deriving DecidableEq, Repr

structure ClusterRoleBinding where
  name : String
  roleRef : RoleRef
  subjects : List Subject
  deriving DecidableEq, Repr

/-- A service account, as the requests made in its name present themselves. -/
structure ServiceAccount where
  name : String
  namespace_ : String
  deriving DecidableEq, Repr

/-- The groups every service account belongs to. -/
def ServiceAccount.groups (account : ServiceAccount) : List String :=
  ["system:authenticated", "system:serviceaccounts",
    "system:serviceaccounts:" ++ account.namespace_]

/-- A service account is named together with its namespace, or through one of its groups. -/
def Subject.appliesTo (subject : Subject) (account : ServiceAccount) : Bool :=
  if subject.kind = "ServiceAccount" then
    subject.name = account.name && subject.namespace_ = some account.namespace_
  else subject.kind = "Group" && account.groups.contains subject.name

/-- The reference names the role. -/
def RoleRef.refersTo (roleRef : RoleRef) (role : ClusterRole) : Bool :=
  roleRef.apiGroup = "rbac.authorization.k8s.io" && roleRef.kind = "ClusterRole" &&
    roleRef.name = role.name

/-! ## Authorization -/

/-- The roles and bindings of a cluster. -/
structure Grants where
  roles : List ClusterRole
  bindings : List ClusterRoleBinding

/-- A binding hands the rules of the role it refers to to its subjects. -/
def Grants.authorizes (grants : Grants) (account : ServiceAccount) (request : Attributes) : Bool :=
  grants.bindings.any fun binding ↦
    (binding.subjects.any fun subject ↦ subject.appliesTo account) &&
      grants.roles.any fun role ↦ binding.roleRef.refersTo role && role.allows request

section Authorization

variable {role : ClusterRole} {binding : ClusterRoleBinding} {account : ServiceAccount}
  {request : Attributes}

/-- A role that is bound to an account authorizes it to do exactly what the rules allow. -/
theorem authorizes_bound (hsubject : ∃ subject ∈ binding.subjects, subject.appliesTo account = true)
    (hrole : binding.roleRef.refersTo role = true) :
    (⟨[role], [binding]⟩ : Grants).authorizes account request = role.allows request := by
  have happlies : (binding.subjects.any fun subject ↦ subject.appliesTo account) = true :=
    List.any_eq_true.mpr hsubject
  simp only [Grants.authorizes, List.any_cons, List.any_nil, Bool.or_false, happlies, hrole,
    Bool.true_and]

end Authorization

end MayastorExtensions.Rbac
