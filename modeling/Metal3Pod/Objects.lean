import Mathlib.Data.List.Nodup

/-!
# Orchestrator objects built and read by the metal3 reconciler

The fragment of the `core/v1`, `apps/v1`, `meta/v1` and `operator/v1` API types that
`baremetal_pod.go` renders (containers, volumes, the pod template, the deployment) or reads back
from the orchestrator (a deployment's selector, generation and conditions).

Go slices are lists. A nil and an empty slice are one value here, as they are for every consumer
the code has: serialisation and `equality.Semantic`, which equates them. A pointer field is an
`Option`. A Go `map[string]string` is a `StringMap`, a list of entries whose keys are distinct.
-/

namespace Metal3Pod

/-! ## String maps -/

/-- A Go `map[string]string`. The order of `entries` carries no meaning; keys are distinct. -/
structure StringMap where
  entries : List (String × String)
  keys_nodup : (entries.map Prod.fst).Nodup
  deriving DecidableEq

namespace StringMap

/-- The empty (or nil) map. -/
def empty : StringMap := ⟨[], List.nodup_nil⟩

/-- A map literal; the distinctness of its keys is checked when it is written. -/
def ofList (l : List (String × String))
    (h : (l.map Prod.fst).Nodup := by decide) : StringMap :=
  ⟨l, h⟩

/-- `m[k]`, with the presence flag of Go's two-valued index. -/
def lookup (m : StringMap) (k : String) : Option String := m.entries.lookup k

end StringMap

/-! ## Containers -/

/-- `corev1.EnvVarSource`, with the two sources the code uses. -/
inductive EnvVarSource where
  /-- `FieldRef: &ObjectFieldSelector{FieldPath: fieldPath}` -/
  | fieldRef (fieldPath : String)
  /-- `SecretKeyRef: &SecretKeySelector{Name: name, Key: key}` -/
  | secretKeyRef (name key : String)
  deriving DecidableEq, Repr

/-- `corev1.EnvVar`. -/
structure EnvVar where
  name : String
  value : String := ""
  valueFrom : Option EnvVarSource := none
  deriving DecidableEq, Repr

/-- `corev1.VolumeMount`. -/
structure VolumeMount where
  name : String
  mountPath : String
  readOnly : Bool := false
  deriving DecidableEq, Repr

/-- `corev1.ContainerPort`. -/
structure ContainerPort where
  name : String
  containerPort : Int
  hostPort : Int
  deriving DecidableEq, Repr

/-- The `Requests` of `corev1.ResourceRequirements`: every container requests CPU and memory,
as the strings handed to `resource.MustParse`. -/
structure ResourceRequests where
  cpu : String
  memory : String
  deriving DecidableEq, Repr

/-- `corev1.SecurityContext`, of which the code sets `Privileged`. -/
structure SecurityContext where
  privileged : Option Bool := none
  deriving DecidableEq, Repr

/-- `corev1.Container`, with the fields the code sets. -/
structure Container where
  name : String
  image : String
  command : List String
  args : List String := []
  imagePullPolicy : String := ""
  securityContext : Option SecurityContext := none
  volumeMounts : List VolumeMount := []
  env : List EnvVar := []
  ports : List ContainerPort := []
  resources : ResourceRequests
  deriving DecidableEq, Repr

/-- The names of a container's environment variables, in order. -/
def Container.envNames (c : Container) : List String := c.env.map EnvVar.name

/-- The names of the volumes a container mounts, in order. -/
def Container.mountNames (c : Container) : List String := c.volumeMounts.map VolumeMount.name

/-! ## Volumes and the pod template -/

/-- `corev1.KeyToPath`. -/
structure KeyToPath where
  key : String
  path : String
  deriving DecidableEq, Repr

/-- `corev1.VolumeSource`, with the sources the code uses. -/
inductive VolumeSource where
  | emptyDir
  | hostPath (path : String) (type : Option String)
  | secret (secretName : String) (items : List KeyToPath)
  | configMap (name : String) (items : List KeyToPath) (optional : Option Bool)
  deriving DecidableEq, Repr

/-- `corev1.Volume`. -/
structure Volume where
  name : String
  source : VolumeSource
  deriving DecidableEq, Repr

/-- `corev1.Toleration`. -/
structure Toleration where
  key : String
  operator : String
  effect : String := ""
  tolerationSeconds : Option Int := none
  deriving DecidableEq, Repr

/-- `corev1.PodSecurityContext`, of which the code sets `RunAsNonRoot`. -/
structure PodSecurityContext where
  runAsNonRoot : Option Bool := none
  deriving DecidableEq, Repr

/-- `corev1.PodSpec`, with the fields the code sets; each defaults to Go's zero value. -/
structure PodSpec where
  volumes : List Volume := []
  initContainers : List Container := []
  containers : List Container := []
  hostNetwork : Bool := false
  dnsPolicy : String := ""
  priorityClassName : String := ""
  nodeSelector : StringMap := StringMap.empty
  securityContext : Option PodSecurityContext := none
  serviceAccountName : String := ""
  tolerations : List Toleration := []
  deriving DecidableEq

/-- `corev1.PodTemplateSpec`: the template's annotations and labels, and its pod. -/
structure PodTemplateSpec where
  annotations : StringMap := StringMap.empty
  labels : StringMap := StringMap.empty
  spec : PodSpec := {}
  deriving DecidableEq

/-! ## Deployments -/

/-- `metav1.LabelSelectorRequirement`. -/
structure LabelSelectorRequirement where
  key : String
  operator : String
  values : List String
  deriving DecidableEq, Repr

/-- `metav1.LabelSelector`. -/
structure LabelSelector where
  matchLabels : StringMap
  matchExpressions : List LabelSelectorRequirement
  deriving DecidableEq

/-- `metav1.ObjectMeta`, with the fields the code sets or reads. -/
structure ObjectMeta where
  name : String := ""
  «namespace» : String := ""
  annotations : StringMap := StringMap.empty
  labels : StringMap := StringMap.empty
  generation : Int := 0
  deriving DecidableEq

/-- `appsv1.DeploymentSpec`, with the fields the code sets or reads. -/
structure DeploymentSpec where
  replicas : Option Int := none
  selector : Option LabelSelector := none
  template : PodTemplateSpec := {}
  strategyType : String := ""
  deriving DecidableEq

/-- `appsv1.DeploymentCondition`: its type and status, both open string types in Go. -/
structure DeploymentCondition where
  type : String
  status : String
  deriving DecidableEq, Repr

/-- `appsv1.Deployment`; its status is the list of its conditions. `{}` is Go's empty object. -/
structure Deployment where
  metadata : ObjectMeta := {}
  spec : DeploymentSpec := {}
  conditions : List DeploymentCondition := []
  deriving DecidableEq

/-- `operatorv1.GenerationStatus`: the last generation the operator saw of one resource. -/
structure GenerationStatus where
  group : String
  resource : String
  «namespace» : String
  name : String
  lastGeneration : Int
  hash : String := ""
  deriving DecidableEq, Repr

/-! ## Errors -/

/-- A Go `error` as far as the code inspects it: an error the orchestrator client returned
(its message, and whether `apierrors.IsNotFound` holds of it), or one wrapped by
`fmt.Errorf("message: %w", cause)`. -/
inductive GoError where
  | api (message : String) (notFound : Bool)
  | wrapped (message : String) (cause : GoError)
  deriving DecidableEq, Repr

/-- `apierrors.IsNotFound`, which looks through `%w` wrapping. -/
def GoError.isNotFound : GoError → Bool
  | .api _ notFound => notFound
  | .wrapped _ cause => cause.isNotFound

/-- `client.IgnoreNotFound`. -/
def ignoreNotFound : Option GoError → Option GoError
  | some e => if e.isNotFound then none else some e
  | none => none

end Metal3Pod
