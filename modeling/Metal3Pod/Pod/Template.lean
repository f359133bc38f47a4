import Metal3Pod.Pod.Containers

/-!
# The pod template and the deployment

`newMetal3InitContainers` and `newMetal3Containers` assemble the two container lists by
conditional appends, gated on the configuration, and pass each through `injectProxyAndCA`, the
cross-cutting pass that appends the proxy variables and the trusted-CA mount to every container.
The source's `if cond { xs = append(xs, x) }` is written `xs ++ if cond then [x] else []`.
`newMetal3PodTemplateSpec` puts both lists into the pod with its volumes, scheduling constraints
and tolerations, and `newMetal3Deployment` wraps the template in the deployment with its fixed
selector.

The loop of `injectProxyAndCA` is a left fold that appends one rewritten container per step;
`injectProxyAndCA_eq_map` says it rewrites each container in place and keeps the order.
-/

namespace Metal3Pod

open scoped List

/-! ## The cross-cutting pass -/

/-- The body of the loop of `injectProxyAndCA`, on the loop's copy of one container. -/
def withProxyAndCA (proxy : Option Proxy) (container : Container) : Container :=
  { container with
    env := envWithProxy proxy container.env,
    volumeMounts := mountsWithTrustedCA container.volumeMounts }

def injectProxyAndCA (containers : List Container) (proxy : Option Proxy) : List Container :=
  containers.foldl
    (fun injectedContainers container => injectedContainers ++ [withProxyAndCA proxy container]) []

/-- One run of the loop from any accumulator. -/
theorem foldl_append_withProxyAndCA (proxy : Option Proxy) (containers acc : List Container) :
    containers.foldl (fun injected c => injected ++ [withProxyAndCA proxy c]) acc =
      acc ++ containers.map (withProxyAndCA proxy) := by
  induction containers generalizing acc with
  | nil => simp
  | cons c cs ih => simp [ih]

theorem injectProxyAndCA_eq_map (containers : List Container) (proxy : Option Proxy) :
    injectProxyAndCA containers proxy = containers.map (withProxyAndCA proxy) := by
  simp [injectProxyAndCA, foldl_append_withProxyAndCA]

@[simp] theorem withProxyAndCA_name (proxy : Option Proxy) (c : Container) :
    (withProxyAndCA proxy c).name = c.name := rfl

/-! ## The container lists -/

section Lists

variable (h : Helpers)

def newMetal3InitContainers (info : ProvisioningInfo) : List Container :=
  let spec := info.provConfig.spec
  let liveURLs := h.getPreProvisioningOSDownloadURLs spec
  let initContainers :=
    (if spec.provisioningIP != "" && spec.provisioningNetwork != provisioningNetworkDisabled then
      [createInitContainerStaticIpSet h info.images spec] else []) ++
    (if liveURLs.length > 0 then
      createInitContainerMachineOsDownloader info (",".intercalate liveURLs) true true ::
        (if spec.preProvisioningOSDownloadURLs.isoURL != "" then
          [createInitContainerConfigureCoreOSIPA h info] else [])
      else []) ++
    (if spec.provisioningOSDownloadURL != "" then
      [createInitContainerMachineOsDownloader info spec.provisioningOSDownloadURL false true]
      else []) ++
    (if !h.isCoreOSIPAAvailable spec then [createInitContainerIpaDownloader info.images] else [])
  injectProxyAndCA initContainers info.proxy

def newMetal3Containers (info : ProvisioningInfo) : List Container :=
  let spec := info.provConfig.spec
  let containers :=
    [createContainerMetal3BaremetalOperator h info.images spec,
      createContainerMetal3Mariadb info.images,
      createContainerMetal3Httpd h info.images spec info.masterMacAddresses info.sshKey,
      createContainerMetal3IronicConductor h info.images spec info.masterMacAddresses info.sshKey,
      createContainerIronicInspectorRamdiskLogs info.images,
      createContainerMetal3IronicApi h info.images spec info.masterMacAddresses,
      createContainerIronicDeployRamdiskLogs info.images,
      createContainerMetal3IronicInspector h info.images spec info.masterMacAddresses] ++
    (if spec.provisioningIP != "" && spec.provisioningNetwork != provisioningNetworkDisabled then
      [createContainerMetal3StaticIpManager h info.images spec info.masterMacAddresses] else []) ++
    (if spec.provisioningNetwork != provisioningNetworkDisabled then
      [createContainerMetal3Dnsmasq h info.images spec info.masterMacAddresses] else [])
  injectProxyAndCA containers info.proxy

/-! ## The pod template and the deployment -/

def metal3Tolerations : List Toleration :=
  [ { key := "node-role.kubernetes.io/master", effect := "NoSchedule", operator := "Exists" },
    { key := "CriticalAddonsOnly", operator := "Exists" },
    { key := "node.kubernetes.io/not-ready", effect := "NoExecute", operator := "Exists",
      tolerationSeconds := some 120 },
    { key := "node.kubernetes.io/unreachable", effect := "NoExecute", operator := "Exists",
      tolerationSeconds := some 120 } ]

def newMetal3PodTemplateSpec (info : ProvisioningInfo) (labels : StringMap) : PodTemplateSpec :=
  let initContainers := newMetal3InitContainers h info
  let containers := newMetal3Containers h info
  { annotations := podTemplateAnnotations, labels,
    spec :=
      { volumes := metal3Volumes, initContainers, containers, hostNetwork := true,
        dnsPolicy := "ClusterFirstWithHostNet", priorityClassName := "system-node-critical",
        nodeSelector := .ofList [("node-role.kubernetes.io/master", "")],
        securityContext := some { runAsNonRoot := some false },
        serviceAccountName := "cluster-baremetal-operator", tolerations := metal3Tolerations } }

@[simp] theorem newMetal3PodTemplateSpec_initContainers (info : ProvisioningInfo)
    (labels : StringMap) :
    (newMetal3PodTemplateSpec h info labels).spec.initContainers = newMetal3InitContainers h info :=
  rfl

@[simp] theorem newMetal3PodTemplateSpec_containers (info : ProvisioningInfo) (labels : StringMap) :
    (newMetal3PodTemplateSpec h info labels).spec.containers = newMetal3Containers h info := by
  simp only [newMetal3PodTemplateSpec]

@[simp] theorem newMetal3PodTemplateSpec_volumes (info : ProvisioningInfo) (labels : StringMap) :
    (newMetal3PodTemplateSpec h info labels).spec.volumes = metal3Volumes := rfl

/-- The labels `newMetal3Deployment` gives its pods (its `podSpecLabels`), the label map the
templates of the examples below are rendered with. -/
def metal3Labels : StringMap := .ofList [("k8s-app", metal3AppName), (cboLabelName, stateService)]

def newMetal3Deployment (info : ProvisioningInfo) : Deployment :=
  let selector : LabelSelector :=
    { matchLabels := .ofList [("k8s-app", metal3AppName), (cboLabelName, stateService)],
      matchExpressions := [] }
  let podSpecLabels : StringMap :=
    .ofList [("k8s-app", metal3AppName), (cboLabelName, stateService)]
  let template := newMetal3PodTemplateSpec h info podSpecLabels
  { metadata :=
      { name := baremetalDeploymentName, «namespace» := info.«namespace»,
        annotations := .ofList [( cboOwnedAnnotation, "")],
        labels := .ofList [("k8s-app", metal3AppName), (cboLabelName, stateService)] },
    spec :=
      { replicas := some 1, selector := some selector, template,
        strategyType := "Recreate" } }

@[simp] theorem newMetal3Deployment_namespace (info : ProvisioningInfo) :
    (newMetal3Deployment h info).metadata.«namespace» = info.«namespace» := rfl

@[simp] theorem newMetal3Deployment_name (info : ProvisioningInfo) :
    (newMetal3Deployment h info).metadata.name = baremetalDeploymentName := rfl

/-! ## Every container comes from a builder -/

/-- The containers the init-container builders return for a configuration, in append order. -/
def initContainerCandidates (info : ProvisioningInfo) : List Container :=
  let spec := info.provConfig.spec
  [createInitContainerStaticIpSet h info.images spec,
    createInitContainerMachineOsDownloader info
      (",".intercalate (h.getPreProvisioningOSDownloadURLs spec)) true true,
    createInitContainerConfigureCoreOSIPA h info,
    createInitContainerMachineOsDownloader info spec.provisioningOSDownloadURL false true,
    createInitContainerIpaDownloader info.images]

/-- The containers the long-running builders return for a configuration, in append order. -/
def containerCandidates (info : ProvisioningInfo) : List Container :=
  let spec := info.provConfig.spec
  [createContainerMetal3BaremetalOperator h info.images spec,
    createContainerMetal3Mariadb info.images,
    createContainerMetal3Httpd h info.images spec info.masterMacAddresses info.sshKey,
    createContainerMetal3IronicConductor h info.images spec info.masterMacAddresses info.sshKey,
    createContainerIronicInspectorRamdiskLogs info.images,
    createContainerMetal3IronicApi h info.images spec info.masterMacAddresses,
    createContainerIronicDeployRamdiskLogs info.images,
    createContainerMetal3IronicInspector h info.images spec info.masterMacAddresses,
    createContainerMetal3StaticIpManager h info.images spec info.masterMacAddresses,
    createContainerMetal3Dnsmasq h info.images spec info.masterMacAddresses]

theorem ite_singleton_sublist {α : Type} (b : Prop) [Decidable b] (x : α) :
    (if b then [x] else []) <+ [x] := by
  split
  · exact List.Sublist.refl _
  · exact List.nil_sublist _

theorem ite_cons_ite_sublist {α : Type} (b b' : Prop) [Decidable b] [Decidable b'] (x y : α) :
    (if b then x :: (if b' then [y] else []) else []) <+ [x, y] := by
  split
  · exact (ite_singleton_sublist _ _).cons₂ _
  · exact List.nil_sublist _

/-- The init containers are a selection, in order, of the candidates after the pass. -/
theorem newMetal3InitContainers_sublist (info : ProvisioningInfo) :
    newMetal3InitContainers h info <+
      (initContainerCandidates h info).map (withProxyAndCA info.proxy) := by
  rw [newMetal3InitContainers, injectProxyAndCA_eq_map]
  refine List.Sublist.map _ ?_
  exact (((ite_singleton_sublist _ _).append (ite_cons_ite_sublist _ _ _ _)).append
    (ite_singleton_sublist _ _)).append (ite_singleton_sublist _ _)

/-- The long-running containers are a selection, in order, of the candidates after the pass. -/
theorem newMetal3Containers_sublist (info : ProvisioningInfo) :
    newMetal3Containers h info <+ (containerCandidates h info).map (withProxyAndCA info.proxy) := by
  rw [newMetal3Containers, injectProxyAndCA_eq_map]
  exact List.Sublist.map _
    (((List.Sublist.refl _).append (ite_singleton_sublist _ _)).append (ite_singleton_sublist _ _))

end Lists

end Metal3Pod
