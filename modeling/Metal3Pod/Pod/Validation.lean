import Metal3Pod.Pod.Names
import Metal3Pod.Pod.Injection
import Mathlib.Data.String.Basic

/-!
# The pod template against the orchestrator's validation

`PodSpec.WellFormed` collects the rules of the orchestrator's validation of a pod spec that the
rendered pod is subject to: distinct container names, distinct volume names, mounts of declared
volumes at distinct paths, variables set once and each with a value or a source but not both,
container ports equal to host ports under host networking and no host port claimed twice, and
toleration seconds only beside the `NoExecute` effect.

The per-container rules come from the builders (`Sound`, checked for every candidate as `Built`
is) and survive the cross-cutting pass (`withProxyAndCA_valid`); the host ports of the pod are
those of the candidates, in order, and these are distinct.

* `newMetal3PodTemplateSpec_wellFormed_iff`: the rendered pod meets every rule exactly when the
  live-OS URLs and the single-asset URL are not both set; otherwise only the container names
  fail.
* `template_credentials_by_reference`: the credential variables read their secrets by reference
  and never carry a literal value.
* `liveDownloader_reads_liveURLs`, `template_macs_read_back`: the live-OS URLs and the masters'
  MAC addresses, each joined by commas into one variable, read back as the same list whenever none
  of them holds a comma.
-/

namespace Metal3Pod

open scoped List

/-! ## The rules -/

/-- A variable takes a literal value or a source, not both: the orchestrator rejects `valueFrom`
beside a non-empty `value`. -/
def EnvVar.ValueOrSource (e : EnvVar) : Prop := e.value = "" ∨ e.valueFrom = none

instance (e : EnvVar) : Decidable e.ValueOrSource := inferInstanceAs (Decidable (_ ∨ _))

/-- The variables that carry credentials. -/
def credentialEnvNames : List String := [mariadbPwdEnvVar, htpasswdEnvVar, pullSecretEnvVar]

/-- A variable read from a key of a secret, with no literal value. -/
def EnvVar.FromSecret (e : EnvVar) : Prop :=
  e.value = "" ∧ ∃ secretName key, e.valueFrom = some (.secretKeyRef secretName key)

/-- The paths a container mounts volumes at. -/
def Container.mountPaths (c : Container) : List String := c.volumeMounts.map VolumeMount.mountPath

/-- The host ports a container claims. -/
def Container.hostPorts (c : Container) : List Int := c.ports.map ContainerPort.hostPort

/-- The per-container rules of every pod: one volume per path, and a value or a source per
variable. -/
@[mk_iff] structure Container.Valid (c : Container) : Prop where
  mountPaths_nodup : c.mountPaths.Nodup
  env_valueOrSource : ∀ e ∈ c.env, e.ValueOrSource

/-- The rules of the orchestrator's validation of a pod spec that the rendered pod is subject
to, and the spec's rule of one variable per name. -/
structure PodSpec.WellFormed (p : PodSpec) : Prop where
  /-- Init and long-running containers have pairwise distinct names. -/
  names_nodup : p.containerNames.Nodup
  /-- The volumes have pairwise distinct names. -/
  volumeNames_nodup : (p.volumes.map Volume.name).Nodup
  /-- Every mount names a volume of the pod. -/
  mounts_declared :
    ∀ c ∈ p.initContainers ++ p.containers, ∀ n ∈ c.mountNames,
      n ∈ p.volumes.map Volume.name
  /-- A container sets each variable once. -/
  envNames_nodup : ∀ c ∈ p.initContainers ++ p.containers, c.envNames.Nodup
  /-- The per-container rules. -/
  containers_valid : ∀ c ∈ p.initContainers ++ p.containers, c.Valid
  /-- Under host networking, each container port is the host port it binds. -/
  hostNetwork_ports :
    p.hostNetwork = true → ∀ c ∈ p.initContainers ++ p.containers,
      ∀ port ∈ c.ports, port.hostPort = port.containerPort
  /-- No two ports of the pod claim one host port. -/
  hostPorts_nodup : ((p.initContainers ++ p.containers).flatMap Container.hostPorts).Nodup
  /-- Toleration seconds only beside the `NoExecute` effect. -/
  tolerationSeconds_noExecute :
    ∀ t ∈ p.tolerations, t.tolerationSeconds ≠ none → t.effect = "NoExecute"

/-! ## The composers set a value or a source -/

section Composers

variable (h : Helpers)

@[simp] theorem buildEnvVar_valueOrSource (name : String) (config : ProvisioningSpec) :
    (buildEnvVar h name config).ValueOrSource := by
  unfold buildEnvVar
  split
  · exact .inr rfl
  · split <;> exact .inl rfl

@[simp] theorem setIronicHtpasswdHash_valueOrSource (name secretName : String) :
    (setIronicHtpasswdHash name secretName).ValueOrSource := .inl rfl

@[simp] theorem setIronicExternalIp_valueOrSource (name : String) (config : ProvisioningSpec) :
    (setIronicExternalIp name config).ValueOrSource := by
  unfold setIronicExternalIp
  split <;> exact .inl rfl

@[simp] theorem getWatchNamespace_valueOrSource (config : ProvisioningSpec) :
    (getWatchNamespace config).ValueOrSource := by
  unfold getWatchNamespace
  split <;> exact .inl rfl

/-- A literal variable sets no source. -/
@[simp] theorem EnvVar.mk_valueOrSource (name value : String) :
    (EnvVar.mk name value none).ValueOrSource := .inr rfl

/-- A variable read from a source sets no literal value. -/
@[simp] theorem EnvVar.mk_source_valueOrSource (name : String) (source : EnvVarSource) :
    (EnvVar.mk name "" (some source)).ValueOrSource := .inl rfl

@[simp] theorem buildSSHKeyEnvVar_valueOrSource (sshKey : String) :
    (buildSSHKeyEnvVar sshKey).ValueOrSource := .inr rfl

@[simp] theorem buildSSHKeyEnvVar_name (sshKey : String) :
    (buildSSHKeyEnvVar sshKey).name = sshKeyEnvVar := rfl

/-! ## The credentials are read from secrets -/

@[simp] theorem mariadbPassword_fromSecret : mariadbPassword.FromSecret := ⟨rfl, _, _, rfl⟩

@[simp] theorem pullSecret_fromSecret : pullSecret.FromSecret := ⟨rfl, _, _, rfl⟩

@[simp] theorem setIronicHtpasswdHash_fromSecret (name secretName : String) :
    (setIronicHtpasswdHash name secretName).FromSecret := ⟨rfl, _, _, rfl⟩

@[simp] theorem mariadbPassword_valueOrSource : mariadbPassword.ValueOrSource := .inl rfl

@[simp] theorem pullSecret_valueOrSource : pullSecret.ValueOrSource := .inl rfl

end Composers

/-! ## The builders' containers -/

/-- What every builder's container satisfies, before the pass: the per-container rules, each port
bound on the host at its own number, no mount at the trusted-CA path, and its credentials read
from secrets. -/
@[mk_iff] structure Sound (c : Container) : Prop where
  valid : c.Valid
  hostPorts_eq : ∀ port ∈ c.ports, port.hostPort = port.containerPort
  noTrustedCAPath : trustedCAMount.mountPath ∉ c.mountPaths
  credentials_fromSecret : ∀ e ∈ c.env, e.name ∈ credentialEnvNames → e.FromSecret

@[simp] theorem withProxyAndCA_ports (proxy : Option Proxy) (c : Container) :
    (withProxyAndCA proxy c).ports = c.ports := rfl

@[simp] theorem withProxyAndCA_command (proxy : Option Proxy) (c : Container) :
    (withProxyAndCA proxy c).command = c.command := rfl

/-- The pass keeps the per-container rules: the trusted-CA path is new, and the proxy variables
carry values only. -/
theorem withProxyAndCA_valid (proxy : Option Proxy) {c : Container} (hc : Sound c) :
    (withProxyAndCA proxy c).Valid where
  mountPaths_nodup := by
    simp only [Container.mountPaths, withProxyAndCA, mountsWithTrustedCA, List.map_append,
      List.map_cons, List.map_nil]
    exact hc.valid.mountPaths_nodup.append (List.nodup_singleton _)
      (List.disjoint_singleton.2 hc.noTrustedCAPath)
  env_valueOrSource := by
    intro e he
    rcases List.mem_append.1 (withProxyAndCA_env proxy c ▸ he) with he | he
    · exact hc.valid.env_valueOrSource e he
    · cases proxy <;> simp only [proxyVars, List.mem_map, List.not_mem_nil] at he
      obtain ⟨_, -, rfl⟩ := he
      exact .inr rfl

/-- No proxy variable is a credential. -/
theorem proxyEnvNames_not_credential : ∀ n ∈ proxyEnvNames, n ∉ credentialEnvNames := by
  decide

/-- The pass adds no credential: its proxy variables have other names. -/
theorem withProxyAndCA_credentials_fromSecret (proxy : Option Proxy) {c : Container}
    (hc : Sound c) :
    ∀ e ∈ (withProxyAndCA proxy c).env, e.name ∈ credentialEnvNames → e.FromSecret := by
  intro e he hn
  rcases List.mem_append.1 (withProxyAndCA_env proxy c ▸ he) with he | he
  · exact hc.credentials_fromSecret e he hn
  · exact absurd hn (proxyEnvNames_not_credential _ (proxyVars_names proxy e he))

/-- A container is sound when its mount paths, followed by the trusted-CA path, are distinct, its
variables each set a value or a source, and each of its ports binds its own number on the host. -/
theorem Sound.of_mountPaths {c : Container}
    (hm : (c.mountPaths ++ [trustedCAMount.mountPath]).Nodup)
    (he : ∀ e ∈ c.env, e.ValueOrSource)
    (hp : ∀ port ∈ c.ports, port.hostPort = port.containerPort)
    (hs : ∀ e ∈ c.env, e.name ∈ credentialEnvNames → e.FromSecret) : Sound c :=
  ⟨⟨hm.sublist (List.sublist_append_left _ _), he⟩, hp,
    fun hmem => (List.nodup_append.1 hm).2.2 hmem (List.mem_singleton_self _), hs⟩

/-- The static web server's port: `strconv.Atoi` of the decimal string reads `6180`. -/
theorem strconvAtoi_baremetalHttpPort : strconvAtoi baremetalHttpPort = 6180 := by
  simp only [strconvAtoi, baremetalHttpPort, String.toInt?, String.toNat?, String.isNat,
    String.foldl_eq, String.all_eq]
  decide

section Builders

variable (h : Helpers) (images : Images) (config : ProvisioningSpec) (info : ProvisioningInfo)
  (macs : List String) (sshKey : String)

@[simp] theorem createInitContainerIpaDownloader_sound :
    Sound (createInitContainerIpaDownloader images) := by
  refine .of_mountPaths ?_ ?_ ?_ ?_ <;>
    simp +decide [Container.mountPaths, createInitContainerIpaDownloader, envWithMasterMacAddresses]

@[simp] theorem createInitContainerConfigureCoreOSIPA_sound :
    Sound (createInitContainerConfigureCoreOSIPA h info) := by
  refine .of_mountPaths ?_ ?_ ?_ ?_ <;>
    simp +decide [Container.mountPaths, createInitContainerConfigureCoreOSIPA,
      envWithMasterMacAddresses]

@[simp] theorem createInitContainerMachineOsDownloader_sound (imageURLs : String)
    (useLiveImages setIpOptions : Bool) :
    Sound (createInitContainerMachineOsDownloader info imageURLs useLiveImages setIpOptions) := by
  refine .of_mountPaths ?_ ?_ ?_ ?_ <;> cases setIpOptions <;>
    simp +decide [Container.mountPaths, createInitContainerMachineOsDownloader,
      envWithMasterMacAddresses]

@[simp] theorem createInitContainerStaticIpSet_sound :
    Sound (createInitContainerStaticIpSet h images config) := by
  refine .of_mountPaths ?_ ?_ ?_ ?_ <;>
    simp +decide [Container.mountPaths, createInitContainerStaticIpSet, envWithMasterMacAddresses]

@[simp] theorem createContainerMetal3BaremetalOperator_sound :
    Sound (createContainerMetal3BaremetalOperator h images config) := by
  refine .of_mountPaths ?_ ?_ ?_ ?_ <;>
    simp +decide [Container.mountPaths, createContainerMetal3BaremetalOperator,
      envWithMasterMacAddresses]

@[simp] theorem createContainerMetal3Dnsmasq_sound :
    Sound (createContainerMetal3Dnsmasq h images config macs) := by
  refine .of_mountPaths ?_ ?_ ?_ ?_ <;>
    simp +decide [Container.mountPaths, createContainerMetal3Dnsmasq, envWithMasterMacAddresses]

@[simp] theorem createContainerMetal3Mariadb_sound :
    Sound (createContainerMetal3Mariadb images) := by
  refine .of_mountPaths ?_ ?_ ?_ ?_ <;>
    simp +decide [Container.mountPaths, createContainerMetal3Mariadb, envWithMasterMacAddresses]

@[simp] theorem createContainerMetal3Httpd_sound :
    Sound (createContainerMetal3Httpd h images config macs sshKey) := by
  refine .of_mountPaths ?_ ?_ ?_ ?_ <;>
    simp +decide [Container.mountPaths, createContainerMetal3Httpd, envWithMasterMacAddresses]

@[simp] theorem createContainerMetal3IronicConductor_sound :
    Sound (createContainerMetal3IronicConductor h images config macs sshKey) := by
  refine .of_mountPaths ?_ ?_ ?_ ?_ <;>
    simp +decide [Container.mountPaths, createContainerMetal3IronicConductor,
      envWithMasterMacAddresses]

@[simp] theorem createContainerMetal3IronicApi_sound :
    Sound (createContainerMetal3IronicApi h images config macs) := by
  refine .of_mountPaths ?_ ?_ ?_ ?_ <;>
    simp +decide [Container.mountPaths, createContainerMetal3IronicApi, envWithMasterMacAddresses]

@[simp] theorem createContainerMetal3IronicInspector_sound :
    Sound (createContainerMetal3IronicInspector h images config macs) := by
  refine .of_mountPaths ?_ ?_ ?_ ?_ <;>
    simp +decide [Container.mountPaths, createContainerMetal3IronicInspector,
      envWithMasterMacAddresses]

@[simp] theorem createContainerMetal3StaticIpManager_sound :
    Sound (createContainerMetal3StaticIpManager h images config macs) := by
  refine .of_mountPaths ?_ ?_ ?_ ?_ <;>
    simp +decide [Container.mountPaths, createContainerMetal3StaticIpManager,
      envWithMasterMacAddresses]

@[simp] theorem ramdiskLogsContainer_sound (name : String) :
    Sound (ramdiskLogsContainer name images) := by
  refine .of_mountPaths ?_ ?_ ?_ ?_ <;>
    simp +decide [Container.mountPaths, ramdiskLogsContainer, envWithMasterMacAddresses]

end Builders

/-- Sublists are kept by `flatMap`. -/
theorem flatMap_sublist_flatMap {α β : Type} (f : α → List β) {l₁ l₂ : List α}
    (hs : l₁ <+ l₂) :
    l₁.flatMap f <+ l₂.flatMap f := by
  induction hs with
  | slnil => exact .slnil
  | cons a _ ih => simpa using ih.trans (List.sublist_append_right (f a) _)
  | cons₂ a _ ih => simpa using ih.append_left (f a)

/-! ## The MAC list -/

/-- In variables set once each, the one named for the MAC list is the list
`envWithMasterMacAddresses` appends. -/
theorem envWithMasterMacAddresses_macs {envVars : List EnvVar} {macs : List String}
    (hnd : ((envWithMasterMacAddresses envVars macs).map EnvVar.name).Nodup) :
    ∀ e ∈ envWithMasterMacAddresses envVars macs, e.name = "PROVISIONING_MACS" →
      e.value = ",".intercalate macs := by
  intro e he hn
  rw [envWithMasterMacAddresses, List.mem_append, List.mem_singleton] at he
  rcases he with he | rfl
  · rw [envWithMasterMacAddresses, List.map_append, List.nodup_append] at hnd
    have hm := List.mem_map_of_mem EnvVar.name he
    rw [hn] at hm
    exact (hnd.2.2 hm (List.mem_singleton_self _)).elim
  · rfl

/-- A container without the MAC-list variable passes no other list under its name. -/
theorem macs_of_not_mem {c : Container} {macs : List String}
    (h : "PROVISIONING_MACS" ∉ c.envNames) :
    ∀ e ∈ c.env, e.name = "PROVISIONING_MACS" → e.value = ",".intercalate macs :=
  fun _ he hn => absurd (hn ▸ List.mem_map_of_mem EnvVar.name he) h

section Candidates

variable (h : Helpers) (info : ProvisioningInfo)

theorem candidates_sound :
    ∀ c ∈ initContainerCandidates h info ++ containerCandidates h info, Sound c := by
  simp [initContainerCandidates, containerCandidates, createContainerIronicInspectorRamdiskLogs,
    createContainerIronicDeployRamdiskLogs]

/-- Every builder that passes the masters' MAC addresses passes all of them, joined by commas. -/
theorem candidates_macs :
    ∀ c ∈ initContainerCandidates h info ++ containerCandidates h info, ∀ e ∈ c.env,
      e.name = "PROVISIONING_MACS" → e.value = ",".intercalate info.masterMacAddresses := by
  intro c hc
  have hnd := (candidates_built h info c hc).envNames_nodup
  simp only [initContainerCandidates, containerCandidates, List.cons_append, List.nil_append,
    List.mem_cons, List.not_mem_nil, or_false] at hc
  rcases hc with rfl | rfl | rfl | rfl | rfl | rfl | rfl | rfl | rfl | rfl | rfl | rfl | rfl | rfl |
    rfl <;>
  first
    | exact envWithMasterMacAddresses_macs hnd
    | exact macs_of_not_mem (by simp +decide [createContainerIronicInspectorRamdiskLogs,
        createContainerIronicDeployRamdiskLogs])

/-- The host ports of the candidates, in order: the pod's are a selection of these. -/
theorem candidates_hostPorts :
    (initContainerCandidates h info ++ containerCandidates h info).flatMap Container.hostPorts =
      [60000, 3306, 6180, 8089, 6385, 5050] := by
  simp [initContainerCandidates, containerCandidates, Container.hostPorts,
    createInitContainerStaticIpSet, createInitContainerMachineOsDownloader,
    createInitContainerConfigureCoreOSIPA, createInitContainerIpaDownloader,
    createContainerMetal3BaremetalOperator, createContainerMetal3Mariadb,
    createContainerMetal3Httpd,
    createContainerMetal3IronicConductor, createContainerIronicInspectorRamdiskLogs,
    createContainerIronicDeployRamdiskLogs, ramdiskLogsContainer, createContainerMetal3IronicApi,
    createContainerMetal3IronicInspector, createContainerMetal3StaticIpManager,
    createContainerMetal3Dnsmasq, strconvAtoi_baremetalHttpPort]

/-- Every container of the pod is a candidate after the pass, built and sound. -/
theorem podContainers_candidate (labels : StringMap) :
    ∀ c ∈ (newMetal3PodTemplateSpec h info labels).spec.initContainers ++
        (newMetal3PodTemplateSpec h info labels).spec.containers,
      ∃ c' ∈ initContainerCandidates h info ++ containerCandidates h info,
        Built c' ∧ Sound c' ∧ c = withProxyAndCA info.proxy c' := by
  intro c hc
  obtain ⟨c', hc', rfl⟩ := List.mem_map.1 ((podContainers_sublist h info labels).subset hc)
  exact ⟨c', hc', candidates_built h info c' hc', candidates_sound h info c' hc', rfl⟩

/-- The host ports of the pod are distinct. -/
theorem podContainers_hostPorts_nodup (labels : StringMap) :
    ((newMetal3PodTemplateSpec h info labels).spec.initContainers ++
      (newMetal3PodTemplateSpec h info labels).spec.containers).flatMap
        Container.hostPorts |>.Nodup := by
  have hs := flatMap_sublist_flatMap Container.hostPorts (podContainers_sublist h info labels)
  have hpass : ∀ l : List Container,
      (l.map (withProxyAndCA info.proxy)).flatMap Container.hostPorts =
        l.flatMap Container.hostPorts := by
    intro l; simp only [List.flatMap_map]; rfl
  rw [hpass, candidates_hostPorts] at hs
  exact hs.nodup (by decide)

/-- Whenever its container names are distinct, the rendered pod meets every rule. -/
theorem newMetal3PodTemplateSpec_wellFormed_of_nodup (labels : StringMap)
    (hnd : (newMetal3PodTemplateSpec h info labels).spec.containerNames.Nodup) :
    (newMetal3PodTemplateSpec h info labels).spec.WellFormed where
  names_nodup := hnd
  volumeNames_nodup := by rw [newMetal3PodTemplateSpec_volumes]; decide
  mounts_declared c hc := by
    obtain ⟨c', -, hb, -, rfl⟩ := podContainers_candidate h info labels c hc
    rw [newMetal3PodTemplateSpec_volumes]
    exact hb.withProxyAndCA_mounts_declared _
  envNames_nodup c hc := by
    obtain ⟨c', -, hb, -, rfl⟩ := podContainers_candidate h info labels c hc
    exact hb.withProxyAndCA_envNames_nodup _
  containers_valid c hc := by
    obtain ⟨c', -, -, hs, rfl⟩ := podContainers_candidate h info labels c hc
    exact withProxyAndCA_valid _ hs
  hostNetwork_ports _ c hc := by
    obtain ⟨c', -, -, hs, rfl⟩ := podContainers_candidate h info labels c hc
    exact hs.hostPorts_eq
  hostPorts_nodup := podContainers_hostPorts_nodup h info labels
  tolerationSeconds_noExecute := by
    show ∀ t ∈ metal3Tolerations, t.tolerationSeconds ≠ none → t.effect = "NoExecute"
    decide

/-- The rendered pod meets every rule of the orchestrator's validation exactly when its container
names are distinct, that is exactly when the live-OS URLs and the single-asset URL are not both
set: every other rule holds for every configuration. -/
theorem newMetal3PodTemplateSpec_wellFormed_iff (labels : StringMap) :
    ((newMetal3PodTemplateSpec h info labels).spec.WellFormed ↔
      (newMetal3PodTemplateSpec h info labels).spec.containerNames.Nodup) ∧
    ((newMetal3PodTemplateSpec h info labels).spec.WellFormed ↔
      ¬(h.getPreProvisioningOSDownloadURLs info.provConfig.spec ≠ [] ∧
        info.provConfig.spec.provisioningOSDownloadURL ≠ "")) := by
  have hwf := (⟨PodSpec.WellFormed.names_nodup,
    newMetal3PodTemplateSpec_wellFormed_of_nodup h info labels⟩ :
      (newMetal3PodTemplateSpec h info labels).spec.WellFormed ↔ _)
  refine ⟨hwf, hwf.trans ⟨fun hnd ⟨hl, hs⟩ => ?_, fun hne => ?_⟩⟩
  · exact List.nodup_iff_sublist.1 hnd _ (containerNames_duplicate h info labels hl hs)
  · exact metal3ContainerNames_nodup.sublist (containerNames_sublist h info labels hne)

/-- Every credential variable of the rendered pod reads a key of a secret and carries no literal
value, for every configuration and every proxy. -/
theorem template_credentials_by_reference (labels : StringMap) :
    ∀ c ∈ (newMetal3PodTemplateSpec h info labels).spec.initContainers ++
        (newMetal3PodTemplateSpec h info labels).spec.containers,
      ∀ e ∈ c.env, e.name ∈ credentialEnvNames → e.FromSecret := by
  intro c hc
  obtain ⟨c', -, -, hs, rfl⟩ := podContainers_candidate h info labels c hc
  exact withProxyAndCA_credentials_fromSecret _ hs

theorem template_credentials_by_reference_mariadb :
    withProxyAndCA isoAndAssetInfo.proxy (createContainerMetal3Mariadb isoAndAssetInfo.images) ∈
        (newMetal3PodTemplateSpec isoHelpers isoAndAssetInfo metal3Labels).spec.initContainers ++
          (newMetal3PodTemplateSpec isoHelpers isoAndAssetInfo metal3Labels).spec.containers ∧
      mariadbPassword ∈ (withProxyAndCA isoAndAssetInfo.proxy
        (createContainerMetal3Mariadb isoAndAssetInfo.images)).env ∧
      mariadbPassword.name ∈ credentialEnvNames ∧ mariadbPassword.FromSecret := by
  have hc :
      withProxyAndCA isoAndAssetInfo.proxy (createContainerMetal3Mariadb isoAndAssetInfo.images) ∈
      (newMetal3PodTemplateSpec isoHelpers isoAndAssetInfo metal3Labels).spec.initContainers ++
        (newMetal3PodTemplateSpec isoHelpers isoAndAssetInfo metal3Labels).spec.containers := by
    simp [newMetal3PodTemplateSpec_containers, newMetal3Containers, injectProxyAndCA_eq_map]
  have he : mariadbPassword ∈ (withProxyAndCA isoAndAssetInfo.proxy
      (createContainerMetal3Mariadb isoAndAssetInfo.images)).env := by
    simp [withProxyAndCA_env, createContainerMetal3Mariadb]
  have hn : mariadbPassword.name ∈ credentialEnvNames := by decide
  exact ⟨hc, he, hn,
    template_credentials_by_reference isoHelpers isoAndAssetInfo metal3Labels _ hc _ he hn⟩

end Candidates

/-! ## Lists passed in one variable

The live-OS URLs reach the downloader joined by commas in one variable. -/

/-- How the downloader reads a comma-separated list back: split at every comma. The script that
does so ships in the downloader's image, not in this repository. -/
def splitCommaList (s : String) : List String := (s.data.splitOn ',').map String.mk

theorem intercalate_append_cons {α : Type} (sep x y : List α) (zs : List (List α)) :
    sep.intercalate ((x ++ (sep ++ y)) :: zs) = sep.intercalate (x :: y :: zs) := by
  cases zs <;> simp [List.intercalate]

theorem data_intercalate (s : String) (l : List String) :
    (s.intercalate l).data = s.data.intercalate (l.map String.data) := by
  have go : ∀ acc l, (String.intercalate.go acc s l).data =
      s.data.intercalate (acc.data :: l.map String.data) := by
    intro acc l
    induction l generalizing acc with
    | nil => simp [String.intercalate.go, List.intercalate]
    | cons a l ih => simp only [String.intercalate.go, ih, String.data_append,
        List.append_assoc, List.map_cons, intercalate_append_cons]
  cases l with
  | nil => rfl
  | cons a l => exact go a l

/-- Joining by commas and splitting at commas is the identity on a nonempty list of strings
without commas. -/
theorem splitCommaList_intercalate {l : List String} (hne : l ≠ [])
    (hc : ∀ u ∈ l, ',' ∉ u.data) :
    splitCommaList (",".intercalate l) = l := by
  rw [splitCommaList, data_intercalate, show ",".data = [','] from rfl,
    List.splitOn_intercalate _ ',' (by simpa using hc) (by simpa using hne)]
  simp [Function.comp_def]

/-- Whenever the live-OS URLs are set and none holds a comma, the first downloader of the pod runs
the live-image script, and its image-URL variable reads back as exactly those URLs, in order. -/
theorem liveDownloader_reads_liveURLs (h : Helpers) (info : ProvisioningInfo) (labels : StringMap)
    (hne : h.getPreProvisioningOSDownloadURLs info.provConfig.spec ≠ [])
    (hc : ∀ u ∈ h.getPreProvisioningOSDownloadURLs info.provConfig.spec, ',' ∉ u.data) :
    ∃ c, (newMetal3PodTemplateSpec h info labels).spec.initContainers.find?
        (·.name == "metal3-machine-os-downloader") = some c ∧
      c.command = ["/usr/local/bin/get-live-images.sh"] ∧
      (c.env.find? (·.name == machineImageUrl)).map (splitCommaList ·.value) =
        some (h.getPreProvisioningOSDownloadURLs info.provConfig.spec) := by
  have hpos : (h.getPreProvisioningOSDownloadURLs info.provConfig.spec).length > 0 :=
    List.length_pos.2 hne
  simp only [newMetal3PodTemplateSpec_initContainers, newMetal3InitContainers, if_pos hpos,
    injectProxyAndCA_eq_map, List.map_append, List.append_assoc, List.map_cons, List.cons_append,
    List.find?_append]
  rw [List.find?_eq_none.2 (by split <;> simp [createInitContainerStaticIpSet]), Option.none_or,
    List.find?_cons_of_pos _ rfl]
  refine ⟨_, rfl, rfl, ?_⟩
  simp [withProxyAndCA_env, createInitContainerMachineOsDownloader,
    splitCommaList_intercalate hne hc]

/-- Helpers whose live-OS URLs are the set ones of the ISO, kernel, initramfs and root-filesystem
URLs, in that order. -/
def liveHelpers : Helpers :=
  ⟨fun _ _ => none, fun spec =>
    [spec.preProvisioningOSDownloadURLs.isoURL, spec.preProvisioningOSDownloadURLs.kernelURL,
      spec.preProvisioningOSDownloadURLs.initramfsURL,
      spec.preProvisioningOSDownloadURLs.rootfsURL].filter (· != ""),
    fun _ => true⟩

/-- A configuration that boots the live OS from a kernel, an initramfs and a root filesystem. -/
def liveKernelInfo : ProvisioningInfo :=
  { provConfig :=
      { spec := { preProvisioningOSDownloadURLs :=
        { kernelURL := "http://assets/live.kernel", initramfsURL := "http://assets/live.initramfs",
          rootfsURL := "http://assets/live.rootfs" } } },
    networkStack := .v4 }

theorem liveDownloader_reads_liveURLs_of_live_kernel :
    liveHelpers.getPreProvisioningOSDownloadURLs liveKernelInfo.provConfig.spec =
      ["http://assets/live.kernel", "http://assets/live.initramfs", "http://assets/live.rootfs"] ∧
    (liveHelpers.getPreProvisioningOSDownloadURLs liveKernelInfo.provConfig.spec ≠ [] ∧
      ∀ u ∈ liveHelpers.getPreProvisioningOSDownloadURLs liveKernelInfo.provConfig.spec,
        ',' ∉ u.data) ∧
    ∃ c,
      (newMetal3PodTemplateSpec liveHelpers liveKernelInfo metal3Labels).spec.initContainers.find?
          (·.name == "metal3-machine-os-downloader") = some c ∧
      c.command = ["/usr/local/bin/get-live-images.sh"] ∧
      (c.env.find? (·.name == machineImageUrl)).map (splitCommaList ·.value) =
        some (liveHelpers.getPreProvisioningOSDownloadURLs liveKernelInfo.provConfig.spec) :=
  ⟨by decide, ⟨by decide, by decide⟩,
    liveDownloader_reads_liveURLs liveHelpers liveKernelInfo metal3Labels (by decide) (by decide)⟩

/-- Whenever the masters' MAC addresses are set and none holds a comma, the conductor passes them
in its variable, and every variable of the pod under that name reads back as exactly those
addresses, in order: all the services see the same list. -/
theorem template_macs_read_back (h : Helpers) (info : ProvisioningInfo) (labels : StringMap)
    (hne : info.masterMacAddresses ≠ [])
    (hc : ∀ m ∈ info.masterMacAddresses, ',' ∉ m.data) :
    (∃ c ∈ (newMetal3PodTemplateSpec h info labels).spec.containers,
      c.name = "metal3-ironic-conductor" ∧ ∃ e ∈ c.env, e.name = "PROVISIONING_MACS") ∧
    ∀ c ∈ (newMetal3PodTemplateSpec h info labels).spec.initContainers ++
        (newMetal3PodTemplateSpec h info labels).spec.containers,
      ∀ e ∈ c.env, e.name = "PROVISIONING_MACS" →
        splitCommaList e.value = info.masterMacAddresses := by
  refine ⟨?conductor, fun c hcm e he hn => ?_⟩
  case conductor =>
    refine ⟨withProxyAndCA info.proxy (createContainerMetal3IronicConductor h info.images
      info.provConfig.spec info.masterMacAddresses info.sshKey), ?_, rfl,
      { name := "PROVISIONING_MACS", value := ",".intercalate info.masterMacAddresses }, ?_, rfl⟩
    · rw [newMetal3PodTemplateSpec_containers, newMetal3Containers, injectProxyAndCA_eq_map]
      exact List.mem_map_of_mem _ (List.mem_append_left _ (List.mem_append_left _ (by simp)))
    · rw [withProxyAndCA_env]
      exact List.mem_append_left _ (List.mem_append_right _ (List.mem_singleton_self _))
  obtain ⟨c', hc', -, -, rfl⟩ := podContainers_candidate h info labels c hcm
  rcases List.mem_append.1 (withProxyAndCA_env _ c' ▸ he) with he | he
  · rw [candidates_macs h info c' hc' e he hn, splitCommaList_intercalate hne hc]
  · exact absurd (hn ▸ proxyVars_names _ e he) (by decide)

/-- A configuration with two control-plane hosts. -/
def twoMastersInfo : ProvisioningInfo :=
  { networkStack := .v4, masterMacAddresses := ["52:54:00:aa:bb:01", "52:54:00:aa:bb:02"] }

theorem template_macs_read_back_of_two_masters :
    (twoMastersInfo.masterMacAddresses ≠ [] ∧
      ∀ m ∈ twoMastersInfo.masterMacAddresses, ',' ∉ m.data) ∧
    (∃ c ∈ (newMetal3PodTemplateSpec isoHelpers twoMastersInfo metal3Labels).spec.containers,
      c.name = "metal3-ironic-conductor" ∧ ∃ e ∈ c.env, e.name = "PROVISIONING_MACS") ∧
    ∀ c ∈
        (newMetal3PodTemplateSpec isoHelpers twoMastersInfo metal3Labels).spec.initContainers ++
        (newMetal3PodTemplateSpec isoHelpers twoMastersInfo metal3Labels).spec.containers,
      ∀ e ∈ c.env, e.name = "PROVISIONING_MACS" →
        splitCommaList e.value = twoMastersInfo.masterMacAddresses :=
  ⟨⟨by decide, by decide⟩,
    template_macs_read_back isoHelpers twoMastersInfo metal3Labels (by decide) (by decide)⟩

end Metal3Pod
