import Metal3Pod.Pod.Template

/-!
# The cross-cutting pass reaches every container once

`injectProxyAndCA` is applied separately to the init containers and to the long-running ones.
A builder's container owns no trusted-CA mount and no proxy variable (`Built`, checked
for every candidate of both lists through the builders' `_names` lemmas), and the pass appends the
trusted-CA mount to its own mounts and exactly the proxy variables of the non-empty proxy fields
(`proxyVars`) to its own variables (`withProxyAndCA_eq`).

`template_containers_injected`: for every configuration and every proxy, the containers of the pod
template are the builders' own containers, in order, each with the pass applied, so each carries
one trusted-CA mount, last, naming a volume of the pod, and the same proxy variables as every other
container, after its own.
-/

namespace Metal3Pod

open scoped List

/-- The names of the proxy variables. -/
def proxyEnvNames : List String := ["HTTP_PROXY", "HTTPS_PROXY", "NO_PROXY"]

/-- The proxy variables, as a list of the non-empty fields of the proxy's status in the order
HTTP, HTTPS, no-proxy, each under its variable name; none without a proxy. -/
def proxyVars : Option Proxy → List EnvVar
  | none => []
  | some p =>
    ([("HTTP_PROXY", p.status.httpProxy), ("HTTPS_PROXY", p.status.httpsProxy),
      ("NO_PROXY", p.status.noProxy)].filter (fun nv => nv.2 != "")).map
      fun nv => { name := nv.1, value := nv.2 }

theorem envWithProxy_nil (proxy : Option Proxy) : envWithProxy proxy [] = proxyVars proxy := by
  cases proxy with
  | none => rfl
  | some p => simp only [envWithProxy, proxyVars]; split_ifs <;> simp_all

/-- The proxy variables are named after distinct proxy fields, in order. -/
theorem proxyVars_names_sublist (proxy : Option Proxy) :
    (proxyVars proxy).map EnvVar.name <+ proxyEnvNames := by
  rw [← envWithProxy_nil]
  cases proxy with
  | none => exact List.nil_sublist _
  | some p =>
    simp only [envWithProxy]
    split_ifs <;> simp only [List.map_append, List.map_cons, List.map_nil] <;> decide

theorem proxyVars_names (proxy : Option Proxy) : ∀ e ∈ proxyVars proxy, e.name ∈ proxyEnvNames :=
  fun _ he => (proxyVars_names_sublist proxy).subset (List.mem_map_of_mem _ he)

/-- What every builder's container satisfies, before the cross-cutting pass. -/
@[mk_iff] structure Built (c : Container) : Prop where
  /-- It mounts no volume named `trusted-ca`. -/
  noTrustedCA : "trusted-ca" ∉ c.mountNames
  /-- It sets no proxy variable. -/
  noProxyVar : ∀ n ∈ c.envNames, n ∉ proxyEnvNames
  /-- Its variables have distinct names. -/
  envNames_nodup : c.envNames.Nodup
  /-- It mounts only volumes of the pod. -/
  mounts_declared : ∀ n ∈ c.mountNames, n ∈ metal3Volumes.map Volume.name

/-- The pass appends the proxy variables to the container's own variables and the trusted-CA
mount to its own mounts, and changes nothing else. -/
theorem withProxyAndCA_eq (proxy : Option Proxy) (c : Container) :
    withProxyAndCA proxy c =
      { c with env := c.env ++ proxyVars proxy, volumeMounts := c.volumeMounts ++ [trustedCAMount] } := by
  rw [withProxyAndCA, envWithProxy_eq_append, envWithProxy_nil, mountsWithTrustedCA]

theorem withProxyAndCA_env (proxy : Option Proxy) (c : Container) :
    (withProxyAndCA proxy c).env = c.env ++ proxyVars proxy := by
  rw [withProxyAndCA_eq]

/-- A builder's container, after the pass, has one trusted-CA mount. -/
theorem Built.filter_trustedCA {c : Container} (hb : Built c) :
    (c.volumeMounts ++ [trustedCAMount]).filter (·.name == "trusted-ca") = [trustedCAMount] := by
  rw [List.filter_append, List.filter_eq_nil_iff.2 fun m hm he =>
    hb.noTrustedCA (by simpa using (beq_iff_eq.1 he) ▸ List.mem_map_of_mem VolumeMount.name hm)]
  rfl

/-- A builder's container, after the pass, has exactly the proxy variables under proxy names. -/
theorem Built.filter_proxy {c : Container} (hb : Built c) (proxy : Option Proxy) :
    (c.env ++ proxyVars proxy).filter (·.name ∈ proxyEnvNames) = proxyVars proxy := by
  rw [List.filter_append, List.filter_eq_nil_iff.2 fun e he hp =>
      hb.noProxyVar _ (List.mem_map_of_mem _ he) (of_decide_eq_true hp),
    List.filter_eq_self.2 (by simpa using proxyVars_names proxy), List.nil_append]

@[simp] theorem withProxyAndCA_envNames (proxy : Option Proxy) (c : Container) :
    (withProxyAndCA proxy c).envNames = c.envNames ++ (proxyVars proxy).map EnvVar.name := by
  simp [withProxyAndCA, Container.envNames, envWithProxy_eq_append proxy c.env, envWithProxy_nil]

@[simp] theorem withProxyAndCA_mountNames (proxy : Option Proxy) (c : Container) :
    (withProxyAndCA proxy c).mountNames = c.mountNames ++ ["trusted-ca"] := by
  simp [withProxyAndCA, Container.mountNames, mountsWithTrustedCA, trustedCAMount]

/-- After the pass, a builder's container mounts only volumes of the pod. -/
theorem Built.withProxyAndCA_mounts_declared {c : Container} (hb : Built c)
    (proxy : Option Proxy) :
    ∀ n ∈ (withProxyAndCA proxy c).mountNames, n ∈ metal3Volumes.map Volume.name := by
  intro n hn
  rw [withProxyAndCA_mountNames, List.mem_append, List.mem_singleton] at hn
  rcases hn with hn | rfl
  · exact hb.mounts_declared n hn
  · decide

/-- After the pass, a builder's container still sets each variable once. -/
theorem Built.withProxyAndCA_envNames_nodup {c : Container} (hb : Built c)
    (proxy : Option Proxy) : (withProxyAndCA proxy c).envNames.Nodup := by
  rw [withProxyAndCA_envNames, List.nodup_append]
  exact ⟨hb.envNames_nodup, (proxyVars_names_sublist _).nodup (by decide),
    fun n hn hn' => hb.noProxyVar n hn ((proxyVars_names_sublist _).subset hn')⟩

section Candidates

variable (h : Helpers) (info : ProvisioningInfo)

theorem initContainerCandidates_built :
    ∀ c ∈ initContainerCandidates h info, Built c := by
  simp only [initContainerCandidates, List.forall_mem_cons, built_iff,
    createInitContainerStaticIpSet_names, createInitContainerMachineOsDownloader_names,
    createInitContainerConfigureCoreOSIPA_names, createInitContainerIpaDownloader_names]
  and_intros <;> decide

theorem containerCandidates_built : ∀ c ∈ containerCandidates h info, Built c := by
  simp only [containerCandidates, List.forall_mem_cons, built_iff,
    createContainerMetal3BaremetalOperator_names, createContainerMetal3Mariadb_names,
    createContainerMetal3Httpd_names, createContainerMetal3IronicConductor_names,
    createContainerIronicInspectorRamdiskLogs, createContainerIronicDeployRamdiskLogs,
    ramdiskLogsContainer_names, createContainerMetal3IronicApi_names,
    createContainerMetal3IronicInspector_names, createContainerMetal3StaticIpManager_names,
    createContainerMetal3Dnsmasq_names]
  and_intros <;> decide

theorem candidates_built :
    ∀ c ∈ initContainerCandidates h info ++ containerCandidates h info, Built c := by
  intro c hc
  rcases List.mem_append.1 hc with hc | hc
  · exact initContainerCandidates_built h info c hc
  · exact containerCandidates_built h info c hc

/-- The containers of the pod are the candidates after the pass, in order. -/
theorem podContainers_sublist (labels : StringMap) :
    (newMetal3PodTemplateSpec h info labels).spec.initContainers ++
        (newMetal3PodTemplateSpec h info labels).spec.containers <+
      (initContainerCandidates h info ++ containerCandidates h info).map
        (withProxyAndCA info.proxy) := by
  rw [newMetal3PodTemplateSpec_initContainers, newMetal3PodTemplateSpec_containers, List.map_append]
  exact (newMetal3InitContainers_sublist h info).append (newMetal3Containers_sublist h info)

/-- Every container of the pod template is a builder's container after the pass. -/
theorem podContainers_built (labels : StringMap) :
    ∀ c ∈ (newMetal3PodTemplateSpec h info labels).spec.initContainers ++
      (newMetal3PodTemplateSpec h info labels).spec.containers,
      ∃ c', Built c' ∧ c = withProxyAndCA info.proxy c' := by
  intro c hc
  obtain ⟨c', hc', rfl⟩ := List.mem_map.1 ((podContainers_sublist h info labels).subset hc)
  exact ⟨c', candidates_built h info c' hc', rfl⟩

/-- The containers of the pod template are, in order, builders' containers, each with its own
variables followed by the proxy variables of the non-empty proxy fields and its own mounts followed
by the read-only trusted-CA mount, and nothing else changed; the trusted-CA volume is a volume of the
pod, and each container has one trusted-CA mount and exactly those proxy variables. -/
theorem template_containers_injected (labels : StringMap) :
    "trusted-ca" ∈ (newMetal3PodTemplateSpec h info labels).spec.volumes.map Volume.name ∧
    ∃ own, own <+ initContainerCandidates h info ++ containerCandidates h info ∧
      (newMetal3PodTemplateSpec h info labels).spec.initContainers ++
          (newMetal3PodTemplateSpec h info labels).spec.containers =
        own.map (fun c => { c with
          env := c.env ++ proxyVars info.proxy,
          volumeMounts := c.volumeMounts ++
            [{ name := "trusted-ca", mountPath := "/etc/pki/ca-trust/extracted/pem",
               readOnly := true }] }) ∧
      ∀ c ∈ (newMetal3PodTemplateSpec h info labels).spec.initContainers ++
          (newMetal3PodTemplateSpec h info labels).spec.containers,
        c.volumeMounts.filter (·.name == "trusted-ca") =
          [{ name := "trusted-ca", mountPath := "/etc/pki/ca-trust/extracted/pem",
             readOnly := true }] ∧
        c.env.filter (·.name ∈ proxyEnvNames) = proxyVars info.proxy := by
  obtain ⟨own, hown, heq⟩ := List.sublist_map_iff.1 (podContainers_sublist h info labels)
  rw [funext (withProxyAndCA_eq info.proxy)] at heq
  refine ⟨by simp [metal3Volumes], own, hown, heq, fun c hc => ?_⟩
  obtain ⟨c', hc', rfl⟩ := List.mem_map.1 (heq ▸ hc)
  have hb := candidates_built h info c' (hown.subset hc')
  exact ⟨hb.filter_trustedCA, hb.filter_proxy _⟩

/-- Every container of the pod template sets each variable once, the proxy variables included. -/
theorem template_containers_envNames_nodup (labels : StringMap) :
    let spec := (newMetal3PodTemplateSpec h info labels).spec
    ∀ c ∈ spec.initContainers ++ spec.containers, c.envNames.Nodup := by
  intro spec c hc
  obtain ⟨c', hb, rfl⟩ := podContainers_built h info labels c hc
  exact hb.withProxyAndCA_envNames_nodup _

/-- Every volume a container of the pod template mounts is a volume of the pod. -/
theorem template_containers_mounts_declared (labels : StringMap) :
    let spec := (newMetal3PodTemplateSpec h info labels).spec
    ∀ c ∈ spec.initContainers ++ spec.containers, ∀ n ∈ c.mountNames,
      n ∈ spec.volumes.map Volume.name := by
  intro spec c hc
  obtain ⟨c', hb, rfl⟩ := podContainers_built h info labels c hc
  exact hb.withProxyAndCA_mounts_declared _

end Candidates

end Metal3Pod
