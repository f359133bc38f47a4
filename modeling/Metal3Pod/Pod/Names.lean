import Metal3Pod.Pod.Template

/-!
# Which containers the pod holds, and their names

`newMetal3InitContainers_names` and `newMetal3Containers_names` give the names of the two lists as
conditional pieces, one per append of the source. From them:

* `containerNames_sublist`: unless both the live-OS URLs and the single-asset URL are set, the
  pod's names form a sublist of `metal3ContainerNames`, a list without repetition, so they are
  pairwise distinct. When both are set, the two OS downloaders share the name
  `metal3-machine-os-downloader` (`containerNames_not_nodup`), and the orchestrator rejects the pod;
  `containerNames_nodup_iff` puts the two together.
* `staticIpSet_mem_iff_staticIpManager_mem`: the static-IP setter and refresher, gated by two
  copies of one condition, are present together.
-/

namespace Metal3Pod

open scoped List

/-- The names of a pod's containers, init containers first. The orchestrator requires them to be
pairwise distinct. -/
def PodSpec.containerNames (p : PodSpec) : List String :=
  (p.initContainers ++ p.containers).map Container.name

/-- Every name an init container of the pod can carry, in the order the builders append them. -/
def metal3InitContainerNames : List String :=
  ["metal3-static-ip-set", "metal3-machine-os-downloader", "metal3-configure-coreos-ipa",
    "metal3-ipa-downloader"]

/-- The long-running containers present in every pod. -/
def metal3FixedContainerNames : List String :=
  ["metal3-baremetal-operator", "metal3-mariadb", "metal3-httpd", "metal3-ironic-conductor",
    "ironic-inspector-ramdisk-logs", "metal3-ironic-api", "ironic-deploy-ramdisk-logs",
    "metal3-ironic-inspector"]

/-- Every name a container of the pod can carry. -/
def metal3ContainerNames : List String :=
  metal3InitContainerNames ++ metal3FixedContainerNames ++
    ["metal3-static-ip-manager", "metal3-dnsmasq"]

theorem metal3ContainerNames_nodup : metal3ContainerNames.Nodup := by decide

section Names

variable (h : Helpers) (info : ProvisioningInfo)

theorem newMetal3InitContainers_names :
    (newMetal3InitContainers h info).map Container.name =
      (if (info.provConfig.spec.provisioningIP != "" &&
          info.provConfig.spec.provisioningNetwork != provisioningNetworkDisabled) = true then
        ["metal3-static-ip-set"] else []) ++
      (if (h.getPreProvisioningOSDownloadURLs info.provConfig.spec).length > 0 then
        "metal3-machine-os-downloader" ::
          (if (info.provConfig.spec.preProvisioningOSDownloadURLs.isoURL != "") = true then
            ["metal3-configure-coreos-ipa"] else [])
        else []) ++
      (if (info.provConfig.spec.provisioningOSDownloadURL != "") = true then
        ["metal3-machine-os-downloader"] else []) ++
      (if (!h.isCoreOSIPAAvailable info.provConfig.spec) = true then
        ["metal3-ipa-downloader"] else []) := by
  simp only [newMetal3InitContainers, injectProxyAndCA_eq_map, List.map_map,
    apply_ite (List.map _), List.map_append, List.map_cons, List.map_nil, Function.comp_def,
    withProxyAndCA_name]
  rfl

theorem newMetal3Containers_names :
    (newMetal3Containers h info).map Container.name =
      metal3FixedContainerNames ++
      (if (info.provConfig.spec.provisioningIP != "" &&
          info.provConfig.spec.provisioningNetwork != provisioningNetworkDisabled) = true then
        ["metal3-static-ip-manager"] else []) ++
      (if (info.provConfig.spec.provisioningNetwork != provisioningNetworkDisabled) = true then
        ["metal3-dnsmasq"] else []) := by
  simp only [newMetal3Containers, injectProxyAndCA_eq_map, List.map_map,
    apply_ite (List.map _), List.map_append, List.map_cons, List.map_nil, Function.comp_def,
    withProxyAndCA_name]
  rfl

/-! ## Distinct names, and the one repetition -/

theorem initContainerNames_sublist
    (hne : ¬((h.getPreProvisioningOSDownloadURLs info.provConfig.spec).length > 0 ∧
      info.provConfig.spec.provisioningOSDownloadURL ≠ "")) :
    (newMetal3InitContainers h info).map Container.name <+ metal3InitContainerNames := by
  rw [newMetal3InitContainers_names]
  by_cases hl : (h.getPreProvisioningOSDownloadURLs info.provConfig.spec).length > 0
  · have hs : info.provConfig.spec.provisioningOSDownloadURL = "" := by
      by_contra hs; exact hne ⟨hl, hs⟩
    simp only [hl, hs, if_true, bne_self_eq_false, Bool.false_eq_true, if_false, List.append_nil]
    exact ((ite_singleton_sublist _ _).append ((ite_singleton_sublist _ _).cons₂ _)).append
      (ite_singleton_sublist _ _)
  · simp only [hl, if_false, List.append_nil]
    exact ((ite_singleton_sublist _ _).append (ite_singleton_sublist _ _)).append
      ((ite_singleton_sublist _ _).cons _)

theorem newMetal3Containers_names_sublist :
    (newMetal3Containers h info).map Container.name <+
      metal3FixedContainerNames ++ ["metal3-static-ip-manager", "metal3-dnsmasq"] := by
  rw [newMetal3Containers_names, List.append_assoc]
  exact ((ite_singleton_sublist _ _).append (ite_singleton_sublist _ _)).append_left _

/-- Unless both OS download sources are set, the pod's names are a sublist of
`metal3ContainerNames`. -/
theorem containerNames_sublist (labels : StringMap)
    (hne : ¬(h.getPreProvisioningOSDownloadURLs info.provConfig.spec ≠ [] ∧
      info.provConfig.spec.provisioningOSDownloadURL ≠ "")) :
    (newMetal3PodTemplateSpec h info labels).spec.containerNames <+ metal3ContainerNames := by
  simp only [PodSpec.containerNames, newMetal3PodTemplateSpec_initContainers,
    newMetal3PodTemplateSpec_containers, List.map_append, metal3ContainerNames, List.append_assoc]
  exact (initContainerNames_sublist h info (by rwa [gt_iff_lt, List.length_pos])).append
    (newMetal3Containers_names_sublist h info)

theorem osDownloader_pair_sublist
    (hl : (h.getPreProvisioningOSDownloadURLs info.provConfig.spec).length > 0)
    (hs : info.provConfig.spec.provisioningOSDownloadURL ≠ "") :
    ["metal3-machine-os-downloader", "metal3-machine-os-downloader"] <+
      (newMetal3InitContainers h info).map Container.name := by
  rw [newMetal3InitContainers_names]
  simp only [hl, hs, if_true, bne_iff_ne, ne_eq, not_false_eq_true]
  exact ((List.sublist_append_of_sublist_right ((List.nil_sublist _).cons₂ _)).append
    (List.Sublist.refl _)).trans (List.sublist_append_left _ _)

/-- Both OS downloaders are named `metal3-machine-os-downloader`. -/
theorem containerNames_duplicate (labels : StringMap)
    (hl : h.getPreProvisioningOSDownloadURLs info.provConfig.spec ≠ [])
    (hs : info.provConfig.spec.provisioningOSDownloadURL ≠ "") :
    ["metal3-machine-os-downloader", "metal3-machine-os-downloader"] <+
      (newMetal3PodTemplateSpec h info labels).spec.containerNames :=
  (osDownloader_pair_sublist h info (List.length_pos.2 hl) hs).trans
    (by simp [PodSpec.containerNames])

/-- When both the live-OS URLs and the single-asset URL are set, the pod's names repeat. -/
theorem containerNames_not_nodup (labels : StringMap)
    (hl : h.getPreProvisioningOSDownloadURLs info.provConfig.spec ≠ [])
    (hs : info.provConfig.spec.provisioningOSDownloadURL ≠ "") :
    ¬(newMetal3PodTemplateSpec h info labels).spec.containerNames.Nodup := fun hnd =>
  List.nodup_iff_sublist.1 hnd _ (containerNames_duplicate h info labels hl hs)

/-- The pod's names are pairwise distinct exactly when the two OS download sources are not both
set. -/
theorem containerNames_nodup_iff (labels : StringMap) :
    (newMetal3PodTemplateSpec h info labels).spec.containerNames.Nodup ↔
      ¬(h.getPreProvisioningOSDownloadURLs info.provConfig.spec ≠ [] ∧
        info.provConfig.spec.provisioningOSDownloadURL ≠ "") :=
  ⟨fun hnd ⟨hl, hs⟩ => List.nodup_iff_sublist.1 hnd _ (containerNames_duplicate h info labels hl hs),
    fun hne => metal3ContainerNames_nodup.sublist (containerNames_sublist h info labels hne)⟩

/-! ## Gated containers -/

theorem staticIpSet_mem_iff :
    "metal3-static-ip-set" ∈ (newMetal3InitContainers h info).map Container.name ↔
      info.provConfig.spec.provisioningIP ≠ "" ∧
        info.provConfig.spec.provisioningNetwork ≠ provisioningNetworkDisabled := by
  rw [newMetal3InitContainers_names]
  simp

theorem staticIpManager_mem_iff :
    "metal3-static-ip-manager" ∈ (newMetal3Containers h info).map Container.name ↔
      info.provConfig.spec.provisioningIP ≠ "" ∧
        info.provConfig.spec.provisioningNetwork ≠ provisioningNetworkDisabled := by
  rw [newMetal3Containers_names]
  simp [metal3FixedContainerNames]

/-- The static-IP setter and the static-IP refresher are present together, exactly when a
provisioning IP is set and the provisioning network is not disabled. -/
theorem staticIpSet_mem_iff_staticIpManager_mem (labels : StringMap) :
    let spec := (newMetal3PodTemplateSpec h info labels).spec
    ("metal3-static-ip-set" ∈ spec.initContainers.map Container.name ↔
      "metal3-static-ip-manager" ∈ spec.containers.map Container.name) ∧
    ("metal3-static-ip-manager" ∈ spec.containers.map Container.name ↔
      info.provConfig.spec.provisioningIP ≠ "" ∧
        info.provConfig.spec.provisioningNetwork ≠ provisioningNetworkDisabled) := by
  simp only [newMetal3PodTemplateSpec_initContainers, newMetal3PodTemplateSpec_containers]
  exact ⟨(staticIpSet_mem_iff h info).trans (staticIpManager_mem_iff h info).symm,
    staticIpManager_mem_iff h info⟩

end Names

/-- The helpers of `containerNames_not_nodup_of_iso_and_asset`: no configured values, the ISO URL
as the live-OS URLs, and the agent's assets shipped with the image. -/
def isoHelpers : Helpers :=
  ⟨fun _ _ => none, fun spec => [spec.preProvisioningOSDownloadURLs.isoURL], fun _ => true⟩

/-- A configuration with a live ISO URL and a single-asset URL. -/
def isoAndAssetInfo : ProvisioningInfo :=
  { provConfig :=
      { spec := { provisioningOSDownloadURL := "http://assets/image.qcow2",
                  preProvisioningOSDownloadURLs := { isoURL := "http://assets/live.iso" } } },
    networkStack := .v4 }

theorem containerNames_not_nodup_of_iso_and_asset :
    (isoHelpers.getPreProvisioningOSDownloadURLs isoAndAssetInfo.provConfig.spec ≠ [] ∧
      isoAndAssetInfo.provConfig.spec.provisioningOSDownloadURL ≠ "") ∧
    ¬(newMetal3PodTemplateSpec isoHelpers isoAndAssetInfo metal3Labels).spec.containerNames.Nodup :=
  ⟨⟨by decide, by decide⟩, containerNames_not_nodup _ _ _ (by decide) (by decide)⟩

end Metal3Pod
