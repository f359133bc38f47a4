import Metal3Pod.Pod.Catalog

/-!
# The container builders

One definition per builder of `baremetal_pod.go`, with the fields the source sets: image, command,
pull policy, security context, mounts, environment, ports and resource requests. The builders
that end with `container.Env = envWithMasterMacAddresses(container.Env, macs)` are written with
that call around their environment list. The two log-tailing sidecars differ only in their name
and share `ramdiskLogsContainer`.

Each builder is followed by its `_names` lemma: the names of the variables and mounts it creates,
whatever the configuration. The pod-level results read the builders only through these.
-/

namespace Metal3Pod

/-- `&corev1.SecurityContext{Privileged: pointer.BoolPtr(true)}` -/
def privileged : Option SecurityContext := some { privileged := some true }

/-- `strconv.Atoi`, whose error the caller discards: an unparsable string reads as `0`. -/
def strconvAtoi (s : String) : Int := s.toInt?.getD 0

section Builders

variable (h : Helpers) (images : Images) (config : ProvisioningSpec) (info : ProvisioningInfo)
  (macs : List String) (sshKey : String)

/-! ## Init containers -/

def createInitContainerIpaDownloader (images : Images) : Container :=
  { name := "metal3-ipa-downloader", image := images.ipaDownloader,
    command := ["/usr/local/bin/get-resource.sh"], imagePullPolicy := "IfNotPresent",
    securityContext := privileged, volumeMounts := [imageVolumeMount], env := [],
    resources := ⟨"10m", "50Mi"⟩ }

@[simp] theorem createInitContainerIpaDownloader_names :
    (createInitContainerIpaDownloader images).envNames = [] ∧
      (createInitContainerIpaDownloader images).mountNames = [imageCacheSharedVolume] :=
  ⟨rfl, rfl⟩

/-- Configures the live ISO by embedding the agent's ignition. -/
def createInitContainerConfigureCoreOSIPA (info : ProvisioningInfo) : Container :=
  let config := info.provConfig.spec
  { name := "metal3-configure-coreos-ipa", image := info.images.ironic,
    command := ["/bin/configure-coreos-ipa"], imagePullPolicy := "IfNotPresent",
    securityContext := privileged,
    volumeMounts := [sharedVolumeMount, imageVolumeMount, ironicCredentialsMount, ironicTlsMount],
    env := envWithMasterMacAddresses
      [buildEnvVar h provisioningIP config, buildEnvVar h provisioningInterface config,
        buildSSHKeyEnvVar info.sshKey, pullSecret] info.masterMacAddresses,
    resources := ⟨"10m", "50Mi"⟩ }

@[simp] theorem createInitContainerConfigureCoreOSIPA_names :
    (createInitContainerConfigureCoreOSIPA h info).envNames =
        [provisioningIP, provisioningInterface, sshKeyEnvVar, pullSecretEnvVar,
          "PROVISIONING_MACS"] ∧
      (createInitContainerConfigureCoreOSIPA h info).mountNames =
        [baremetalSharedVolume, imageCacheSharedVolume, ironicCredentialsVolume,
          ironicTlsVolume] :=
  ⟨by simp [Container.envNames, envWithMasterMacAddresses, createInitContainerConfigureCoreOSIPA,
    buildSSHKeyEnvVar, pullSecret], rfl⟩

def ipOptionForMachineOsDownloader (info : ProvisioningInfo) : String :=
  match info.networkStack with
  | .v4 => "ip=dhcp"
  | .v6 => "ip=dhcp6"
  | .dual => ""

def createInitContainerMachineOsDownloader (info : ProvisioningInfo) (imageURLs : String)
    (useLiveImages setIpOptions : Bool) : Container :=
  let command := if useLiveImages then "/usr/local/bin/get-live-images.sh"
    else "/usr/local/bin/get-resource.sh"
  let env : List EnvVar := [{ name := machineImageUrl, value := imageURLs }]
  let env := if setIpOptions then
    env ++ [{ name := ipOptions, value := ipOptionForMachineOsDownloader info }] else env
  { name := "metal3-machine-os-downloader", image := info.images.machineOsDownloader,
    command := [command], imagePullPolicy := "IfNotPresent", securityContext := privileged,
    volumeMounts := [imageVolumeMount], env, resources := ⟨"10m", "50Mi"⟩ }

@[simp] theorem createInitContainerMachineOsDownloader_names (imageURLs : String)
    (useLiveImages setIpOptions : Bool) :
    (createInitContainerMachineOsDownloader info imageURLs useLiveImages setIpOptions).envNames =
        (machineImageUrl :: if setIpOptions then [ipOptions] else []) ∧
      (createInitContainerMachineOsDownloader info imageURLs useLiveImages
        setIpOptions).mountNames = [imageCacheSharedVolume] :=
  ⟨by cases setIpOptions <;> rfl, rfl⟩

def createInitContainerStaticIpSet (images : Images) (config : ProvisioningSpec) : Container :=
  { name := "metal3-static-ip-set", image := images.staticIpManager, command := ["/set-static-ip"],
    imagePullPolicy := "IfNotPresent", securityContext := privileged,
    env := [buildEnvVar h provisioningIP config, buildEnvVar h provisioningInterface config],
    resources := ⟨"10m", "50Mi"⟩ }

@[simp] theorem createInitContainerStaticIpSet_names :
    (createInitContainerStaticIpSet h images config).envNames =
        [provisioningIP, provisioningInterface] ∧
      (createInitContainerStaticIpSet h images config).mountNames = [] :=
  ⟨by simp [Container.envNames, createInitContainerStaticIpSet], rfl⟩

/-! ## Long-running containers -/

def createContainerMetal3BaremetalOperator (images : Images) (config : ProvisioningSpec) :
    Container :=
  { name := "metal3-baremetal-operator", image := images.baremetalOperator,
    ports := [{ name := "metrics", containerPort := 60000, hostPort := 60000 }],
    command := ["/baremetal-operator"], args := ["--health-addr", ":9446"],
    imagePullPolicy := "IfNotPresent",
    volumeMounts := [ironicCredentialsMount, inspectorCredentialsMount, ironicTlsMount],
    env := [getWatchNamespace config,
      { name := "POD_NAMESPACE", valueFrom := some (.fieldRef "metadata.namespace") },
      { name := "POD_NAME", valueFrom := some (.fieldRef "metadata.name") },
      { name := "OPERATOR_NAME", value := "baremetal-operator" },
      { name := ironicCertEnvVar, value := metal3TlsRootDir ++ "/ironic/" ++ tlsCertKey },
      { name := ironicInsecureEnvVar, value := "true" },
      buildEnvVar h deployKernelUrl config, buildEnvVar h deployRamdiskUrl config,
      buildEnvVar h ironicEndpoint config, buildEnvVar h ironicInspectorEndpoint config,
      { name := "METAL3_AUTH_ROOT_DIR", value := metal3AuthRootDir }],
    resources := ⟨"20m", "50Mi"⟩ }

@[simp] theorem createContainerMetal3BaremetalOperator_names :
    (createContainerMetal3BaremetalOperator h images config).envNames =
        ["WATCH_NAMESPACE", "POD_NAMESPACE", "POD_NAME", "OPERATOR_NAME", ironicCertEnvVar,
          ironicInsecureEnvVar, deployKernelUrl, deployRamdiskUrl, ironicEndpoint,
          ironicInspectorEndpoint, "METAL3_AUTH_ROOT_DIR"] ∧
      (createContainerMetal3BaremetalOperator h images config).mountNames =
        [ironicCredentialsVolume, inspectorCredentialsVolume, ironicTlsVolume] :=
  ⟨by simp [Container.envNames, createContainerMetal3BaremetalOperator], rfl⟩

def createContainerMetal3Dnsmasq (images : Images) (config : ProvisioningSpec)
    (macs : List String) : Container :=
  { name := "metal3-dnsmasq", image := images.ironic, imagePullPolicy := "IfNotPresent",
    securityContext := privileged, command := ["/bin/rundnsmasq"],
    volumeMounts := [sharedVolumeMount, imageVolumeMount],
    env := envWithMasterMacAddresses
      [buildEnvVar h httpPort config, buildEnvVar h provisioningInterface config,
        buildEnvVar h dhcpRange config] macs,
    resources := ⟨"5m", "5Mi"⟩ }

@[simp] theorem createContainerMetal3Dnsmasq_names :
    (createContainerMetal3Dnsmasq h images config macs).envNames =
        [httpPort, provisioningInterface, dhcpRange, "PROVISIONING_MACS"] ∧
      (createContainerMetal3Dnsmasq h images config macs).mountNames =
        [baremetalSharedVolume, imageCacheSharedVolume] :=
  ⟨by simp [Container.envNames, envWithMasterMacAddresses, createContainerMetal3Dnsmasq], rfl⟩

def createContainerMetal3Mariadb (images : Images) : Container :=
  { name := "metal3-mariadb", image := images.ironic, imagePullPolicy := "IfNotPresent",
    securityContext := privileged, command := ["/bin/runmariadb"],
    volumeMounts := [sharedVolumeMount], env := [mariadbPassword],
    ports := [{ name := "mysql", containerPort := 3306, hostPort := 3306 }],
    resources := ⟨"15m", "80Mi"⟩ }

@[simp] theorem createContainerMetal3Mariadb_names :
    (createContainerMetal3Mariadb images).envNames = [mariadbPwdEnvVar] ∧
      (createContainerMetal3Mariadb images).mountNames = [baremetalSharedVolume] :=
  ⟨rfl, rfl⟩

def createContainerMetal3Httpd (images : Images) (config : ProvisioningSpec) (macs : List String)
    (sshKey : String) : Container :=
  let port := strconvAtoi baremetalHttpPort
  { name := "metal3-httpd", image := images.ironic, imagePullPolicy := "IfNotPresent",
    securityContext := privileged, command := ["/bin/runhttpd"],
    volumeMounts := [sharedVolumeMount, imageVolumeMount, ironicTlsMount, inspectorTlsMount],
    env := envWithMasterMacAddresses
      [buildEnvVar h httpPort config, buildEnvVar h provisioningIP config,
        buildEnvVar h provisioningInterface config, buildSSHKeyEnvVar sshKey] macs,
    ports := [{ name := httpPortName, containerPort := port, hostPort := port }],
    resources := ⟨"5m", "50Mi"⟩ }

@[simp] theorem createContainerMetal3Httpd_names :
    (createContainerMetal3Httpd h images config macs sshKey).envNames =
        [httpPort, provisioningIP, provisioningInterface, sshKeyEnvVar, "PROVISIONING_MACS"] ∧
      (createContainerMetal3Httpd h images config macs sshKey).mountNames =
        [baremetalSharedVolume, imageCacheSharedVolume, ironicTlsVolume, inspectorTlsVolume] :=
  ⟨by simp [Container.envNames, envWithMasterMacAddresses, createContainerMetal3Httpd,
    buildSSHKeyEnvVar], rfl⟩

def createContainerMetal3IronicConductor (images : Images) (config : ProvisioningSpec)
    (macs : List String) (sshKey : String) : Container :=
  { name := "metal3-ironic-conductor", image := images.ironic, imagePullPolicy := "IfNotPresent",
    securityContext := privileged, command := ["/bin/runironic-conductor"],
    volumeMounts := [sharedVolumeMount, imageVolumeMount, inspectorCredentialsMount,
      rpcCredentialsMount, ironicTlsMount, inspectorTlsMount],
    env := envWithMasterMacAddresses
      [mariadbPassword, { name := ironicInsecureEnvVar, value := "true" },
        { name := inspectorInsecureEnvVar, value := "true" },
        buildEnvVar h httpPort config, buildEnvVar h provisioningIP config,
        buildEnvVar h provisioningInterface config, buildSSHKeyEnvVar sshKey,
        setIronicHtpasswdHash htpasswdEnvVar ironicrpcSecretName,
        setIronicExternalIp externalIpEnvVar config] macs,
    ports := [{ name := "json-rpc", containerPort := 8089, hostPort := 8089 }],
    resources := ⟨"50m", "500Mi"⟩ }

@[simp] theorem createContainerMetal3IronicConductor_names :
    (createContainerMetal3IronicConductor h images config macs sshKey).envNames =
        [mariadbPwdEnvVar, ironicInsecureEnvVar, inspectorInsecureEnvVar, httpPort,
          provisioningIP, provisioningInterface, sshKeyEnvVar, htpasswdEnvVar, externalIpEnvVar,
          "PROVISIONING_MACS"] ∧
      (createContainerMetal3IronicConductor h images config macs sshKey).mountNames =
        [baremetalSharedVolume, imageCacheSharedVolume, inspectorCredentialsVolume,
          ironicrpcCredentialsVolume, ironicTlsVolume, inspectorTlsVolume] :=
  ⟨by simp [Container.envNames, envWithMasterMacAddresses, createContainerMetal3IronicConductor,
    mariadbPassword, buildSSHKeyEnvVar, setIronicHtpasswdHash], rfl⟩

def createContainerMetal3IronicApi (images : Images) (config : ProvisioningSpec)
    (macs : List String) : Container :=
  { name := "metal3-ironic-api", image := images.ironic, imagePullPolicy := "IfNotPresent",
    securityContext := privileged, command := ["/bin/runironic-api"],
    volumeMounts := [sharedVolumeMount, rpcCredentialsMount, ironicTlsMount],
    env := envWithMasterMacAddresses
      [mariadbPassword, { name := ironicInsecureEnvVar, value := "true" },
        buildEnvVar h httpPort config, buildEnvVar h provisioningIP config,
        buildEnvVar h provisioningInterface config,
        setIronicHtpasswdHash htpasswdEnvVar ironicSecretName,
        setIronicExternalIp externalIpEnvVar config] macs,
    ports := [{ name := "ironic", containerPort := 6385, hostPort := 6385 }],
    resources := ⟨"150m", "300Mi"⟩ }

@[simp] theorem createContainerMetal3IronicApi_names :
    (createContainerMetal3IronicApi h images config macs).envNames =
        [mariadbPwdEnvVar, ironicInsecureEnvVar, httpPort, provisioningIP, provisioningInterface,
          htpasswdEnvVar, externalIpEnvVar, "PROVISIONING_MACS"] ∧
      (createContainerMetal3IronicApi h images config macs).mountNames =
        [baremetalSharedVolume, ironicrpcCredentialsVolume, ironicTlsVolume] :=
  ⟨by simp [Container.envNames, envWithMasterMacAddresses, createContainerMetal3IronicApi,
    mariadbPassword, setIronicHtpasswdHash], rfl⟩

def createContainerMetal3IronicInspector (images : Images) (config : ProvisioningSpec)
    (macs : List String) : Container :=
  { name := "metal3-ironic-inspector", image := images.ironic, imagePullPolicy := "IfNotPresent",
    securityContext := privileged, command := ["/bin/runironic-inspector"],
    volumeMounts := [sharedVolumeMount, ironicCredentialsMount, ironicTlsMount, inspectorTlsMount],
    env := envWithMasterMacAddresses
      [{ name := ironicInsecureEnvVar, value := "true" }, buildEnvVar h provisioningIP config,
        buildEnvVar h provisioningInterface config,
        setIronicHtpasswdHash htpasswdEnvVar inspectorSecretName] macs,
    ports := [{ name := "inspector", containerPort := 5050, hostPort := 5050 }],
    resources := ⟨"40m", "100Mi"⟩ }

@[simp] theorem createContainerMetal3IronicInspector_names :
    (createContainerMetal3IronicInspector h images config macs).envNames =
        [ironicInsecureEnvVar, provisioningIP, provisioningInterface, htpasswdEnvVar,
          "PROVISIONING_MACS"] ∧
      (createContainerMetal3IronicInspector h images config macs).mountNames =
        [baremetalSharedVolume, ironicCredentialsVolume, ironicTlsVolume, inspectorTlsVolume] :=
  ⟨by simp [Container.envNames, envWithMasterMacAddresses, createContainerMetal3IronicInspector,
    setIronicHtpasswdHash], rfl⟩

def createContainerMetal3StaticIpManager (images : Images) (config : ProvisioningSpec)
    (macs : List String) : Container :=
  { name := "metal3-static-ip-manager", image := images.staticIpManager,
    command := ["/refresh-static-ip"], imagePullPolicy := "IfNotPresent",
    securityContext := privileged,
    env := envWithMasterMacAddresses
      [buildEnvVar h provisioningIP config, buildEnvVar h provisioningInterface config] macs,
    resources := ⟨"5m", "50Mi"⟩ }

@[simp] theorem createContainerMetal3StaticIpManager_names :
    (createContainerMetal3StaticIpManager h images config macs).envNames =
        [provisioningIP, provisioningInterface, "PROVISIONING_MACS"] ∧
      (createContainerMetal3StaticIpManager h images config macs).mountNames = [] :=
  ⟨by simp [Container.envNames, envWithMasterMacAddresses, createContainerMetal3StaticIpManager],
    rfl⟩

/-- The log-tailing sidecar shared by the two ramdisk log containers. -/
def ramdiskLogsContainer (name : String) (images : Images) : Container :=
  { name, image := images.ironic, imagePullPolicy := "IfNotPresent", securityContext := privileged,
    command := ["/bin/runlogwatch.sh"], volumeMounts := [sharedVolumeMount],
    resources := ⟨"10m", "5Mi"⟩ }

@[simp] theorem ramdiskLogsContainer_names (name : String) :
    (ramdiskLogsContainer name images).envNames = [] ∧
      (ramdiskLogsContainer name images).mountNames = [baremetalSharedVolume] :=
  ⟨rfl, rfl⟩

def createContainerIronicDeployRamdiskLogs (images : Images) : Container :=
  ramdiskLogsContainer "ironic-deploy-ramdisk-logs" images

def createContainerIronicInspectorRamdiskLogs (images : Images) : Container :=
  ramdiskLogsContainer "ironic-inspector-ramdisk-logs" images

end Builders

end Metal3Pod
