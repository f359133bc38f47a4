import Metal3Pod.Provisioning

/-!
# The volume catalog and the environment composers

The constants of `baremetal_pod.go`, its volume mounts and the pod's volume list
(`metal3Volumes`), and the functions that compose a container's environment: `buildEnvVar`
(a configured value, the host IP, or an empty placeholder), the secret-backed and host-IP
variables, the MAC address list and the proxy variables, and the trusted-CA mount. Each composer
comes with the lemma giving the name of what it builds; the container proofs read names only
through these.
-/

namespace Metal3Pod

/-! ## Constants -/

def metal3AppName : String := "metal3"
def baremetalDeploymentName : String := "metal3"
def baremetalSharedVolume : String := "metal3-shared"
def metal3AuthRootDir : String := "/auth"
def metal3TlsRootDir : String := "/certs"
def ironicCredentialsVolume : String := "metal3-ironic-basic-auth"
def ironicrpcCredentialsVolume : String := "metal3-ironic-rpc-basic-auth"
def inspectorCredentialsVolume : String := "metal3-inspector-basic-auth"
def ironicTlsVolume : String := "metal3-ironic-tls"
def inspectorTlsVolume : String := "metal3-inspector-tls"
def htpasswdEnvVar : String := "HTTP_BASIC_HTPASSWD"
def mariadbPwdEnvVar : String := "MARIADB_PASSWORD"
def ironicInsecureEnvVar : String := "IRONIC_INSECURE"
def inspectorInsecureEnvVar : String := "IRONIC_INSPECTOR_INSECURE"
def ironicCertEnvVar : String := "IRONIC_CACERT_FILE"
def sshKeyEnvVar : String := "IRONIC_RAMDISK_SSH_KEY"
def externalIpEnvVar : String := "IRONIC_EXTERNAL_IP"
def cboOwnedAnnotation : String := "baremetal.openshift.io/owned"
def cboLabelName : String := "baremetal.openshift.io/cluster-baremetal-operator"
def externalTrustBundleConfigMapName : String := "cbo-trusted-ca"
def pullSecretEnvVar : String := "IRONIC_AGENT_PULL_SECRET"

def podTemplateAnnotations : StringMap :=
  .ofList [("target.workload.openshift.io/management",
    "\x7b\"effect\": \"PreferredDuringScheduling\"\x7d")]

/-! ## Volume mounts and volumes -/

/-- Modelled from the spec: the name of the image cache volume, declared outside
`baremetal_pod.go`. -/
def imageCacheSharedVolume : String := "metal3-cache"

/-- Modelled from the spec: the mount of the image cache volume, declared outside
`baremetal_pod.go`. -/
def imageVolumeMount : VolumeMount :=
  { name := imageCacheSharedVolume, mountPath := "/shared/html/images" }

/-- Modelled from the spec: `imageVolume()`, the image cache volume, declared outside
`baremetal_pod.go`. -/
def imageVolume : Volume :=
  { name := imageCacheSharedVolume,
    source := .hostPath "/var/lib/metal3/images" (some "DirectoryOrCreate") }

def sharedVolumeMount : VolumeMount :=
  { name := baremetalSharedVolume, mountPath := "/shared" }

def ironicCredentialsMount : VolumeMount :=
  { name := ironicCredentialsVolume, mountPath := metal3AuthRootDir ++ "/ironic", readOnly := true }

def rpcCredentialsMount : VolumeMount :=
  { name := ironicrpcCredentialsVolume, mountPath := metal3AuthRootDir ++ "/ironic-rpc",
    readOnly := true }

def inspectorCredentialsMount : VolumeMount :=
  { name := inspectorCredentialsVolume, mountPath := metal3AuthRootDir ++ "/ironic-inspector",
    readOnly := true }

def ironicTlsMount : VolumeMount :=
  { name := ironicTlsVolume, mountPath := metal3TlsRootDir ++ "/ironic", readOnly := true }

def inspectorTlsMount : VolumeMount :=
  { name := inspectorTlsVolume, mountPath := metal3TlsRootDir ++ "/ironic-inspector",
    readOnly := true }

def mariadbPassword : EnvVar :=
  { name := mariadbPwdEnvVar,
    valueFrom := some (.secretKeyRef baremetalSecretName baremetalSecretKey) }

def pullSecret : EnvVar :=
  { name := pullSecretEnvVar,
    valueFrom := some (.secretKeyRef pullSecretName openshiftConfigSecretKey) }

/-- The three keys projected from each credentials secret. -/
def credentialsItems : List KeyToPath :=
  [⟨ironicUsernameKey, ironicUsernameKey⟩, ⟨ironicPasswordKey, ironicPasswordKey⟩,
    ⟨ironicConfigKey, ironicConfigKey⟩]

def metal3Volumes : List Volume :=
  [ { name := baremetalSharedVolume, source := .emptyDir },
    imageVolume,
    { name := ironicCredentialsVolume, source := .secret ironicSecretName credentialsItems },
    { name := ironicrpcCredentialsVolume, source := .secret ironicrpcSecretName credentialsItems },
    { name := inspectorCredentialsVolume, source := .secret inspectorSecretName credentialsItems },
    { name := "trusted-ca",
      source := .configMap externalTrustBundleConfigMapName
        [⟨"ca-bundle.crt", "tls-ca-bundle.pem"⟩] (some true) },
    { name := ironicTlsVolume, source := .secret tlsSecretName [] },
    { name := inspectorTlsVolume, source := .secret tlsSecretName [] } ]

/-! ## Environment composers -/

section Composers

variable (h : Helpers)

def buildEnvVar (name : String) (baremetalProvisioningConfig : ProvisioningSpec) : EnvVar :=
  match h.getMetal3DeploymentConfig name baremetalProvisioningConfig with
  | some value => { name, value }
  | none =>
    if name == provisioningIP &&
        baremetalProvisioningConfig.provisioningNetwork == provisioningNetworkDisabled then
      { name, valueFrom := some (.fieldRef "status.hostIP") }
    else { name }

@[simp] theorem buildEnvVar_name (name : String) (config : ProvisioningSpec) :
    (buildEnvVar h name config).name = name := by
  unfold buildEnvVar
  split
  · rfl
  · split <;> rfl

end Composers

def setIronicHtpasswdHash (name secretName : String) : EnvVar :=
  { name, valueFrom := some (.secretKeyRef secretName ironicHtpasswdKey) }

def setIronicExternalIp (name : String) (config : ProvisioningSpec) : EnvVar :=
  if config.provisioningNetwork != provisioningNetworkDisabled &&
      config.virtualMediaViaExternalNetwork then
    { name, valueFrom := some (.fieldRef "status.hostIP") }
  else { name }

@[simp] theorem setIronicExternalIp_name (name : String) (config : ProvisioningSpec) :
    (setIronicExternalIp name config).name = name := by
  unfold setIronicExternalIp
  split <;> rfl

def getWatchNamespace (config : ProvisioningSpec) : EnvVar :=
  if config.watchAllNamespaces then { name := "WATCH_NAMESPACE", value := "" }
  else { name := "WATCH_NAMESPACE", valueFrom := some (.fieldRef "metadata.namespace") }

@[simp] theorem getWatchNamespace_name (config : ProvisioningSpec) :
    (getWatchNamespace config).name = "WATCH_NAMESPACE" := by
  unfold getWatchNamespace
  split <;> rfl

def buildSSHKeyEnvVar (sshKey : String) : EnvVar := { name := sshKeyEnvVar, value := sshKey }

def envWithMasterMacAddresses (envVars : List EnvVar) (macs : List String) : List EnvVar :=
  envVars ++ [{ name := "PROVISIONING_MACS", value := ",".intercalate macs }]

def envWithProxy (proxy : Option Proxy) (envVars : List EnvVar) : List EnvVar :=
  match proxy with
  | none => envVars
  | some proxy =>
    let envVars := if proxy.status.httpProxy != "" then
      envVars ++ [{ name := "HTTP_PROXY", value := proxy.status.httpProxy }] else envVars
    let envVars := if proxy.status.httpsProxy != "" then
      envVars ++ [{ name := "HTTPS_PROXY", value := proxy.status.httpsProxy }] else envVars
    if proxy.status.noProxy != "" then
      envVars ++ [{ name := "NO_PROXY", value := proxy.status.noProxy }] else envVars

/-- `envWithProxy` appends the same variables whatever the container had. -/
theorem envWithProxy_eq_append (proxy : Option Proxy) (envVars : List EnvVar) :
    envWithProxy proxy envVars = envVars ++ envWithProxy proxy [] := by
  cases proxy with
  | none => simp [envWithProxy]
  | some p => simp only [envWithProxy]; split_ifs <;> simp

/-- The trusted-CA mount the cross-cutting pass adds to every container. -/
def trustedCAMount : VolumeMount :=
  { mountPath := "/etc/pki/ca-trust/extracted/pem", name := "trusted-ca", readOnly := true }

def mountsWithTrustedCA (mounts : List VolumeMount) : List VolumeMount :=
  mounts ++ [trustedCAMount]

end Metal3Pod
