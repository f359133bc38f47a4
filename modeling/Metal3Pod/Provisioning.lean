import Metal3Pod.Objects

/-!
# The provisioning configuration and the package around `baremetal_pod.go`

`ProvisioningInfo` is what every function of `baremetal_pod.go` receives: the `Provisioning`
resource (its spec, read-only, and its status, whose generations the reconciler records), the
image references, the cluster proxy, the detected network stack, the master MAC addresses and the
ramdisk SSH key. The orchestrator client, event recorder and scheme it also carries are behaviour,
not data; `Reconcile/Ensure.lean` models them as the orchestrator's answers.

The file calls declarations of its package and of the `v1alpha1` API that are not in the source
at hand. Their types are written here with the fields the code reads. The string constants are
given the values below, each marked as modelled. The three helper functions (`Helpers`) are
parameters: every result of the development holds for every choice of them.
-/

namespace Metal3Pod

/-! ## The `v1alpha1` provisioning resource -/

/-- Modelled from the spec: `ProvisioningNetwork` values `Managed`, `Unmanaged` and `Disabled`
(an open string type in Go). -/
def provisioningNetworkDisabled : String := "Disabled"

/-- Modelled from the spec: the live-OS download URLs of `ProvisioningSpec` (the live ISO, and
the agent's kernel, initramfs and root filesystem). -/
structure PreProvisioningOSDownloadURLs where
  isoURL : String := ""
  kernelURL : String := ""
  initramfsURL : String := ""
  rootfsURL : String := ""
  deriving DecidableEq, Repr

/-- Modelled from the spec: `metal3iov1alpha1.ProvisioningSpec`, with the configuration fields
the spec lists. -/
structure ProvisioningSpec where
  provisioningInterface : String := ""
  provisioningIP : String := ""
  provisioningNetworkCIDR : String := ""
  provisioningDHCPRange : String := ""
  provisioningOSDownloadURL : String := ""
  provisioningNetwork : String := ""
  watchAllNamespaces : Bool := false
  virtualMediaViaExternalNetwork : Bool := false
  preProvisioningOSDownloadURLs : PreProvisioningOSDownloadURLs := {}
  deriving DecidableEq, Repr

/-- Modelled from the spec: the `Provisioning` resource, its spec and the generations of its
status. -/
structure Provisioning where
  spec : ProvisioningSpec := {}
  generations : List GenerationStatus := []
  deriving DecidableEq

/-! ## `ProvisioningInfo` -/

/-- Modelled from the spec: the image references of `Images` that the pod uses. -/
structure Images where
  baremetalOperator : String := ""
  ironic : String := ""
  ipaDownloader : String := ""
  machineOsDownloader : String := ""
  staticIpManager : String := ""
  deriving DecidableEq, Repr

/-- Modelled from the spec: the detected network stack, v4, v6 or dual. -/
inductive NetworkStack where
  | v4
  | v6
  | dual
  deriving DecidableEq, Repr

/-- `configv1.ProxyStatus`. -/
structure ProxyStatus where
  httpProxy : String := ""
  httpsProxy : String := ""
  noProxy : String := ""
  deriving DecidableEq, Repr

/-- `configv1.Proxy`, of which the code reads the status. -/
structure Proxy where
  status : ProxyStatus
  deriving DecidableEq, Repr

/-- Modelled from the spec: the data fields of `ProvisioningInfo` that `baremetal_pod.go` reads;
`proxy` is the `*configv1.Proxy` pointer. -/
structure ProvisioningInfo where
  provConfig : Provisioning := {}
  «namespace» : String := ""
  images : Images := {}
  proxy : Option Proxy := none
  networkStack : NetworkStack
  masterMacAddresses : List String := []
  sshKey : String := ""
  deriving DecidableEq

/-! ## Helpers of the package -/

/-- The package's helper functions that `baremetal_pod.go` calls and that are declared outside
it. They are parameters of the model. -/
structure Helpers where
  /-- `getMetal3DeploymentConfig(name, config)`: the configured value of a variable, or `nil`. -/
  getMetal3DeploymentConfig : String → ProvisioningSpec → Option String
  /-- `getPreProvisioningOSDownloadURLs(config)`: the configured live-OS download URLs. -/
  getPreProvisioningOSDownloadURLs : ProvisioningSpec → List String
  /-- `isCoreOSIPAAvailable(config)`: whether the CoreOS image ships the agent's assets. -/
  isCoreOSIPAAvailable : ProvisioningSpec → Bool

/-! ## Constants of the package -/

/-- Modelled from the spec: the provisioning IP variable. -/
def provisioningIP : String := "PROVISIONING_IP"

/-- Modelled from the spec: the provisioning interface variable. -/
def provisioningInterface : String := "PROVISIONING_INTERFACE"

/-- Modelled from the spec: the deploy kernel URL variable. -/
def deployKernelUrl : String := "DEPLOY_KERNEL_URL"

/-- Modelled from the spec: the deploy ramdisk URL variable. -/
def deployRamdiskUrl : String := "DEPLOY_RAMDISK_URL"

/-- Modelled from the spec: the Ironic endpoint variable. -/
def ironicEndpoint : String := "IRONIC_ENDPOINT"

/-- Modelled from the spec: the Ironic inspector endpoint variable. -/
def ironicInspectorEndpoint : String := "IRONIC_INSPECTOR_ENDPOINT"

/-- Modelled from the spec: the HTTP port variable. -/
def httpPort : String := "HTTP_PORT"

/-- Modelled from the spec: the DHCP range variable. -/
def dhcpRange : String := "DHCP_RANGE"

/-- Modelled from the spec: the image URL variable of the OS downloader. -/
def machineImageUrl : String := "RHCOS_IMAGE_URL"

/-- Modelled from the spec: the boot-argument variable of the OS downloader. -/
def ipOptions : String := "IP_OPTIONS"

/-- Modelled from the spec: the static web server's port, a decimal string. -/
def baremetalHttpPort : String := "6180"

/-- Modelled from the spec: the name of the static web server's port. -/
def httpPortName : String := "http"

/-- Modelled from the spec: the value of the service identity label. -/
def stateService : String := "metal3-state"

/-- Modelled from the spec: the database password secret. -/
def baremetalSecretName : String := "metal3-mariadb-password"

/-- Modelled from the spec: the key of the database password. -/
def baremetalSecretKey : String := "password"

/-- Modelled from the spec: the cluster pull secret. -/
def pullSecretName : String := "pull-secret"

/-- Modelled from the spec: the key of the cluster pull secret. -/
def openshiftConfigSecretKey : String := ".dockerconfigjson"

/-- Modelled from the spec: the Ironic credentials secret. -/
def ironicSecretName : String := "metal3-ironic-password"

/-- Modelled from the spec: the Ironic RPC credentials secret. -/
def ironicrpcSecretName : String := "metal3-ironic-rpc-password"

/-- Modelled from the spec: the inspector credentials secret. -/
def inspectorSecretName : String := "metal3-ironic-inspector-password"

/-- Modelled from the spec: the TLS secret. -/
def tlsSecretName : String := "metal3-ironic-tls"

/-- Modelled from the spec: the username key of a credentials secret. -/
def ironicUsernameKey : String := "username"

/-- Modelled from the spec: the password key of a credentials secret. -/
def ironicPasswordKey : String := "password"

/-- Modelled from the spec: the configuration key of a credentials secret. -/
def ironicConfigKey : String := "auth-config"

/-- Modelled from the spec: the credential-hash key of a credentials secret. -/
def ironicHtpasswdKey : String := "htpasswd"

/-- `corev1.tlsCertKey`. -/
def tlsCertKey : String := "tls.crt"

end Metal3Pod
