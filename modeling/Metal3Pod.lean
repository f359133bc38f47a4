import Metal3Pod.Objects
import Metal3Pod.Provisioning
import Metal3Pod.Pod.Catalog
import Metal3Pod.Pod.Containers
import Metal3Pod.Pod.Template
import Metal3Pod.Pod.Names
import Metal3Pod.Pod.Injection
import Metal3Pod.Pod.Validation
import Metal3Pod.Reconcile.Selector
import Metal3Pod.Reconcile.Ensure
import Metal3Pod.Reconcile.Rollout
import Metal3Pod.Reconcile.Controller
import Metal3Pod.ApplyConfig.VSpherePlatformTopology
