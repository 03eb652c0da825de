import BootcOperator.Api.Conditions

/-!
# API constants

The condition types and reasons of `api/v1alpha1` and the well-known names the
controller compares objects with.
-/

namespace BootcOperator

def nodeIdle : String := "Idle"
def nodeDegraded : String := "Degraded"

def nodeReasonIdle : String := "Idle"
def nodeReasonStaging : String := "Staging"
def nodeReasonStaged : String := "Staged"
def nodeReasonRebooting : String := "Rebooting"
def nodeReasonError : String := "Error"
def nodeReasonHealthy : String := "Healthy"

def poolUpToDate : String := "UpToDate"
def poolDegraded : String := "Degraded"

def poolAllUpdated : String := "AllUpdated"
def poolRolloutInProgress : String := "RolloutInProgress"
def poolPaused : String := "Paused"

def poolNodeConflict : String := "NodeConflict"
def poolNodeDegraded : String := "NodeDegraded"
def poolRolloutHalted : String := "RolloutHalted"
def poolInvalidSpec : String := "InvalidSpec"
def poolTagResolutionError : String := "TagResolutionError"
def poolSecretError : String := "SecretError"
def poolHealthy : String := "Healthy"

def finalizerPoolCleanup : String := "bootc.dev/pool-cleanup"
def taintKeyOsNotReady : String := "bootc.dev/os-not-ready"

/-- `corev1.DockerConfigJsonKey` -/
def dockerConfigJsonKey : String := ".dockerconfigjson"

end BootcOperator
