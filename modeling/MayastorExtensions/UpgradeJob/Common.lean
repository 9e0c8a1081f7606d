import MayastorExtensions.Library.Outcome
import MayastorExtensions.Library.Semver
import MayastorExtensions.Library.Yaml

/-!
# Constants, errors and events of the upgrade-job

The constants are those of `common/constants.rs`, the errors the variants of `common/error.rs`
that the modelled functions raise, with the context they carry and without the wrapped error of
the library underneath, and the events those of `events/event_recorder.rs`.
-/

namespace MayastorExtensions.UpgradeJob

open Semver

/-! ## Constants -/

def PRODUCT_NAME : String := "mayastor"

/-- `PRODUCT_NAME` in train case. -/
def productTrain : String := "Mayastor"

def CORE_CHART_NAME : String := PRODUCT_NAME

def UMBRELLA_CHART_NAME : String := "openebs"

/-- The label of the upgrade's node drains. -/
def drainForUpgrade : String := CORE_CHART_NAME ++ "-upgrade"

/-- The label of the cordon that holds while the frontend nodes are checked. -/
def cordonAnaCheck : String := CORE_CHART_NAME ++ "-upgrade-nvme-ana-check"

/-- The core chart versions whose upgrade requires partial rebuild to be disabled. -/
def PARTIAL_REBUILD_DISABLE_EXTENTS : Version × Version :=
  (⟨2, 2, 0, [], []⟩, ⟨2, 5, 0, [], []⟩)

def DS_CONTROLLER_REVISION_HASH_LABEL_KEY : String := "controller-revision-hash"

def TWO_DOT_O_RC_ONE : Version := ⟨2, 0, 0, ["rc", "1"], []⟩

def TWO_DOT_ONE : Version := ⟨2, 1, 0, [], []⟩

def TWO_DOT_THREE : Version := ⟨2, 3, 0, [], []⟩

def TWO_DOT_FOUR : Version := ⟨2, 4, 0, [], []⟩

def TWO_DOT_FIVE : Version := ⟨2, 5, 0, [], []⟩

def TWO_DOT_SIX : Version := ⟨2, 6, 0, [], []⟩

/-! ## Selectors -/

/-- The values of the `app` label the job selects Pods by. -/
inductive App where
  | ioEngine
  | agentCore
  | apiRest
  | etcd
  deriving DecidableEq, Repr

/-- The part of a label selector that is about the controller-revision hash. -/
inductive RevisionSelector where
  | any
  | is (hash : String)
  | isNot (hash : String)
  deriving DecidableEq, Repr

/-- The label and field selectors of `list_pods`. -/
structure PodSelector where
  app : App
  revision : RevisionSelector := .any
  nodeName : Option String := none
  deriving DecidableEq, Repr

/-! ## Errors -/

inductive Error where
  | restUrlParse (restEndpoint : String)
  | helmListCommand
  | helmGetValuesCommand
  | helmUpgradeCommand
  | helmRelease (name namespace_ : String)
  | helmUpgradeOptionReleaseNameAbsent
  | helmUpgradeOptionNamespaceAbsent
  | noInputHelmChartDir (chartName : String)
  | helmChartNameSplit (chartName : String) (delimiter : Char)
  | semverParse (versionString : String)
  | readingFile (filepath : String)
  | yamlParseFromFile (filepath : String)
  | yamlParseFromSlice
  | umbrellaChartNotUpgraded
  | rollbackForbidden (sourceVersion targetVersion : String)
  | invalidUpgradePath
  | notAKnownHelmChart (chartName : String)
  | yqCommandExec
  | yqSetCommand (key : Yaml.Path)
  | yqDeleteObjectCommand (key : Yaml.Path)
  | yqAppendToArrayCommand (key : Yaml.Path)
  | yqAppendToObjectCommand (key : Yaml.Path)
  | deserializePromtailExtraConfig (config : String)
  | listCrds
  | partialRebuildNotAllowed (chartName lowerExtent upperExtent : String)
  | listCtrlRevsWithLabelAndField (app : App) (namespace_ : String)
  | controllerRevisionListEmpty (namespace_ : String) (labelSelector : App)
  | controllerRevisionDoesntHaveHashLabel (name namespace_ hashLabelKey : String)
  | listPodsWithLabelAndField (selector : PodSelector) (namespace_ : String)
  | listNodesWithLabelAndField
  | emptyPodSpec (name namespace_ : String)
  | emptyPodNodeName (name namespace_ : String)
  | podDelete (name node : String)
  | tooManyIoEnginePods (nodeName : String)
  | listStorageNodes
  | getStorageNode (nodeId : String)
  | emptyStorageNodeSpec (nodeId : String)
  | storageNodeUncordon (nodeId : String)
  | cordonStorageNode (nodeId : String)
  | drainStorageNode (nodeId : String)
  | listStorageVolumes
  | eventChannelSend
  deriving DecidableEq, Repr

/-! ## Events -/

inductive EventType where
  | normal
  | warning
  deriving DecidableEq, Repr

inductive EventAction where
  | failed
  | validationFailed
  | upgradingCP
  | upgradedCP
  | upgradingDP
  | upgradedDP
  | successful
  deriving DecidableEq, Repr

/-- The `action` field of the published event. -/
def EventAction.toString : EventAction → String
  | .failed => "Failed"
  | .validationFailed => "Validation Failed"
  | .upgradingCP => "Upgrading control-plane"
  | .upgradedCP => "Upgraded control-plane"
  | .upgradingDP => "Upgrading data-plane"
  | .upgradedDP => "Upgraded data-plane"
  | .successful => "Successful"

/-- The message of a note: a fixed text, or `Failed to upgrade: {error}`. -/
inductive Message where
  | text (text : String)
  | failedToUpgrade (error : Error)
  deriving DecidableEq, Repr

structure EventNote where
  fromVersion : String
  toVersion : String
  message : Message
  deriving DecidableEq, Repr

structure Event where
  type_ : EventType
  reason : String
  note : EventNote
  action : String
  deriving DecidableEq, Repr

/-- The reason field of every event of the job. -/
def upgradeEventReason : String := productTrain ++ "Upgrade"

end MayastorExtensions.UpgradeJob
