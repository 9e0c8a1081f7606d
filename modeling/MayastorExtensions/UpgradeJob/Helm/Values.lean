import Mathlib.Data.List.Nodup
import MayastorExtensions.UpgradeJob.Helm.Chart
import MayastorExtensions.UpgradeJob.Helm.Yq

/-!
# The values of a helm upgrade

`generate_values_yaml_file` merges the values of the installed release over those of the target
chart and then edits the result in place.  Which edits are made depends on the two versions and on
the deserialized values alone, so the function is a merge followed by a sequence of edits.
-/

namespace MayastorExtensions.UpgradeJob

open Semver Yaml

/-! ## Special cases -/

/-- The source versions a special case is about. -/
def inWindow (lower upper version : Version) : Bool :=
  lower ≤ version && version < upper

/-- Default options that changed: the new default is taken over if the old one was in use. -/
def replaceDefault (key : Path) (toReplace source target : String) : List Edit :=
  if source = toReplace ∧ target ≠ toReplace then [.setLiteralValue key target] else []

/-- Special-case values for version 2.0.x. -/
def logLevelEdits (sourceVersion : Version) (source target : CoreValues) : List Edit :=
  if inWindow TWO_DOT_O_RC_ONE TWO_DOT_ONE sourceVersion then
    replaceDefault (yamlKey ["io_engine", "logLevel"]) "info,io_engine=info"
      source.ioEngineLogLevel target.ioEngineLogLevel
  else []

/-- The keys that take the repoTags of the target, with their values. -/
def repoTagValues (target : CoreValues) : List (Path × String) :=
  [(yamlKey ["image", "repoTags", "controlPlane"], target.image.repoTags.controlPlane),
    (yamlKey ["image", "repoTags", "dataPlane"], target.image.repoTags.dataPlane),
    (yamlKey ["image", "repoTags", "extensions"], target.image.repoTags.extensions)]

/-- A run of assignments. -/
def setAll (values : List (Path × String)) : List Edit :=
  values.map fun entry ↦ .setLiteralValue entry.1 entry.2

/-- Special-case values for to-version 2.1.x and later. -/
def repoTagEdits (targetVersion : Version) (target : CoreValues) : List Edit :=
  if TWO_DOT_ONE ≤ targetVersion then setAll (repoTagValues target) else []

/-- `Display` for `bool`. -/
def displayBool : Bool → String
  | true => "true"
  | false => "false"

/-- Special-case values for version 2.3.x. -/
def eventingEdits (sourceVersion : Version) (source target : CoreValues) : List Edit :=
  if inWindow TWO_DOT_THREE TWO_DOT_FOUR sourceVersion &&
      source.eventingEnabled != target.eventingEnabled then
    [.setLiteralValue (yamlKey ["eventing", "enabled"]) (displayBool target.eventingEnabled)]
  else []

def scrapeConfigsToReplace : String := String.join
  ["- job_name: \x7b\x7b .Release.Name \x7d\x7d-pods-name\n",
    "  pipeline_stages:\n",
    "    - docker: \x7b\x7d\n",
    "  kubernetes_sd_configs:\n",
    "  - role: pod\n",
    "  relabel_configs:\n",
    "  - source_labels:\n",
    "    - __meta_kubernetes_pod_node_name\n",
    "    target_label: hostname\n",
    "    action: replace\n",
    "  - action: labelmap\n",
    "    regex: __meta_kubernetes_pod_label_(.+)\n",
    "  - action: keep\n",
    "    source_labels:\n",
    "    - __meta_kubernetes_pod_label_openebs_io_logging\n",
    "    regex: true\n",
    "    target_label: \x7b\x7b .Release.Name \x7d\x7d_component\n",
    "  - action: replace\n",
    "    replacement: $1\n",
    "    separator: /\n",
    "    source_labels:\n",
    "    - __meta_kubernetes_namespace\n",
    "    target_label: job\n",
    "  - action: replace\n",
    "    source_labels:\n",
    "    - __meta_kubernetes_pod_name\n",
    "    target_label: pod\n",
    "  - action: replace\n",
    "    source_labels:\n",
    "    - __meta_kubernetes_pod_container_name\n",
    "    target_label: container\n",
    "  - replacement: /var/log/pods/*$1/*.log\n",
    "    separator: /\n",
    "    source_labels:\n",
    "    - __meta_kubernetes_pod_uid\n",
    "    - __meta_kubernetes_pod_container_name\n",
    "    target_label: __path__\n"]

/-- Special-case values for 2.5.x. -/
def twoDotFiveEdits (sourceVersion : Version) (source target : CoreValues) : List Edit :=
  if inWindow TWO_DOT_O_RC_ONE TWO_DOT_FIVE sourceVersion then
    replaceDefault (yamlKey ["loki-stack", "promtail", "config", "snippets", "scrapeConfigs"])
        scrapeConfigsToReplace source.lokiStack.promtail.config.snippets.scrapeConfigs
        target.lokiStack.promtail.config.snippets.scrapeConfigs ++
      replaceDefault (yamlKey ["csi", "node", "nvme", "io_timeout"]) "30"
        source.csi.node.nvmeIoTimeout target.csi.node.nvmeIoTimeout
  else []

/-! ## Special cases of 2.6.x -/

/-- The localpv chart takes its three values together. -/
def localpvEdits (source target : CoreValues) : List Edit :=
  if source.localpvProvisioner.releaseVersion = "3.4.0" ∧
      target.localpvProvisioner.releaseVersion ≠ "3.4.0" then
    setAll
      [(yamlKey ["localpv-provisioner", "release", "version"],
          target.localpvProvisioner.releaseVersion),
        (yamlKey ["localpv-provisioner", "localpv", "image", "tag"],
          target.localpvProvisioner.localpvImageTag),
        (yamlKey ["localpv-provisioner", "helperPod", "image", "tag"],
          target.localpvProvisioner.helperPodImageTag)]
  else []

/-- The image tags of the loki-stack. -/
def lokiStackImageTags (target : CoreValues) : List (Path × String) :=
  [(yamlKey ["loki-stack", "loki", "image", "tag"], target.lokiStack.lokiImageTag),
    (yamlKey ["loki-stack", "filebeat", "imageTag"], target.lokiStack.filebeatImageTag),
    (yamlKey ["loki-stack", "logstash", "imageTag"], target.lokiStack.logstashImageTag),
    (yamlKey ["loki-stack", "grafana", "downloadDashboardsImage", "tag"],
      target.lokiStack.grafana.downloadDashboardsImageTag),
    (yamlKey ["loki-stack", "grafana", "image", "tag"], target.lokiStack.grafana.imageTag),
    (yamlKey ["loki-stack", "grafana", "sidecar", "image", "tag"],
      target.lokiStack.grafana.sidecarImageTag),
    (yamlKey ["loki-stack", "prometheus", "alertmanager", "image", "tag"],
      target.lokiStack.prometheus.alertmanagerImageTag),
    (yamlKey ["loki-stack", "prometheus", "nodeExporter", "image", "tag"],
      target.lokiStack.prometheus.nodeExporterImageTag),
    (yamlKey ["loki-stack", "prometheus", "pushgateway", "image", "tag"],
      target.lokiStack.prometheus.pushgatewayImageTag),
    (yamlKey ["loki-stack", "prometheus", "server", "image", "tag"],
      target.lokiStack.prometheus.serverImageTag)]

def kvstoreKey : Path :=
  yamlKey ["loki-stack", "loki", "config", "ingester", "lifecycler", "ring", "kvstore"]

def extraClientConfigsKey : Path :=
  yamlKey ["loki-stack", "promtail", "config", "snippets", "extraClientConfigs"]

def initContainerKey : Path :=
  yamlKey ["loki-stack", "promtail", "initContainer"]

def lokiAddressKey : Path :=
  yamlKey ["loki-stack", "promtail", "config", "lokiAddress"]

def clientsKey : Path :=
  yamlKey ["loki-stack", "promtail", "config", "clients"]

def logSilenceLevelKey : Path :=
  yamlKey ["base", "logSilenceLevel"]

def silenceLevelKey : Path :=
  yamlKey ["base", "logging", "silenceLevel"]

/-- The key with the typo. -/
def pluginMounthPathKey : Path :=
  yamlKey ["csi", "node", "pluginMounthPath"]

def pluginMountPathKey : Path :=
  yamlKey ["csi", "node", "pluginMountPath"]

/-- `PromtailConfigClient`, as JSON. -/
def promtailConfigClient (url : String) : Tree :=
  .map [("url", .str url)]

/-- The extra configuration of the promtail client, converted to JSON. -/
def extraClientConfig (codec : Codec) (config : String) : Except Error Tree :=
  match codec.yamlToJson config with
  | none => .error (.deserializePromtailExtraConfig config)
  | some json => .ok json

/-- `config.lokiAddress` and `config.snippets.extraClientConfigs` of the old promtail chart become
the client of the new one. -/
def lokiAddressToClients (codec : Codec) (source : CoreValues) : List Edit :=
  let config := source.lokiStack.promtail.config
  [.deleteObject clientsKey,
      .appendToArray clientsKey (promtailConfigClient config.deprecatedLokiAddress)] ++
    (if config.snippets.deprecatedExtraClientConfigs ≠ "" then
      [.appendToObject (clientsKey ++ [.index 0])
        (extraClientConfig codec config.snippets.deprecatedExtraClientConfigs)]
    else []) ++
    [.deleteObject extraClientConfigsKey, .deleteObject lokiAddressKey]

/-- Special-case values for 2.6.x.  The settings whose keys were renamed take the value of the old
key of the source, which is empty if the source does not have it. -/
def twoDotSixEdits (codec : Codec) (sourceVersion : Version) (source target : CoreValues) :
    List Edit :=
  if inWindow TWO_DOT_O_RC_ONE TWO_DOT_SIX sourceVersion then
    localpvEdits source target ++ setAll (lokiStackImageTags target) ++
      [.deleteObject kvstoreKey, .deleteObject extraClientConfigsKey,
        .deleteObject initContainerKey] ++
      lokiAddressToClients codec source ++
      [.setLiteralValue (yamlKey ["loki-stack", "promtail", "config", "file"])
        target.lokiStack.promtail.config.file] ++
      target.lokiStack.promtail.initContainer.map
        (fun container ↦ .appendToObject initContainerKey (.ok container)) ++
      [.setLiteralValue (yamlKey ["loki-stack", "promtail", "readinessProbe", "httpGet", "path"])
          target.lokiStack.promtail.readinessProbeHttpGetPath,
        .setLiteralValue silenceLevelKey source.deprecatedLogSilenceLevel,
        .deleteObject logSilenceLevelKey,
        .setLiteralValue pluginMountPathKey source.csi.node.deprecatedPluginMountPath,
        .deleteObject pluginMounthPathKey,
        .setLiteralValue (yamlKey ["jaeger-operator", "image", "tag"])
          source.jaegerOperatorImageTag]
  else []

/-! ## Default options -/

/-- The image tags that are always those of the target chart, with their values. -/
def imageTagValues (target : CoreValues) : List (Path × String) :=
  [(yamlKey ["image", "tag"], target.image.tag),
    (yamlKey ["csi", "image", "provisionerTag"], target.csi.image.provisionerTag),
    (yamlKey ["csi", "image", "attacherTag"], target.csi.image.attacherTag),
    (yamlKey ["csi", "image", "snapshotterTag"], target.csi.image.snapshotterTag),
    (yamlKey ["csi", "image", "snapshotControllerTag"], target.csi.image.snapshotControllerTag),
    (yamlKey ["csi", "image", "registrarTag"], target.csi.image.registrarTag),
    (yamlKey ["csi", "image", "resizerTag"], target.csi.image.resizerTag)]

def volumeSnapshotCrds : List String :=
  ["volumesnapshotclasses.snapshot.storage.k8s.io",
    "volumesnapshotcontents.snapshot.storage.k8s.io",
    "volumesnapshots.snapshot.storage.k8s.io"]

/-- The toggle of a set of CRDs is switched off if at least one of the set exists. -/
def crdToggle (crds crdSet : List String) (toggle : Path) : List Edit :=
  if crds.any fun name ↦ crdSet.contains name then
    [.setLiteralValue toggle (displayBool false)]
  else []

/-- Disable CRD installation for the CRDs that already exist.  The two sets are the keys of a hash
map, so that either may come first. -/
def safeCrdInstall (jaegerFirst : Bool) (crds : List String) : List Edit :=
  let volumeSnapshots := crdToggle crds volumeSnapshotCrds
    (yamlKey ["crds", "csi", "volumeSnapshots", "enabled"])
  let jaeger := crdToggle crds ["jaegers.jaegertracing.io"] (yamlKey ["crds", "jaeger", "enabled"])
  if jaegerFirst then jaeger ++ volumeSnapshots else volumeSnapshots ++ jaeger

/-! ## The function -/

/-- What decides the edits: the versions, the deserialized values and the outside. -/
structure ValuesInput where
  codec : Codec
  jaegerFirst : Bool
  crds : List String
  sourceVersion : Version
  targetVersion : Version
  source : CoreValues
  target : CoreValues

namespace ValuesInput

/-- The edits before the CRDs are looked up, in the order of the source. -/
def chartEdits (input : ValuesInput) : List Edit :=
  logLevelEdits input.sourceVersion input.source input.target ++
    repoTagEdits input.targetVersion input.target ++
    eventingEdits input.sourceVersion input.source input.target ++
    twoDotFiveEdits input.sourceVersion input.source input.target ++
    twoDotSixEdits input.codec input.sourceVersion input.source input.target ++
    setAll (imageTagValues input.target)

/-- All edits. -/
def edits (input : ValuesInput) : List Edit :=
  input.chartEdits ++ safeCrdInstall input.jaegerFirst input.crds

end ValuesInput

def generateValuesYamlFile (input : ValuesInput) (sourceTree targetTree : Tree) :
    Except Error Tree :=
  applyEdits (mergeFiles sourceTree targetTree) input.edits

/-! ## The keys that take the target's images -/

/-- The keys that are pinned to the target chart, with their values. -/
def pinnedValues (targetVersion : Version) (target : CoreValues) : List (Path × String) :=
  (if TWO_DOT_ONE ≤ targetVersion then repoTagValues target else []) ++ imageTagValues target

def repoTagKeys : List Path :=
  [yamlKey ["image", "repoTags", "controlPlane"], yamlKey ["image", "repoTags", "dataPlane"],
    yamlKey ["image", "repoTags", "extensions"]]

def imageTagKeys : List Path :=
  [yamlKey ["image", "tag"], yamlKey ["csi", "image", "provisionerTag"],
    yamlKey ["csi", "image", "attacherTag"], yamlKey ["csi", "image", "snapshotterTag"],
    yamlKey ["csi", "image", "snapshotControllerTag"], yamlKey ["csi", "image", "registrarTag"],
    yamlKey ["csi", "image", "resizerTag"]]

/-- The keys of an upgrade to a version that are pinned to the target chart. -/
def pinnedKeys (targetVersion : Version) : List Path :=
  (if TWO_DOT_ONE ≤ targetVersion then repoTagKeys else []) ++ imageTagKeys

theorem pinnedValues_keys (targetVersion : Version) (target : CoreValues) :
    (pinnedValues targetVersion target).map Prod.fst = pinnedKeys targetVersion := by
  unfold pinnedValues pinnedKeys
  split <;> rfl

theorem pinnedKeys_subset (targetVersion : Version) :
    pinnedKeys targetVersion ⊆ repoTagKeys ++ imageTagKeys := by
  unfold pinnedKeys
  split
  · exact List.Subset.refl _
  · exact List.subset_append_right _ _

/-- Keys that lead neither to `image` nor to `csi.image`. -/
def outsideImages : Path → Bool
  | .key "csi" :: .key name :: _ => name ≠ "image"
  | .key name :: _ => name ≠ "image" && name ≠ "csi"
  | _ => false

/-- Every key of the edits passes a test. -/
def allKeys (test : Path → Bool) (edits : List Edit) : Bool :=
  edits.all fun edit ↦ test edit.key

@[simp]
theorem allKeys_append (test : Path → Bool) (front back : List Edit) :
    allKeys test (front ++ back) = (allKeys test front && allKeys test back) := by
  simp [allKeys]

/-- The tags of the dependencies' images, with the values that they are set to. -/
def writtenTagValues (source target : CoreValues) : List (Path × String) :=
  lokiStackImageTags target ++
    [(yamlKey ["jaeger-operator", "image", "tag"], source.jaegerOperatorImageTag)]

/-- The keys of the edits that are about neither of these nor a pinned key. -/
def otherKeys : List Path :=
  [yamlKey ["io_engine", "logLevel"], yamlKey ["eventing", "enabled"],
    yamlKey ["loki-stack", "promtail", "config", "snippets", "scrapeConfigs"],
    yamlKey ["csi", "node", "nvme", "io_timeout"],
    yamlKey ["localpv-provisioner", "release", "version"],
    yamlKey ["localpv-provisioner", "localpv", "image", "tag"],
    yamlKey ["localpv-provisioner", "helperPod", "image", "tag"],
    kvstoreKey, extraClientConfigsKey, initContainerKey, clientsKey, clientsKey ++ [.index 0],
    lokiAddressKey, yamlKey ["loki-stack", "promtail", "config", "file"],
    yamlKey ["loki-stack", "promtail", "readinessProbe", "httpGet", "path"], silenceLevelKey,
    logSilenceLevelKey, pluginMountPathKey, pluginMounthPathKey,
    yamlKey ["crds", "csi", "volumeSnapshots", "enabled"], yamlKey ["crds", "jaeger", "enabled"]]

def isOtherKey (key : Path) : Bool :=
  otherKeys.contains key

theorem others_logLevelEdits (sourceVersion : Version) (source target : CoreValues) :
    allKeys isOtherKey (logLevelEdits sourceVersion source target) := by
  unfold logLevelEdits replaceDefault
  split_ifs <;> rfl

theorem others_eventingEdits (sourceVersion : Version) (source target : CoreValues) :
    allKeys isOtherKey (eventingEdits sourceVersion source target) := by
  unfold eventingEdits
  split_ifs <;> rfl

theorem others_twoDotFiveEdits (sourceVersion : Version) (source target : CoreValues) :
    allKeys isOtherKey (twoDotFiveEdits sourceVersion source target) := by
  unfold twoDotFiveEdits replaceDefault
  split_ifs <;> rfl

theorem others_lokiAddressToClients (codec : Codec) (source : CoreValues) :
    allKeys isOtherKey (lokiAddressToClients codec source) := by
  unfold lokiAddressToClients
  dsimp only
  split_ifs <;> rfl

theorem others_localpvEdits (source target : CoreValues) :
    allKeys isOtherKey (localpvEdits source target) := by
  unfold localpvEdits
  split_ifs <;> rfl

theorem others_initContainers (containers : List Tree) :
    allKeys isOtherKey
      (containers.map fun container ↦ .appendToObject initContainerKey (.ok container)) := by
  have hkey : isOtherKey initContainerKey = true := rfl
  simp [allKeys, Edit.key, hkey]

theorem others_safeCrdInstall (jaegerFirst : Bool) (crds : List String) :
    allKeys isOtherKey (safeCrdInstall jaegerFirst crds) := by
  unfold safeCrdInstall crdToggle
  dsimp only
  split_ifs <;> rfl

/-- The special case of 2.6.x sets the tags of the dependencies and edits other keys. -/
theorem mem_twoDotSixEdits {codec : Codec} {sourceVersion : Version} {source target : CoreValues}
    {edit : Edit} (h : edit ∈ twoDotSixEdits codec sourceVersion source target) :
    (∃ entry ∈ writtenTagValues source target, edit = .setLiteralValue entry.1 entry.2) ∨
      isOtherKey edit.key := by
  have hother {edits : List Edit} (hall : allKeys isOtherKey edits) (hmem : edit ∈ edits) :
      isOtherKey edit.key := List.all_eq_true.mp hall edit hmem
  unfold twoDotSixEdits at h
  split_ifs at h
  · simp only [List.mem_append] at h
    obtain ((((((h | h) | h) | h) | h) | h) | h) := h
    · exact .inr (hother (others_localpvEdits ..) h)
    · obtain ⟨entry, hentry, hedit⟩ := List.mem_map.mp h
      exact .inl ⟨entry, List.mem_append_left _ hentry, hedit.symm⟩
    · exact .inr (hother rfl h)
    · exact .inr (hother (others_lokiAddressToClients ..) h)
    · exact .inr (hother rfl h)
    · exact .inr (hother (others_initContainers _) h)
    · rw [List.mem_cons, List.mem_cons, List.mem_cons, List.mem_cons, List.mem_cons,
        List.mem_singleton] at h
      rcases h with rfl | rfl | rfl | rfl | rfl | rfl
      · exact .inr rfl
      · exact .inr rfl
      · exact .inr rfl
      · exact .inr rfl
      · exact .inr rfl
      · exact .inl ⟨_, List.mem_append_right _ (List.mem_singleton.mpr rfl), rfl⟩
  · cases h

/-- The edits set the pinned keys and the tags of the dependencies and edit other keys. -/
theorem mem_edits_cases {input : ValuesInput} {edit : Edit} (h : edit ∈ input.edits) :
    (∃ entry ∈ pinnedValues input.targetVersion input.target,
      edit = .setLiteralValue entry.1 entry.2) ∨
    (∃ entry ∈ writtenTagValues input.source input.target,
      edit = .setLiteralValue entry.1 entry.2) ∨ isOtherKey edit.key := by
  have hother {edits : List Edit} (hall : allKeys isOtherKey edits) (hmem : edit ∈ edits) :
      isOtherKey edit.key := List.all_eq_true.mp hall edit hmem
  simp only [ValuesInput.edits, ValuesInput.chartEdits, List.mem_append] at h
  obtain ((((((h | h) | h) | h) | h) | h) | h) := h
  · exact .inr (.inr (hother (others_logLevelEdits ..) h))
  · left
    unfold repoTagEdits at h
    unfold pinnedValues
    split_ifs at h ⊢ with hversion
    · obtain ⟨entry, hentry, hedit⟩ := List.mem_map.mp h
      exact ⟨entry, List.mem_append_left _ hentry, hedit.symm⟩
    · cases h
  · exact .inr (.inr (hother (others_eventingEdits ..) h))
  · exact .inr (.inr (hother (others_twoDotFiveEdits ..) h))
  · exact .inr (mem_twoDotSixEdits h)
  · obtain ⟨entry, hentry, hedit⟩ := List.mem_map.mp h
    exact .inl ⟨entry, List.mem_append_right _ hentry, hedit.symm⟩
  · exact .inr (.inr (hother (others_safeCrdInstall ..) h))

theorem outsideImages_of_isOtherKey {key : Path} (h : isOtherKey key) : outsideImages key := by
  have hall : ∀ key ∈ otherKeys, outsideImages key := by decide
  exact hall key (List.contains_iff_mem.mp h)

theorem outsideImages_writtenTagValues {source target : CoreValues} {entry : Path × String}
    (h : entry ∈ writtenTagValues source target) : outsideImages entry.1 := by
  have hall : (writtenTagValues source target).all (fun entry ↦ outsideImages entry.1) := rfl
  exact List.all_eq_true.mp hall entry h

/-- The edits other than the image tags do not come near them. -/
theorem mem_edits {input : ValuesInput} {edit : Edit} (h : edit ∈ input.edits) :
    (∃ entry ∈ pinnedValues input.targetVersion input.target,
      edit = .setLiteralValue entry.1 entry.2) ∨ outsideImages edit.key := by
  rcases mem_edits_cases h with hpinned | ⟨entry, hentry, rfl⟩ | hother
  · exact .inl hpinned
  · exact .inr (outsideImages_writtenTagValues hentry)
  · exact .inr (outsideImages_of_isOtherKey hother)

theorem apart_of_outsideImages {key pinned : Path} (houtside : outsideImages key)
    (hpinned : pinned ∈ repoTagKeys ++ imageTagKeys) :
    Tree.Apart key pinned ∧ Tree.spares key pinned := by
  unfold outsideImages at houtside
  split at houtside
  next name rest =>
    have hname : name ≠ "image" := by simpa using houtside
    simp [repoTagKeys, imageTagKeys, yamlKey] at hpinned
    rcases hpinned with rfl | rfl | rfl | rfl | rfl | rfl | rfl | rfl | rfl | rfl <;>
      simp [Tree.Apart, Tree.spares, List.cons_prefix_cons, hname, Ne.symm hname]
  next name rest hcsi =>
    have hname : name ≠ "image" ∧ name ≠ "csi" := by simpa using houtside
    simp [repoTagKeys, imageTagKeys, yamlKey] at hpinned
    rcases hpinned with rfl | rfl | rfl | rfl | rfl | rfl | rfl | rfl | rfl | rfl <;>
      simp [Tree.Apart, Tree.spares, List.cons_prefix_cons, hname, Ne.symm hname.1, Ne.symm hname.2]
  next => cases houtside

theorem pinnedKeys_apart : ∀ key ∈ repoTagKeys ++ imageTagKeys,
    ∀ other ∈ repoTagKeys ++ imageTagKeys,
      Tree.spares key other ∧ (key = other ∨ Tree.Apart key other) := by
  decide

/-- A pinned key has one value. -/
theorem pinnedValues_unique {targetVersion : Version} {target : CoreValues}
    {entry other : Path × String} (hentry : entry ∈ pinnedValues targetVersion target)
    (hother : other ∈ pinnedValues targetVersion target) (hkey : entry.1 = other.1) :
    entry = other := by
  have hnodup : ((pinnedValues targetVersion target).map Prod.fst).Nodup := by
    rw [pinnedValues_keys]
    unfold pinnedKeys
    split_ifs <;> decide
  exact List.inj_on_of_nodup_map hnodup hentry hother hkey

theorem pinnedValues_mem_edits {input : ValuesInput} {entry : Path × String}
    (h : entry ∈ pinnedValues input.targetVersion input.target) :
    .setLiteralValue entry.1 entry.2 ∈ input.edits := by
  simp only [ValuesInput.edits, ValuesInput.chartEdits, List.mem_append]
  rcases List.mem_append.mp h with hrepo | himage
  · split_ifs at hrepo with hversion
    · have hmem : Edit.setLiteralValue entry.1 entry.2 ∈
          repoTagEdits input.targetVersion input.target := by
        rw [repoTagEdits, if_pos hversion]
        exact List.mem_map.mpr ⟨entry, hrepo, rfl⟩
      exact .inl (.inl (.inl (.inl (.inl (.inr hmem)))))
    · cases hrepo
  · exact .inl (.inr (List.mem_map.mpr ⟨entry, himage, rfl⟩))

/-- Deserializable values leave the way to the pinned keys clear. -/
theorem clear_of_decode {codec : Codec} {tree : Tree} {values : CoreValues}
    (h : CoreValues.decode codec tree = some values) {key : Path}
    (hkey : key ∈ repoTagKeys ++ imageTagKeys) : Tree.Clear key (some tree) := by
  obtain ⟨htree, ⟨image, himage, himageValues⟩, csi, csiImage, hcsi, hcsiMap, hcsiImage,
    hcsiValues⟩ := CoreValues.images_of_decode h
  obtain ⟨himageMap, hrepoMap, -⟩ := Image.reads_of_decode himageValues
  obtain ⟨hcsiImageMap, -⟩ := CsiImage.reads_of_decode hcsiValues
  simp only [repoTagKeys, imageTagKeys, yamlKey, List.map_cons, List.map_nil, List.cons_append,
    List.nil_append, List.mem_cons, List.not_mem_nil, or_false] at hkey
  rcases hkey with rfl | rfl | rfl | rfl | rfl | rfl | rfl | rfl | rfl | rfl <;>
    simp [Tree.Clear, himage, hcsi, hcsiImage, htree, himageMap, hcsiMap, hcsiImageMap] <;>
    exact hrepoMap

/-- The value of a pinned key is what the target has there. -/
theorem pinnedValues_read {codec : Codec} {tree : Tree} {target : CoreValues}
    (h : CoreValues.decode codec tree = some target) {targetVersion : Version}
    {entry : Path × String} (hentry : entry ∈ pinnedValues targetVersion target) :
    Reads (tree.get? entry.1) entry.2 := by
  obtain ⟨-, ⟨image, himage, himageValues⟩, csi, csiImage, hcsi, -, hcsiImage, hcsiValues⟩ :=
    CoreValues.images_of_decode h
  obtain ⟨-, -, htag, hcontrol, hdata, hext⟩ := Image.reads_of_decode himageValues
  obtain ⟨-, hprovisioner, hattacher, hsnapshotter, hcontroller, hregistrar, hresizer⟩ :=
    CsiImage.reads_of_decode hcsiValues
  have hmem : entry ∈ repoTagValues target ++ imageTagValues target := by
    unfold pinnedValues at hentry
    split_ifs at hentry
    · exact hentry
    · exact List.mem_append_right _ hentry
  simp only [repoTagValues, imageTagValues, yamlKey, List.map_cons, List.map_nil,
    List.cons_append, List.nil_append, List.mem_cons, List.not_mem_nil, or_false] at hmem
  rcases hmem with rfl | rfl | rfl | rfl | rfl | rfl | rfl | rfl | rfl | rfl <;>
    simp only [Tree.get?, Tree.descend, himage, hcsi, hcsiImage] <;> assumption

/-! ## Merge and frame -/

/-- The pinned keys are set to the texts of the target, whatever the source holds there. -/
theorem generateValuesYamlFile_pins {input : ValuesInput} {sourceTree targetTree result : Tree}
    (hsource : CoreValues.decode input.codec sourceTree = some input.source)
    (htarget : CoreValues.decode input.codec targetTree = some input.target)
    (h : generateValuesYamlFile input sourceTree targetTree = .ok result) {entry : Path × String}
    (hentry : entry ∈ pinnedValues input.targetVersion input.target) :
    result.get? entry.1 = some (literal entry.2) := by
  have hmap : targetTree.isMap := (CoreValues.images_of_decode htarget).1
  have hkeys : ∀ other ∈ pinnedValues input.targetVersion input.target,
      other.1 ∈ repoTagKeys ++ imageTagKeys := by
    intro other hother
    apply pinnedKeys_subset input.targetVersion
    rw [← pinnedValues_keys input.targetVersion input.target]
    exact List.mem_map_of_mem hother
  rw [generateValuesYamlFile, mergeFiles_of_isMap hmap] at h
  refine applyEdits_get?_of_mem (pinnedValues_mem_edits hentry) ?_ ?_ ?_ h
  · intro edit hedit
    rcases mem_edits hedit with ⟨other, hother, rfl⟩ | houtside
    · exact (pinnedKeys_apart _ (hkeys other hother) _ (hkeys entry hentry)).1
    · exact (apart_of_outsideImages houtside (hkeys entry hentry)).2
  · intro edit hedit
    rcases mem_edits hedit with ⟨other, hother, rfl⟩ | houtside
    · rcases (pinnedKeys_apart _ (hkeys other hother) _ (hkeys entry hentry)).2 with heq | hapart
      · rw [pinnedValues_unique hother hentry heq]
        exact .inl rfl
      · exact .inr hapart
    · exact .inr (apart_of_outsideImages houtside (hkeys entry hentry)).1
  · exact Tree.passable_merge
      (Tree.passable_of_clear (clear_of_decode htarget (hkeys entry hentry)))
      (Tree.passable_of_clear (clear_of_decode hsource (hkeys entry hentry)))

/-- A node that comes back unchanged when its text is printed into a command. -/
def literalStable : Tree → Bool
  | .scalar tag text => literalTag text = tag
  | _ => true

theorem literalStable_iff {node : Tree} {value : String} (h : Decode.text node = some value) :
    literalStable node ↔ literal value = node := by
  cases node with
  | scalar tag text =>
    obtain rfl := Option.some.inj h
    simp [literalStable, literal]
  | seq items => cases h
  | map entries => cases h

/-- A text that is written back where it was read gives the node that was there. -/
theorem literal_eq_getD_iff {node : Option Tree} {value : String} (h : Reads node value) :
    literal value = node.getD (.str "") ↔ ∀ found, node = some found → literalStable found := by
  cases node with
  | none =>
    obtain rfl : value = "" := h
    have hempty : literal "" = .str "" := rfl
    simp [hempty]
  | some found =>
    rw [Option.getD_some, ← literalStable_iff h]
    simp

/-- The values file is the merge with the source winning, except for the edited keys, and the
pinned keys are those of the target, exactly when none of the target's values changes its type by
being written out. -/
theorem generateValuesYamlFile_merges_iff {input : ValuesInput}
    {sourceTree targetTree result : Tree}
    (hsource : CoreValues.decode input.codec sourceTree = some input.source)
    (htarget : CoreValues.decode input.codec targetTree = some input.target)
    (h : generateValuesYamlFile input sourceTree targetTree = .ok result) :
    ((∀ path, (∀ edit ∈ input.edits, Tree.Apart edit.key path) →
        result.get? path = (targetTree.merge sourceTree).get? path) ∧
      ∀ key ∈ pinnedKeys input.targetVersion,
        result.get? key = some ((targetTree.get? key).getD (.str ""))) ↔
      ∀ key ∈ pinnedKeys input.targetVersion, ∀ node, targetTree.get? key = some node →
        literalStable node := by
  have hpins {key : Path} (hkey : key ∈ pinnedKeys input.targetVersion) :
      ∃ value, Reads (targetTree.get? key) value ∧ result.get? key = some (literal value) := by
    rw [← pinnedValues_keys input.targetVersion input.target] at hkey
    obtain ⟨entry, hentry, rfl⟩ := List.mem_map.mp hkey
    exact ⟨entry.2, pinnedValues_read htarget hentry,
      generateValuesYamlFile_pins hsource htarget h hentry⟩
  constructor
  · rintro ⟨-, hequal⟩ key hkey
    obtain ⟨value, hreads, hresult⟩ := hpins hkey
    have hsame := hequal key hkey
    rw [hresult] at hsame
    exact (literal_eq_getD_iff hreads).mp (Option.some.inj hsame)
  · intro hstable
    refine ⟨?_, ?_⟩
    · intro path hapart
      have hmap : targetTree.isMap := (CoreValues.images_of_decode htarget).1
      rw [generateValuesYamlFile, mergeFiles_of_isMap hmap] at h
      exact applyEdits_get?_of_apart hapart h
    · intro key hkey
      obtain ⟨value, hreads, hresult⟩ := hpins hkey
      rw [hresult, (literal_eq_getD_iff hreads).mpr (hstable key hkey)]

/-- The values of a chart that sets little more than its tag. -/
def chartValues (tag : Tree) : Tree :=
  .map
    [("agents", .map [("core", .map []), ("ha", .map [("enabled", .scalar .bool "true")])]),
      ("base", .map []),
      ("image", .map [("tag", tag)]),
      ("io_engine", .map [("logLevel", .str "info")]),
      ("csi", .map
        [("image", .map [("provisionerTag", .str "v3.5.0"), ("attacherTag", .str "v4.3.0"),
          ("registrarTag", .str "v2.8.0")]),
          ("node", .map [("nvme", .map [("io_timeout", .str "110s")])])])]

/-- What is read from them. -/
def chartCoreValues (tag : String) : CoreValues where
  agents := ⟨true, true⟩
  deprecatedLogSilenceLevel := ""
  image := ⟨tag, {}⟩
  ioEngineLogLevel := "info"
  eventingEnabled := false
  csi := ⟨⟨"v3.5.0", "v4.3.0", "", "", "v2.8.0", ""⟩, ⟨"110s", ""⟩⟩
  jaegerOperatorImageTag := ""
  lokiStack := {}
  localpvProvisioner := {}

/-- An upgrade between two charts whose values have no containers and no probes. -/
def plainInput (sourceVersion targetVersion : Version) (sourceTag targetTag : String) :
    ValuesInput where
  codec := ⟨some, fun _ ↦ some none, fun _ ↦ none⟩
  jaegerFirst := false
  crds := ["jaegers.jaegertracing.io"]
  sourceVersion := sourceVersion
  targetVersion := targetVersion
  source := chartCoreValues sourceTag
  target := chartCoreValues targetTag

theorem generateValuesYamlFile_merges_release :
    ∃ result,
      generateValuesYamlFile (plainInput ⟨2, 6, 0, [], []⟩ ⟨2, 7, 0, [], []⟩ "v2.6.0" "v2.7.0")
          (chartValues (.str "v2.6.0")) (chartValues (.str "v2.7.0")) = .ok result ∧
        ∀ key ∈ pinnedKeys ⟨2, 7, 0, [], []⟩, result.get? key =
          some (((chartValues (.str "v2.7.0")).get? key).getD (.str "")) := by
  have hok : (generateValuesYamlFile
      (plainInput ⟨2, 6, 0, [], []⟩ ⟨2, 7, 0, [], []⟩ "v2.6.0" "v2.7.0")
      (chartValues (.str "v2.6.0")) (chartValues (.str "v2.7.0"))).isOk := by decide +kernel
  have hstable : ∀ key ∈ pinnedKeys ⟨2, 7, 0, [], []⟩,
      ((chartValues (.str "v2.7.0")).get? key).all literalStable := by decide +kernel
  obtain ⟨result, hresult⟩ := Outcome.exists_ok hok
  refine ⟨result, hresult, ((generateValuesYamlFile_merges_iff rfl rfl hresult).mpr ?_).2⟩
  intro key hkey node hnode
  simpa [hnode] using hstable key hkey

/-- A tag of digits that the target chart quotes comes out as a number. -/
theorem generateValuesYamlFile_retypes_tag :
    ¬∀ (input : ValuesInput) (sourceTree targetTree result : Tree),
      CoreValues.decode input.codec sourceTree = some input.source →
      CoreValues.decode input.codec targetTree = some input.target →
      generateValuesYamlFile input sourceTree targetTree = .ok result →
      (∀ path, (∀ edit ∈ input.edits, Tree.Apart edit.key path) →
          result.get? path = (targetTree.merge sourceTree).get? path) ∧
        ∀ key ∈ pinnedKeys input.targetVersion,
          result.get? key = some ((targetTree.get? key).getD (.str "")) := by
  intro hclaim
  have hok : (generateValuesYamlFile
      (plainInput ⟨2, 6, 0, [], []⟩ ⟨2, 7, 0, [], []⟩ "v2.6.0" "20230101")
      (chartValues (.str "v2.6.0")) (chartValues (.str "20230101"))).isOk := by decide +kernel
  obtain ⟨result, hresult⟩ := Outcome.exists_ok hok
  have hmerged := hclaim _ (chartValues (.str "v2.6.0")) (chartValues (.str "20230101")) result
    rfl rfl hresult
  have hmem : (yamlKey ["image", "tag"], "20230101") ∈
      pinnedValues ⟨2, 7, 0, [], []⟩ (chartCoreValues "20230101") := by decide +kernel
  have hpinned := generateValuesYamlFile_pins rfl rfl hresult hmem
  have htarget := hmerged.2 (yamlKey ["image", "tag"]) (by decide)
  have hsame : literal "20230101" = .str "20230101" :=
    Option.some.inj (hpinned.symm.trans htarget)
  have htag : literalTag "20230101" = .int := by decide
  rw [literal, htag] at hsame
  cases hsame

end MayastorExtensions.UpgradeJob
