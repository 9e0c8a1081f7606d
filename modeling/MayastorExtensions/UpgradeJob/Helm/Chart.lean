import MayastorExtensions.Library.Yaml

/-!
# Helm values as the upgrade-job reads them

The structures of `helm/chart.rs` and how they are deserialized.  A field is either required or has
a default for the case that its key is absent; a key that is present has to fit.  A struct with a
single field is modelled by that field.
-/

namespace MayastorExtensions.UpgradeJob

open Yaml

/-! ## Deserialization -/

namespace Decode

/-- A `String` takes the text of any scalar. -/
def text : Tree → Option String
  | .scalar _ text => some text
  | _ => none

/-- A `bool` takes the spellings of true and false. -/
def flag : Tree → Option Bool
  | .scalar .bool text =>
    if text ∈ ["true", "True", "TRUE"] then some true
    else if text ∈ ["false", "False", "FALSE"] then some false
    else none
  | _ => none

/-- A struct takes a mapping, and an empty value as a mapping without entries. -/
def fields : Tree → Option (List (String × Tree))
  | .map entries => some entries
  | .scalar .null "" => some []
  | _ => none

variable {α : Type}

/-- A field that has to be there. -/
def field (name : String) (decode : Tree → Option α) (entries : List (String × Tree)) : Option α :=
  (entries.lookup name).bind decode

/-- A field with `#[serde(default)]`. -/
def fieldOr (name : String) (default : α) (decode : Tree → Option α)
    (entries : List (String × Tree)) : Option α :=
  match entries.lookup name with
  | none => some default
  | some node => decode node

/-- A struct of one field with a default. -/
def single (name : String) (default : α) (decode : Tree → Option α) (tree : Tree) : Option α :=
  (fields tree).bind (fieldOr name default decode)

/-- A struct of one required field. -/
def singleRequired (name : String) (decode : Tree → Option α) (tree : Tree) : Option α :=
  (fields tree).bind (field name decode)

theorem child_of_fields {tree : Tree} {entries : List (String × Tree)}
    (h : fields tree = some entries) (name : String) :
    Tree.child (some tree) (.key name) = entries.lookup name := by
  unfold fields at h
  split at h <;> cases h <;> rfl

/-- An entry can only come from a mapping. -/
theorem isMap_of_fields {tree node : Tree} {entries : List (String × Tree)} {name : String}
    (h : fields tree = some entries) (hlookup : entries.lookup name = some node) : tree.isMap := by
  unfold fields at h
  split at h <;> cases h
  · rfl
  · cases hlookup

end Decode

open Decode

/-- The part of `k8s_openapi` and `serde_yaml` that the values go through: a `Container` that is
deserialized and printed as JSON again, the path of a `Probe`'s `httpGet`, and the conversion of a
YAML text to JSON. -/
structure Codec where
  container : Tree → Option Tree
  probeHttpGetPath : Tree → Option (Option String)
  yamlToJson : String → Option Tree

/-! ## Agents and the base -/

structure Agents where
  partialRebuildEnabled : Bool
  haEnabled : Bool
  deriving DecidableEq, Repr

/-- Partial rebuild counts as enabled when the object `rebuild` is missing. -/
def Agents.decode (tree : Tree) : Option Agents := do
  let entries ← fields tree
  let core ← field "core"
    (single "rebuild" true (singleRequired "partial" (singleRequired "enabled" flag))) entries
  let ha ← field "ha" (singleRequired "enabled" flag) entries
  some ⟨core, ha⟩

/-! ## Images -/

structure RepoTags where
  controlPlane : String := ""
  dataPlane : String := ""
  extensions : String := ""
  deriving DecidableEq, Repr

def RepoTags.decode (tree : Tree) : Option RepoTags := do
  let entries ← fields tree
  let controlPlane ← field "controlPlane" text entries
  let dataPlane ← field "dataPlane" text entries
  let extensions ← field "extensions" text entries
  some ⟨controlPlane, dataPlane, extensions⟩

structure Image where
  tag : String
  repoTags : RepoTags
  deriving DecidableEq, Repr

def Image.decode (tree : Tree) : Option Image := do
  let entries ← fields tree
  let tag ← field "tag" text entries
  let repoTags ← fieldOr "repoTags" {} RepoTags.decode entries
  some ⟨tag, repoTags⟩

structure CsiImage where
  provisionerTag : String
  attacherTag : String
  snapshotterTag : String
  snapshotControllerTag : String
  registrarTag : String
  resizerTag : String
  deriving DecidableEq, Repr

def CsiImage.decode (tree : Tree) : Option CsiImage := do
  let entries ← fields tree
  let provisionerTag ← field "provisionerTag" text entries
  let attacherTag ← field "attacherTag" text entries
  let snapshotterTag ← fieldOr "snapshotterTag" "" text entries
  let snapshotControllerTag ← fieldOr "snapshotControllerTag" "" text entries
  let registrarTag ← field "registrarTag" text entries
  let resizerTag ← fieldOr "resizerTag" "" text entries
  some ⟨provisionerTag, attacherTag, snapshotterTag, snapshotControllerTag, registrarTag,
    resizerTag⟩

structure CsiNode where
  nvmeIoTimeout : String
  deprecatedPluginMountPath : String
  deriving DecidableEq, Repr

/-- The key of the mount path is spelled with a typo in the old charts. -/
def CsiNode.decode (tree : Tree) : Option CsiNode := do
  let entries ← fields tree
  let nvme ← field "nvme" (singleRequired "io_timeout" text) entries
  let deprecatedPluginMountPath ← fieldOr "pluginMounthPath" "" text entries
  some ⟨nvme, deprecatedPluginMountPath⟩

structure Csi where
  image : CsiImage
  node : CsiNode
  deriving DecidableEq, Repr

def Csi.decode (tree : Tree) : Option Csi := do
  let entries ← fields tree
  let image ← field "image" CsiImage.decode entries
  let node ← field "node" CsiNode.decode entries
  some ⟨image, node⟩

/-- A `GenericImage` and the image structs like it; absent tags are empty. -/
def genericImageTag : Tree → Option String :=
  single "tag" "" text

/-- A struct that has nothing but an image. -/
def imageTag : Tree → Option String :=
  single "image" "" genericImageTag

/-! ## The loki-stack -/

structure Grafana where
  downloadDashboardsImageTag : String := ""
  imageTag : String := ""
  sidecarImageTag : String := ""
  deriving DecidableEq, Repr

def Grafana.decode (tree : Tree) : Option Grafana := do
  let entries ← fields tree
  let downloadDashboardsImage ← fieldOr "downloadDashboardsImage" "" genericImageTag entries
  let image ← fieldOr "image" "" genericImageTag entries
  let sidecar ← fieldOr "sidecar" "" UpgradeJob.imageTag entries
  some ⟨downloadDashboardsImage, image, sidecar⟩

structure Prometheus where
  alertmanagerImageTag : String := ""
  nodeExporterImageTag : String := ""
  pushgatewayImageTag : String := ""
  serverImageTag : String := ""
  deriving DecidableEq, Repr

def Prometheus.decode (tree : Tree) : Option Prometheus := do
  let entries ← fields tree
  let alertmanager ← fieldOr "alertmanager" "" imageTag entries
  let nodeExporter ← fieldOr "nodeExporter" "" imageTag entries
  let pushgateway ← fieldOr "pushgateway" "" imageTag entries
  let server ← fieldOr "server" "" imageTag entries
  some ⟨alertmanager, nodeExporter, pushgateway, server⟩

structure PromtailConfigSnippets where
  deprecatedExtraClientConfigs : String := ""
  scrapeConfigs : String := ""
  deriving DecidableEq, Repr

/-- `scrapeConfigs` is required once the object is there. -/
def PromtailConfigSnippets.decode (tree : Tree) : Option PromtailConfigSnippets := do
  let entries ← fields tree
  let deprecatedExtraClientConfigs ← fieldOr "extraClientConfigs" "" text entries
  let scrapeConfigs ← field "scrapeConfigs" text entries
  some ⟨deprecatedExtraClientConfigs, scrapeConfigs⟩

structure PromtailConfig where
  deprecatedLokiAddress : String := ""
  file : String := ""
  snippets : PromtailConfigSnippets := {}
  deriving DecidableEq, Repr

def PromtailConfig.decode (tree : Tree) : Option PromtailConfig := do
  let entries ← fields tree
  let deprecatedLokiAddress ← fieldOr "lokiAddress" "" text entries
  let file ← fieldOr "file" "" text entries
  let snippets ← fieldOr "snippets" {} PromtailConfigSnippets.decode entries
  some ⟨deprecatedLokiAddress, file, snippets⟩

/-- `PromtailInitContainer`: an object, as the old chart has it, counts as no container. -/
def promtailInitContainer (codec : Codec) : Tree → Option (List Tree)
  | .map _ => some []
  | .seq items => items.mapM codec.container
  | .scalar _ _ => none

structure Promtail where
  config : PromtailConfig := {}
  initContainer : List Tree := []
  readinessProbeHttpGetPath : String := ""

def Promtail.decode (codec : Codec) (tree : Tree) : Option Promtail := do
  let entries ← fields tree
  let config ← fieldOr "config" {} PromtailConfig.decode entries
  let initContainer ← fieldOr "initContainer" [] (promtailInitContainer codec) entries
  let readinessProbe ← fieldOr "readinessProbe" none codec.probeHttpGetPath entries
  some ⟨config, initContainer, readinessProbe.getD ""⟩

structure LokiStack where
  filebeatImageTag : String := ""
  grafana : Grafana := {}
  logstashImageTag : String := ""
  lokiImageTag : String := ""
  prometheus : Prometheus := {}
  promtail : Promtail := {}

def LokiStack.decode (codec : Codec) (tree : Tree) : Option LokiStack := do
  let entries ← fields tree
  let filebeat ← fieldOr "filebeat" "" (single "imageTag" "" text) entries
  let grafana ← fieldOr "grafana" {} Grafana.decode entries
  let logstash ← fieldOr "logstash" "" (single "imageTag" "" text) entries
  let loki ← fieldOr "loki" "" imageTag entries
  let prometheus ← fieldOr "prometheus" {} Prometheus.decode entries
  let promtail ← fieldOr "promtail" {} (Promtail.decode codec) entries
  some ⟨filebeat, grafana, logstash, loki, prometheus, promtail⟩

structure LocalpvProvisioner where
  releaseVersion : String := ""
  localpvImageTag : String := ""
  helperPodImageTag : String := ""
  deriving DecidableEq, Repr

def LocalpvProvisioner.decode (tree : Tree) : Option LocalpvProvisioner := do
  let entries ← fields tree
  let release ← fieldOr "release" "" (single "version" "" text) entries
  let localpv ← fieldOr "localpv" "" imageTag entries
  let helperPod ← fieldOr "helperPod" "" imageTag entries
  some ⟨release, localpv, helperPod⟩

/-! ## The values of the core chart -/

structure CoreValues where
  agents : Agents
  deprecatedLogSilenceLevel : String
  image : Image
  ioEngineLogLevel : String
  eventingEnabled : Bool
  csi : Csi
  jaegerOperatorImageTag : String
  lokiStack : LokiStack
  localpvProvisioner : LocalpvProvisioner

def CoreValues.decode (codec : Codec) (tree : Tree) : Option CoreValues := do
  let entries ← fields tree
  let agents ← field "agents" Agents.decode entries
  let base ← field "base" (single "logSilenceLevel" "" text) entries
  let image ← field "image" Image.decode entries
  let ioEngine ← field "io_engine" (singleRequired "logLevel" text) entries
  let eventing ← fieldOr "eventing" false (singleRequired "enabled" flag) entries
  let csi ← field "csi" Csi.decode entries
  let jaegerOperator ← fieldOr "jaeger-operator" "" imageTag entries
  let lokiStack ← fieldOr "loki-stack" {} (LokiStack.decode codec) entries
  let localpvProvisioner ← fieldOr "localpv-provisioner" {} LocalpvProvisioner.decode entries
  some ⟨agents, base, image, ioEngine, eventing, csi, jaegerOperator, lokiStack,
    localpvProvisioner⟩

/-- The umbrella chart holds the values of the core chart under its name. -/
def UmbrellaValues.decode (codec : Codec) : Tree → Option CoreValues :=
  singleRequired "mayastor" (CoreValues.decode codec)

/-! ## What the deserialized values say about the tree -/

/-- The text that is read off a node whose absence reads as empty. -/
def Reads (node : Option Tree) (value : String) : Prop :=
  match node with
  | none => value = ""
  | some tree => text tree = some value

theorem reads_field {name value : String} {entries : List (String × Tree)}
    (h : field name text entries = some value) : Reads (entries.lookup name) value := by
  obtain ⟨node, hnode, htext⟩ := Option.bind_eq_some_iff.mp h
  rw [hnode]
  exact htext

theorem reads_fieldOr {name value : String} {entries : List (String × Tree)}
    (h : fieldOr name "" text entries = some value) : Reads (entries.lookup name) value := by
  unfold fieldOr at h
  split at h
  next hlookup =>
    rw [hlookup]
    exact (Option.some.inj h).symm
  next node hlookup =>
    rw [hlookup]
    exact h

/-- The values of a key below a key. -/
theorem field_decode {α : Type} {name : String} {decode : Tree → Option α}
    {entries : List (String × Tree)} {value : α} (h : field name decode entries = some value) :
    ∃ node, entries.lookup name = some node ∧ decode node = some value :=
  Option.bind_eq_some_iff.mp h

theorem RepoTags.reads_of_decode {tree : Tree} {repoTags : RepoTags}
    (h : RepoTags.decode tree = some repoTags) :
    tree.isMap ∧ Reads (Tree.child (some tree) (.key "controlPlane")) repoTags.controlPlane ∧
      Reads (Tree.child (some tree) (.key "dataPlane")) repoTags.dataPlane ∧
      Reads (Tree.child (some tree) (.key "extensions")) repoTags.extensions := by
  simp only [RepoTags.decode, Option.bind_eq_bind, Option.bind_eq_some_iff, Option.some.injEq] at h
  obtain ⟨entries, hentries, controlPlane, hcontrol, dataPlane, hdata, extensions, hext, rfl⟩ := h
  obtain ⟨node, hnode, -⟩ := field_decode hcontrol
  simp only [child_of_fields hentries]
  exact ⟨isMap_of_fields hentries hnode, reads_field hcontrol, reads_field hdata,
    reads_field hext⟩

/-- The tags below `image`; `repoTags` is absent or a mapping. -/
theorem Image.reads_of_decode {tree : Tree} {image : Image} (h : Image.decode tree = some image) :
    tree.isMap ∧
      (∀ node, Tree.child (some tree) (.key "repoTags") = some node → node.isMap) ∧
      Reads (tree.get? [.key "tag"]) image.tag ∧
      Reads (tree.get? [.key "repoTags", .key "controlPlane"]) image.repoTags.controlPlane ∧
      Reads (tree.get? [.key "repoTags", .key "dataPlane"]) image.repoTags.dataPlane ∧
      Reads (tree.get? [.key "repoTags", .key "extensions"]) image.repoTags.extensions := by
  simp only [Image.decode, Option.bind_eq_bind, Option.bind_eq_some_iff, Option.some.injEq] at h
  obtain ⟨entries, hentries, tag, htag, repoTags, hrepo, rfl⟩ := h
  obtain ⟨node, hnode, -⟩ := field_decode htag
  have hmap := isMap_of_fields hentries hnode
  simp only [Tree.get?, Tree.descend, child_of_fields hentries]
  unfold fieldOr at hrepo
  split at hrepo
  next hlookup =>
    obtain rfl := Option.some.inj hrepo
    rw [hlookup]
    simp only [Tree.child_none]
    refine ⟨hmap, ?_, reads_field htag, rfl, rfl, rfl⟩
    intro node h
    cases h
  next found hlookup =>
    obtain ⟨hfound, hreads⟩ := RepoTags.reads_of_decode hrepo
    rw [hlookup]
    refine ⟨hmap, ?_, reads_field htag, hreads⟩
    intro node h
    obtain rfl := Option.some.inj h
    exact hfound

/-- The tags below `csi.image`. -/
theorem CsiImage.reads_of_decode {tree : Tree} {image : CsiImage}
    (h : CsiImage.decode tree = some image) :
    tree.isMap ∧ Reads (Tree.child (some tree) (.key "provisionerTag")) image.provisionerTag ∧
      Reads (Tree.child (some tree) (.key "attacherTag")) image.attacherTag ∧
      Reads (Tree.child (some tree) (.key "snapshotterTag")) image.snapshotterTag ∧
      Reads (Tree.child (some tree) (.key "snapshotControllerTag")) image.snapshotControllerTag ∧
      Reads (Tree.child (some tree) (.key "registrarTag")) image.registrarTag ∧
      Reads (Tree.child (some tree) (.key "resizerTag")) image.resizerTag := by
  simp only [CsiImage.decode, Option.bind_eq_bind, Option.bind_eq_some_iff, Option.some.injEq] at h
  obtain ⟨entries, hentries, provisioner, hprovisioner, attacher, hattacher, snapshotter,
    hsnapshotter, controller, hcontroller, registrar, hregistrar, resizer, hresizer, rfl⟩ := h
  obtain ⟨node, hnode, -⟩ := field_decode hprovisioner
  simp only [child_of_fields hentries]
  exact ⟨isMap_of_fields hentries hnode, reads_field hprovisioner, reads_field hattacher,
    reads_fieldOr hsnapshotter, reads_fieldOr hcontroller, reads_field hregistrar,
    reads_fieldOr hresizer⟩

/-- Values have the two objects that the images are named in. -/
theorem CoreValues.images_of_decode {codec : Codec} {tree : Tree} {values : CoreValues}
    (h : CoreValues.decode codec tree = some values) :
    tree.isMap ∧
      (∃ image, Tree.child (some tree) (.key "image") = some image ∧
        Image.decode image = some values.image) ∧
      ∃ csi csiImage, Tree.child (some tree) (.key "csi") = some csi ∧ csi.isMap ∧
        Tree.child (some csi) (.key "image") = some csiImage ∧
        CsiImage.decode csiImage = some values.csi.image := by
  simp only [CoreValues.decode, Option.bind_eq_bind, Option.bind_eq_some_iff,
    Option.some.injEq] at h
  obtain ⟨entries, hentries, agents, -, base, -, image, himage, ioEngine, -, eventing, -, csi, hcsi,
    jaeger, -, loki, -, localpv, -, rfl⟩ := h
  obtain ⟨imageNode, himageNode, himage⟩ := field_decode himage
  obtain ⟨csiNode, hcsiNode, hcsi⟩ := field_decode hcsi
  simp only [Csi.decode, Option.bind_eq_bind, Option.bind_eq_some_iff, Option.some.injEq] at hcsi
  obtain ⟨csiEntries, hcsiEntries, csiImage, hcsiImage, node, -, rfl⟩ := hcsi
  obtain ⟨csiImageNode, hcsiImageNode, hcsiImage⟩ := field_decode hcsiImage
  refine ⟨isMap_of_fields hentries himageNode, ⟨imageNode, ?_, himage⟩, csiNode, csiImageNode, ?_,
    isMap_of_fields hcsiEntries hcsiImageNode, ?_, hcsiImage⟩
  · rw [child_of_fields hentries, himageNode]
  · rw [child_of_fields hentries, hcsiNode]
  · rw [child_of_fields hcsiEntries, hcsiImageNode]

end MayastorExtensions.UpgradeJob
