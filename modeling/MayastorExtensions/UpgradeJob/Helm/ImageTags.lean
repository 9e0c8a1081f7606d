import MayastorExtensions.UpgradeJob.Helm.ValuesChain

/-!
# The images of the dependencies

An upgrade from a version below 2.6.0 sets the image tags of the bundled third-party charts.  The
objects that the tags are in are optional in the values, down to the tag itself, so that each of
them may be absent or empty on either side.  Ten of the tags are taken from the target chart and
that of the jaeger-operator from the installed release.
-/

namespace MayastorExtensions.UpgradeJob

open Decode Semver Yaml

/-! ## Optional objects -/

/-- The way along the keys is passable, and what it leads to has a property. -/
def Leads (names : List String) (node : Option Tree) (property : Option Tree → Prop) : Prop :=
  Tree.Passable (yamlKey names) node ∧ property (Tree.descend (yamlKey names) node)

theorem passable_yamlKey_none (names : List String) : Tree.Passable (yamlKey names) none := by
  induction names with
  | nil => trivial
  | cons name rest ih =>
    refine ⟨?_, ih⟩
    intro tree htree
    cases htree

theorem leads_none {names : List String} {property : Option Tree → Prop} (h : property none) :
    Leads names none property := by
  refine ⟨passable_yamlKey_none names, ?_⟩
  rwa [Tree.descend_none]

theorem opens_of_fields {tree : Tree} {entries : List (String × Tree)}
    (h : fields tree = some entries) : tree.opens := by
  unfold fields at h
  split at h <;> first | rfl | cases h

section Leads

variable {α : Type} {name : String} {names : List String} {tree : Tree} {default value : α}
  {decode : Tree → Option α} {entries : List (String × Tree)} {property : α → Option Tree → Prop}

/-- What holds of the default and of the values below a key holds of the values above it. -/
theorem leads_fieldOr (hentries : fields tree = some entries) (hdefault : property default none)
    (hdecode : ∀ node value, decode node = some value → Leads names (some node) (property value))
    (h : fieldOr name default decode entries = some value) :
    Leads (name :: names) (some tree) (property value) := by
  have hbelow : Leads names (entries.lookup name) (property value) := by
    unfold fieldOr at h
    split at h
    next hlookup =>
      rw [hlookup, ← Option.some.inj h]
      exact leads_none hdefault
    next node hlookup =>
      rw [hlookup]
      exact hdecode node value h
  rw [← child_of_fields hentries] at hbelow
  refine ⟨⟨?_, hbelow.1⟩, hbelow.2⟩
  intro found hfound
  rw [← Option.some.inj hfound]
  exact opens_of_fields hentries

theorem leads_single (hdefault : property default none)
    (hdecode : ∀ node value, decode node = some value → Leads names (some node) (property value))
    (h : single name default decode tree = some value) :
    Leads (name :: names) (some tree) (property value) := by
  obtain ⟨entries, hentries, hfield⟩ := Option.bind_eq_some_iff.mp h
  exact leads_fieldOr hentries hdefault hdecode hfield

end Leads

/-! ## The tags as they are read -/

/-- The node reads as a tag. -/
def readsAs (value : String) (node : Option Tree) : Prop :=
  Reads node value

theorem leads_text (node : Tree) (value : String) (h : text node = some value) :
    Leads [] (some node) (readsAs value) :=
  ⟨trivial, h⟩

theorem leads_genericImageTag (node : Tree) (value : String)
    (h : genericImageTag node = some value) :
    Leads ["tag"] (some node) (readsAs value) :=
  leads_single rfl leads_text h

theorem leads_imageTag (node : Tree) (value : String) (h : imageTag node = some value) :
    Leads ["image", "tag"] (some node) (readsAs value) :=
  leads_single rfl leads_genericImageTag h

theorem leads_ownImageTag (node : Tree) (value : String)
    (h : single "imageTag" "" text node = some value) :
    Leads ["imageTag"] (some node) (readsAs value) :=
  leads_single rfl leads_text h

theorem Grafana.leads_of_decode {tree : Tree} {grafana : Grafana}
    (h : Grafana.decode tree = some grafana) :
    Leads ["downloadDashboardsImage", "tag"] (some tree)
        (readsAs grafana.downloadDashboardsImageTag) ∧
      Leads ["image", "tag"] (some tree) (readsAs grafana.imageTag) ∧
      Leads ["sidecar", "image", "tag"] (some tree) (readsAs grafana.sidecarImageTag) := by
  simp only [Grafana.decode, Option.bind_eq_bind, Option.bind_eq_some_iff, Option.some.injEq] at h
  obtain ⟨entries, hentries, dashboards, hdashboards, image, himage, sidecar, hsidecar, rfl⟩ := h
  exact ⟨leads_fieldOr hentries rfl leads_genericImageTag hdashboards,
    leads_fieldOr hentries rfl leads_genericImageTag himage,
    leads_fieldOr hentries rfl leads_imageTag hsidecar⟩

theorem Prometheus.leads_of_decode {tree : Tree} {prometheus : Prometheus}
    (h : Prometheus.decode tree = some prometheus) :
    Leads ["alertmanager", "image", "tag"] (some tree) (readsAs prometheus.alertmanagerImageTag) ∧
      Leads ["nodeExporter", "image", "tag"] (some tree) (readsAs prometheus.nodeExporterImageTag) ∧
      Leads ["pushgateway", "image", "tag"] (some tree) (readsAs prometheus.pushgatewayImageTag) ∧
      Leads ["server", "image", "tag"] (some tree) (readsAs prometheus.serverImageTag) := by
  simp only [Prometheus.decode, Option.bind_eq_bind, Option.bind_eq_some_iff,
    Option.some.injEq] at h
  obtain ⟨entries, hentries, alertmanager, halertmanager, nodeExporter, hnodeExporter, pushgateway,
    hpushgateway, server, hserver, rfl⟩ := h
  exact ⟨leads_fieldOr hentries rfl leads_imageTag halertmanager,
    leads_fieldOr hentries rfl leads_imageTag hnodeExporter,
    leads_fieldOr hentries rfl leads_imageTag hpushgateway,
    leads_fieldOr hentries rfl leads_imageTag hserver⟩

/-- What is said of the loki-stack wherever it is deserialized is said of the values. -/
theorem CoreValues.leads_lokiStack {codec : Codec} {tree : Tree} {values : CoreValues}
    {names : List String} {property : LokiStack → Option Tree → Prop}
    (h : CoreValues.decode codec tree = some values) (hdefault : property {} none)
    (hstack : ∀ node stack, LokiStack.decode codec node = some stack →
      Leads names (some node) (property stack)) :
    Leads ("loki-stack" :: names) (some tree) (property values.lokiStack) := by
  simp only [CoreValues.decode, Option.bind_eq_bind, Option.bind_eq_some_iff,
    Option.some.injEq] at h
  obtain ⟨entries, hentries, agents, -, base, -, image, -, ioEngine, -, eventing, -, csi, -,
    jaeger, -, loki, hloki, localpv, -, rfl⟩ := h
  exact leads_fieldOr hentries hdefault hstack hloki

theorem CoreValues.leads_jaegerOperator {codec : Codec} {tree : Tree} {values : CoreValues}
    (h : CoreValues.decode codec tree = some values) :
    Leads ["jaeger-operator", "image", "tag"] (some tree)
      (readsAs values.jaegerOperatorImageTag) := by
  simp only [CoreValues.decode, Option.bind_eq_bind, Option.bind_eq_some_iff,
    Option.some.injEq] at h
  obtain ⟨entries, hentries, agents, -, base, -, image, -, ioEngine, -, eventing, -, csi, -,
    jaeger, hjaeger, loki, -, localpv, -, rfl⟩ := h
  exact leads_fieldOr hentries rfl leads_imageTag hjaeger

/-- The tags of the loki-stack are read where they are written. -/
theorem LokiStack.leads_of_decode {codec : Codec} {tree : Tree} {stack : LokiStack}
    (h : LokiStack.decode codec tree = some stack) :
    Leads ["loki", "image", "tag"] (some tree) (readsAs stack.lokiImageTag) ∧
      Leads ["filebeat", "imageTag"] (some tree) (readsAs stack.filebeatImageTag) ∧
      Leads ["logstash", "imageTag"] (some tree) (readsAs stack.logstashImageTag) ∧
      Leads ["grafana", "downloadDashboardsImage", "tag"] (some tree)
        (readsAs stack.grafana.downloadDashboardsImageTag) ∧
      Leads ["grafana", "image", "tag"] (some tree) (readsAs stack.grafana.imageTag) ∧
      Leads ["grafana", "sidecar", "image", "tag"] (some tree)
        (readsAs stack.grafana.sidecarImageTag) ∧
      Leads ["prometheus", "alertmanager", "image", "tag"] (some tree)
        (readsAs stack.prometheus.alertmanagerImageTag) ∧
      Leads ["prometheus", "nodeExporter", "image", "tag"] (some tree)
        (readsAs stack.prometheus.nodeExporterImageTag) ∧
      Leads ["prometheus", "pushgateway", "image", "tag"] (some tree)
        (readsAs stack.prometheus.pushgatewayImageTag) ∧
      Leads ["prometheus", "server", "image", "tag"] (some tree)
        (readsAs stack.prometheus.serverImageTag) := by
  simp only [LokiStack.decode, Option.bind_eq_bind, Option.bind_eq_some_iff,
    Option.some.injEq] at h
  obtain ⟨entries, hentries, filebeat, hfilebeat, grafana, hgrafana, logstash, hlogstash, loki,
    hloki, prometheus, hprometheus, promtail, -, rfl⟩ := h
  have hgrafanaLeads {names : List String} (tag : Grafana → String) (hdefault : tag {} = "")
      (hdecode : ∀ node value, Grafana.decode node = some value →
        Leads names (some node) (readsAs (tag value))) :
      Leads ("grafana" :: names) (some tree) (readsAs (tag grafana)) :=
    @leads_fieldOr _ _ _ _ _ _ _ _ (fun value ↦ readsAs (tag value)) hentries hdefault hdecode
      hgrafana
  have hprometheusLeads {names : List String} (tag : Prometheus → String) (hdefault : tag {} = "")
      (hdecode : ∀ node value, Prometheus.decode node = some value →
        Leads names (some node) (readsAs (tag value))) :
      Leads ("prometheus" :: names) (some tree) (readsAs (tag prometheus)) :=
    @leads_fieldOr _ _ _ _ _ _ _ _ (fun value ↦ readsAs (tag value)) hentries hdefault hdecode
      hprometheus
  exact ⟨leads_fieldOr hentries rfl leads_imageTag hloki,
    leads_fieldOr hentries rfl leads_ownImageTag hfilebeat,
    leads_fieldOr hentries rfl leads_ownImageTag hlogstash,
    hgrafanaLeads _ rfl fun _ _ h ↦ (Grafana.leads_of_decode h).1,
    hgrafanaLeads _ rfl fun _ _ h ↦ (Grafana.leads_of_decode h).2.1,
    hgrafanaLeads _ rfl fun _ _ h ↦ (Grafana.leads_of_decode h).2.2,
    hprometheusLeads _ rfl fun _ _ h ↦ (Prometheus.leads_of_decode h).1,
    hprometheusLeads _ rfl fun _ _ h ↦ (Prometheus.leads_of_decode h).2.1,
    hprometheusLeads _ rfl fun _ _ h ↦ (Prometheus.leads_of_decode h).2.2.1,
    hprometheusLeads _ rfl fun _ _ h ↦ (Prometheus.leads_of_decode h).2.2.2⟩

/-! ## The keys of the tags -/

def jaegerTagKey : Path :=
  yamlKey ["jaeger-operator", "image", "tag"]

/-- The keys of the dependencies' tags, jaeger-operator last. -/
def dependencyTagKeys : List Path :=
  [yamlKey ["loki-stack", "loki", "image", "tag"], yamlKey ["loki-stack", "filebeat", "imageTag"],
    yamlKey ["loki-stack", "logstash", "imageTag"],
    yamlKey ["loki-stack", "grafana", "downloadDashboardsImage", "tag"],
    yamlKey ["loki-stack", "grafana", "image", "tag"],
    yamlKey ["loki-stack", "grafana", "sidecar", "image", "tag"],
    yamlKey ["loki-stack", "prometheus", "alertmanager", "image", "tag"],
    yamlKey ["loki-stack", "prometheus", "nodeExporter", "image", "tag"],
    yamlKey ["loki-stack", "prometheus", "pushgateway", "image", "tag"],
    yamlKey ["loki-stack", "prometheus", "server", "image", "tag"], jaegerTagKey]

/-- The tag at a key; a tag that is not there is empty. -/
def tagAt (tree : Tree) (key : Path) : String :=
  (textAt tree key).getD ""

theorem tagAt_of_reads {tree : Tree} {key : Path} {value : String}
    (h : Reads (tree.get? key) value) : tagAt tree key = value := by
  unfold tagAt textAt
  cases hnode : tree.get? key with
  | none =>
    rw [hnode] at h
    exact (h : value = "").symm
  | some node =>
    rw [hnode] at h
    rw [Option.bind_some, show text node = some value from h, Option.getD_some]

theorem tagAt_jaegerTagKey {codec : Codec} {tree : Tree} {values : CoreValues}
    (h : CoreValues.decode codec tree = some values) :
    tagAt tree jaegerTagKey = values.jaegerOperatorImageTag :=
  tagAt_of_reads (CoreValues.leads_jaegerOperator h).2

theorem writtenTagValues_keys (source target : CoreValues) :
    (writtenTagValues source target).map Prod.fst = dependencyTagKeys := rfl

/-- The tags are read from where they are written, and the way there is passable. -/
theorem writtenTagValues_read {codec : Codec} {tree : Tree} {values : CoreValues}
    (h : CoreValues.decode codec tree = some values) {entry : Path × String}
    (hentry : entry ∈ writtenTagValues values values) :
    Tree.Passable entry.1 (some tree) ∧ Reads (tree.get? entry.1) entry.2 := by
  have hstack {names : List String} (tag : LokiStack → String) (hdefault : tag {} = "")
      (hdecode : ∀ node stack, LokiStack.decode codec node = some stack →
        Leads names (some node) (readsAs (tag stack))) :
      Leads ("loki-stack" :: names) (some tree) (readsAs (tag values.lokiStack)) :=
    @CoreValues.leads_lokiStack _ _ _ _ (fun stack ↦ readsAs (tag stack)) h hdefault hdecode
  simp only [writtenTagValues, lokiStackImageTags, List.cons_append, List.nil_append,
    List.mem_cons, List.not_mem_nil, or_false] at hentry
  rcases hentry with rfl | rfl | rfl | rfl | rfl | rfl | rfl | rfl | rfl | rfl | rfl
  · exact hstack _ rfl fun _ _ h ↦ (LokiStack.leads_of_decode h).1
  · exact hstack _ rfl fun _ _ h ↦ (LokiStack.leads_of_decode h).2.1
  · exact hstack _ rfl fun _ _ h ↦ (LokiStack.leads_of_decode h).2.2.1
  · exact hstack _ rfl fun _ _ h ↦ (LokiStack.leads_of_decode h).2.2.2.1
  · exact hstack _ rfl fun _ _ h ↦ (LokiStack.leads_of_decode h).2.2.2.2.1
  · exact hstack _ rfl fun _ _ h ↦ (LokiStack.leads_of_decode h).2.2.2.2.2.1
  · exact hstack _ rfl fun _ _ h ↦ (LokiStack.leads_of_decode h).2.2.2.2.2.2.1
  · exact hstack _ rfl fun _ _ h ↦ (LokiStack.leads_of_decode h).2.2.2.2.2.2.2.1
  · exact hstack _ rfl fun _ _ h ↦ (LokiStack.leads_of_decode h).2.2.2.2.2.2.2.2.1
  · exact hstack _ rfl fun _ _ h ↦ (LokiStack.leads_of_decode h).2.2.2.2.2.2.2.2.2
  · exact CoreValues.leads_jaegerOperator h

/-- A dependency's key has one value. -/
theorem writtenTagValues_unique {source target : CoreValues} {entry other : Path × String}
    (hentry : entry ∈ writtenTagValues source target)
    (hother : other ∈ writtenTagValues source target) (hkey : entry.1 = other.1) :
    entry = other := by
  have hnodup : ((writtenTagValues source target).map Prod.fst).Nodup := by
    rw [writtenTagValues_keys]
    decide
  exact List.inj_on_of_nodup_map hnodup hentry hother hkey

/-- The way to a dependency's tag depends on the key alone. -/
theorem passable_dependencyTag {codec : Codec} {tree : Tree} {values : CoreValues}
    (h : CoreValues.decode codec tree = some values) {key : Path} (hkey : key ∈ dependencyTagKeys) :
    Tree.Passable key (some tree) := by
  rw [← writtenTagValues_keys values values] at hkey
  obtain ⟨entry, hentry, rfl⟩ := List.mem_map.mp hkey
  exact (writtenTagValues_read h hentry).1

theorem dependencyTagKeys_apart : ∀ key ∈ dependencyTagKeys, ∀ other ∈ dependencyTagKeys,
    Tree.spares key other ∧ (key = other ∨ Tree.Apart key other) := by
  decide +kernel

theorem otherKeys_apart_dependencies :
    ∀ key ∈ repoTagKeys ++ imageTagKeys ++ otherKeys, ∀ other ∈ dependencyTagKeys,
      Tree.spares key other ∧ Tree.Apart key other := by
  decide +kernel

/-- An edit of something else than the dependencies' tags stays away from them. -/
theorem mem_edits_dependency {input : ValuesInput} {edit : Edit} (h : edit ∈ input.edits) :
    (∃ entry ∈ writtenTagValues input.source input.target,
      edit = .setLiteralValue entry.1 entry.2) ∨
    ∀ key ∈ dependencyTagKeys, Tree.spares edit.key key ∧ Tree.Apart edit.key key := by
  rcases mem_edits_cases h with ⟨entry, hentry, rfl⟩ | hwritten | hother
  · right
    apply otherKeys_apart_dependencies
    apply List.mem_append_left
    apply pinnedKeys_subset input.targetVersion
    rw [← pinnedValues_keys input.targetVersion input.target]
    exact List.mem_map_of_mem hentry
  · exact .inl hwritten
  · right
    apply otherKeys_apart_dependencies
    exact List.mem_append_right _ (List.contains_iff_mem.mp hother)

/-! ## Upgrades from below 2.6.0 -/

theorem writtenTagValues_mem_edits {input : ValuesInput}
    (hwindow : inWindow TWO_DOT_O_RC_ONE TWO_DOT_SIX input.sourceVersion) {entry : Path × String}
    (h : entry ∈ writtenTagValues input.source input.target) :
    .setLiteralValue entry.1 entry.2 ∈ input.edits := by
  have hsix : .setLiteralValue entry.1 entry.2 ∈
      twoDotSixEdits input.codec input.sourceVersion input.source input.target := by
    rw [twoDotSixEdits, if_pos hwindow]
    simp only [List.mem_append]
    rcases List.mem_append.mp h with hstack | hjaeger
    · exact .inl (.inl (.inl (.inl (.inl (.inr (List.mem_map.mpr ⟨entry, hstack, rfl⟩))))))
    · obtain rfl := List.mem_singleton.mp hjaeger
      simp
  simp only [ValuesInput.edits, ValuesInput.chartEdits, List.mem_append]
  exact .inl (.inl (.inr hsix))

/-- The dependencies' keys are set to the chosen texts, whatever was there. -/
theorem generateValuesYamlFile_writes {input : ValuesInput} {sourceTree targetTree result : Tree}
    (hsource : CoreValues.decode input.codec sourceTree = some input.source)
    (htarget : CoreValues.decode input.codec targetTree = some input.target)
    (hwindow : inWindow TWO_DOT_O_RC_ONE TWO_DOT_SIX input.sourceVersion)
    (h : generateValuesYamlFile input sourceTree targetTree = .ok result) {entry : Path × String}
    (hentry : entry ∈ writtenTagValues input.source input.target) :
    result.get? entry.1 = some (literal entry.2) := by
  have hkey : ∀ other ∈ writtenTagValues input.source input.target,
      other.1 ∈ dependencyTagKeys := by
    intro other hother
    rw [← writtenTagValues_keys input.source input.target]
    exact List.mem_map_of_mem hother
  rw [generateValuesYamlFile, mergeFiles_of_isMap (CoreValues.images_of_decode htarget).1] at h
  refine applyEdits_get?_of_mem (writtenTagValues_mem_edits hwindow hentry) ?_ ?_ ?_ h
  · intro edit hedit
    rcases mem_edits_dependency hedit with ⟨other, hother, rfl⟩ | hapart
    · exact (dependencyTagKeys_apart _ (hkey other hother) _ (hkey entry hentry)).1
    · exact (hapart _ (hkey entry hentry)).1
  · intro edit hedit
    rcases mem_edits_dependency hedit with ⟨other, hother, rfl⟩ | hapart
    · rcases (dependencyTagKeys_apart _ (hkey other hother) _ (hkey entry hentry)).2 with heq | hne
      · rw [writtenTagValues_unique hother hentry heq]
        exact .inl rfl
      · exact .inr hne
    · exact .inr (hapart _ (hkey entry hentry)).2
  · exact Tree.passable_merge (passable_dependencyTag htarget (hkey entry hentry))
      (passable_dependencyTag hsource (hkey entry hentry))

/-- The node that holds a tag, a missing one being the empty text. -/
def tagNode (tree : Tree) (key : Path) : Tree :=
  (tree.get? key).getD (.str "")

theorem tagAt_of_tagNode {tree : Tree} {key : Path} {value : String}
    (h : literal value = tagNode tree key) : tagAt tree key = value := by
  unfold tagNode at h
  unfold tagAt textAt
  cases hnode : tree.get? key with
  | none =>
    rw [hnode] at h
    exact (Tree.scalar.inj h).2.symm
  | some node =>
    rw [hnode, Option.getD_some] at h
    rw [Option.bind_some, ← h]
    rfl

/-- The new values have the target's tag for every dependency, as the node that it is in the
target, if and only if the release and the target have the same tag for the jaeger-operator and
none of the target's tags changes its type by being written out. -/
theorem generateValuesYamlFile_moves_tags_iff {input : ValuesInput}
    {sourceTree targetTree result : Tree}
    (hsource : CoreValues.decode input.codec sourceTree = some input.source)
    (htarget : CoreValues.decode input.codec targetTree = some input.target)
    (hwindow : inWindow TWO_DOT_O_RC_ONE TWO_DOT_SIX input.sourceVersion)
    (h : generateValuesYamlFile input sourceTree targetTree = .ok result) :
    (∀ key ∈ dependencyTagKeys, result.get? key = some (tagNode targetTree key)) ↔
      tagAt sourceTree jaegerTagKey = tagAt targetTree jaegerTagKey ∧
        ∀ key ∈ dependencyTagKeys, ∀ node, targetTree.get? key = some node →
          literalStable node := by
  have hwrites := @generateValuesYamlFile_writes _ _ _ _ hsource htarget hwindow h
  have hjaeger : result.get? jaegerTagKey = some (literal (tagAt sourceTree jaegerTagKey)) := by
    rw [tagAt_jaegerTagKey hsource]
    exact @hwrites (jaegerTagKey, _) (List.mem_append_right _ List.mem_cons_self)
  -- with the same tag for the jaeger-operator every key takes the text of the target
  have hmoved (hsame : tagAt sourceTree jaegerTagKey = tagAt targetTree jaegerTagKey) {key : Path}
      (hkey : key ∈ dependencyTagKeys) :
      ∃ value, Reads (targetTree.get? key) value ∧ result.get? key = some (literal value) := by
    rw [← writtenTagValues_keys input.target input.target] at hkey
    obtain ⟨entry, hentry, rfl⟩ := List.mem_map.mp hkey
    refine ⟨entry.2, (writtenTagValues_read htarget hentry).2, ?_⟩
    rcases List.mem_append.mp hentry with hstack | hlast
    · exact hwrites (List.mem_append_left _ hstack)
    · obtain rfl := List.mem_singleton.mp hlast
      rw [← tagAt_jaegerTagKey htarget, ← hsame]
      exact hjaeger
  constructor
  · intro hequal
    have hsame : tagAt sourceTree jaegerTagKey = tagAt targetTree jaegerTagKey := by
      have hnode := hequal jaegerTagKey (by decide)
      rw [hjaeger] at hnode
      exact (tagAt_of_tagNode (Option.some.inj hnode)).symm
    refine ⟨hsame, ?_⟩
    intro key hkey
    obtain ⟨value, hreads, hresult⟩ := hmoved hsame hkey
    have hnode := hequal key hkey
    rw [hresult] at hnode
    exact (literal_eq_getD_iff hreads).mp (Option.some.inj hnode)
  · rintro ⟨hsame, hstable⟩ key hkey
    obtain ⟨value, hreads, hresult⟩ := hmoved hsame hkey
    rw [hresult, (literal_eq_getD_iff hreads).mpr (hstable key hkey), tagNode]

/-- The values of a chart with the images of two dependencies. -/
def bundledValues (tag lokiTag jaegerTag : String) : Tree :=
  (chartValues (.str tag)).merge (.map
    [("loki-stack", .map [("loki", .map [("image", .map [("tag", .str lokiTag)])])]),
      ("jaeger-operator", .map [("image", .map [("tag", .str jaegerTag)])])])

/-- What is read from them. -/
def bundledCoreValues (tag lokiTag jaegerTag : String) : CoreValues :=
  { chartCoreValues tag with
    jaegerOperatorImageTag := jaegerTag, lokiStack := { lokiImageTag := lokiTag } }

/-- An upgrade from 2.5.0 to 2.7.0 between charts with bundled images. -/
def bundledInput (lokiTags jaegerTags : String × String) : ValuesInput :=
  { plainInput TWO_DOT_FIVE ⟨2, 7, 0, [], []⟩ "v2.5.0" "v2.7.0" with
    source := bundledCoreValues "v2.5.0" lokiTags.1 jaegerTags.1
    target := bundledCoreValues "v2.7.0" lokiTags.2 jaegerTags.2 }

theorem generateValuesYamlFile_moves_tags_loki :
    ∃ result,
      generateValuesYamlFile (bundledInput ("2.5.0", "2.6.1") ("1.50.0", "1.50.0"))
          (bundledValues "v2.5.0" "2.5.0" "1.50.0") (bundledValues "v2.7.0" "2.6.1" "1.50.0") =
        .ok result ∧
      ∀ key ∈ dependencyTagKeys,
        result.get? key = some (tagNode (bundledValues "v2.7.0" "2.6.1" "1.50.0") key) := by
  have hok : (generateValuesYamlFile (bundledInput ("2.5.0", "2.6.1") ("1.50.0", "1.50.0"))
      (bundledValues "v2.5.0" "2.5.0" "1.50.0")
      (bundledValues "v2.7.0" "2.6.1" "1.50.0")).isOk := by decide +kernel
  have htag : tagAt (bundledValues "v2.5.0" "2.5.0" "1.50.0") jaegerTagKey =
      tagAt (bundledValues "v2.7.0" "2.6.1" "1.50.0") jaegerTagKey := by decide +kernel
  have hstable : ∀ key ∈ dependencyTagKeys,
      ((bundledValues "v2.7.0" "2.6.1" "1.50.0").get? key).all literalStable := by decide +kernel
  obtain ⟨result, hresult⟩ := Outcome.exists_ok hok
  refine ⟨result, hresult, ?_⟩
  refine (generateValuesYamlFile_moves_tags_iff rfl rfl (by decide) hresult).mpr ⟨htag, ?_⟩
  intro key hkey node hnode
  simpa [hnode] using hstable key hkey

/-- The jaeger-operator keeps the image of the old chart. -/
theorem generateValuesYamlFile_keeps_jaeger :
    ¬∀ (input : ValuesInput) (sourceTree targetTree result : Tree),
      CoreValues.decode input.codec sourceTree = some input.source →
      CoreValues.decode input.codec targetTree = some input.target →
      inWindow TWO_DOT_O_RC_ONE TWO_DOT_SIX input.sourceVersion →
      generateValuesYamlFile input sourceTree targetTree = .ok result →
      ∀ key ∈ dependencyTagKeys, result.get? key = some (tagNode targetTree key) := by
  intro hclaim
  have hok : (generateValuesYamlFile (bundledInput ("2.6.1", "2.6.1") ("1.50.0", "1.50.1"))
      (bundledValues "v2.5.0" "2.6.1" "1.50.0")
      (bundledValues "v2.7.0" "2.6.1" "1.50.1")).isOk := by decide +kernel
  obtain ⟨result, hresult⟩ := Outcome.exists_ok hok
  have hmoved := hclaim _ _ _ result rfl rfl (by decide) hresult jaegerTagKey (by decide)
  have hwritten : result.get? jaegerTagKey = some (literal "1.50.0") :=
    @generateValuesYamlFile_writes _ _ _ _ rfl rfl (by decide) hresult (jaegerTagKey, "1.50.0")
      (List.mem_append_right _ List.mem_cons_self)
  have htag : tagAt (bundledValues "v2.7.0" "2.6.1" "1.50.1") jaegerTagKey = "1.50.1" := by
    decide +kernel
  rw [hwritten] at hmoved
  rw [tagAt_of_tagNode (Option.some.inj hmoved)] at htag
  exact absurd htag (by decide)

end MayastorExtensions.UpgradeJob
