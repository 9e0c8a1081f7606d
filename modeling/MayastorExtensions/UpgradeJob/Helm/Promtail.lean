import MayastorExtensions.UpgradeJob.Helm.ImageTags

/-!
# The migration of promtail

From 2.6.0 on the chart of promtail has a list of clients in the place of an address and a snippet,
and a list of init containers in the place of an object.  `loki_address_to_clients` builds the one
client of the list out of the old settings.  The init containers of the target are added to the
deleted key one by one, which makes an object of them.
-/

namespace MayastorExtensions.UpgradeJob

open Decode Semver Yaml

/-! ## Merged values -/

def promtailConfigKey : Path :=
  yamlKey ["loki-stack", "promtail", "config"]

/-- A tree that comes of merging the values of a release over those of a chart and of any of the
edits of the upgrade. -/
def Merged (tree : Tree) : Prop :=
  ∃ (input : ValuesInput) (sourceTree targetTree : Tree) (edits : List Edit),
    CoreValues.decode input.codec sourceTree = some input.source ∧
    CoreValues.decode input.codec targetTree = some input.target ∧
    edits ⊆ input.edits ∧ applyEdits (mergeFiles sourceTree targetTree) edits = .ok tree

/-- A way that the edits spare stays passable. -/
theorem applyEdits_passable {edits : List Edit} {tree result : Tree} {path : Path}
    (hspares : ∀ edit ∈ edits, Tree.spares edit.key path)
    (hpassable : Tree.Passable path (some tree)) (h : applyEdits tree edits = .ok result) :
    Tree.Passable path (some result) := by
  induction edits generalizing tree with
  | nil =>
    cases h
    exact hpassable
  | cons edit rest ih =>
    obtain ⟨next, hnext, hrest⟩ := applyEdits_cons h
    apply ih (fun other hother ↦ hspares other (List.mem_cons_of_mem edit hother)) _ hrest
    exact Edit.passable_of_spares (hspares edit List.mem_cons_self) hpassable hnext

/-- The keys of all edits. -/
def editKeys : List Path :=
  repoTagKeys ++ imageTagKeys ++ dependencyTagKeys ++ otherKeys

theorem key_mem_editKeys {input : ValuesInput} {edit : Edit} (h : edit ∈ input.edits) :
    edit.key ∈ editKeys := by
  rcases mem_edits_cases h with ⟨entry, hentry, rfl⟩ | ⟨entry, hentry, rfl⟩ | hother
  · apply List.mem_append_left
    apply List.mem_append_left
    apply pinnedKeys_subset input.targetVersion
    rw [← pinnedValues_keys input.targetVersion input.target]
    exact List.mem_map_of_mem hentry
  · apply List.mem_append_left
    apply List.mem_append_right
    rw [← writtenTagValues_keys input.source input.target]
    exact List.mem_map_of_mem hentry
  · exact List.mem_append_right _ (List.contains_iff_mem.mp hother)

theorem editKeys_spare : ∀ key ∈ editKeys, Tree.spares key extraClientConfigsKey ∧
    Tree.spares key initContainerKey := by
  decide +kernel

/-! ## What is read of promtail -/

/-- What is said of promtail wherever it is deserialized is said of the values. -/
theorem CoreValues.leads_promtail {codec : Codec} {tree : Tree} {values : CoreValues}
    {names : List String} {property : Promtail → Option Tree → Prop}
    (h : CoreValues.decode codec tree = some values) (hdefault : property {} none)
    (hpromtail : ∀ node promtail, Promtail.decode codec node = some promtail →
      Leads names (some node) (property promtail)) :
    Leads ("loki-stack" :: "promtail" :: names) (some tree)
      (property values.lokiStack.promtail) := by
  apply @CoreValues.leads_lokiStack _ _ _ _ (fun stack ↦ property stack.promtail) h hdefault
  intro node stack hstack
  simp only [LokiStack.decode, Option.bind_eq_bind, Option.bind_eq_some_iff,
    Option.some.injEq] at hstack
  obtain ⟨entries, hentries, filebeat, -, grafana, -, logstash, -, loki, -, prometheus, -,
    promtail, hdecode, rfl⟩ := hstack
  exact leads_fieldOr hentries hdefault hpromtail hdecode

theorem CoreValues.passable_extraClientConfigs {codec : Codec} {tree : Tree} {values : CoreValues}
    (h : CoreValues.decode codec tree = some values) :
    Tree.Passable extraClientConfigsKey (some tree) := by
  have hleads := @CoreValues.leads_promtail _ _ _ ["config", "snippets", "extraClientConfigs"]
    (fun _ _ ↦ True) h trivial ?_
  · exact hleads.1
  intro node promtail hpromtail
  simp only [Promtail.decode, Option.bind_eq_bind, Option.bind_eq_some_iff] at hpromtail
  obtain ⟨entries, hentries, config, hconfig, -⟩ := hpromtail
  refine @leads_fieldOr _ _ _ _ _ _ _ _ (fun _ _ ↦ True) hentries trivial ?_ hconfig
  intro node config hconfig
  simp only [PromtailConfig.decode, Option.bind_eq_bind, Option.bind_eq_some_iff] at hconfig
  obtain ⟨entries, hentries, address, -, file, -, snippets, hsnippets, -⟩ := hconfig
  refine @leads_fieldOr _ _ _ _ _ _ _ _ (fun _ _ ↦ True) hentries trivial ?_ hsnippets
  intro node snippets hsnippets
  simp only [PromtailConfigSnippets.decode, Option.bind_eq_bind, Option.bind_eq_some_iff]
    at hsnippets
  obtain ⟨entries, hentries, extra, hextra, -⟩ := hsnippets
  exact @leads_fieldOr _ _ _ _ _ _ _ _ (fun _ _ ↦ True) hentries trivial
    (fun _ _ _ ↦ ⟨trivial, trivial⟩) hextra

theorem Merged.passable_extraClientConfigs {tree : Tree} (h : Merged tree) :
    Tree.Passable extraClientConfigsKey (some tree) := by
  obtain ⟨input, sourceTree, targetTree, edits, hsource, htarget, hedits, htree⟩ := h
  rw [mergeFiles_of_isMap (CoreValues.images_of_decode htarget).1] at htree
  refine applyEdits_passable ?_ ?_ htree
  · intro edit hedit
    exact (editKeys_spare edit.key (key_mem_editKeys (hedits hedit))).1
  · exact Tree.passable_merge (CoreValues.passable_extraClientConfigs htarget)
      (CoreValues.passable_extraClientConfigs hsource)

/-! ## The client -/

/-- The extra configuration of a client is empty or a mapping. -/
def ExtraMapping (codec : Codec) (config : String) (extra : List (String × Tree)) : Prop :=
  (config = "" ∧ extra = []) ∨
    (config ≠ "" ∧ codec.yamlToJson config = some (.map extra) ∧ (extra.map Prod.fst).Nodup)

/-- The keys that the migration is about. -/
def clientKeys : List Path :=
  [clientsKey, extraClientConfigsKey, lokiAddressKey]

theorem clientKeys_spare : ∀ key ∈ (clientsKey ++ [.index 0]) :: clientKeys, ∀ other ∈ clientKeys,
    Tree.spares key other := by
  decide +kernel

theorem clientKeys_apart : Tree.Apart extraClientConfigsKey clientsKey ∧
    Tree.Apart lokiAddressKey clientsKey ∧ Tree.Apart lokiAddressKey extraClientConfigsKey := by
  decide +kernel

/-- A tree that is ready for the edits of the migration. -/
def ClientsPassable (tree : Tree) : Prop :=
  ∀ key ∈ clientKeys, Tree.Passable key (some tree)

theorem ClientsPassable.apply {tree result : Tree} {edit : Edit} (h : ClientsPassable tree)
    (happly : edit.apply tree = .ok result)
    (hkey : edit.key ∈ (clientsKey ++ [.index 0]) :: clientKeys) : ClientsPassable result := by
  intro key hmem
  exact Edit.passable_of_spares (clientKeys_spare edit.key hkey key hmem) (h key hmem) happly

theorem Merged.clientsPassable {tree : Tree} {config : List (String × Tree)} (h : Merged tree)
    (hconfig : tree.get? promtailConfigKey = some (.map config)) : ClientsPassable tree := by
  have hextra := h.passable_extraClientConfigs
  have hbelow {name : String} : Tree.Passable (promtailConfigKey ++ [.key name]) (some tree) := by
    refine Tree.passable_append ⟨hextra.1, hextra.2.1, hextra.2.2.1, trivial⟩ ?_
    rw [show Tree.descend promtailConfigKey (some tree) = some (.map config) from hconfig]
    exact ⟨fun node hnode ↦ (by cases hnode; rfl), trivial⟩
  intro key hkey
  simp only [clientKeys, List.mem_cons, List.not_mem_nil, or_false] at hkey
  rcases hkey with rfl | rfl | rfl
  · exact hbelow
  · exact hextra
  · exact hbelow

/-- The client with an address, extended and overridden by the extra configuration. -/
def ClientOf (url : String) (extra client : List (String × Tree)) : Prop :=
  ∀ name, client.lookup name =
    (extra.lookup name).or (if name = "url" then some (.str url) else none)

section Client

variable {tree : Tree} (h : ClientsPassable tree)

include h

/-- Whatever the clients were, there is one of them now. -/
theorem exists_client (url : String) :
    ∃ next, applyEdits tree [.deleteObject clientsKey,
        .appendToArray clientsKey (promtailConfigClient url)] = .ok next ∧
      next.get? clientsKey = some (.seq [promtailConfigClient url]) ∧ ClientsPassable next := by
  obtain ⟨deleted, hdelete, habsent⟩ :=
    @Edit.exists_deleteObject clientsKey tree (by decide) (h _ List.mem_cons_self)
  have hdeleted := h.apply hdelete (by decide)
  obtain ⟨next, happend, hclients⟩ := @Edit.exists_appendToArray clientsKey deleted
    (promtailConfigClient url) (by decide) (hdeleted _ List.mem_cons_self) habsent
  have hkey : clientsKey ∈ (clientsKey ++ [.index 0]) :: clientKeys := by decide
  refine ⟨next, ?_, hclients, hdeleted.apply happend hkey⟩
  rw [applyEdits_cons_of_ok hdelete, applyEdits_cons_of_ok happend]
  rfl

/-- The extra configuration becomes part of the client. -/
theorem exists_extendedClient {codec : Codec} {config url : String} {extra : List (String × Tree)}
    (hclients : tree.get? clientsKey = some (.seq [promtailConfigClient url]))
    (hextra : ExtraMapping codec config extra) :
    ∃ next client, applyEdits tree (if config ≠ "" then
        [.appendToObject (clientsKey ++ [.index 0]) (extraClientConfig codec config)] else []) =
        .ok next ∧
      next.get? clientsKey = some (.seq [.map client]) ∧ ClientOf url extra client ∧
      ClientsPassable next := by
  have hurl (name : String) : ([("url", Tree.str url)] : List (String × Tree)).lookup name =
      if name = "url" then some (.str url) else none := by
    by_cases hname : name = "url"
    · simp [hname]
    · simp [hname, Tree.lookup_cons_of_ne hname]
  rcases hextra with ⟨hempty, rfl⟩ | ⟨hne, hjson, hunique⟩
  · rw [if_neg (not_not.mpr hempty)]
    exact ⟨tree, _, rfl, hclients, hurl, h⟩
  · rw [if_pos hne]
    obtain ⟨next, happend, hnext⟩ := @Tree.exists_append_item clientsKey tree (.map extra)
      (promtailConfigClient url) _ _ 0 (by decide) (h _ List.mem_cons_self) hclients rfl rfl
    have happly : (Edit.appendToObject (clientsKey ++ [.index 0])
        (extraClientConfig codec config)).apply tree = .ok next := by
      simp only [extraClientConfig, hjson]
      change Edit.outcome _ (Tree.append (clientsKey ++ [.index 0]) (.map extra) tree) = .ok next
      rw [happend]
      rfl
    refine ⟨next, _, ?_, hnext, ?_, h.apply happly List.mem_cons_self⟩
    · rw [applyEdits_cons_of_ok happly]
      rfl
    · intro name
      rw [Tree.lookup_foldl_putEntry hunique, hurl]

/-- The old settings are removed and the clients stay. -/
theorem exists_cleaned :
    ∃ next, applyEdits tree [.deleteObject extraClientConfigsKey,
        .deleteObject lokiAddressKey] = .ok next ∧
      next.get? clientsKey = tree.get? clientsKey ∧ next.get? extraClientConfigsKey = none ∧
      next.get? lokiAddressKey = none := by
  obtain ⟨middle, hextra, hmiddle⟩ :=
    @Edit.exists_deleteObject extraClientConfigsKey tree (by decide) (h _ (by decide))
  obtain ⟨next, haddress, hnext⟩ := @Edit.exists_deleteObject lokiAddressKey middle (by decide)
    (h.apply hextra (by decide) _ (by decide))
  obtain ⟨hextraClients, haddressClients, haddressExtra⟩ := clientKeys_apart
  refine ⟨next, ?_, ?_, ?_, hnext⟩
  · rw [applyEdits_cons_of_ok hextra, applyEdits_cons_of_ok haddress]
    rfl
  · calc
      next.get? clientsKey = middle.get? clientsKey :=
        @Edit.get?_of_apart (.deleteObject lokiAddressKey) _ _ _ haddressClients haddress
      _ = tree.get? clientsKey :=
        @Edit.get?_of_apart (.deleteObject extraClientConfigsKey) _ _ _ hextraClients hextra
  · calc
      next.get? extraClientConfigsKey = middle.get? extraClientConfigsKey :=
        @Edit.get?_of_apart (.deleteObject lokiAddressKey) _ _ _ haddressExtra haddress
      _ = none := hmiddle

end Client

theorem lokiAddressToClients_apart {codec : Codec} {source : CoreValues} {path : Path}
    (hpath : ∀ key ∈ clientKeys, Tree.Apart key path) :
    ∀ edit ∈ lokiAddressToClients codec source, Tree.Apart edit.key path := by
  have hclients := hpath clientsKey (by decide)
  have hextra := hpath extraClientConfigsKey (by decide)
  have haddress := hpath lokiAddressKey (by decide)
  intro edit hedit
  simp only [lokiAddressToClients, List.mem_append] at hedit
  rcases hedit with (hfront | hmiddle) | hback
  · rw [List.mem_cons, List.mem_singleton] at hfront
    rcases hfront with rfl | rfl <;> exact hclients
  · split at hmiddle
    next =>
      rw [List.mem_singleton.mp hmiddle]
      exact hclients.append_left _
    next => cases hmiddle
  · rw [List.mem_cons, List.mem_singleton] at hback
    rcases hback with rfl | rfl
    · exact hextra
    · exact haddress

/-- In merged values whose promtail has a configuration, the clients become the one client with the
address of the source, extended and overridden by its extra configuration, the two old settings are
gone, and every path apart from these three keeps its value. -/
theorem lokiAddressToClients_exact (codec : Codec) (source : CoreValues) (tree : Tree)
    (config extra : List (String × Tree)) (hmerged : Merged tree)
    (hconfig : tree.get? promtailConfigKey = some (.map config))
    (hextra : ExtraMapping codec
      source.lokiStack.promtail.config.snippets.deprecatedExtraClientConfigs extra) :
    ∃ result client, applyEdits tree (lokiAddressToClients codec source) = .ok result ∧
      result.get? clientsKey = some (.seq [.map client]) ∧
      ClientOf source.lokiStack.promtail.config.deprecatedLokiAddress extra client ∧
      result.get? lokiAddressKey = none ∧ result.get? extraClientConfigsKey = none ∧
      ∀ path, (∀ key ∈ clientKeys, Tree.Apart key path) → result.get? path = tree.get? path := by
  obtain ⟨first, hfirst, hclient, hpassable⟩ := exists_client (hmerged.clientsPassable hconfig)
    source.lokiStack.promtail.config.deprecatedLokiAddress
  obtain ⟨second, client, hsecond, hextended, hof, hpassable⟩ :=
    exists_extendedClient hpassable hclient hextra
  obtain ⟨result, hresult, hclients, hextraGone, haddressGone⟩ := exists_cleaned hpassable
  have hall : applyEdits tree (lokiAddressToClients codec source) = .ok result := by
    simp only [lokiAddressToClients, applyEdits_append, hfirst]
    change (applyEdits first _ >>= fun next ↦ applyEdits next _) = _
    rw [hsecond]
    exact hresult
  refine ⟨result, client, hall, hclients.trans hextended, hof, haddressGone, hextraGone, ?_⟩
  intro path hpath
  exact applyEdits_get?_of_apart (lokiAddressToClients_apart hpath) hall

/-- The settings of a user who sends logs to a Loki of their own, as one of its tenants. -/
def tenantSettings : Tree :=
  .map [("loki-stack", .map [("promtail", .map [("config", .map
    [("lokiAddress", .str "http://loki/push"),
      ("snippets", .map
        [("extraClientConfigs", .str "tenant_id: 1"), ("scrapeConfigs", .str "")])])])])]

/-- What is read from them. -/
def tenantCoreValues : CoreValues :=
  { chartCoreValues "v2.5.0" with
    lokiStack :=
      { promtail :=
          { config :=
              { deprecatedLokiAddress := "http://loki/push",
                snippets := { deprecatedExtraClientConfigs := "tenant_id: 1" } } } } }

/-- The conversion of the extra configuration. -/
def tenantCodec : Codec where
  container := some
  probeHttpGetPath := fun _ ↦ some none
  yamlToJson := fun text ↦
    if text = "tenant_id: 1" then some (.map [("tenant_id", .scalar .int "1")]) else none

/-- The upgrade of the user's release. -/
def tenantInput : ValuesInput :=
  { plainInput TWO_DOT_FIVE ⟨2, 7, 0, [], []⟩ "v2.5.0" "v2.7.0" with
    codec := tenantCodec, source := tenantCoreValues }

/-- The user's values over those of a chart with a client of its own. -/
def tenantTree : Tree :=
  mergeFiles ((chartValues (.str "v2.5.0")).merge tenantSettings)
    ((chartValues (.str "v2.7.0")).merge (.map [("loki-stack", .map [("promtail", .map [("config",
      .map [("clients", .seq [promtailConfigClient "http://chart/push"])])])])]))

theorem lokiAddressToClients_exact_tenant :
    ∃ result client,
      applyEdits tenantTree (lokiAddressToClients tenantCodec tenantCoreValues) = .ok result ∧
      result.get? clientsKey = some (.seq [.map client]) ∧
      ClientOf "http://loki/push" [("tenant_id", .scalar .int "1")] client ∧
      result.get? lokiAddressKey = none ∧ result.get? extraClientConfigsKey = none ∧
      ∀ path, (∀ key ∈ clientKeys, Tree.Apart key path) →
        result.get? path = tenantTree.get? path := by
  refine lokiAddressToClients_exact tenantCodec tenantCoreValues tenantTree _
    [("tenant_id", .scalar .int "1")] ?_ rfl ?_
  · exact ⟨tenantInput, _, _, [], rfl, rfl, List.nil_subset _, rfl⟩
  · exact .inr ⟨by decide, rfl, by decide⟩

/-! ## The init containers -/

/-- What `Promtail::init_container` returns for values. -/
def initContainers (codec : Codec) (tree : Tree) : Option (List Tree) :=
  match tree.get? initContainerKey with
  | none => some []
  | some node => promtailInitContainer codec node

/-- The way to the init containers is passable, and they are read from there. -/
theorem CoreValues.leads_initContainer {codec : Codec} {tree : Tree} {values : CoreValues}
    (h : CoreValues.decode codec tree = some values) :
    Tree.Passable initContainerKey (some tree) ∧
      initContainers codec tree = some values.lokiStack.promtail.initContainer := by
  have hleads := @CoreValues.leads_promtail _ _ _ ["initContainer"]
    (fun promtail node ↦ (match node with
      | none => some []
      | some found => promtailInitContainer codec found) = some promtail.initContainer) h rfl ?_
  · exact hleads
  intro node promtail hpromtail
  simp only [Promtail.decode, Option.bind_eq_bind, Option.bind_eq_some_iff,
    Option.some.injEq] at hpromtail
  obtain ⟨entries, hentries, config, -, initContainer, hcontainer, probe, -, rfl⟩ := hpromtail
  refine @leads_fieldOr _ _ _ _ _ _ _ _ (fun containers node ↦ (match node with
    | none => some []
    | some found => promtailInitContainer codec found) = some containers) hentries rfl ?_ hcontainer
  intro found containers hfound
  exact ⟨trivial, hfound⟩

/-- The edits that add containers to the key. -/
def containerEdits (containers : List Tree) : List Edit :=
  containers.map fun container ↦ .appendToObject initContainerKey (.ok container)

/-- Objects that are added to an object make an object, and nothing is made of none. -/
theorem applyEdits_containerEdits {containers : List Tree} {tree result : Tree}
    (hcontainers : ∀ container ∈ containers, container.isMap)
    (hpassable : Tree.Passable initContainerKey (some tree))
    (hnode : ∀ node, tree.get? initContainerKey = some node → node.isMap)
    (h : applyEdits tree (containerEdits containers) = .ok result) :
    (containers = [] → result = tree) ∧
      (containers ≠ [] → ∃ entries, result.get? initContainerKey = some (.map entries)) := by
  induction containers generalizing tree with
  | nil =>
    cases h
    exact ⟨fun _ ↦ rfl, fun hne ↦ absurd rfl hne⟩
  | cons container rest ih =>
    obtain ⟨next, hnext, hrest⟩ := applyEdits_cons h
    obtain ⟨entries, hadd⟩ : ∃ entries,
        Tree.add (tree.get? initContainerKey) container = some (.map entries) := by
      cases container with
      | scalar tag text => cases hcontainers _ List.mem_cons_self
      | seq items => cases hcontainers _ List.mem_cons_self
      | map right =>
        cases hget : tree.get? initContainerKey with
        | none => exact ⟨right, rfl⟩
        | some node =>
          cases node with
          | scalar tag text => cases hnode _ hget
          | seq items => cases hnode _ hget
          | map left => exact ⟨_, rfl⟩
    obtain ⟨added, happend, hadded⟩ := Tree.exists_append (by decide) hpassable hadd
    obtain rfl : added = next := by
      have hsome := Edit.ok_of_outcome hnext
      rw [happend] at hsome
      exact Option.some.inj hsome
    refine ⟨fun hnil ↦ absurd hnil (List.cons_ne_nil _ _), fun _ ↦ ?_⟩
    have hspares : Tree.spares initContainerKey initContainerKey := by decide
    have hpassable' := @Edit.passable_of_spares (.appendToObject initContainerKey (.ok container))
      _ _ _ hspares hpassable hnext
    obtain ⟨hempty, hsome⟩ := ih (fun other hother ↦ hcontainers other
      (List.mem_cons_of_mem _ hother)) hpassable' (fun node hget ↦ by
        rw [hadded] at hget
        cases hget
        rfl) hrest
    by_cases hrestNil : rest = []
    · exact ⟨entries, hempty hrestNil ▸ hadded⟩
    · exact hsome hrestNil

/-- Keys that are neither above nor below that of the init containers. -/
def besideInitContainer (key : Path) : Bool :=
  Tree.Apart key initContainerKey

theorem beside_lokiAddressToClients (codec : Codec) (source : CoreValues) :
    allKeys besideInitContainer (lokiAddressToClients codec source) := by
  unfold lokiAddressToClients
  dsimp only
  split_ifs <;> rfl

theorem beside_safeCrdInstall (jaegerFirst : Bool) (crds : List String) :
    allKeys besideInitContainer (safeCrdInstall jaegerFirst crds) := by
  unfold safeCrdInstall crdToggle
  dsimp only
  split_ifs <;> rfl

/-- The old init containers are deleted, and later the new ones are added. -/
theorem exists_initContainer_edits {input : ValuesInput}
    (hwindow : inWindow TWO_DOT_O_RC_ONE TWO_DOT_SIX input.sourceVersion) :
    ∃ front middle back, input.edits = front ++ (.deleteObject initContainerKey :: middle) ++
        containerEdits input.target.lokiStack.promtail.initContainer ++ back ∧
      allKeys besideInitContainer middle ∧ allKeys besideInitContainer back := by
  refine ⟨logLevelEdits input.sourceVersion input.source input.target ++
      repoTagEdits input.targetVersion input.target ++
      eventingEdits input.sourceVersion input.source input.target ++
      twoDotFiveEdits input.sourceVersion input.source input.target ++
      (localpvEdits input.source input.target ++ setAll (lokiStackImageTags input.target) ++
        [.deleteObject kvstoreKey, .deleteObject extraClientConfigsKey]),
    lokiAddressToClients input.codec input.source ++
      [.setLiteralValue (yamlKey ["loki-stack", "promtail", "config", "file"])
        input.target.lokiStack.promtail.config.file],
    [.setLiteralValue (yamlKey ["loki-stack", "promtail", "readinessProbe", "httpGet", "path"])
          input.target.lokiStack.promtail.readinessProbeHttpGetPath,
        .setLiteralValue silenceLevelKey input.source.deprecatedLogSilenceLevel,
        .deleteObject logSilenceLevelKey,
        .setLiteralValue pluginMountPathKey input.source.csi.node.deprecatedPluginMountPath,
        .deleteObject pluginMounthPathKey,
        .setLiteralValue (yamlKey ["jaeger-operator", "image", "tag"])
          input.source.jaegerOperatorImageTag] ++ setAll (imageTagValues input.target) ++
      safeCrdInstall input.jaegerFirst input.crds, ?_, ?_, ?_⟩
  · simp only [ValuesInput.edits, ValuesInput.chartEdits, twoDotSixEdits, if_pos hwindow,
      containerEdits, List.append_assoc, List.cons_append, List.nil_append]
  · rw [allKeys_append, beside_lokiAddressToClients]
    rfl
  · rw [allKeys_append, beside_safeCrdInstall]
    rfl

/-- The containers of a list are printed one by one. -/
theorem isMap_of_mapM_container {codec : Codec}
    (hobject : ∀ node container, codec.container node = some container → container.isMap)
    {items containers : List Tree} (h : items.mapM codec.container = some containers) :
    containers.length = items.length ∧ ∀ container ∈ containers, container.isMap := by
  induction items generalizing containers with
  | nil =>
    cases h
    simp
  | cons item rest ih =>
    rw [List.mapM_cons] at h
    obtain ⟨first, hfirst, h⟩ := Option.bind_eq_some_iff.mp h
    obtain ⟨others, hothers, h⟩ := Option.bind_eq_some_iff.mp h
    cases h
    obtain ⟨hlength, hmaps⟩ := ih hothers
    refine ⟨by rw [List.length_cons, List.length_cons, hlength], ?_⟩
    intro container hcontainer
    rcases List.mem_cons.mp hcontainer with rfl | hrest
    · exact hobject item _ hfirst
    · exact hmaps container hrest

section InitContainer

variable {input : ValuesInput} {sourceTree targetTree result : Tree}
  (hobject : ∀ node container, input.codec.container node = some container → container.isMap)
  (hsource : CoreValues.decode input.codec sourceTree = some input.source)
  (htarget : CoreValues.decode input.codec targetTree = some input.target)
  (hwindow : inWindow TWO_DOT_O_RC_ONE TWO_DOT_SIX input.sourceVersion)

include hsource htarget hwindow

/-- The new values have no init containers if the target has none, and an object otherwise. -/
theorem generateValuesYamlFile_initContainer
    (hmaps : ∀ container ∈ input.target.lokiStack.promtail.initContainer, container.isMap)
    (h : generateValuesYamlFile input sourceTree targetTree = .ok result) :
    (input.target.lokiStack.promtail.initContainer = [] → result.get? initContainerKey = none) ∧
      (input.target.lokiStack.promtail.initContainer ≠ [] →
        ∃ entries, result.get? initContainerKey = some (.map entries)) := by
  obtain ⟨front, middle, back, hedits, hmiddle, hback⟩ := exists_initContainer_edits hwindow
  have hspares {edit : Edit} (hmem : edit ∈ input.edits) :
      Tree.spares edit.key initContainerKey :=
    (editKeys_spare edit.key (key_mem_editKeys hmem)).2
  have hbeside {edits : List Edit} (hall : allKeys besideInitContainer edits) :
      ∀ edit ∈ edits, Tree.Apart edit.key initContainerKey := by
    intro edit hmem
    simpa [besideInitContainer] using List.all_eq_true.mp hall edit hmem
  have hmerged : Tree.Passable initContainerKey (some (targetTree.merge sourceTree)) :=
    Tree.passable_merge (CoreValues.leads_initContainer htarget).1
      (CoreValues.leads_initContainer hsource).1
  rw [generateValuesYamlFile, mergeFiles_of_isMap (CoreValues.images_of_decode htarget).1,
    hedits, applyEdits_append, applyEdits_append, applyEdits_append] at h
  obtain ⟨added, h, hresult⟩ := Outcome.bind_eq_ok h
  obtain ⟨cleared, h, hadded⟩ := Outcome.bind_eq_ok h
  obtain ⟨before, hbefore, h⟩ := Outcome.bind_eq_ok h
  obtain ⟨deleted, hdelete, hcleared⟩ := applyEdits_cons h
  have hpassable : Tree.Passable initContainerKey (some before) :=
    applyEdits_passable (fun edit hmem ↦ hspares (by simp [hedits, hmem])) hmerged hbefore
  have hkey : Tree.spares initContainerKey initContainerKey := by decide
  have hdeleted : Tree.Passable initContainerKey (some deleted) :=
    @Edit.passable_of_spares (.deleteObject initContainerKey) _ _ _ hkey hpassable hdelete
  have hclearedPassable : Tree.Passable initContainerKey (some cleared) :=
    applyEdits_passable (fun edit hmem ↦ hspares (by simp [hedits, hmem])) hdeleted hcleared
  have habsent : cleared.get? initContainerKey = none := by
    calc
      cleared.get? initContainerKey = deleted.get? initContainerKey :=
        applyEdits_get?_of_apart (hbeside hmiddle) hcleared
      _ = none := Tree.descend_delete hpassable
        (Option.join_eq_some_iff.mp (Edit.ok_of_outcome hdelete))
  have hframe : result.get? initContainerKey = added.get? initContainerKey :=
    applyEdits_get?_of_apart (hbeside hback) hresult
  obtain ⟨hnone, hsome⟩ := applyEdits_containerEdits hmaps hclearedPassable
    (fun node hnode ↦ by rw [habsent] at hnode; cases hnode) hadded
  rw [hframe]
  refine ⟨fun hnil ↦ ?_, hsome⟩
  rw [hnone hnil]
  exact habsent

include hobject

/-- Where the target has a list of init containers, the new values have the same ones if and only
if the list is empty. -/
theorem generateValuesYamlFile_initContainer_iff {items : List Tree}
    (hitems : targetTree.get? initContainerKey = some (.seq items))
    (h : generateValuesYamlFile input sourceTree targetTree = .ok result) :
    initContainers input.codec result = initContainers input.codec targetTree ↔ items = [] := by
  have hread := (CoreValues.leads_initContainer htarget).2
  have hlist : items.mapM input.codec.container =
      some input.target.lokiStack.promtail.initContainer := by
    rw [← hread, initContainers, hitems]
    rfl
  obtain ⟨hlength, hmaps⟩ := isMap_of_mapM_container hobject hlist
  have hnil : input.target.lokiStack.promtail.initContainer = [] ↔ items = [] := by
    rw [← List.length_eq_zero_iff, hlength, List.length_eq_zero_iff]
  obtain ⟨hnone, hsome⟩ := generateValuesYamlFile_initContainer hsource htarget hwindow hmaps h
  have hempty : initContainers input.codec result = some [] := by
    unfold initContainers
    by_cases hcontainers : input.target.lokiStack.promtail.initContainer = []
    · rw [hnone hcontainers]
    · obtain ⟨entries, hentries⟩ := hsome hcontainers
      rw [hentries]
      rfl
  rw [hempty, hread, Option.some.injEq, eq_comm, hnil]

end InitContainer

/-- The values of a chart whose promtail has the given init containers. -/
def containerValues (tag : String) (initContainer : Tree) : Tree :=
  (chartValues (.str tag)).merge (.map
    [("loki-stack", .map [("promtail", .map [("initContainer", initContainer)])])])

/-- Containers are objects with a name. -/
def containerCodec : Codec where
  container
    | .map entries => if (entries.lookup "name").isSome then some (.map entries) else none
    | _ => none
  probeHttpGetPath := fun _ ↦ some none
  yamlToJson := fun _ ↦ none

theorem containerCodec_isMap (node container : Tree)
    (h : containerCodec.container node = some container) : container.isMap := by
  cases node with
  | scalar tag text => cases h
  | seq items => cases h
  | map entries =>
    simp only [containerCodec] at h
    split at h <;> cases h
    rfl

/-- An upgrade from a chart with an init container object to one with a list. -/
def containerInput (containers : List Tree) : ValuesInput :=
  { plainInput TWO_DOT_FIVE ⟨2, 7, 0, [], []⟩ "v2.5.0" "v2.7.0" with
    codec := containerCodec
    target := { chartCoreValues "v2.7.0" with
      lokiStack := { promtail := { initContainer := containers } } } }

theorem generateValuesYamlFile_initContainer_none :
    ∃ result,
      generateValuesYamlFile (containerInput [])
          (containerValues "v2.5.0" (.map [("enabled", .scalar .bool "false")]))
          (containerValues "v2.7.0" (.seq [])) = .ok result ∧
      initContainers containerCodec result = some [] := by
  have hok : (generateValuesYamlFile (containerInput [])
      (containerValues "v2.5.0" (.map [("enabled", .scalar .bool "false")]))
      (containerValues "v2.7.0" (.seq []))).isOk := by decide +kernel
  obtain ⟨result, hresult⟩ := Outcome.exists_ok hok
  exact ⟨result, hresult, (generateValuesYamlFile_initContainer_iff containerCodec_isMap rfl rfl
    (by decide) rfl hresult).mpr rfl⟩

/-- The only init container of the target is lost. -/
theorem generateValuesYamlFile_loses_initContainer :
    ¬∀ (input : ValuesInput) (sourceTree targetTree result : Tree) (items : List Tree),
      (∀ node container, input.codec.container node = some container → container.isMap) →
      CoreValues.decode input.codec sourceTree = some input.source →
      CoreValues.decode input.codec targetTree = some input.target →
      inWindow TWO_DOT_O_RC_ONE TWO_DOT_SIX input.sourceVersion →
      targetTree.get? initContainerKey = some (.seq items) →
      generateValuesYamlFile input sourceTree targetTree = .ok result →
      initContainers input.codec result = initContainers input.codec targetTree := by
  intro hclaim
  have hok : (generateValuesYamlFile (containerInput [.map [("name", .str "init")]])
      (containerValues "v2.5.0" (.map [("enabled", .scalar .bool "false")]))
      (containerValues "v2.7.0" (.seq [.map [("name", .str "init")]]))).isOk := by decide +kernel
  obtain ⟨result, hresult⟩ := Outcome.exists_ok hok
  have hsame := hclaim _ _ _ result _ containerCodec_isMap rfl rfl (by decide) rfl hresult
  obtain ⟨entries, hentries⟩ := (generateValuesYamlFile_initContainer rfl rfl (by decide)
    (fun container hmem ↦ by rw [List.mem_singleton.mp hmem]; rfl) hresult).2
    (List.cons_ne_nil _ _)
  have hempty : initContainers containerCodec result = some [] := by
    rw [initContainers, hentries]
    rfl
  exact absurd (hempty.symm.trans hsame) (by
    intro hlost
    cases Option.some.inj hlost)

end MayastorExtensions.UpgradeJob
