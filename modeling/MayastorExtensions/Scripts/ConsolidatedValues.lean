import MayastorExtensions.Library.Layers

/-!
# Consolidated values

`generate-consolidated-values.sh` changes the values files of a chart and of the charts below it in
place, from the bottom up: what a chart says about a chart below it is completed with the values of
that chart.  The image of the upgrade job has a chart that went through the script.  A second run
over what the script has written goes through as well and changes nothing that is read.

Of yq it is assumed that `*` is the deep merge with the right operand on top, that a mapping times a
scalar other than null or a sequence is an error, that an assignment to a key leaves the others
alone, and that `null` is printed for a missing key and for a scalar that reads so.  The name of a
chart is a plain key of yq, without a dot, a blank or a bracket.  A values file is a mapping, and a
directory `charts` has at least one chart in it.
-/

namespace MayastorExtensions.Scripts.ConsolidatedValues

open Yaml Yaml.Tree Yaml.Layers

/-! ## Charts -/

/-- The charts of a directory, each with the charts of its own directory. -/
inductive Charts where
  | nil
  | cons (name : String) (values : Entries) (charts rest : Charts)

namespace Charts

/-- The values of the chart of a name, and the charts below it. -/
def find (name : String) : Charts → Option (Entries × Charts)
  | .nil => none
  | .cons other values charts rest => if name = other then some (values, charts) else rest.find name

/-- The names in a directory are distinct. -/
def Distinct : Charts → Prop
  | .nil => True
  | .cons name _ charts rest => rest.find name = none ∧ charts.Distinct ∧ rest.Distinct

theorem Distinct.find {charts below : Charts} {name : String} {values : Entries}
    (hdistinct : charts.Distinct) (h : charts.find name = some (values, below)) :
    below.Distinct := by
  induction charts with
  | nil => cases h
  | cons other otherValues otherCharts rest _ ih =>
    rw [Charts.find] at h
    split at h
    next =>
      obtain ⟨rfl, rfl⟩ := Prod.mk.inj (Option.some.inj h)
      exact hdistinct.2.1
    next => exact ih hdistinct.2.2 h

end Charts

/-! ## The script -/

/-- `yq` prints `null` for a key that is missing and for a scalar that reads so. -/
def printsNull : Option Tree → Bool
  | none => true
  | some (.scalar _ text) => text = "null"
  | some _ => false

/-- The values file of a chart times a node: a scalar or a sequence is an error, except for null. -/
def multiply (chartValues : Entries) : Option Tree → Option Tree
  | some (.map entries) => some (.map (layer chartValues entries))
  | none => some (.map chartValues)
  | some (.scalar .null _) => some (.map chartValues)
  | some _ => none

/-- The values of a chart are completed with those of a chart below it. -/
def complete (chartName : String) (chartValues values : Entries) : Option Entries := do
  let values :=
    if printsNull (values.lookup chartName) then setEntry chartName (.map []) values else values
  let merged ← multiply chartValues (values.lookup chartName)
  pure (setEntry chartName merged values)

/-- The values of the directory above, once the charts of a directory are through. -/
def consolidate : Charts → Entries → Option Entries
  | .nil, values => some values
  | .cons chartName chartValues charts rest, values => do
    let chartValues ← consolidate charts chartValues
    let values ← complete chartName chartValues values
    consolidate rest values

/-- The values files of all charts, once the script is through. -/
def consolidatedCharts : Charts → Option Charts
  | .nil => some .nil
  | .cons chartName chartValues charts rest => do
    let chartValues ← consolidate charts chartValues
    let charts ← consolidatedCharts charts
    let rest ← consolidatedCharts rest
    pure (.cons chartName chartValues charts rest)

/-! ## What the script changes -/

/-- Multiplication puts the entries of a node over the values of the chart. -/
theorem multiply_spec {chartValues : Entries} {node : Option Tree} {merged : Tree}
    (h : multiply chartValues node = some merged) :
    Alike (some merged) (some (.map (layer chartValues (table node)))) := by
  have hempty : Alike (some (.map chartValues)) (some (.map (layer chartValues []))) := by
    refine alike_map_iff.mpr fun name ↦ ?_
    rw [lookup_layer, List.lookup_nil, overlay_none]
    exact .refl _
  unfold multiply at h
  split at h
  next entries =>
    obtain rfl := Option.some.inj h
    exact .refl _
  next =>
    obtain rfl := Option.some.inj h
    exact hempty
  next =>
    obtain rfl := Option.some.inj h
    exact hempty
  next => cases h

/-- Where nothing is printed for the chart, it has no entries. -/
theorem table_of_printsNull {node : Option Tree} (h : printsNull node) : table node = [] := by
  cases node with
  | none => rfl
  | some tree =>
    cases tree with
    | scalar tag text => rfl
    | seq items => rfl
    | map entries => cases h

theorem complete_spec {chartName : String} {chartValues values values' : Entries}
    (h : complete chartName chartValues values = some values') (name : String) :
    Alike (values'.lookup name)
      (if name = chartName then some (.map (layer chartValues (table (values.lookup chartName))))
      else values.lookup name) := by
  obtain ⟨merged, hmerged, h⟩ := Option.bind_eq_some_iff.mp h
  obtain rfl := Option.some.inj h
  have hspec := multiply_spec hmerged
  rw [lookup_setEntry]
  by_cases hnull : printsNull (values.lookup chartName)
  · rw [if_pos hnull] at hspec ⊢
    rw [lookup_setEntry, if_pos rfl] at hspec
    rw [lookup_setEntry, table_of_printsNull hnull]
    by_cases hname : name = chartName
    · rw [if_pos hname, if_pos hname]
      exact hspec
    · rw [if_neg hname, if_neg hname, if_neg hname]
      exact .refl _
  · rw [if_neg hnull] at hspec ⊢
    by_cases hname : name = chartName
    · rw [if_pos hname, if_pos hname]
      exact hspec
    · rw [if_neg hname, if_neg hname]
      exact .refl _

theorem complete_lookup_of_ne {chartName name : String} {chartValues values values' : Entries}
    (h : complete chartName chartValues values = some values') (hname : name ≠ chartName) :
    values'.lookup name = values.lookup name := by
  obtain ⟨merged, -, h⟩ := Option.bind_eq_some_iff.mp h
  obtain rfl := Option.some.inj h
  rw [lookup_setEntry, if_neg hname]
  split
  · rw [lookup_setEntry, if_neg hname]
  · rfl

/-- What a directory adds to the values above it: under the name of each chart, the values of this
chart once the script is through with it. -/
theorem consolidate_spec {charts : Charts} {values values' : Entries} (hdistinct : charts.Distinct)
    (h : consolidate charts values = some values') (name : String) :
    match charts.find name with
    | none => Alike (values'.lookup name) (values.lookup name)
    | some (chartValues, below) =>
      ∃ consolidated, consolidate below chartValues = some consolidated ∧
        Alike (values'.lookup name)
        (some (.map (layer consolidated (table (values.lookup name))))) := by
  induction charts generalizing values with
  | nil =>
    obtain rfl := Option.some.inj h
    exact .refl _
  | cons chartName chartValues below rest _ ih =>
    obtain ⟨consolidated, hconsolidated, h⟩ := Option.bind_eq_some_iff.mp h
    obtain ⟨completed, hcompleted, h⟩ := Option.bind_eq_some_iff.mp h
    obtain ⟨hname, -, hrest⟩ := hdistinct
    have hcomplete := complete_spec hcompleted name
    have hlater := ih hrest h
    rw [Charts.find]
    by_cases hsame : name = chartName
    · subst hsame
      rw [hname] at hlater
      rw [if_pos rfl] at hcomplete ⊢
      exact ⟨consolidated, hconsolidated, hlater.trans hcomplete⟩
    · rw [if_neg hsame] at hcomplete ⊢
      cases hfind : rest.find name with
      | none =>
        rw [hfind] at hlater
        exact hlater.trans hcomplete
      | some chart =>
        rw [hfind] at hlater
        obtain ⟨own, hown, halike⟩ := hlater
        refine ⟨own, hown, halike.trans ?_⟩
        exact alike_map_iff.mpr ((AlikeEntries.refl own).layer hcomplete.table)

/-- What a chart may say about a chart below it: nothing, null or a mapping. -/
def fits : Option Tree → Bool
  | none => true
  | some (.map _) => true
  | some (.scalar tag text) => tag = .null || text = "null"
  | some (.seq _) => false

/-- The charts of a directory, and those below them, are spoken of in this way only. -/
def Consolidable : Charts → Entries → Prop
  | .nil, _ => True
  | .cons chartName chartValues charts rest, values =>
    Consolidable charts chartValues ∧ fits (values.lookup chartName) ∧ Consolidable rest values

theorem isSome_complete (chartName : String) (chartValues values : Entries) :
    (complete chartName chartValues values).isSome = fits (values.lookup chartName) := by
  unfold complete
  cases hnode : values.lookup chartName with
  | none => simp [printsNull, multiply, fits, lookup_setEntry]
  | some tree =>
    cases tree with
    | map entries => simp [printsNull, multiply, fits, hnode]
    | seq items => simp [printsNull, multiply, fits, hnode]
    | scalar tag text =>
      by_cases hnull : text = "null"
      · simp [printsNull, multiply, fits, hnull, lookup_setEntry]
      · cases tag <;> simp [printsNull, multiply, fits, hnull, hnode]

/-- Only what is said about the charts of the directory counts. -/
theorem consolidable_congr {charts : Charts} {values values' : Entries}
    (h : ∀ name, charts.find name ≠ none → values'.lookup name = values.lookup name) :
    Consolidable charts values' ↔ Consolidable charts values := by
  induction charts with
  | nil => exact Iff.rfl
  | cons chartName chartValues below rest _ ih =>
    have hname : values'.lookup chartName = values.lookup chartName :=
      h chartName (by simp [Charts.find])
    have hrest : ∀ name, rest.find name ≠ none → values'.lookup name = values.lookup name := by
      intro name hfind
      by_cases hsame : name = chartName
      · rw [hsame, hname]
      · refine h name ?_
        rwa [Charts.find, if_neg hsame]
    rw [Consolidable, Consolidable, hname, ih hrest]

theorem isSome_consolidate_iff {charts : Charts} (hdistinct : charts.Distinct) (values : Entries) :
    (consolidate charts values).isSome ↔ Consolidable charts values := by
  induction charts generalizing values with
  | nil => exact iff_of_true rfl trivial
  | cons chartName chartValues below rest ihBelow ihRest =>
    obtain ⟨hname, hbelow, hrest⟩ := hdistinct
    rw [consolidate, Consolidable, ← ihBelow hbelow]
    cases consolidate below chartValues with
    | none => simp
    | some consolidated =>
      rw [← isSome_complete chartName consolidated values]
      cases hcomplete : complete chartName consolidated values with
      | none => simp [hcomplete]
      | some completed =>
        have hother : ∀ name, rest.find name ≠ none →
            completed.lookup name = values.lookup name := by
          intro name hfind
          refine complete_lookup_of_ne hcomplete ?_
          rintro rfl
          exact hfind hname
        have hlater := ihRest hrest completed
        rw [consolidable_congr hother] at hlater
        simpa [hcomplete] using hlater

/-- The values file of a chart has the node at the keys, below the names of charts; no chart above
it says anything there. -/
inductive LeftOut : Charts → Entries → List String → List String → Option Tree → Prop
  | own {charts : Charts} {values : Entries} {key : String} {keys : List String}
      (hkey : charts.find key = none) :
      LeftOut charts values [] (key :: keys)
        (descend (keyPath (key :: keys)) (some (.map values)))
  | inner {charts below : Charts} {values chartValues : Entries} {name : String}
      {names keys : List String} {node : Option Tree}
      (hfind : charts.find name = some (chartValues, below))
      (hsilent : Silent (names ++ keys) (values.lookup name))
      (hnode : LeftOut below chartValues names keys node) :
      LeftOut charts values (name :: names) keys node

theorem LeftOut.keys_ne_nil {charts : Charts} {values : Entries} {names keys : List String}
    {node : Option Tree} (h : LeftOut charts values names keys node) : keys ≠ [] := by
  induction h with
  | own hkey => simp
  | inner hfind hsilent hnode ih => exact ih

theorem consolidate_leftOut {charts : Charts} {values values' : Entries}
    {names keys : List String} {node : Option Tree} (hleft : LeftOut charts values names keys node)
    (hdistinct : charts.Distinct) (h : consolidate charts values = some values') :
    Alike (descend (keyPath (names ++ keys)) (some (.map values'))) node := by
  induction hleft generalizing values' with
  | @own charts values key keys hkey =>
    have hspec := consolidate_spec hdistinct h key
    rw [hkey] at hspec
    exact hspec.descend (keyPath keys)
  | @inner charts below values chartValues name names keys node hfind hsilent hnode ih =>
    have hspec := consolidate_spec hdistinct h name
    rw [hfind] at hspec
    obtain ⟨consolidated, hconsolidated, halike⟩ := hspec
    have hinside := ih (hdistinct.find hfind) hconsolidated
    have hne : names ++ keys ≠ [] := List.append_ne_nil_of_right_ne_nil names hnode.keys_ne_nil
    obtain ⟨first, rest, hpath⟩ := List.exists_cons_of_ne_nil hne
    rw [hpath] at hsilent hinside
    rw [List.cons_append, hpath]
    refine (halike.descend (keyPath (first :: rest))).trans ?_
    rw [descend_layer_table hsilent.1, descend_overlay_of_silent hsilent]
    exact hinside

theorem consolidate_said {charts : Charts} {values values' : Entries} {name key : String}
    {keys : List String} (hdistinct : charts.Distinct)
    (h : consolidate charts values = some values')
    (hsaid : closed (descend (keyPath (key :: keys)) (values.lookup name))) :
    Alike (descend (keyPath (key :: keys)) (values'.lookup name))
      (descend (keyPath (key :: keys)) (values.lookup name)) := by
  have hspec := consolidate_spec hdistinct h name
  cases hfind : charts.find name with
  | none =>
    rw [hfind] at hspec
    exact hspec.descend _
  | some chart =>
    rw [hfind] at hspec
    obtain ⟨consolidated, -, halike⟩ := hspec
    refine (halike.descend _).trans ?_
    have hopen := closed_of_descend_closed hsaid
    rw [descend_layer_table hopen, descend_overlay_of_closed hsaid]
    exact .refl _

/-- The script goes through exactly if the charts say nothing, null or a mapping about the charts
below them.  The values file of the chart then has the values of each chart below it that no chart
above has spoken of, and what it has said about the charts below it is still there, as is all that
is not about them. -/
theorem consolidate_file {charts : Charts} (hdistinct : charts.Distinct) (values : Entries) :
    ((consolidate charts values).isSome ↔ Consolidable charts values) ∧
    ∀ values', consolidate charts values = some values' →
      (∀ names keys node, LeftOut charts values names keys node →
        Alike (descend (keyPath (names ++ keys)) (some (.map values'))) node) ∧
      (∀ name key keys, closed (descend (keyPath (key :: keys)) (values.lookup name)) →
        Alike (descend (keyPath (key :: keys)) (values'.lookup name))
          (descend (keyPath (key :: keys)) (values.lookup name))) ∧
      ∀ name, charts.find name = none → Alike (values'.lookup name) (values.lookup name) := by
  refine ⟨isSome_consolidate_iff hdistinct values, fun values' h ↦ ⟨?_, ?_, ?_⟩⟩
  · exact fun names keys node hleft ↦ consolidate_leftOut hleft hdistinct h
  · exact fun name key keys hsaid ↦ consolidate_said hdistinct h hsaid
  · intro name hfind
    have hspec := consolidate_spec hdistinct h name
    rwa [hfind] at hspec

/-- A chart of `etcd` with a chart below it. -/
def etcdCharts : Charts :=
  .cons "etcd"
    [("replicaCount", .scalar .int "3"), ("auth", .map [("enabled", .scalar .bool "true")])]
    (.cons "common" [("debug", .scalar .bool "false")] .nil .nil) .nil

def etcdValues : Entries := [("etcd", .map [("replicaCount", .scalar .int "1")])]

def consolidatedEtcdValues : Entries :=
  [("etcd", .map [("replicaCount", .scalar .int "1"),
    ("auth", .map [("enabled", .scalar .bool "true")]),
    ("common", .map [("debug", .scalar .bool "false")])])]

theorem etcdCharts_distinct : etcdCharts.Distinct := by
  simp [etcdCharts, Charts.Distinct, Charts.find]

theorem consolidate_etcdCharts :
    consolidate etcdCharts etcdValues = some consolidatedEtcdValues := by
  rfl

theorem consolidate_file_etcd :
    Alike (descend (keyPath ["etcd", "common", "debug"]) (some (.map consolidatedEtcdValues)))
      (some (.scalar .bool "false")) :=
  ((consolidate_file etcdCharts_distinct etcdValues).2 _ consolidate_etcdCharts).1
    ["etcd", "common"] ["debug"] _
    (.inner rfl ⟨rfl, rfl, rfl⟩ (.inner rfl ⟨rfl, rfl⟩ (.own rfl)))

/-! ## A second run -/

/-- A second run over each chart of a directory, and of those below, changes nothing there. -/
def Settled : Charts → Prop
  | .nil => True
  | .cons _ values charts rest =>
    (∃ again, consolidate charts values = some again ∧ AlikeEntries again values) ∧
      Settled charts ∧ Settled rest

/-- What the values say about a chart is a layer over the values of that chart. -/
def Completed (charts : Charts) (values : Entries) : Prop :=
  ∀ name chartValues below, charts.find name = some (chartValues, below) →
    ∃ entries, Alike (values.lookup name) (some (.map (layer chartValues entries)))

theorem find_consolidatedCharts {charts charts' : Charts}
    (h : consolidatedCharts charts = some charts') (name : String) :
    match charts.find name with
    | none => charts'.find name = none
    | some (chartValues, below) => ∃ consolidated below',
      consolidate below chartValues = some consolidated ∧
        consolidatedCharts below = some below' ∧
          charts'.find name = some (consolidated, below') := by
  induction charts generalizing charts' with
  | nil =>
    obtain rfl := Option.some.inj h
    rfl
  | cons chartName chartValues below rest _ ih =>
    obtain ⟨consolidated, hconsolidated, h⟩ := Option.bind_eq_some_iff.mp h
    obtain ⟨below', hbelow, h⟩ := Option.bind_eq_some_iff.mp h
    obtain ⟨rest', hrest, h⟩ := Option.bind_eq_some_iff.mp h
    obtain rfl := Option.some.inj h
    rw [Charts.find, Charts.find]
    by_cases hname : name = chartName
    · rw [if_pos hname, if_pos hname]
      exact ⟨consolidated, below', hconsolidated, hbelow, rfl⟩
    · rw [if_neg hname, if_neg hname]
      exact ih hrest

theorem distinct_consolidatedCharts {charts charts' : Charts} (hdistinct : charts.Distinct)
    (h : consolidatedCharts charts = some charts') : charts'.Distinct := by
  induction charts generalizing charts' with
  | nil =>
    obtain rfl := Option.some.inj h
    trivial
  | cons chartName chartValues below rest ihBelow ihRest =>
    obtain ⟨consolidated, -, h⟩ := Option.bind_eq_some_iff.mp h
    obtain ⟨below', hbelow, h⟩ := Option.bind_eq_some_iff.mp h
    obtain ⟨rest', hrest, h⟩ := Option.bind_eq_some_iff.mp h
    obtain rfl := Option.some.inj h
    obtain ⟨hname, hdistinctBelow, hdistinctRest⟩ := hdistinct
    have hother := find_consolidatedCharts hrest chartName
    rw [hname] at hother
    exact ⟨hother, ihBelow hdistinctBelow hbelow, ihRest hdistinctRest hrest⟩

/-- The script completes the values above a directory. -/
theorem completed_of_consolidate {charts charts' : Charts} {values values' : Entries}
    (hdistinct : charts.Distinct) (h : consolidate charts values = some values')
    (hcharts : consolidatedCharts charts = some charts') : Completed charts' values' := by
  intro name chartValues' below' hfind'
  have hspec := consolidate_spec hdistinct h name
  have hfound := find_consolidatedCharts hcharts name
  cases hfind : charts.find name with
  | none =>
    rw [hfind] at hfound
    rw [hfind'] at hfound
    cases hfound
  | some chart =>
    rw [hfind] at hspec hfound
    obtain ⟨consolidated, hconsolidated, halike⟩ := hspec
    obtain ⟨own, ownBelow, hown, -, hchart⟩ := hfound
    rw [hconsolidated] at hown
    rw [hfind', ← Option.some.inj hown] at hchart
    obtain ⟨rfl, -⟩ := Prod.mk.inj (Option.some.inj hchart)
    exact ⟨_, halike⟩

/-- Completed values are spoken of in a way that the script takes. -/
theorem consolidable_of_completed {charts : Charts} {values : Entries} (hdistinct : charts.Distinct)
    (hsettled : Settled charts) (hcompleted : Completed charts values) :
    Consolidable charts values := by
  induction charts with
  | nil => trivial
  | cons chartName chartValues below rest _ ih =>
    obtain ⟨hname, hbelow, hrest⟩ := hdistinct
    obtain ⟨⟨again, hagain, -⟩, -, hlater⟩ := hsettled
    refine ⟨?_, ?_, ih hrest hlater ?_⟩
    · rw [← isSome_consolidate_iff hbelow, hagain]
      rfl
    · obtain ⟨entries, halike⟩ := hcompleted chartName chartValues below (by simp [Charts.find])
      rcases halike.cases with ⟨hclosed, hsame⟩ | ⟨-, hnone⟩ | ⟨said, -, hsaid, -⟩
      · rw [hsame] at hclosed
        cases hclosed
      · cases hnone
      · rw [hsaid]
        rfl
    · intro name otherValues otherBelow hfind
      refine hcompleted name otherValues otherBelow ?_
      rw [Charts.find, if_neg ?_, hfind]
      rintro rfl
      rw [hname] at hfind
      cases hfind

theorem Settled.find {charts below : Charts} {name : String} {values : Entries}
    (hsettled : Settled charts) (h : charts.find name = some (values, below)) :
    ∃ again, consolidate below values = some again ∧ AlikeEntries again values := by
  induction charts with
  | nil => cases h
  | cons other otherValues otherCharts rest _ ih =>
    rw [Charts.find] at h
    split at h
    next =>
      obtain ⟨rfl, rfl⟩ := Prod.mk.inj (Option.some.inj h)
      exact hsettled.1
    next => exact ih hsettled.2.2 h

/-- Over charts that are settled, completed values stay as they are. -/
theorem consolidate_completed {charts : Charts} {values : Entries} (hdistinct : charts.Distinct)
    (hsettled : Settled charts) (hcompleted : Completed charts values) :
    ∃ again, consolidate charts values = some again ∧ AlikeEntries again values := by
  have hconsolidable := consolidable_of_completed hdistinct hsettled hcompleted
  obtain ⟨again, hagain⟩ :=
    Option.isSome_iff_exists.mp ((isSome_consolidate_iff hdistinct values).mpr hconsolidable)
  refine ⟨again, hagain, fun name ↦ ?_⟩
  have hspec := consolidate_spec hdistinct hagain name
  cases hfind : charts.find name with
  | none =>
    rw [hfind] at hspec
    exact hspec
  | some chart =>
    obtain ⟨chartValues, below⟩ := chart
    rw [hfind] at hspec
    obtain ⟨own, hown, hread⟩ := hspec
    obtain ⟨own', hown', hsame⟩ := hsettled.find hfind
    rw [hown'] at hown
    obtain rfl := Option.some.inj hown
    obtain ⟨entries, halike⟩ := hcompleted name chartValues below hfind
    have habsorb : AlikeEntries (layer own' (table (values.lookup name)))
        (layer chartValues entries) :=
      (hsame.layer halike.table).trans (layer_absorb chartValues entries)
    exact (hread.trans (alike_map_iff.mpr habsorb)).trans halike.symm

/-- The charts that went through the script are settled. -/
theorem settled_consolidatedCharts {charts charts' : Charts} (hdistinct : charts.Distinct)
    (h : consolidatedCharts charts = some charts') : Settled charts' := by
  induction charts generalizing charts' with
  | nil =>
    obtain rfl := Option.some.inj h
    trivial
  | cons chartName chartValues below rest ihBelow ihRest =>
    obtain ⟨consolidated, hconsolidated, h⟩ := Option.bind_eq_some_iff.mp h
    obtain ⟨below', hbelow, h⟩ := Option.bind_eq_some_iff.mp h
    obtain ⟨rest', hrest, h⟩ := Option.bind_eq_some_iff.mp h
    obtain rfl := Option.some.inj h
    obtain ⟨-, hdistinctBelow, hdistinctRest⟩ := hdistinct
    have hsettled := ihBelow hdistinctBelow hbelow
    exact ⟨consolidate_completed (distinct_consolidatedCharts hdistinctBelow hbelow) hsettled
      (completed_of_consolidate hdistinctBelow hconsolidated hbelow), hsettled,
      ihRest hdistinctRest hrest⟩

/-- The same charts, with values files that are read alike. -/
inductive AlikeCharts : Charts → Charts → Prop
  | nil : AlikeCharts .nil .nil
  | cons {name : String} {values values' : Entries} {charts charts' rest rest' : Charts}
      (hvalues : AlikeEntries values values') (hcharts : AlikeCharts charts charts')
      (hrest : AlikeCharts rest rest') :
      AlikeCharts (.cons name values charts rest) (.cons name values' charts' rest')

theorem Settled.consolidatedCharts {charts : Charts} (h : Settled charts) :
    ∃ again, ConsolidatedValues.consolidatedCharts charts = some again ∧
      AlikeCharts again charts := by
  induction charts with
  | nil => exact ⟨.nil, rfl, .nil⟩
  | cons name values below rest ihBelow ihRest =>
    obtain ⟨⟨again, hagain, hsame⟩, hbelow, hrest⟩ := h
    obtain ⟨below', hbelow', halikeBelow⟩ := ihBelow hbelow
    obtain ⟨rest', hrest', halikeRest⟩ := ihRest hrest
    refine ⟨.cons name again below' rest', ?_, .cons hsame halikeBelow halikeRest⟩
    rw [ConsolidatedValues.consolidatedCharts, hagain, hbelow', hrest']
    rfl

/-- Where the script went through, it goes through again over what it has written, and every values
file, that of the main chart and those of all charts below it, is read as it was after the first
run. -/
theorem consolidate_again {charts charts' : Charts} {values values' : Entries}
    (hdistinct : charts.Distinct) (h : consolidate charts values = some values')
    (hcharts : consolidatedCharts charts = some charts') :
    ∃ values'' charts'', consolidate charts' values' = some values'' ∧
      consolidatedCharts charts' = some charts'' ∧ AlikeEntries values'' values' ∧
      AlikeCharts charts'' charts' := by
  have hsettled := settled_consolidatedCharts hdistinct hcharts
  obtain ⟨values'', hvalues, halike⟩ :=
    consolidate_completed (distinct_consolidatedCharts hdistinct hcharts) hsettled
      (completed_of_consolidate hdistinct h hcharts)
  obtain ⟨charts'', hagain, halikeCharts⟩ := hsettled.consolidatedCharts
  exact ⟨values'', charts'', hvalues, hagain, halike, halikeCharts⟩

/-- What the main chart says about `etcd` stands where `etcd` has a mapping, and the other way
around. -/
def mixedValues : Entries :=
  [("etcd", .map [("auth", .str "none"), ("replicaCount", .map [("min", .scalar .int "1")])])]

theorem consolidate_again_mixed :
    ∃ charts' values' values'' charts'', consolidatedCharts etcdCharts = some charts' ∧
      consolidate etcdCharts mixedValues = some values' ∧
      consolidate charts' values' = some values'' ∧ consolidatedCharts charts' = some charts'' ∧
      AlikeEntries values'' values' ∧ AlikeCharts charts'' charts' := by
  obtain ⟨charts', hcharts⟩ := Option.isSome_iff_exists.mp
    (show (consolidatedCharts etcdCharts).isSome from rfl)
  obtain ⟨values', hvalues⟩ := Option.isSome_iff_exists.mp
    (show (consolidate etcdCharts mixedValues).isSome from rfl)
  obtain ⟨values'', charts'', hagain⟩ := consolidate_again etcdCharts_distinct hvalues hcharts
  exact ⟨charts', values', values'', charts'', hcharts, hvalues, hagain⟩

end MayastorExtensions.Scripts.ConsolidatedValues
