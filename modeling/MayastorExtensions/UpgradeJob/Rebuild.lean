import MayastorExtensions.UpgradeJob.Cluster

/-!
# Waiting for rebuilds

`rebuild_result` and the functions under it, from `upgrade/utils.rs`, and `wait_for_rebuild` from
`upgrade/data_plane.rs`.  One pass over the unhealthy volumes is a pure function; the listings
around it are read from a store that may change between any two pages.

The gate is sound because a volume is only ever discarded with no rebuild in progress, so that
whatever a later listing filters out as discarded has none either.
-/

namespace MayastorExtensions.UpgradeJob

open Scheduled

/-! ## The pass over one listing -/

/-- The number of children that are being rebuilt. -/
def replicaRebuildCount (volume : Volume) : ℕ :=
  match volume.state.target with
  | none => 0
  | some target => (target.children.filter fun child ↦ child.rebuildProgress.isSome).length

def isUnhealthy (volume : Volume) : Bool :=
  match volume.state.status with
  | .faulted | .degraded => true
  | _ => false

/-- How a pass over the unhealthy volumes ends: with a rebuild in progress, or at the end of the
list with the nodes the volumes were found on.  Both carry the discarded volumes. -/
inductive PassResult where
  | rebuilding (staleVolumes : List Volume)
  | finished (volumeOverNodes : List String) (staleVolumes : List Volume)

/-- The nodes of a volume's target and replicas. -/
def volumeNodes (target : Nexus) (volume : Volume) : List String :=
  target.node :: volume.state.replicaTopology.filterMap fun replica ↦ replica.2.node

/-- The body of the outer loop of `rebuild_result`.  The eleven one-minute waits look at the
snapshot of the volume that the listing returned. -/
def rebuildPass (nodeName : String) : List Volume → List String → List Volume → PassResult
  | [], volumeOverNodes, staleVolumes => .finished volumeOverNodes staleVolumes
  | volume :: rest, volumeOverNodes, staleVolumes =>
    match volume.state.target with
    | none => rebuildPass nodeName rest volumeOverNodes staleVolumes
    | some target =>
      let volumeOverNodes := volumeNodes target volume ++ volumeOverNodes
      if nodeName ∈ volumeOverNodes then
        match replicaRebuildCount volume with
        | 0 =>
          if (List.range 11).any fun _ ↦ 0 < replicaRebuildCount volume then
            .rebuilding staleVolumes
          else rebuildPass nodeName rest volumeOverNodes (staleVolumes ++ [volume])
        | _ => .rebuilding staleVolumes
      else rebuildPass nodeName rest volumeOverNodes staleVolumes

/-- The volumes discarded so far. -/
def PassResult.staleVolumes : PassResult → List Volume
  | .rebuilding staleVolumes | .finished _ staleVolumes => staleVolumes

/-! ## Listings -/

/-- The paging loop of both volume listings: it keeps the entries a predicate accepts and stops
at the page without a next token. -/
def pageVolumes (keep : Volume → Bool) : Job (List Volume) :=
  Program.loop (fun position : List Volume × ℕ ↦ do
    let page ← getVolumes position.2
    let volumes := position.1 ++ page.1.filter keep
    match page.2 with
    | some startingToken => pure (.inl (volumes, startingToken))
    | none => pure (.inr volumes)) ([], 0)

def listAllVolumes : Job (List Volume) :=
  pageVolumes fun _ ↦ true

def listUnhealthyVolumes (discardedVolumes : List Volume) : Job (List Volume) := do
  let unhealthyVolumes ← pageVolumes isUnhealthy
  pure (unhealthyVolumes.filter fun volume ↦ volume ∉ discardedVolumes)

/-! ## The gate -/

structure RebuildResult where
  rebuilding : Bool
  discardedVolumes : List Volume

def rebuildResult (nodeName : String) (staleVolumes : List Volume) : Job RebuildResult :=
  Program.loop (fun staleVolumes ↦ do
    let unhealthyVolumes ← listUnhealthyVolumes staleVolumes
    if unhealthyVolumes.isEmpty then pure (.inr ⟨false, staleVolumes⟩)
    else match rebuildPass nodeName unhealthyVolumes [] staleVolumes with
      | .rebuilding staleVolumes => pure (.inr ⟨true, staleVolumes⟩)
      | .finished volumeOverNodes staleVolumes =>
        if volumeOverNodes.isEmpty then pure (.inr ⟨false, staleVolumes⟩)
        else pure (.inl staleVolumes)) staleVolumes

def waitForRebuild (nodeName : String) : Job Unit :=
  Program.loop (fun discardedVolumes ↦ do
    let rebuild ← rebuildResult nodeName discardedVolumes
    if rebuild.rebuilding then pure (.inl rebuild.discardedVolumes) else pure (.inr ())) []

/-! ## What was read -/

/-- Follow the pages of a trace: the entries of the listing under way, and the last listing that
was read to its end. -/
def listingStep (progress : List Volume × Option (List Volume)) (entry : JobEntry) :
    List Volume × Option (List Volume) :=
  match entry.call, entry.verdict with
  | .getVolumes startingToken, .served =>
    let page := entry.seen.volumesPage startingToken
    let volumes := (if startingToken = 0 then [] else progress.1) ++ page.1
    match page.2 with
    | some _ => (volumes, progress.2)
    | none => ([], some volumes)
  | _, _ => progress

def listingProgress (trace : List JobEntry) : List Volume × Option (List Volume) :=
  trace.foldl listingStep ([], none)

/-- The last listing that was read to its end. -/
def lastCompleteListing (trace : List JobEntry) : Option (List Volume) :=
  (listingProgress trace).2

theorem listingProgress_concat (trace : List JobEntry) (entry : JobEntry) :
    listingProgress (trace ++ [entry]) = listingStep (listingProgress trace) entry := by
  simp [listingProgress]

/-! ## Specifications -/

/-- The tokens of later pages are never zero. -/
theorem next_token_pos {cluster : Cluster} {startingToken next : ℕ}
    (h : (cluster.volumesPage startingToken).2 = some next) : next ≠ 0 :=
  Nat.ne_zero_of_lt (volumesPage_next h).2.1

/-- What a paging loop returns is the accepted part of the last complete listing. -/
theorem pageVolumes_spec {rely : Tick Move → Prop} (keep : Volume → Bool) :
    Triple rely (fun _ _ ↦ True) (pageVolumes keep)
      (fun volumes _ trace ↦ ∃ listing, lastCompleteListing trace = some listing ∧
        volumes = listing.filter keep)
      (fun _ _ ↦ True) := by
  let invariant : List Volume × ℕ → Assertion Cluster Move Call := fun position _ trace ↦
    position.1 = (if position.2 = 0 then [] else (listingProgress trace).1).filter keep
  refine Triple.loop invariant (fun _ _ _ ↦ rfl) ?_ (fun _ _ _ _ ↦ trivial)
  intro position
  refine Triple.bind (fun page _ trace ↦
    match page.2 with
    | some startingToken => startingToken ≠ 0 ∧
        position.1 ++ page.1.filter keep = (listingProgress trace).1.filter keep
    | none => ∃ listing, lastCompleteListing trace = some listing ∧
        position.1 ++ page.1.filter keep = listing.filter keep)
    (Triple.query (fun _ _ _ ↦ trivial) ?_ (fun _ _ _ _ _ _ ↦ trivial)) ?_
  · intro state trace moves _ hposition
    have hvolumes : position.1 ++ ((after moves state).volumesPage position.2).1.filter keep =
        ((if position.2 = 0 then [] else (listingProgress trace).1) ++
          ((after moves state).volumesPage position.2).1).filter keep := by
      rw [List.filter_append, ← hposition]
    cases hnext : ((after moves state).volumesPage position.2).2 with
    | some startingToken =>
      refine ⟨next_token_pos hnext, ?_⟩
      rw [hvolumes, listingProgress_concat]
      simp [listingStep, hnext]
    | none =>
      refine ⟨_, ?_, hvolumes⟩
      rw [lastCompleteListing, listingProgress_concat]
      simp [listingStep, hnext]
  · rintro ⟨entries, next⟩
    cases next with
    | some startingToken =>
      refine Triple.pure fun state trace h ↦ ?_
      simpa [invariant, h.1] using h.2
    | none => exact Triple.pure fun state trace h ↦ h

theorem listUnhealthyVolumes_spec {rely : Tick Move → Prop} (discarded : List Volume) :
    Triple rely (fun _ _ ↦ True) (listUnhealthyVolumes discarded)
      (fun volumes _ trace ↦ ∃ listing, lastCompleteListing trace = some listing ∧
        volumes = (listing.filter isUnhealthy).filter fun volume ↦ volume ∉ discarded)
      (fun _ _ ↦ True) := by
  refine Triple.bind _ (pageVolumes_spec isUnhealthy) fun volumes ↦ Triple.pure ?_
  rintro state trace ⟨listing, hlisting, rfl⟩
  exact ⟨listing, hlisting, rfl⟩

/-- Every volume in a list of discarded volumes is without a rebuild in progress. -/
def AllSettled (volumes : List Volume) : Prop :=
  ∀ volume ∈ volumes, replicaRebuildCount volume = 0

theorem rebuildPass_allSettled (nodeName : String) (volumes : List Volume)
    (volumeOverNodes : List String) (staleVolumes : List Volume) (h : AllSettled staleVolumes) :
    AllSettled (rebuildPass nodeName volumes volumeOverNodes staleVolumes).staleVolumes := by
  induction volumes generalizing volumeOverNodes staleVolumes with
  | nil => exact h
  | cons volume rest ih =>
    rw [rebuildPass]
    split
    next => exact ih _ _ h
    next target htarget =>
      dsimp only
      split
      next =>
        split
        next hcount =>
          split
          next => exact h
          next =>
            apply ih
            intro discarded hdiscarded
            rcases List.mem_append.mp hdiscarded with hold | hnew
            · exact h discarded hold
            · rw [List.mem_singleton.mp hnew, hcount]
        next => exact h
      next => exact ih _ _ h

/-- The nodes found so far are never forgotten. -/
theorem rebuildPass_nodes_subset {nodeName : String} {volumes : List Volume}
    {volumeOverNodes nodes : List String} {staleVolumes stale : List Volume}
    (h : rebuildPass nodeName volumes volumeOverNodes staleVolumes = .finished nodes stale) :
    volumeOverNodes ⊆ nodes := by
  induction volumes generalizing volumeOverNodes staleVolumes with
  | nil =>
    rw [rebuildPass] at h
    cases h
    exact List.Subset.refl _
  | cons volume rest ih =>
    rw [rebuildPass] at h
    split at h
    next => exact ih h
    next target htarget =>
      have hkept : volumeOverNodes ⊆ volumeNodes target volume ++ volumeOverNodes :=
        List.subset_append_right _ _
      dsimp only at h
      split at h
      next =>
        split at h
        next =>
          split at h
          next => cases h
          next => exact List.Subset.trans hkept (ih h)
        next => cases h
      next => exact List.Subset.trans hkept (ih h)

/-- A pass that found no node saw no volume with a target. -/
theorem rebuildPass_no_nodes {nodeName : String} {volumes : List Volume}
    {volumeOverNodes : List String} {staleVolumes stale : List Volume}
    (h : rebuildPass nodeName volumes volumeOverNodes staleVolumes = .finished [] stale) :
    AllSettled volumes := by
  induction volumes generalizing volumeOverNodes staleVolumes with
  | nil => exact fun volume hvolume ↦ absurd hvolume List.not_mem_nil
  | cons volume rest ih =>
    rw [rebuildPass] at h
    split at h
    next htarget =>
      intro other hother
      rcases List.mem_cons.mp hother with rfl | hrest
      · simp [replicaRebuildCount, htarget]
      · exact ih h other hrest
    next target htarget =>
      have hnode : ∀ stale', rebuildPass nodeName rest
          (volumeNodes target volume ++ volumeOverNodes) stale' ≠ .finished [] stale := by
        intro stale' hfinished
        have hsubset := rebuildPass_nodes_subset hfinished
        exact List.not_mem_nil (hsubset (List.mem_append_left _ List.mem_cons_self))
      dsimp only at h
      split at h
      next =>
        split at h
        next =>
          split at h
          next => cases h
          next => exact absurd h (hnode _)
        next => cases h
      next => exact absurd h (hnode _)

/-- No unhealthy volume of a listing is being rebuilt. -/
def Quiet (listing : List Volume) : Prop :=
  AllSettled (listing.filter isUnhealthy)

/-- A listing is quiet once the unhealthy volumes that are not discarded are settled. -/
theorem quiet_of_discarded {listing discarded : List Volume} (hdiscarded : AllSettled discarded)
    (h : AllSettled ((listing.filter isUnhealthy).filter fun volume ↦ volume ∉ discarded)) :
    Quiet listing := by
  intro volume hvolume
  by_cases hmem : volume ∈ discarded
  · exact hdiscarded volume hmem
  · exact h volume (List.mem_filter.mpr ⟨hvolume, by simpa using hmem⟩)

/-- One call of `rebuild_result`: discarded volumes stay settled, and an answer that nothing is
rebuilding rests on a quiet listing. -/
theorem rebuildResult_spec {rely : Tick Move → Prop} (nodeName : String)
    (staleVolumes : List Volume) :
    Triple rely (fun _ _ ↦ AllSettled staleVolumes) (rebuildResult nodeName staleVolumes)
      (fun result _ trace ↦ AllSettled result.discardedVolumes ∧
        (result.rebuilding = false →
          ∃ listing, lastCompleteListing trace = some listing ∧ Quiet listing))
      (fun _ _ ↦ True) := by
  refine Triple.loop (fun stale _ _ ↦ AllSettled stale) (fun _ _ h ↦ h) ?_
    (fun _ _ _ _ ↦ trivial)
  intro stale m hrely hstale
  refine Triple.bind _ (listUnhealthyVolumes_spec stale) ?_ m hrely trivial
  intro unhealthyVolumes
  by_cases hempty : unhealthyVolumes.isEmpty
  · rw [if_pos hempty]
    refine Triple.pure ?_
    rintro state trace ⟨listing, hlisting, hvolumes⟩
    refine ⟨hstale, fun _ ↦ ⟨listing, hlisting, quiet_of_discarded hstale ?_⟩⟩
    rw [← hvolumes, List.isEmpty_iff.mp hempty]
    exact fun volume hvolume ↦ absurd hvolume List.not_mem_nil
  · rw [if_neg hempty]
    have hsettled := rebuildPass_allSettled nodeName unhealthyVolumes [] stale hstale
    cases hpass : rebuildPass nodeName unhealthyVolumes [] stale with
    | rebuilding stale' =>
      rw [hpass] at hsettled
      exact Triple.pure fun state trace _ ↦ ⟨hsettled, fun h ↦ by cases h⟩
    | finished volumeOverNodes stale' =>
      rw [hpass] at hsettled
      dsimp only
      by_cases hnodes : volumeOverNodes.isEmpty
      · rw [if_pos hnodes]
        rw [List.isEmpty_iff.mp hnodes] at hpass
        refine Triple.pure ?_
        rintro state trace ⟨listing, hlisting, hvolumes⟩
        refine ⟨hsettled, fun _ ↦ ⟨listing, hlisting, quiet_of_discarded hstale ?_⟩⟩
        rw [← hvolumes]
        exact rebuildPass_no_nodes hpass
      · rw [if_neg hnodes]
        exact Triple.pure fun state trace _ ↦ hsettled

theorem waitForRebuild_spec {rely : Tick Move → Prop} (nodeName : String) :
    Triple rely (fun _ _ ↦ True) (waitForRebuild nodeName)
      (fun _ _ trace ↦ ∃ listing, lastCompleteListing trace = some listing ∧ Quiet listing)
      (fun _ _ ↦ True) := by
  refine Triple.loop (fun discarded _ _ ↦ AllSettled discarded)
    (fun _ _ _ ↦ fun volume hvolume ↦ absurd hvolume List.not_mem_nil) ?_
    (fun _ _ _ _ ↦ trivial)
  intro discarded
  refine Triple.bind _ (rebuildResult_spec nodeName discarded) ?_
  rintro ⟨rebuilding, discardedVolumes⟩
  cases rebuilding with
  | true => exact Triple.pure fun state trace h ↦ h.1
  | false => exact Triple.pure fun state trace h ↦ h.2 rfl

/-- A settled volume has no child that is being rebuilt. -/
theorem rebuildProgress_eq_none {volume : Volume} (h : replicaRebuildCount volume = 0)
    {target : Nexus} (htarget : volume.state.target = some target) {child : Child}
    (hchild : child ∈ target.children) : child.rebuildProgress = none := by
  rw [replicaRebuildCount, htarget] at h
  have hnone := List.filter_eq_nil_iff.mp (List.length_eq_zero_iff.mp h) child hchild
  simpa using hnone

/-- When `wait_for_rebuild` returns, no faulted or degraded volume of the last listing it read to
the end has a child with a rebuild in progress, however the volumes changed between reads. -/
theorem waitForRebuild_returns_quiet {nodeName : String} {m m' : Machine Cluster Move Call}
    (h : waitForRebuild nodeName m = (.ok (), m')) :
    ∃ listing, lastCompleteListing m'.trace = some listing ∧
      ∀ volume ∈ listing, volume.state.status = .faulted ∨ volume.state.status = .degraded →
        ∀ target, volume.state.target = some target →
          ∀ child ∈ target.children, child.rebuildProgress = none := by
  have hspec : Triple (fun _ ↦ True) _ (waitForRebuild nodeName) _ _ := waitForRebuild_spec nodeName
  obtain ⟨listing, hlisting, hquiet⟩ := hspec.apply_ok h (fun _ _ ↦ trivial) trivial
  refine ⟨listing, hlisting, ?_⟩
  intro volume hvolume hstatus target htarget child hchild
  have hunhealthy : isUnhealthy volume = true := by
    rcases hstatus with hstatus | hstatus <;> simp [isUnhealthy, hstatus]
  exact rebuildProgress_eq_none (hquiet volume (List.mem_filter.mpr ⟨hvolume, hunhealthy⟩))
    htarget hchild

/-- A degraded volume with its target on the node and no rebuild under way. -/
def degradedVolume : Volume where
  spec := ⟨"v1", none⟩
  state := ⟨.degraded, some ⟨"n1", [⟨"c1", none⟩]⟩, [("r1", ⟨some "n1"⟩)]⟩
  rest := ""

/-- The volume is discarded after the first listing and filtered out of the second. -/
theorem waitForRebuild_returns_quiet_degraded :
    let m : Machine Cluster Move Call :=
      ⟨{ (default : Cluster) with volumes := [degradedVolume] },
        [⟨[], .served⟩, ⟨[], .served⟩], []⟩
    (waitForRebuild "n1" m).1 = .ok () ∧
      ∃ listing, lastCompleteListing (waitForRebuild "n1" m).2.trace = some listing ∧
        ∀ volume ∈ listing, volume.state.status = .faulted ∨ volume.state.status = .degraded →
          ∀ target, volume.state.target = some target →
            ∀ child ∈ target.children, child.rebuildProgress = none := by
  intro m
  have hok : (waitForRebuild "n1" m).1 = .ok () := by rfl
  exact ⟨hok, waitForRebuild_returns_quiet (Prod.ext hok rfl)⟩

end MayastorExtensions.UpgradeJob
