import Mathlib.Data.List.TakeWhile
import MayastorExtensions.UpgradeJob.Rebuild

/-!
# Progress of the rebuild check

What one pass of `rebuild_result` does with a listing, and when the loop around it comes to an end.
The nodes of the volumes are collected over the whole pass, so that behind the first volume on the
node every volume with a target counts as being on it.  The volumes with a target in front of it are
neither reported nor discarded, and as long as one of them is left the loop goes round again.
-/

namespace MayastorExtensions.UpgradeJob

open Scheduled

/-! ## The volumes a pass looks at -/

def hasTarget (volume : Volume) : Bool :=
  volume.state.target.isSome

/-- The target or a replica of the volume is on the node. -/
def touchesNode (nodeName : String) (volume : Volume) : Bool :=
  (volume.state.target.any fun target ↦ target.node = nodeName) ||
    volume.state.replicaTopology.any fun replica ↦ replica.2.node = some nodeName

/-- The volumes with a target, from the first one on the node on. -/
def examined (nodeName : String) (volumes : List Volume) : List Volume :=
  (volumes.filter hasTarget).dropWhile fun volume ↦ !touchesNode nodeName volume

/-- The same in the middle of a pass, when the node may have been found before. -/
def examinedAfter (nodeName : String) (volumeOverNodes : List String) (volumes : List Volume) :
    List Volume :=
  if nodeName ∈ volumeOverNodes then volumes.filter hasTarget else examined nodeName volumes

theorem mem_volumeNodes {nodeName : String} {volume : Volume} {target : Nexus}
    (h : volume.state.target = some target) :
    nodeName ∈ volumeNodes target volume ↔ touchesNode nodeName volume := by
  rw [volumeNodes, List.mem_cons, eq_comm]
  simp [touchesNode, h]

theorem examinedAfter_cons_none {nodeName : String} {volumeOverNodes : List String}
    {volume : Volume} {rest : List Volume} (h : volume.state.target = none) :
    examinedAfter nodeName volumeOverNodes (volume :: rest) =
      examinedAfter nodeName volumeOverNodes rest := by
  simp [examinedAfter, examined, hasTarget, h]

/-- Once the node is found, the volume and all others with a target are looked at. -/
theorem examinedAfter_cons_found {nodeName : String} {volumeOverNodes : List String}
    {volume : Volume} {rest : List Volume} {target : Nexus} (h : volume.state.target = some target)
    (hfound : nodeName ∈ volumeNodes target volume ++ volumeOverNodes) :
    examinedAfter nodeName volumeOverNodes (volume :: rest) =
      volume :: examinedAfter nodeName (volumeNodes target volume ++ volumeOverNodes) rest := by
  have htarget : hasTarget volume = true := by simp [hasTarget, h]
  rw [examinedAfter, examinedAfter, if_pos hfound]
  by_cases hbefore : nodeName ∈ volumeOverNodes
  · rw [if_pos hbefore, List.filter_cons_of_pos htarget]
  · have htouches : touchesNode nodeName volume = true := by
      rcases List.mem_append.mp hfound with hnow | hold
      · exact (mem_volumeNodes h).mp hnow
      · exact absurd hold hbefore
    rw [if_neg hbefore, examined, List.filter_cons_of_pos htarget,
      List.dropWhile_cons_of_neg (by simp [htouches])]

theorem examinedAfter_cons_missed {nodeName : String} {volumeOverNodes : List String}
    {volume : Volume} {rest : List Volume} {target : Nexus} (h : volume.state.target = some target)
    (hmissed : nodeName ∉ volumeNodes target volume ++ volumeOverNodes) :
    examinedAfter nodeName volumeOverNodes (volume :: rest) =
      examinedAfter nodeName (volumeNodes target volume ++ volumeOverNodes) rest := by
  have htarget : hasTarget volume = true := by simp [hasTarget, h]
  simp only [List.mem_append, not_or] at hmissed
  have htouches : touchesNode nodeName volume = false := by
    simpa using mt (mem_volumeNodes h).mpr hmissed.1
  rw [examinedAfter, examinedAfter, if_neg hmissed.2, if_neg (by simpa using hmissed), examined,
    examined, List.filter_cons_of_pos htarget, List.dropWhile_cons_of_pos (by simp [htouches])]

/-! ## The outcome of a pass -/

/-- A pass reports a rebuild exactly when one of the volumes it looks at is being rebuilt. -/
theorem rebuildPass_rebuilding {nodeName : String} {volumes : List Volume}
    {volumeOverNodes : List String} {staleVolumes : List Volume}
    (h : ¬AllSettled (examinedAfter nodeName volumeOverNodes volumes)) :
    ∃ stale, rebuildPass nodeName volumes volumeOverNodes staleVolumes = .rebuilding stale := by
  induction volumes generalizing volumeOverNodes staleVolumes with
  | nil => exact absurd (by simp [AllSettled, examinedAfter, examined]) h
  | cons volume rest ih =>
    rw [rebuildPass]
    cases htarget : volume.state.target with
    | none =>
      rw [examinedAfter_cons_none htarget] at h
      exact ih h
    | some target =>
      dsimp only
      by_cases hfound : nodeName ∈ volumeNodes target volume ++ volumeOverNodes
      · rw [if_pos hfound]
        rw [examinedAfter_cons_found htarget hfound] at h
        cases hcount : replicaRebuildCount volume with
        | zero =>
          have hrest : ¬AllSettled (examinedAfter nodeName
              (volumeNodes target volume ++ volumeOverNodes) rest) := by
            intro hsettled
            apply h
            intro other hother
            rcases List.mem_cons.mp hother with rfl | hother
            · exact hcount
            · exact hsettled other hother
          simpa using ih hrest
        | succ count => exact ⟨_, rfl⟩
      · rw [if_neg hfound]
        rw [examinedAfter_cons_missed htarget hfound] at h
        exact ih h

/-- Otherwise it discards them all, and has found a node if there was a volume with a target. -/
theorem rebuildPass_finished {nodeName : String} {volumes : List Volume}
    {volumeOverNodes : List String} {staleVolumes : List Volume}
    (h : AllSettled (examinedAfter nodeName volumeOverNodes volumes)) :
    ∃ nodes, rebuildPass nodeName volumes volumeOverNodes staleVolumes =
        .finished nodes (staleVolumes ++ examinedAfter nodeName volumeOverNodes volumes) ∧
      (nodes = [] ↔ volumeOverNodes = [] ∧ volumes.filter hasTarget = []) := by
  induction volumes generalizing volumeOverNodes staleVolumes with
  | nil => exact ⟨volumeOverNodes, by simp [rebuildPass, examinedAfter, examined], by simp⟩
  | cons volume rest ih =>
    rw [rebuildPass]
    cases htarget : volume.state.target with
    | none =>
      rw [examinedAfter_cons_none htarget] at h ⊢
      have hskipped : (volume :: rest).filter hasTarget = rest.filter hasTarget :=
        List.filter_cons_of_neg (by simp [hasTarget, htarget])
      rw [hskipped]
      exact ih h
    | some target =>
      dsimp only
      have hkept : (volume :: rest).filter hasTarget ≠ [] := by
        simp [hasTarget, htarget]
      have hnodes : volumeNodes target volume ++ volumeOverNodes ≠ [] := by
        simp [volumeNodes]
      by_cases hfound : nodeName ∈ volumeNodes target volume ++ volumeOverNodes
      · rw [if_pos hfound]
        rw [examinedAfter_cons_found htarget hfound] at h ⊢
        have hcount : replicaRebuildCount volume = 0 := h volume List.mem_cons_self
        have hrest : AllSettled (examinedAfter nodeName
            (volumeNodes target volume ++ volumeOverNodes) rest) :=
          fun other hother ↦ h other (List.mem_cons_of_mem _ hother)
        obtain ⟨nodes, hpass, hempty⟩ := @ih _ (staleVolumes ++ [volume]) hrest
        refine ⟨nodes, ?_, by simp [hempty, hnodes, hkept]⟩
        simpa [hcount] using hpass
      · rw [if_neg hfound]
        rw [examinedAfter_cons_missed htarget hfound] at h ⊢
        obtain ⟨nodes, hpass, hempty⟩ := @ih _ staleVolumes h
        exact ⟨nodes, hpass, by simp [hempty, hnodes, hkept]⟩

/-- Whether a pass reports a rebuild and, if not, the discarded volumes it leaves. -/
def PassResult.outcome : PassResult → Option (List Volume)
  | .rebuilding _ => none
  | .finished _ staleVolumes => some staleVolumes

theorem rebuildPass_outcome_eq_none {nodeName : String} {volumes staleVolumes : List Volume}
    (h : ¬AllSettled (examined nodeName volumes)) :
    (rebuildPass nodeName volumes [] staleVolumes).outcome = none := by
  have hexamined : examinedAfter nodeName [] volumes = examined nodeName volumes := if_neg (by simp)
  rw [← hexamined] at h
  obtain ⟨stale, hpass⟩ := @rebuildPass_rebuilding _ _ _ staleVolumes h
  rw [hpass]
  rfl

theorem rebuildPass_outcome_eq_some {nodeName : String} {volumes staleVolumes : List Volume}
    (h : AllSettled (examined nodeName volumes)) :
    (rebuildPass nodeName volumes [] staleVolumes).outcome =
      some (staleVolumes ++ examined nodeName volumes) := by
  have hexamined : examinedAfter nodeName [] volumes = examined nodeName volumes := if_neg (by simp)
  rw [← hexamined] at h ⊢
  obtain ⟨nodes, hpass, -⟩ := @rebuildPass_finished _ _ _ staleVolumes h
  rw [hpass]
  rfl

/-! ## Volumes elsewhere -/

/-- Everything on the node is looked at, if it has a target. -/
theorem mem_examined {nodeName : String} {volumes : List Volume} {volume : Volume}
    (hmem : volume ∈ volumes) (htarget : hasTarget volume)
    (htouches : touchesNode nodeName volume) :
    volume ∈ examined nodeName volumes := by
  have hfiltered : volume ∈ volumes.filter hasTarget := List.mem_filter.mpr ⟨hmem, htarget⟩
  rw [← List.takeWhile_append_dropWhile (p := fun volume ↦ !touchesNode nodeName volume)
    (l := volumes.filter hasTarget)] at hfiltered
  rcases List.mem_append.mp hfiltered with hfront | hback
  · have hmissed := List.mem_takeWhile_imp hfront
    simp [htouches] at hmissed
  · exact hback

/-- Without a volume on the node that has a target, nothing is looked at. -/
theorem examined_eq_nil {nodeName : String} {volumes : List Volume}
    (h : ∀ volume ∈ volumes, hasTarget volume → touchesNode nodeName volume = false) :
    examined nodeName volumes = [] := by
  rw [examined, List.dropWhile_eq_nil_iff]
  intro volume hvolume
  obtain ⟨hmem, htarget⟩ := List.mem_filter.mp hvolume
  simp [h volume hmem htarget]

/-- What is looked at once a volume on the node has come. -/
theorem examined_append {nodeName : String} {front back : List Volume} {volume : Volume}
    (hmem : volume ∈ front) (htarget : hasTarget volume) (htouches : touchesNode nodeName volume) :
    examined nodeName (front ++ back) = examined nodeName front ++ back.filter hasTarget := by
  have hne : examined nodeName front ≠ [] :=
    List.ne_nil_of_mem (mem_examined hmem htarget htouches)
  rw [examined, List.filter_append, List.dropWhile_append, if_neg (by simpa [examined] using hne)]
  rfl

/-- A volume with a target elsewhere that is being rebuilt. -/
def rebuildingElsewhere (nodeName : String) : Volume where
  spec := ⟨"", none⟩
  state := ⟨.degraded, some ⟨nodeName ++ "-other", [⟨"", some 0⟩]⟩, []⟩
  rest := ""

theorem touchesNode_rebuildingElsewhere (nodeName : String) :
    touchesNode nodeName (rebuildingElsewhere nodeName) = false := by
  have hother : nodeName ++ "-other" ≠ nodeName := by
    intro heq
    have hlength := congrArg String.length heq
    simp at hlength
  simp [touchesNode, rebuildingElsewhere, hother]

/-- A rebuild on the node is always noticed. -/
theorem not_allSettled_examined {nodeName : String} {volumes : List Volume} {volume : Volume}
    (hmem : volume ∈ volumes) (htouches : touchesNode nodeName volume)
    (hcount : 0 < replicaRebuildCount volume) : ¬AllSettled (examined nodeName volumes) := by
  intro hall
  have htarget : hasTarget volume := by
    by_contra hmissing
    have hnone : volume.state.target = none := by simpa [hasTarget] using hmissing
    simp [replicaRebuildCount, hnone] at hcount
  have hzero := hall volume (mem_examined hmem htarget htouches)
  omega

/-- Behind a settled volume on the node, a rebuild elsewhere changes the outcome. -/
theorem rebuildPass_not_local {nodeName : String} {onNode staleVolumes : List Volume}
    {volume : Volume} (hmem : volume ∈ onNode) (htarget : hasTarget volume)
    (htouches : touchesNode nodeName volume) (hsettled : AllSettled onNode) :
    (rebuildPass nodeName (onNode ++ [rebuildingElsewhere nodeName]) [] staleVolumes).outcome ≠
      (rebuildPass nodeName onNode [] staleVolumes).outcome := by
  have hquiet : AllSettled (examined nodeName onNode) := by
    intro other hother
    exact hsettled other (List.mem_filter.mp ((List.dropWhile_sublist _).subset hother)).1
  have hbusy : ¬AllSettled (examined nodeName (onNode ++ [rebuildingElsewhere nodeName])) := by
    intro hall
    rw [examined_append hmem htarget htouches] at hall
    have hcount := hall (rebuildingElsewhere nodeName) (List.mem_append_right _ (by
      simp [hasTarget, rebuildingElsewhere]))
    simp [replicaRebuildCount, rebuildingElsewhere] at hcount
  rw [rebuildPass_outcome_eq_none hbusy, rebuildPass_outcome_eq_some hquiet]
  exact Option.some_ne_none _ ∘ Eq.symm

/-- The pass over a list of unhealthy volumes comes out the same whatever volumes elsewhere are
added to it, taken out of it or moved in it, if and only if none of the volumes on the node has a
target or one of them is being rebuilt. -/
theorem rebuildPass_local_iff (nodeName : String) (volumes staleVolumes : List Volume) :
    (∀ others : List Volume,
        others.filter (touchesNode nodeName) = volumes.filter (touchesNode nodeName) →
          (rebuildPass nodeName others [] staleVolumes).outcome =
            (rebuildPass nodeName volumes [] staleVolumes).outcome) ↔
      (∀ volume ∈ volumes, touchesNode nodeName volume → volume.state.target = none) ∨
        ∃ volume ∈ volumes, touchesNode nodeName volume ∧ 0 < replicaRebuildCount volume := by
  constructor
  · intro hlocal
    by_contra hcond
    simp only [not_or, not_forall, not_exists, not_and, Nat.not_lt, Nat.le_zero] at hcond
    obtain ⟨⟨volume, hmem, htouches, htarget⟩, hsettled⟩ := hcond
    have honNode : AllSettled (volumes.filter (touchesNode nodeName)) := by
      intro other hother
      obtain ⟨hvolume, htouch⟩ := List.mem_filter.mp hother
      exact hsettled other hvolume htouch
    have hwithout := hlocal (volumes.filter (touchesNode nodeName)) (by simp)
    have hwith := hlocal (volumes.filter (touchesNode nodeName) ++ [rebuildingElsewhere nodeName])
      (by simp [touchesNode_rebuildingElsewhere])
    exact rebuildPass_not_local (List.mem_filter.mpr ⟨hmem, htouches⟩)
      (Option.isSome_iff_ne_none.mpr htarget) htouches honNode (hwith.trans hwithout.symm)
  · intro hcond others hothers
    have hiff : ∀ volume, touchesNode nodeName volume → (volume ∈ others ↔ volume ∈ volumes) := by
      intro volume htouches
      have hmem := congrArg (volume ∈ ·) hothers
      simpa [List.mem_filter, htouches] using hmem
    rcases hcond with hnone | ⟨volume, hmem, htouches, hcount⟩
    · have hempty : ∀ list : List Volume, (∀ volume ∈ list, volume ∈ others ∨ volume ∈ volumes) →
          (rebuildPass nodeName list [] staleVolumes).outcome = some staleVolumes := by
        intro list hlist
        have hexamined : examined nodeName list = [] := by
          apply examined_eq_nil
          intro volume hvolume htarget
          by_contra htouches
          have htouches : touchesNode nodeName volume := by simpa using htouches
          have hin : volume ∈ volumes :=
            (hlist volume hvolume).elim (hiff volume htouches).mp fun h ↦ h
          simp [hasTarget, hnone volume hin htouches] at htarget
        rw [rebuildPass_outcome_eq_some (by simp [AllSettled, hexamined]), hexamined,
          List.append_nil]
      rw [hempty others fun _ h ↦ .inl h, hempty volumes fun _ h ↦ .inr h]
    · rw [rebuildPass_outcome_eq_none (not_allSettled_examined hmem htouches hcount),
        rebuildPass_outcome_eq_none
          (not_allSettled_examined ((hiff volume htouches).mpr hmem) htouches hcount)]

/-- Behind a settled volume on `n1`, a volume that is rebuilding elsewhere is reported. -/
theorem rebuildPass_reports_elsewhere :
    ¬∀ (nodeName : String) (volumes others staleVolumes : List Volume),
      others.filter (touchesNode nodeName) = volumes.filter (touchesNode nodeName) →
        (rebuildPass nodeName others [] staleVolumes).outcome =
          (rebuildPass nodeName volumes [] staleVolumes).outcome := by
  intro hclaim
  have hfilter : [degradedVolume, rebuildingElsewhere "n1"].filter (touchesNode "n1") =
      [degradedVolume].filter (touchesNode "n1") := by decide
  have hsame := hclaim "n1" [degradedVolume] [degradedVolume, rebuildingElsewhere "n1"] [] hfilter
  exact absurd hsame (by decide)

/-! ## Rounds over a listing that does not change -/

/-- The unhealthy volumes of a listing that are not discarded. -/
def pending (volumes staleVolumes : List Volume) : List Volume :=
  (volumes.filter isUnhealthy).filter fun volume ↦ volume ∉ staleVolumes

/-- One round of the outer loop: go on with more discarded volumes, or return. -/
def rebuildRound (nodeName : String) (unhealthyVolumes staleVolumes : List Volume) :
    List Volume ⊕ RebuildResult :=
  if unhealthyVolumes.isEmpty then .inr ⟨false, staleVolumes⟩
  else match rebuildPass nodeName unhealthyVolumes [] staleVolumes with
    | .rebuilding staleVolumes => .inr ⟨true, staleVolumes⟩
    | .finished volumeOverNodes staleVolumes =>
      if volumeOverNodes.isEmpty then .inr ⟨false, staleVolumes⟩ else .inl staleVolumes

/-- A round with its listing. -/
def listingRound (nodeName : String) (staleVolumes : List Volume) :
    Job (List Volume ⊕ RebuildResult) := do
  let unhealthyVolumes ← listUnhealthyVolumes staleVolumes
  pure (rebuildRound nodeName unhealthyVolumes staleVolumes)

theorem rebuildResult_eq_loop (nodeName : String) (staleVolumes : List Volume) :
    rebuildResult nodeName staleVolumes = Program.loop (listingRound nodeName) staleVolumes := by
  unfold rebuildResult
  congr 1
  funext stale
  unfold listingRound
  congr 1
  funext unhealthyVolumes
  unfold rebuildRound
  split
  next => rfl
  next =>
    cases rebuildPass nodeName unhealthyVolumes [] stale with
    | rebuilding => rfl
    | finished volumeOverNodes => exact (apply_ite pure _ _ _).symm

/-- Nothing moves before the request. -/
def still (tick : Tick Move) : Prop :=
  tick.moves = []

/-- One round of the paging loop. -/
def pageRound (keep : Volume → Bool) (position : List Volume × ℕ) :
    Job ((List Volume × ℕ) ⊕ List Volume) := do
  let page ← getVolumes position.2
  let volumes := position.1 ++ page.1.filter keep
  match page.2 with
  | some startingToken => pure (.inl (volumes, startingToken))
  | none => pure (.inr volumes)

/-- The pages of a listing that does not change add up to it. -/
theorem pageVolumes_still (keep : Volume → Bool) (cluster : Cluster) :
    Triple still (fun state _ ↦ state = cluster) (pageVolumes keep)
      (fun volumes state _ ↦ state = cluster ∧ volumes = cluster.volumes.filter keep)
      (fun _ _ ↦ True) := by
  refine Triple.loop (fun position state _ ↦ state = cluster ∧
    position.1 = (cluster.volumes.take position.2).filter keep) ?_ ?_ (fun _ _ _ _ ↦ trivial)
  · intro state trace hstate
    exact ⟨hstate, by simp⟩
  · intro position
    refine Triple.bind (fun page state _ ↦ (page = cluster.volumesPage position.2 ∧
        position.1 = (cluster.volumes.take position.2).filter keep) ∧ state = cluster)
      (Triple.query (fun _ _ _ ↦ trivial) ?_ fun _ _ _ _ _ _ ↦ trivial) ?_
    · intro state trace moves hmoves hstate
      obtain rfl : moves = [] := hmoves
      obtain ⟨rfl, hvolumes⟩ := hstate
      exact ⟨⟨rfl, hvolumes⟩, rfl⟩
    · intro page
      refine Triple.assume ?_
      rintro ⟨rfl, hvolumes⟩
      have hread := volumesPage_append keep cluster position.2
      rw [← hvolumes] at hread
      cases hnext : (cluster.volumesPage position.2).2 with
      | some next =>
        refine Triple.pure fun state _ hstate ↦ ⟨hstate, ?_⟩
        rw [hread, (volumesPage_next hnext).1]
      | none =>
        refine Triple.pure fun state _ hstate ↦ ⟨hstate, ?_⟩
        rw [hread, volumesPage_last hnext]

theorem pageRound_last (keep : Volume → Bool) {cluster : Cluster} {position : List Volume × ℕ}
    (hposition : position.1 = (cluster.volumes.take position.2).filter keep)
    (hlast : (cluster.volumesPage position.2).2 = none) :
    Serves 1 (pageRound keep position) cluster (.ok (.inr (cluster.volumes.filter keep)))
      cluster := by
  have hread := volumesPage_append keep cluster position.2
  rw [← hposition, volumesPage_last hlast] at hread
  refine Serves.query_bind ?_
  simp only [hlast, hread]
  exact Serves.pure _

theorem pageRound_next (keep : Volume → Bool) {cluster : Cluster} {position : List Volume × ℕ}
    {next : ℕ} (hposition : position.1 = (cluster.volumes.take position.2).filter keep)
    (hnext : (cluster.volumesPage position.2).2 = some next) :
    Serves 1 (pageRound keep position) cluster
      (.ok (.inl ((cluster.volumes.take next).filter keep, next))) cluster := by
  have hread := volumesPage_append keep cluster position.2
  rw [← hposition, ← (volumesPage_next hnext).1] at hread
  refine Serves.query_bind ?_
  simp only [hnext, hread]
  exact Serves.pure _

/-- A listing that does not change is read in finitely many requests. -/
theorem pageVolumes_serves (keep : Volume → Bool) (cluster : Cluster) :
    ∃ cost, 1 ≤ cost ∧
      Serves cost (pageVolumes keep) cluster (.ok (cluster.volumes.filter keep)) cluster := by
  -- Induction on the volumes that are still to come, for the loop at any position.
  have hrounds : ∀ left (position : List Volume × ℕ), cluster.volumes.length - position.2 ≤ left →
      position.1 = (cluster.volumes.take position.2).filter keep →
      ∃ rounds, 1 ≤ rounds ∧ ∀ fuel, rounds ≤ fuel → Serves rounds
        (Program.iterate (pageRound keep) fuel position) cluster
          (.ok (cluster.volumes.filter keep)) cluster := by
    intro left
    induction left with
    | zero =>
      intro position hleft hposition
      cases hnext : (cluster.volumesPage position.2).2 with
      | some next => exact absurd (volumesPage_next hnext) (by omega)
      | none =>
        refine ⟨1, Nat.le_refl _, fun fuel hfuel ↦ Serves.iterate_done ?_ hfuel⟩
        exact pageRound_last keep hposition hnext
    | succ left ih =>
      intro position hleft hposition
      cases hnext : (cluster.volumesPage position.2).2 with
      | none =>
        refine ⟨1, Nat.le_refl _, fun fuel hfuel ↦ Serves.iterate_done ?_ hfuel⟩
        exact pageRound_last keep hposition hnext
      | some next =>
        have hmore := volumesPage_next hnext
        have hsmaller : cluster.volumes.length - next ≤ left := by omega
        obtain ⟨rounds, hpos, hserves⟩ := ih ((cluster.volumes.take next).filter keep, next)
          hsmaller rfl
        refine ⟨rounds + 1, by omega, fun fuel hfuel ↦ ?_⟩
        obtain ⟨rest, rfl⟩ : ∃ rest, fuel = rest + 1 := ⟨fuel - 1, by omega⟩
        exact Serves.iterate_next (pageRound_next keep hposition hnext)
          (hserves rest (by omega))
  obtain ⟨rounds, hpos, hserves⟩ := hrounds _ ([], 0) (Nat.le_refl _) (by simp)
  exact ⟨rounds, hpos, Serves.loop hserves (Nat.le_refl _)⟩

theorem listingRound_still (nodeName : String) (cluster : Cluster) (staleVolumes : List Volume) :
    Triple still (fun state _ ↦ state = cluster) (listingRound nodeName staleVolumes)
      (fun result state _ ↦ state = cluster ∧ result = rebuildRound nodeName
        (pending cluster.volumes staleVolumes) staleVolumes)
      (fun _ _ ↦ True) := by
  refine Triple.bind (fun volumes state _ ↦ state = cluster ∧
    volumes = pending cluster.volumes staleVolumes) ?_ ?_
  · refine Triple.bind _ (pageVolumes_still isUnhealthy cluster) fun volumes ↦ Triple.pure ?_
    rintro state trace ⟨hstate, rfl⟩
    exact ⟨hstate, rfl⟩
  · intro volumes
    refine Triple.pure ?_
    rintro state trace ⟨hstate, rfl⟩
    exact ⟨hstate, rfl⟩

theorem listingRound_serves (nodeName : String) (cluster : Cluster) :
    ∃ cost, 1 ≤ cost ∧ ∀ staleVolumes, Serves cost (listingRound nodeName staleVolumes) cluster
      (.ok (rebuildRound nodeName (pending cluster.volumes staleVolumes) staleVolumes))
      cluster := by
  obtain ⟨cost, hpos, hpages⟩ := pageVolumes_serves isUnhealthy cluster
  refine ⟨cost, hpos, fun staleVolumes ↦ ?_⟩
  have hlisting : Serves (0 + cost) (listUnhealthyVolumes staleVolumes) cluster
      (.ok (pending cluster.volumes staleVolumes)) cluster := by
    apply hpages.bind
    exact Serves.pure _
  rw [Nat.zero_add] at hlisting
  rw [← Nat.zero_add cost]
  apply hlisting.bind
  exact Serves.pure _

/-! ## When the check returns -/

/-- Every volume with a target that is still pending is looked at, or one that is being rebuilt
is. -/
def Settles (nodeName : String) (unhealthyVolumes : List Volume) : Prop :=
  (∃ volume ∈ examined nodeName unhealthyVolumes, 0 < replicaRebuildCount volume) ∨
    ∀ volume ∈ unhealthyVolumes, hasTarget volume → volume ∈ examined nodeName unhealthyVolumes

instance (nodeName : String) (unhealthyVolumes : List Volume) :
    Decidable (Settles nodeName unhealthyVolumes) :=
  inferInstanceAs (Decidable (_ ∨ _))

theorem rebuildRound_of_rebuilding {nodeName : String} {unhealthyVolumes staleVolumes : List Volume}
    {volume : Volume} (hmem : volume ∈ examined nodeName unhealthyVolumes)
    (hcount : 0 < replicaRebuildCount volume) :
    ∃ result, rebuildRound nodeName unhealthyVolumes staleVolumes = .inr result := by
  unfold rebuildRound
  split
  next => exact ⟨_, rfl⟩
  next =>
    have hbusy : ¬AllSettled (examinedAfter nodeName [] unhealthyVolumes) := by
      intro hall
      have hzero := hall volume hmem
      omega
    obtain ⟨stale, hpass⟩ := @rebuildPass_rebuilding _ _ _ staleVolumes hbusy
    rw [hpass]
    exact ⟨_, rfl⟩

/-- Without a rebuild, the loop goes on exactly when there is a volume with a target. -/
theorem rebuildRound_of_settled {nodeName : String} {unhealthyVolumes : List Volume}
    (staleVolumes : List Volume) (h : AllSettled (examined nodeName unhealthyVolumes)) :
    (∃ result, rebuildRound nodeName unhealthyVolumes staleVolumes = .inr result ∧
        unhealthyVolumes.filter hasTarget = []) ∨
      rebuildRound nodeName unhealthyVolumes staleVolumes =
          .inl (staleVolumes ++ examined nodeName unhealthyVolumes) ∧
        unhealthyVolumes.filter hasTarget ≠ [] := by
  have hquiet : AllSettled (examinedAfter nodeName [] unhealthyVolumes) := h
  obtain ⟨nodes, hpass, hnodes⟩ := @rebuildPass_finished _ _ _ staleVolumes hquiet
  unfold rebuildRound
  rw [hpass]
  by_cases htargets : unhealthyVolumes.filter hasTarget = []
  · left
    have hempty : nodes.isEmpty := List.isEmpty_iff.mpr (hnodes.mpr ⟨rfl, htargets⟩)
    split
    · exact ⟨_, rfl, htargets⟩
    · simp only [hempty, if_true]
      exact ⟨_, rfl, htargets⟩
  · right
    have hsome : unhealthyVolumes.isEmpty = false := by
      cases unhealthyVolumes with
      | nil => exact absurd rfl htargets
      | cons volume rest => rfl
    have hfound : nodes.isEmpty = false := by
      cases nodes with
      | nil => exact absurd (hnodes.mp rfl).2 htargets
      | cons node rest => rfl
    simp only [hsome, hfound, Bool.false_eq_true, if_false]
    exact ⟨rfl, htargets⟩

theorem pending_append (volumes staleVolumes more : List Volume) :
    pending volumes (staleVolumes ++ more) =
      (pending volumes staleVolumes).filter fun volume ↦ volume ∉ more := by
  simp [pending, List.filter_filter, not_or, Bool.and_assoc, Bool.and_left_comm]

/-- What is left once the volumes that were looked at are discarded has no volume on the node. -/
theorem examined_remaining (nodeName : String) (unhealthyVolumes : List Volume) :
    examined nodeName
      (unhealthyVolumes.filter fun volume ↦ volume ∉ examined nodeName unhealthyVolumes) = [] := by
  apply examined_eq_nil
  intro volume hvolume htarget
  obtain ⟨hmem, hleft⟩ := List.mem_filter.mp hvolume
  by_contra htouches
  have hseen := mem_examined hmem htarget (by simpa using htouches)
  simp [hseen] at hleft

/-- A check that does not settle now does not settle after the next round either. -/
theorem not_settles_next {nodeName : String} {volumes staleVolumes : List Volume}
    (h : ¬Settles nodeName (pending volumes staleVolumes)) :
    ∃ next, rebuildRound nodeName (pending volumes staleVolumes) staleVolumes = .inl next ∧
      ¬Settles nodeName (pending volumes next) := by
  simp only [Settles, not_or, not_exists, not_and, not_forall, Nat.not_lt, Nat.le_zero] at h
  obtain ⟨hsettled, volume, hmem, htarget, hmissed⟩ := h
  have htargets : (pending volumes staleVolumes).filter hasTarget ≠ [] :=
    List.ne_nil_of_mem (List.mem_filter.mpr ⟨hmem, htarget⟩)
  rcases rebuildRound_of_settled staleVolumes hsettled with ⟨_, -, hnone⟩ | ⟨hround, -⟩
  · exact absurd hnone htargets
  · refine ⟨_, hround, ?_⟩
    rw [pending_append]
    have hleft : volume ∈ (pending volumes staleVolumes).filter fun volume ↦
        volume ∉ examined nodeName (pending volumes staleVolumes) :=
      List.mem_filter.mpr ⟨hmem, by simpa using hmissed⟩
    rintro (⟨other, hother, -⟩ | hall)
    · rw [examined_remaining] at hother
      exact absurd hother List.not_mem_nil
    · have hseen := hall volume hleft htarget
      rw [examined_remaining] at hseen
      exact absurd hseen List.not_mem_nil

/-- A check that does not settle never returns on a listing that does not change. -/
theorem rebuildResult_never_returns {nodeName : String} {cluster : Cluster}
    {staleVolumes : List Volume} (h : ¬Settles nodeName (pending cluster.volumes staleVolumes)) :
    Triple still (fun state _ ↦ state = cluster) (rebuildResult nodeName staleVolumes)
      (fun _ _ _ ↦ False) (fun _ _ ↦ True) := by
  rw [rebuildResult_eq_loop]
  refine Triple.loop (fun stale state _ ↦
      ¬Settles nodeName (pending cluster.volumes stale) ∧ state = cluster)
    (fun _ _ hstate ↦ ⟨h, hstate⟩) ?_ (fun _ _ _ _ ↦ trivial)
  intro stale
  refine Triple.assume fun hstuck ↦ ?_
  obtain ⟨next, hround, hnext⟩ := not_settles_next hstuck
  refine (listingRound_still nodeName cluster stale).weaken (fun _ _ hstate ↦ hstate) ?_
    fun _ _ h ↦ h
  rintro result state trace ⟨hstate, rfl⟩
  rw [hround]
  exact ⟨hnext, hstate⟩

/-- One that settles returns in the first or in the second round. -/
theorem rebuildRound_of_settles {nodeName : String} {volumes staleVolumes : List Volume}
    (h : Settles nodeName (pending volumes staleVolumes)) :
    (∃ result, rebuildRound nodeName (pending volumes staleVolumes) staleVolumes = .inr result) ∨
      ∃ next, rebuildRound nodeName (pending volumes staleVolumes) staleVolumes = .inl next ∧
        (∃ result, rebuildRound nodeName (pending volumes next) next = .inr result) ∧
        staleVolumes ⊆ next ∧
        ∃ volume ∈ volumes, isUnhealthy volume ∧ volume ∉ staleVolumes ∧ volume ∈ next := by
  by_cases hrebuilding : ∃ volume ∈ examined nodeName (pending volumes staleVolumes),
      0 < replicaRebuildCount volume
  · obtain ⟨volume, hmem, hcount⟩ := hrebuilding
    exact .inl (rebuildRound_of_rebuilding hmem hcount)
  · have hall := h.resolve_left hrebuilding
    simp only [not_exists, not_and, Nat.not_lt, Nat.le_zero] at hrebuilding
    rcases rebuildRound_of_settled staleVolumes hrebuilding with
      ⟨result, hdone, -⟩ | ⟨hround, htargets⟩
    · exact .inl ⟨result, hdone⟩
    · refine .inr ⟨_, hround, ?_, List.subset_append_left _ _, ?_⟩
      · rw [pending_append]
        have hsettled : AllSettled (examined nodeName ((pending volumes staleVolumes).filter
            fun volume ↦ volume ∉ examined nodeName (pending volumes staleVolumes))) := by
          rw [examined_remaining]
          exact fun volume hvolume ↦ absurd hvolume List.not_mem_nil
        rcases rebuildRound_of_settled _ hsettled with ⟨result, hdone, -⟩ | ⟨-, hleft⟩
        · exact ⟨result, hdone⟩
        · obtain ⟨volume, hvolume⟩ := List.exists_mem_of_ne_nil _ hleft
          obtain ⟨hmem, htarget⟩ := List.mem_filter.mp hvolume
          obtain ⟨hpending, hmissed⟩ := List.mem_filter.mp hmem
          simp [hall volume hpending htarget] at hmissed
      · obtain ⟨volume, hvolume⟩ := List.exists_mem_of_ne_nil _ htargets
        obtain ⟨hpending, htarget⟩ := List.mem_filter.mp hvolume
        obtain ⟨hunhealthy, hfresh⟩ := List.mem_filter.mp hpending
        obtain ⟨hmem, hstatus⟩ := List.mem_filter.mp hunhealthy
        exact ⟨volume, hmem, hstatus, by simpa using hfresh,
          List.mem_append_right _ (hall volume hpending htarget)⟩

/-- The lists of discarded volumes that the rounds over a listing go through. -/
inductive Reached (nodeName : String) (volumes staleVolumes : List Volume) : List Volume → Prop
  | start : Reached nodeName volumes staleVolumes staleVolumes
  | round {current next : List Volume} (hcurrent : Reached nodeName volumes staleVolumes current)
      (hround : rebuildRound nodeName (pending volumes current) current = .inl next) :
      Reached nodeName volumes staleVolumes next

/-- A round that goes on has discarded an unhealthy volume that was not discarded before. -/
def Grows (volumes current next : List Volume) : Prop :=
  current ⊆ next ∧ ∃ volume ∈ volumes, isUnhealthy volume ∧ volume ∉ current ∧ volume ∈ next

theorem grows_of_settles {nodeName : String} {volumes staleVolumes : List Volume}
    (h : Settles nodeName (pending volumes staleVolumes)) {current next : List Volume}
    (hcurrent : Reached nodeName volumes staleVolumes current)
    (hround : rebuildRound nodeName (pending volumes current) current = .inl next) :
    Grows volumes current next := by
  have hcases := rebuildRound_of_settles h
  -- Only the first round can go on.
  have hfirst : current = staleVolumes := by
    induction hcurrent generalizing next with
    | start => rfl
    | round hcurrent hround' ih =>
      obtain rfl := ih hround'
      rcases hcases with ⟨result, hdone⟩ | ⟨second, hsecond, ⟨result, hdone⟩, -⟩
      · rw [hdone] at hround'
        cases hround'
      · rw [hsecond] at hround'
        cases hround'
        rw [hdone] at hround
        cases hround
  subst hfirst
  rcases hcases with ⟨result, hdone⟩ | ⟨second, hsecond, -, hsubset, hnew⟩
  · rw [hdone] at hround
    cases hround
  · rw [hsecond] at hround
    cases hround
    exact ⟨hsubset, hnew⟩

theorem rebuildResult_returns {nodeName : String} {cluster : Cluster} {staleVolumes : List Volume}
    (h : Settles nodeName (pending cluster.volumes staleVolumes)) :
    ∃ cost result, Serves cost (rebuildResult nodeName staleVolumes) cluster (.ok result)
      cluster := by
  rw [rebuildResult_eq_loop]
  obtain ⟨cost, hpos, hserves⟩ := listingRound_serves nodeName cluster
  have hfirst := hserves staleVolumes
  rcases rebuildRound_of_settles h with ⟨result, hdone⟩ | ⟨next, hnext, ⟨result, hdone⟩, -⟩
  · rw [hdone] at hfirst
    exact ⟨cost, result, Serves.loop (fun fuel hfuel ↦ Serves.iterate_done hfirst hfuel) hpos⟩
  · have hsecond := hserves next
    rw [hnext] at hfirst
    rw [hdone] at hsecond
    have hrounds : ∀ fuel, 2 ≤ fuel → Serves (cost + cost)
        (Program.iterate (listingRound nodeName) fuel staleVolumes) cluster (.ok result)
        cluster := by
      intro fuel hfuel
      obtain ⟨rest, rfl⟩ : ∃ rest, fuel = rest + 1 := ⟨fuel - 1, by omega⟩
      exact Serves.iterate_next hfirst (Serves.iterate_done hsecond (by omega))
    exact ⟨cost + cost, result, Serves.loop hrounds (by omega)⟩

/-- On a listing that does not change, the check returns, and each of its rounds returns or discards
one more of the unhealthy volumes, if and only if it settles: one of the volumes it looks at in the
first round is being rebuilt, or it looks at all that have a target. -/
theorem rebuildResult_returns_iff (nodeName : String) (cluster : Cluster)
    (staleVolumes : List Volume) :
    ((∃ count result m, rebuildResult nodeName staleVolumes ⟨cluster, undisturbed count, []⟩ =
          (.ok result, m)) ∧
        ∀ current next, Reached nodeName cluster.volumes staleVolumes current →
          rebuildRound nodeName (pending cluster.volumes current) current = .inl next →
            Grows cluster.volumes current next) ↔
      Settles nodeName (pending cluster.volumes staleVolumes) := by
  constructor
  · rintro ⟨⟨count, result, m, hreturns⟩, -⟩
    by_contra hstuck
    exact (rebuildResult_never_returns hstuck).apply_ok hreturns
      (fun _ ↦ moves_of_mem_undisturbed) rfl
  · intro hsettles
    obtain ⟨cost, result, hserves⟩ := rebuildResult_returns hsettles
    obtain ⟨left, trace, -, hrun⟩ := hserves cost [] (Nat.le_refl _)
    exact ⟨⟨cost, result, _, hrun⟩, fun current next ↦ grows_of_settles hsettles⟩

/-- A cluster whose only volume is degraded and has nothing to do with `n1`. -/
def busyElsewhere : Cluster :=
  { (default : Cluster) with volumes := [rebuildingElsewhere "n1"] }

/-- That volume keeps the check of `n1` busy for ever. -/
theorem rebuildResult_hangs :
    ¬∀ (nodeName : String) (cluster : Cluster) (staleVolumes : List Volume),
      ∃ count result m, rebuildResult nodeName staleVolumes ⟨cluster, undisturbed count, []⟩ =
        (.ok result, m) := by
  intro hclaim
  obtain ⟨count, result, m, hreturns⟩ := hclaim "n1" busyElsewhere []
  have hstuck : ¬Settles "n1" (pending busyElsewhere.volumes []) := by decide
  exact (rebuildResult_never_returns hstuck).apply_ok hreturns
    (fun _ ↦ moves_of_mem_undisturbed) rfl

end MayastorExtensions.UpgradeJob
