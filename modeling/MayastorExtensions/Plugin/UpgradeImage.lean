import MayastorExtensions.Plugin.UpgradeResources

/-!
# The registry of the upgrade-job image

The chart writes the container image of the api-rest Deployment from its registry, repository and
tag values (`templates/mayastor/apis/api-rest-deployment.yaml`).  The plugin takes this image apart
at the slashes to find the registry that the upgrade-job image is pulled from
(`plugin/upgrade.rs`), and only expects three sections.
-/

namespace MayastorExtensions.Plugin

open Scheduled

/-! ## The chart template -/

/-- The values of the chart that the image is composed of. -/
structure ImageValues where
  registry : String
  repo : String
  tag : String
  controlPlaneTag : String
  deriving DecidableEq, Repr

/-- `imagePrefix` of `product.yaml`. -/
def imagePrefix : String := "mayastor"

/-- `default .Values.image.tag .Values.image.repoTags.controlPlane`. -/
def ImageValues.controlPlane (image : ImageValues) : String :=
  if image.controlPlaneTag = "" then image.tag else image.controlPlaneTag

/-- The image of the api-rest container. -/
def ImageValues.apiRest (image : ImageValues) : String :=
  image.registry ++ "/" ++ image.repo ++ "/" ++ imagePrefix ++ "-api-rest:" ++ image.controlPlane

/-- An api-rest Deployment as the template renders it; whatever else it holds is arbitrary. -/
def Deployment.RendersFrom (deployment : Deployment) (image : ImageValues) : Prop :=
  ∃ podSpec container rest, deployment.spec = some (some podSpec) ∧
    podSpec.containers = container :: rest ∧ container.image = some image.apiRest

/-! ## The sections of an image -/

/-- The text after the repository. -/
def ImageValues.name (image : ImageValues) : List Char :=
  (imagePrefix ++ "-api-rest:" ++ image.controlPlane).toList

theorem toList_apiRest (image : ImageValues) :
    image.apiRest.toList =
      image.registry.toList ++ '/' :: (image.repo.toList ++ '/' :: image.name) := by
  simp [ImageValues.apiRest, ImageValues.name]

theorem slash_mem_name (image : ImageValues) :
    '/' ∈ image.name ↔ '/' ∈ image.controlPlane.toList := by
  have hfixed : '/' ∉ (imagePrefix ++ "-api-rest:").toList := by decide +kernel
  rw [ImageValues.name, String.toList_append, List.mem_append]
  exact or_iff_right hfixed

/-- The registry is a section of its own; the repository and the name may add further ones. -/
theorem split_apiRest {image : ImageValues} (hregistry : '/' ∉ image.registry.toList) :
    ∃ sections, split '/' image.apiRest = image.registry :: sections ∧
      sections.length = image.repo.toList.count '/' + image.name.count '/' + 2 := by
  have hlength := length_split '/' image.apiRest
  have hhead : split '/' image.apiRest = image.registry ::
      ((image.repo.toList ++ '/' :: image.name).splitOn '/').map String.ofList := by
    rw [split, toList_apiRest, List.splitOn_append_cons_self_of_not_mem hregistry, List.map_cons,
      String.ofList_toList]
  refine ⟨_, hhead, ?_⟩
  rw [hhead, toList_apiRest] at hlength
  simp only [List.length_cons, List.count_append, List.count_cons_self,
    List.count_eq_zero.mpr hregistry] at hlength
  omega

/-! ## The registry that is found -/

/-- Every image of the chart is accepted; three sections give its registry and any other number the
public one. -/
theorem tryFrom_of_rendersFrom {deployment : Deployment} {image : ImageValues}
    (hregistry : '/' ∉ image.registry.toList) (hrenders : deployment.RendersFrom image) :
    ∃ img, ImageProperties.tryFrom deployment = .ok img ∧
      img.registry = if '/' ∉ image.repo.toList ∧ '/' ∉ image.controlPlane.toList
        then image.registry else DEFAULT_IMAGE_REGISTRY := by
  obtain ⟨podSpec, container, rest, hspec, hcontainers, himage⟩ := hrenders
  obtain ⟨sections, hsplit, hlength⟩ := split_apiRest hregistry
  have hthree : ('/' ∉ image.repo.toList ∧ '/' ∉ image.controlPlane.toList) ↔
      sections.length = 2 := by
    rw [← slash_mem_name, ← List.count_eq_zero, ← List.count_eq_zero]
    omega
  simp only [ImageProperties.tryFrom, hspec, hcontainers, himage, hsplit, hthree]
  match sections, hlength with
  | [_, _], _ => exact ⟨_, rfl, rfl⟩
  | _ :: _ :: _ :: _, _ => exact ⟨_, rfl, by simp⟩

section Command

variable (versionTag : Option String)

/-- Undisturbed, the Job is created with the registry of the Deployment in its image, unless the
command line overrides it. -/
theorem jobActions_create_serves {kube : Kube} {deployment : Deployment} {img : ImageProperties}
    {args : UpgradeArgs} {setFileMap : Option (List (String × String))} {setFile : Option String}
    (ns releaseName : String)
    (habsent : kube.jobs (upgradeNameConcat versionTag releaseName UPGRADE_JOB_NAME_SUFFIX) = none)
    (hdeployment : kube.deployments.head? = some deployment)
    (himg : ImageProperties.tryFrom deployment = .ok img)
    (hsetFile : createHelmSetFileArgs args setFileMap = .ok setFile) :
    Serves 4 (jobActions versionTag ns releaseName .create args setFileMap) kube (.ok ())
      (kube.setJob (upgradeNameConcat versionTag releaseName UPGRADE_JOB_NAME_SUFFIX)
        (some (upgradeJob ns
          (upgradeImageConcat (args.registry.getD img.registry) UPGRADE_JOB_IMAGE_REPO
            upgradeJobImg (getImageVersionTag versionTag))
          releaseName args (setFile.getD "") img.pullSecrets img.pullPolicy))) := by
  refine Serves.query_bind ?_
  rw [habsent]
  refine (getDeploymentForRest_serves ns hdeployment).bind ?_
  rw [himg]
  refine (Serves.pure img).bind ?_
  rw [hsetFile]
  exact (Serves.pure setFile).bind (Serves.request _ _ _ _)

/-- The registry of the installation is found in every Deployment that the chart renders, and a Job
that is created without an override pulls its image from there. -/
def RegistryKept (image : ImageValues) : Prop :=
  ∀ deployment : Deployment, deployment.RendersFrom image →
    ∃ img, ImageProperties.tryFrom deployment = .ok img ∧ img.registry = image.registry ∧
      ∀ (ns releaseName : String) (args : UpgradeArgs)
        (setFileMap : Option (List (String × String))) (setFile : Option String) (kube : Kube),
        args.registry = none → createHelmSetFileArgs args setFileMap = .ok setFile →
        kube.deployments.head? = some deployment →
        kube.jobs (upgradeNameConcat versionTag releaseName UPGRADE_JOB_NAME_SUFFIX) = none →
        ∃ job, job.image = upgradeImageConcat image.registry UPGRADE_JOB_IMAGE_REPO upgradeJobImg
            (getImageVersionTag versionTag) ∧
          Serves 4 (jobActions versionTag ns releaseName .create args setFileMap) kube (.ok ())
            (kube.setJob (upgradeNameConcat versionTag releaseName UPGRADE_JOB_NAME_SUFFIX)
              (some job))

theorem registryKept_of_registry {image : ImageValues}
    (h : ∀ deployment : Deployment, deployment.RendersFrom image →
      ∃ img, ImageProperties.tryFrom deployment = .ok img ∧ img.registry = image.registry) :
    RegistryKept versionTag image := by
  intro deployment hrenders
  obtain ⟨img, himg, hfound⟩ := h deployment hrenders
  refine ⟨img, himg, hfound, ?_⟩
  intro ns releaseName args setFileMap setFile kube hoverride hsetFile hdeployment habsent
  refine ⟨_, ?_, jobActions_create_serves versionTag ns releaseName habsent hdeployment himg
    hsetFile⟩
  rw [hoverride, ← hfound]
  rfl

/-- The Deployment with nothing but the image. -/
def ImageValues.deployment (image : ImageValues) : Deployment :=
  ⟨none, some (some ⟨[⟨some image.apiRest, none⟩], none⟩)⟩

theorem deployment_rendersFrom (image : ImageValues) : image.deployment.RendersFrom image :=
  ⟨_, _, _, rfl, rfl, rfl⟩

/-- The registry of the installation is kept exactly if it is the public one, or the repository and
the tag bring no slash of their own. -/
theorem registryKept_iff (image : ImageValues) (hregistry : '/' ∉ image.registry.toList) :
    RegistryKept versionTag image ↔
      image.registry = DEFAULT_IMAGE_REGISTRY ∨
        ('/' ∉ image.repo.toList ∧ '/' ∉ image.controlPlane.toList) := by
  constructor
  · intro hkept
    obtain ⟨img, himg, hfound, -⟩ := hkept _ (deployment_rendersFrom image)
    obtain ⟨img', himg', hfound'⟩ :=
      tryFrom_of_rendersFrom hregistry (deployment_rendersFrom image)
    obtain rfl : img = img' := Except.ok.inj (himg.symm.trans himg')
    rw [hfound] at hfound'
    split_ifs at hfound' with hsections
    · exact .inr hsections
    · exact .inl hfound'
  · intro hsections
    apply registryKept_of_registry
    intro deployment hrenders
    obtain ⟨img, himg, hfound⟩ := tryFrom_of_rendersFrom hregistry hrenders
    refine ⟨img, himg, hfound.trans ?_⟩
    rcases hsections with hdefault | hflat
    · rw [hdefault, ite_self]
    · rw [if_pos hflat]

end Command

theorem registryKept_privateRegistry :
    RegistryKept none ⟨"registry.local:5000", "openebs", "v2.6.0", ""⟩ :=
  (registryKept_iff none ⟨"registry.local:5000", "openebs", "v2.6.0", ""⟩ (by decide +kernel)).mpr
    (.inr (by decide +kernel))

/-- A mirror with a repository of two components: the upgrade looks for its image on the public
registry. -/
theorem not_registryKept_mirror :
    ¬ RegistryKept none ⟨"registry.local:5000", "mirror/openebs", "v2.6.0", ""⟩ := by
  intro hkept
  obtain ⟨img, himg, hfound, -⟩ := hkept _ (deployment_rendersFrom _)
  have hdefault : ImageProperties.tryFrom
      (ImageValues.deployment ⟨"registry.local:5000", "mirror/openebs", "v2.6.0", ""⟩) =
        .ok ⟨none, DEFAULT_IMAGE_REGISTRY, none⟩ := rfl
  obtain rfl := Except.ok.inj (himg.symm.trans hdefault)
  exact absurd hfound (by decide)

end MayastorExtensions.Plugin
