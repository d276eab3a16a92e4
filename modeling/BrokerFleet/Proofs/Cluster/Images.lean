import BrokerFleet.Cluster.Projection
import BrokerFleet.Proofs.Cluster.Verdict
import BrokerFleet.Proofs.Workload.Template

/-! # Images of a cluster

Validation decides whether a declaration leaves open which images are meant, and the status picks
images for every declaration, each by a rule of its own. On a cluster that is valid the two agree:
its images are the two pinned ones, or the default images of one supported version. -/

namespace BrokerFleet.Validity

/-! ## Checks of valid clusters -/

variable {σ : Type} {h : Handler surroundings σ} {config : Config} {c : Cluster} {v : Validation}
  {s : σ}

/-- A finding that does not call the cluster valid. -/
def Rejects (f : Finding) : Prop := f.status ≠ .yes

theorem finds_configMapMount (ns name : String) : Finds Rejects h (configMapMount ns name) := by
  refine .bind (.liftM _) fun found => ?_
  repeat' split
  all_goals first | exact .pure _ | exact .throw nofun

theorem finds_secretMount (ns name : String) : Finds Rejects h (secretMount config ns name) := by
  refine .bind (.liftM _) fun found => ?_
  repeat' split
  all_goals first | exact .pure _ | exact .throw nofun

theorem finds_extraMounts (ns : String) (mounts : ExtraMounts) :
    Finds Rejects h (extraMounts config ns mounts) := by
  refine .bind (.mapM (finds_configMapMount ns) _) fun maps =>
    .bind (.mapM (finds_secretMount ns) _) fun secrets => ?_
  dsimp only
  repeat' split
  all_goals first | exact .pure _ | exact .throw nofun

theorem finds_console (c : Cluster) : Finds Rejects h (console c) := by
  unfold console
  split
  · refine .bind (.liftM _) fun found => ?_
    repeat' split
    all_goals first | exact .pure _ | exact .throw nofun
  · exact .pure ()

/-- A check that reads no object is judged alike in all stores. -/
theorem finds_of_judged {w : Contents} {g : Group}
    (hg : Ends h (fun _ => True) (g.check config c) (g.Judged config w c)) :
    Finds Rejects h (g.check config c) := by
  refine hg.finds fun f hjudged => ?_
  cases hjudged with
  | failed _ _ hstatus _ _ => exact hstatus

theorem finds_check (g : Group) : Finds Rejects h (g.check config c) := by
  cases g with
  | fields => exact finds_of_judged (w := emptyContents) Group.ends_fields
  | mounts => exact finds_extraMounts _ _
  | budget => exact finds_of_judged (w := emptyContents) Group.ends_budget
  | console => exact finds_console c
  | images => exact finds_of_judged (w := emptyContents) Group.ends_images

/-- Whatever is read on the way, the checks of a valid cluster have all passed. -/
theorem passes_checks_of_valid (hvalidated : Task.outcome h (validate config c) s = .ok v)
    (hvalid : v.isValid = true) : Passes h (checks config c) () s := by
  obtain ⟨r, hr, hrest⟩ := Task.outcome_bind_eq_ok _ hvalidated
  obtain ⟨now, -, hv⟩ := Task.outcome_bind_eq_ok _ hrest
  cases hv
  cases r with
  | ok u => exact hr
  | error f =>
    have hrejects : f.status ≠ .yes := by
      rw [Group.checks_eq] at hr
      exact (Finds.bind (.mapM finds_check _) fun _ => .pure ()) s f hr
    simp [outcome, Validation.isValid, Condition.isTrue, Condition.stated, hrejects] at hvalid

theorem passes_check_of_valid (hvalidated : Task.outcome h (validate config c) s = .ok v)
    (hvalid : v.isValid = true) (g : Group) : ∃ u s', Passes h (g.check config c) u s' := by
  have hpasses := passes_checks_of_valid hvalidated hvalid
  rw [Group.checks_eq] at hpasses
  obtain ⟨_, hall, -⟩ := hpasses.bind_inv
  exact hall.mapM_inv g (by cases g <;> decide)

theorem wellFormed_of_valid (hvalidated : Task.outcome h (validate config c) s = .ok v)
    (hvalid : v.isValid = true) : c.spec.WellFormed := by
  obtain ⟨_, _, hfields⟩ := passes_check_of_valid hvalidated hvalid .fields
  exact fields_eq_none_iff.mp hfields.report_inv

theorem imagesSettled_of_valid (hvalidated : Task.outcome h (validate config c) s = .ok v)
    (hvalid : v.isValid = true) : ImagesSettled c.spec := by
  obtain ⟨_, _, himages⟩ := passes_check_of_valid hvalidated hvalid .images
  have hjudged := version_judged c.spec
  rw [himages.report_inv] at hjudged
  cases hjudged with
  | settled hsettled => exact hsettled

end BrokerFleet.Validity

namespace BrokerFleet.Version

variable {spec : ClusterSpec} {declared version : String}

/-! ## Supported versions -/

theorem getLast?_supported : supported.getLast? = some latest := by decide

theorem latest_mem_supported : latest ∈ supported := List.mem_of_getLast? getLast?_supported

theorem ne_empty_of_mem_supported (h : version ∈ supported) : version ≠ "" := by
  rintro rfl
  exact absurd h (by decide)

theorem mem_supported_of_resolve? (h : resolve? declared = some version) : version ∈ supported := by
  unfold resolve? at h
  dsimp only at h
  split at h
  · cases h
  · split at h
    · next hexact =>
      cases h
      exact List.mem_of_find?_eq_some hexact
    · exact List.mem_reverse.mp (List.mem_of_find?_eq_some h)

@[simp] theorem resolve?_empty : resolve? "" = none := by decide

/-- The version that a declaration stands for: the one that it names, or the last supported one if
it names none. -/
inductive Chosen (spec : ClusterSpec) : String → Prop where
  | declared {declared version : String} (hversion : Validity.DeclaresVersion spec declared)
      (hresolved : resolve? declared = some version) : Chosen spec version
  | latest {version : String} (hnone : ∀ declared, ¬ Validity.DeclaresVersion spec declared)
      (hlast : supported.getLast? = some version) : Chosen spec version

/-- Where no version is named, there is none to be resolved. -/
theorem bind_resolve?_eq_none (hnone : ∀ declared, ¬ Validity.DeclaresVersion spec declared) :
    spec.version.bind resolve? = none := by
  cases hversion : spec.version with
  | none => rfl
  | some declared =>
    obtain rfl : declared = "" := by
      by_contra hne
      exact hnone declared ⟨hversion, hne⟩
    exact resolve?_empty

/-! ## Pinned images -/

/-- A declaration pins an image: it gives one that is neither empty nor the placeholder. -/
def Pins (declared : Option String) (image : String) : Prop :=
  declared = some image ∧ image ≠ "" ∧ image ≠ "placeholder"

/-- The repository of the default broker images. -/
def brokerRepository : String := "quay.io/broker-operator/broker-kubernetes"

/-- The repository of the default init images. -/
def initRepository : String := "quay.io/broker-operator/broker-kubernetes-init"

/-- An image of a declaration is the pinned one as it stands, or else that of a supported version,
its tag, in a repository. -/
structure Rendered (declared : Option String) (repository version image : String) : Prop where
  pinned : ∀ pinned, Pins declared pinned → image = pinned
  default : (∀ pinned, ¬ Pins declared pinned) →
    version ≠ "" ∧ version ∈ supported ∧ image = repository ++ ":" ++ version

theorem image_eq (version : String) : image version = brokerRepository ++ ":" ++ version := rfl

theorem initImage_eq (version : String) : initImage version = initRepository ++ ":" ++ version :=
  rfl

variable {pinned : Option String}

theorem isPinned_iff : isPinned pinned = true ↔ ∃ i, Pins pinned i := by
  cases pinned with
  | none => simp [isPinned, Pins]
  | some i => simp [isPinned, Pins, placeholder]

theorem isPinned_eq_false_iff : isPinned pinned = false ↔ ∀ i, ¬ Pins pinned i := by
  rw [← Bool.not_eq_true, isPinned_iff, not_exists]

/-- The image that is used is the pinned one, or a default if there is none. -/
theorem getD_filter_isPinned (pinned : Option String) (default : String) :
    (pinned.filter fun i => isPinned (some i)).getD default =
      if isPinned pinned = true then pinned.getD default else default := by
  cases pinned with
  | none => rfl
  | some i => cases hpinned : isPinned (some i) <;> simp [Option.filter, hpinned]

theorem rendered_getD {default : String → String} {repository : String}
    (hdefault : default version = repository ++ ":" ++ version)
    (hversion : isPinned pinned = false → version ∈ supported) :
    Rendered pinned repository version
      ((pinned.filter fun i => isPinned (some i)).getD (default version)) where
  pinned i hi := by
    rw [getD_filter_isPinned, if_pos (isPinned_iff.mpr ⟨i, hi⟩), hi.1, Option.getD_some]
  default hnone := by
    have hpinned := isPinned_eq_false_iff.mpr hnone
    refine ⟨ne_empty_of_mem_supported (hversion hpinned), hversion hpinned, ?_⟩
    rw [getD_filter_isPinned, if_neg (by simp [hpinned]), hdefault]

/-! ## The version of a declaration -/

theorem brokerVersion_of_declared (h : spec.version.bind resolve? = some version) :
    (status spec).brokerVersion = version := by
  simp [status, h]

theorem brokerVersion_of_pinned (h : spec.version.bind resolve? = none)
    (himage : Validity.imagePinned spec = true) (hinit : Validity.initImagePinned spec = true) :
    (status spec).brokerVersion = "" := by
  unfold Validity.imagePinned at himage
  unfold Validity.initImagePinned at hinit
  simp [status, h, himage, hinit]

theorem brokerVersion_of_unpinned (h : spec.version.bind resolve? = none)
    (hpair : ¬ (Validity.imagePinned spec = true ∧ Validity.initImagePinned spec = true)) :
    (status spec).brokerVersion = latest := by
  unfold Validity.imagePinned Validity.initImagePinned at hpair
  simp only [status, h, Bool.and_eq_true, if_neg hpair]

/-- Only two pinned images do without a version. -/
theorem brokerVersion_mem_supported
    (hpair : ¬ (Validity.imagePinned spec = true ∧ Validity.initImagePinned spec = true)) :
    (status spec).brokerVersion ∈ supported := by
  cases hresolved : spec.version.bind resolve? with
  | none =>
    rw [brokerVersion_of_unpinned hresolved hpair]
    exact latest_mem_supported
  | some version =>
    obtain ⟨declared, -, hversion⟩ := Option.bind_eq_some_iff.mp hresolved
    rw [brokerVersion_of_declared hresolved]
    exact mem_supported_of_resolve? hversion

theorem rendered_image (spec : ClusterSpec) :
    Rendered spec.deploymentPlan.image brokerRepository (status spec).brokerVersion
      (status spec).image := by
  refine rendered_getD (image_eq _) fun hunpinned =>
    brokerVersion_mem_supported fun ⟨hpinned, _⟩ => ?_
  exact absurd hpinned (by simp [Validity.imagePinned, hunpinned])

theorem rendered_initImage (spec : ClusterSpec) :
    Rendered spec.deploymentPlan.initImage initRepository (status spec).brokerVersion
      (status spec).initImage := by
  refine rendered_getD (initImage_eq _) fun hunpinned =>
    brokerVersion_mem_supported fun ⟨_, hpinned⟩ => ?_
  exact absurd hpinned (by simp [Validity.initImagePinned, hunpinned])

/-- A version and images that a declaration leads to without ambiguity: its two pinned images and no
version, or the version that it stands for, which is the tag of both default images. -/
inductive Settled (spec : ClusterSpec) : VersionStatus → Prop where
  | pinned {image initImage : String} (himage : Pins spec.deploymentPlan.image image)
      (hinit : Pins spec.deploymentPlan.initImage initImage) : Settled spec ⟨image, initImage, ""⟩
  | default {version : String} (hchosen : Chosen spec version) (hsupported : version ∈ supported)
      (hne : version ≠ "") :
      Settled spec ⟨brokerRepository ++ ":" ++ version, initRepository ++ ":" ++ version, version⟩

/-- Without a pinned image, the version decides on both images. -/
theorem settled_of_unpinned (himage : Validity.imagePinned spec = false)
    (hinit : Validity.initImagePinned spec = false)
    (hchosen : Chosen spec (status spec).brokerVersion) :
    Settled spec (status spec) := by
  obtain ⟨hne, hsupported, himage'⟩ :=
    (rendered_image spec).default (isPinned_eq_false_iff.mp himage)
  obtain ⟨-, -, hinit'⟩ := (rendered_initImage spec).default (isPinned_eq_false_iff.mp hinit)
  have hstatus : status spec = ⟨brokerRepository ++ ":" ++ (status spec).brokerVersion,
      initRepository ++ ":" ++ (status spec).brokerVersion, (status spec).brokerVersion⟩ := by
    rw [← himage', ← hinit']
  rw [hstatus]
  exact .default hchosen hsupported hne

theorem settled_of_pinned (himage : Validity.imagePinned spec = true)
    (hinit : Validity.initImagePinned spec = true) (hempty : (status spec).brokerVersion = "") :
    Settled spec (status spec) := by
  obtain ⟨image, himage⟩ := isPinned_iff.mp himage
  obtain ⟨initImage, hinit⟩ := isPinned_iff.mp hinit
  have hstatus : status spec = ⟨image, initImage, ""⟩ := by
    rw [← (rendered_image spec).pinned image himage,
      ← (rendered_initImage spec).pinned initImage hinit, ← hempty]
  rw [hstatus]
  exact .pinned himage hinit

/-- Images that validation lets pass are settled in the status. -/
theorem settled_status (hsettled : Validity.ImagesSettled spec) : Settled spec (status spec) := by
  cases hsettled with
  | declared hversion hsupported himage hinit =>
    obtain ⟨version, hresolved⟩ := Option.isSome_iff_exists.mp hsupported
    have hbind : spec.version.bind resolve? = some version := by simp [hversion.1, hresolved]
    refine settled_of_unpinned himage hinit ?_
    rw [brokerVersion_of_declared hbind]
    exact .declared hversion hresolved
  | undeclared hnone hpair =>
    have hbind := bind_resolve?_eq_none hnone
    cases himage : Validity.imagePinned spec with
    | true =>
      have hinit : Validity.initImagePinned spec = true := hpair ▸ himage
      exact settled_of_pinned himage hinit (brokerVersion_of_pinned hbind himage hinit)
    | false =>
      refine settled_of_unpinned himage (hpair ▸ himage) ?_
      rw [brokerVersion_of_unpinned hbind (by simp [himage])]
      exact .latest hnone getLast?_supported

/-! ## Valid clusters -/

/-- A cluster shows a version and its images: they are in every status of the cluster, and its
stateful set, which it has once it has a name and a namespace, runs the images. -/
structure Shows (c : Cluster) (version : VersionStatus) : Prop where
  projected : ∀ now previous valid error observed,
    (Projection.project now c previous valid error observed).version = version
  planned : c.metadata.name.isSome → c.metadata.ns.isSome → ∃ p, WorkloadPlan.ofCluster c = .ok p
  built : ∀ p handler, WorkloadPlan.ofCluster c = .ok p →
    (p.statefulSet handler).containers.map (·.image) = [some version.image] ∧
      (p.statefulSet handler).firstContainers.map (·.image) = [some version.initImage]

theorem shows_status (c : Cluster) : Shows c (status c.spec) where
  projected _ _ _ _ _ := rfl
  planned hname hns := by
    obtain ⟨name, hname⟩ := Option.isSome_iff_exists.mp hname
    obtain ⟨ns, hns⟩ := Option.isSome_iff_exists.mp hns
    exact ⟨⟨c, ns⟩, by rw [WorkloadPlan.ofCluster, hname, hns]⟩
  built p handler hplan := by
    obtain ⟨rfl, -⟩ := WorkloadPlan.ofCluster_ok hplan
    refine ⟨rfl, ?_⟩
    cases handler <;> rfl

/-- A cluster that validation finds valid shows its two pinned images and no version, or else one
supported version with its default images: the one that is declared, or the latest if none is. Every
cluster, be it valid or not, shows for each image the pinned one, or a default image whose tag is a
supported version. -/
theorem valid_shows_settled (c : Cluster) :
    ∃ version, Shows c version ∧
      (∀ {σ : Type} {h : Handler surroundings σ} {config : Config} {s : σ} {v : Validation},
        Task.outcome h (Validity.validate config c) s = .ok v → v.isValid = true →
          Settled c.spec version) ∧
      Rendered c.spec.deploymentPlan.image brokerRepository version.brokerVersion version.image ∧
      Rendered c.spec.deploymentPlan.initImage initRepository version.brokerVersion
        version.initImage :=
  ⟨status c.spec, shows_status c,
    fun hvalidated hvalid => settled_status (Validity.imagesSettled_of_valid hvalidated hvalid),
    rendered_image c.spec, rendered_initImage c.spec⟩

/-- A cluster that declares a version without its last part. -/
def minorCluster : Cluster where
  metadata := { name := some "broker", ns := some "test-ns" }
  spec := { version := some "2.27" }

def pinnedCluster : Cluster where
  metadata := { name := some "broker", ns := some "test-ns" }
  spec := { deploymentPlan := { image := some "broker:1", initImage := some "init:1" } }

/-- The verdict on a cluster that is in order, by a clock that stands still. -/
def passing : Validation := Validity.outcome "" 0 (.ok ())

/-- What validation comes to in an empty store. -/
def validated (c : Cluster) : Except Failure Validation :=
  Task.outcome (Validity.holding Validity.emptyContents) (Validity.validate {} c) ()

theorem valid_shows_settled_minor_pinned :
    validated minorCluster = .ok passing ∧ validated pinnedCluster = .ok passing ∧
    passing.isValid = true ∧
      Settled minorCluster.spec ⟨"quay.io/broker-operator/broker-kubernetes:2.27.1",
        "quay.io/broker-operator/broker-kubernetes-init:2.27.1", "2.27.1"⟩ ∧
      (∃ p, WorkloadPlan.ofCluster minorCluster = .ok p ∧
        (p.statefulSet none).containers.map (·.image) =
          [some "quay.io/broker-operator/broker-kubernetes:2.27.1"]) ∧
      Settled pinnedCluster.spec ⟨"broker:1", "init:1", ""⟩ ∧
      Pins pinnedCluster.spec.deploymentPlan.image "broker:1" := by
  have hminor : validated minorCluster = .ok passing := by rfl
  have hpinned : validated pinnedCluster = .ok passing := by rfl
  have hvalid : passing.isValid = true := by decide
  obtain ⟨version, hshows, hsettled, -, -⟩ := valid_shows_settled minorCluster
  obtain ⟨version', hshows', hsettled', -, -⟩ := valid_shows_settled pinnedCluster
  obtain rfl := hshows.projected "" none ⟨"Valid", .yes, "", "", 0, none⟩ none {}
  obtain rfl := hshows'.projected "" none ⟨"Valid", .yes, "", "", 0, none⟩ none {}
  obtain ⟨p, hp⟩ := hshows.planned rfl rfl
  exact ⟨hminor, hpinned, hvalid, hsettled hminor hvalid, ⟨p, hp, (hshows.built p none hp).1⟩,
    hsettled' hpinned hvalid, ⟨rfl, by decide, by decide⟩⟩

end BrokerFleet.Version
