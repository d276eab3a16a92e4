import BrokerFleet.Proofs.Cluster.Images
import BrokerFleet.Proofs.Cluster.Retry

/-! # Volumes whose names are labels

The names of the extra mounts are checked as they are declared, and the volume of each is called
after it with seven more bytes; the secret of the console, after which one more volume is called, is
not checked. So on a valid cluster the names of the volumes are labels exactly if the mounted names
leave room for the ending and the secret of the console starts like a label. -/

namespace BrokerFleet

/-! ## Labels with an ending -/

namespace Constraint

variable {text inner : List Char} {d : Char}

/-- How a label starts: with a lowercase letter or digit, before letters, digits and hyphens. -/
inductive LabelStart : List Char → Prop where
  | intro {c : Char} {rest : List Char} (hc : isAlnum c = true)
      (hrest : ∀ x ∈ rest, isLabelChar x = true) :
      LabelStart (c :: rest)

theorem LabelText.start (h : LabelText text) : LabelStart text := by
  cases h with
  | single hc => exact .intro hc nofun
  | framed hc hd hinner =>
    refine .intro hc fun x hx => ?_
    rcases List.mem_append.mp hx with hx | hx
    · exact hinner x hx
    · obtain rfl := List.mem_singleton.mp hx
      exact isLabelChar_of_isAlnum hd

/-- An ending of a hyphen and more makes a label of every start of one, also of a start that ends
with a hyphen. -/
theorem labelText_append_iff (hinner : ∀ x ∈ inner, isLabelChar x = true) (hd : isAlnum d = true) :
    LabelText (text ++ '-' :: (inner ++ [d])) ↔ LabelStart text := by
  have hhyphen : isAlnum '-' = false := by decide
  constructor
  · intro h
    cases text with
    | nil =>
      obtain ⟨hc, -⟩ := h.start
      rw [hhyphen] at hc
      cases hc
    | cons c rest =>
      obtain ⟨hc, hrest⟩ := h.start
      exact .intro hc fun x hx => hrest x (List.mem_append_left _ hx)
  · rintro ⟨hc, hrest⟩
    have hframe : ∀ x ∈ _ ++ '-' :: inner, isLabelChar x = true :=
      List.forall_mem_append.mpr ⟨hrest, List.forall_mem_cons.mpr ⟨by decide, hinner⟩⟩
    simpa using LabelText.framed hc hd hframe

end Constraint

open Constraint

namespace WorkloadPlan

/-! ## Names of volumes -/

theorem label_initVolume : Label initVolume := name_eq_none_iff.mp (by decide)

theorem labelText_volumeName_iff {name : String} :
    LabelText (volumeName name).toList ↔ LabelStart name.toList := by
  have hname : (volumeName name).toList = name.toList ++ '-' :: ("volum".toList ++ ['e']) := by
    rw [volumeName, String.toList_append]
    rfl
  rw [hname]
  exact labelText_append_iff (List.all_eq_true.mp (by decide)) (by decide)

theorem utf8ByteSize_volumeName (name : String) :
    (volumeName name).utf8ByteSize = name.utf8ByteSize + 7 := by
  rw [volumeName, String.utf8ByteSize_append]
  rfl

theorem label_volumeName_iff {name : String} :
    Label (volumeName name) ↔ name.utf8ByteSize ≤ 56 ∧ LabelStart name.toList := by
  have hsize := utf8ByteSize_volumeName name
  constructor
  · intro h
    have hshort := h.short
    exact ⟨by omega, labelText_volumeName_iff.mp h.text⟩
  · rintro ⟨hshort, hstart⟩
    exact ⟨by omega, labelText_volumeName_iff.mpr hstart⟩

theorem label_volumeName_iff_of_label {name : String} (hname : Label name) :
    Label (volumeName name) ↔ name.utf8ByteSize ≤ 56 := by
  rw [label_volumeName_iff, and_iff_left hname.text.start]

theorem forall_volumeNames {P : String → Prop} (p : WorkloadPlan) (handler : Option ConfigHandler) :
    (∀ name ∈ (p.statefulSet handler).volumeNames, P name) ↔
      P initVolume ∧ ∀ name ∈ p.mountedObjects, P (volumeName name) := by
  rw [volumeNames_statefulSet, names_mountedVolumes, List.forall_mem_cons, List.forall_mem_map]

theorem forall_mountedObjects {P : String → Prop} (p : WorkloadPlan) :
    (∀ name ∈ p.mountedObjects, P name) ↔
      (∀ name ∈ p.configMapNames ++ p.secretNames, P name) ∧
      (p.encrypted = true → P p.names.consoleSecret) := by
  rw [mountedObjects, List.forall_mem_append]
  refine and_congr_right fun _ => ?_
  cases p.encrypted <;> simp

/-! ## Valid clusters -/

variable {σ : Type} {h : Handler surroundings σ} {s : σ} {config : Config} {c : Cluster}
  {v : Validation}
  {p : WorkloadPlan}

theorem label_of_valid (hvalidated : Task.outcome h (Validity.validate config c) s = .ok v)
    (hvalid : v.isValid = true) (hplan : ofCluster c = .ok p) :
    ∀ name ∈ p.configMapNames ++ p.secretNames, Label name := by
  obtain ⟨rfl, -⟩ := ofCluster_ok hplan
  have hmounts := (Validity.wellFormed_of_valid hvalidated hvalid).extraMounts
  exact List.forall_mem_append.mpr ⟨hmounts.configMaps, hmounts.secrets⟩

/-- On a valid cluster, the volume of an extra mount is called by a label exactly if the mounted
name has at most 56 bytes, and that of the console exactly if the name of its secret has, and starts
like a label. All volumes of the stateful set are called by labels exactly if those that are mounted
are. -/
theorem volumeNames_labels (hvalidated : Task.outcome h (Validity.validate config c) s = .ok v)
    (hvalid : v.isValid = true) (hplan : ofCluster c = .ok p) (handler : Option ConfigHandler) :
    (∀ name ∈ p.configMapNames ++ p.secretNames,
      LabelText (volumeName name).toList ∧ (Label (volumeName name) ↔ name.utf8ByteSize ≤ 56)) ∧
    (Label (volumeName p.names.consoleSecret) ↔
      p.names.consoleSecret.utf8ByteSize ≤ 56 ∧ LabelStart p.names.consoleSecret.toList) ∧
    ((∀ name ∈ (p.statefulSet handler).volumeNames, Label name) ↔
      (∀ name ∈ p.mountedObjects, name.utf8ByteSize ≤ 56) ∧
        (p.encrypted = true → LabelStart p.names.consoleSecret.toList)) := by
  have hlabel := label_of_valid hvalidated hvalid hplan
  have hextra : ∀ name ∈ p.configMapNames ++ p.secretNames,
      (Label (volumeName name) ↔ name.utf8ByteSize ≤ 56) := fun name hname =>
    label_volumeName_iff_of_label (hlabel name hname)
  refine ⟨fun name hname =>
    ⟨labelText_volumeName_iff.mpr (hlabel name hname).text.start, hextra name hname⟩,
    label_volumeName_iff, ?_⟩
  rw [forall_volumeNames, and_iff_right label_initVolume, forall_mountedObjects,
    forall_mountedObjects, and_assoc]
  refine and_congr (forall₂_congr hextra) ?_
  rw [label_volumeName_iff]
  exact imp_and

end WorkloadPlan

/-! ## Clusters that mount a config map and encrypt their console -/

/-- A cluster that mounts a config map and whose console is encrypted by a secret. -/
def mountingCluster (map secret : String) : Cluster where
  metadata := { name := some "broker", ns := some "test-ns" }
  spec := {
    deploymentPlan := { extraMounts := { configMaps := [map] } }
    console := { sslEnabled := true, sslSecret := some secret } }

def mountingPlan (map secret : String) : WorkloadPlan := ⟨mountingCluster map secret, "test-ns"⟩

theorem exists_valid_mountingCluster {map : String} (secret : String) (hmap : Constraint.Label map)
    (hpurpose : (Validity.Mount.configMap map).isJaas = false) :
    ∃ w v, Task.outcome (Validity.holding w) (Validity.validate {} (mountingCluster map secret))
      () = .ok v ∧
      v.isValid = true := by
  have hadmissible : Validity.Admissible {} (mountingCluster map secret) :=
    { fields := {
        version := nofun
        size_nonneg := (by decide : 0 ≤ (1 : Int32).toInt)
        size_le := (by decide : (1 : Int32).toInt ≤ 100)
        extraMounts := ⟨List.forall_mem_singleton.mpr hmap, nofun⟩
        budget := nofun }
      maps := List.forall_mem_singleton.mpr hpurpose
      logging := List.countP_le_length
      jaas := List.countP_le_length
      login := nofun
      budget := nofun
      images := .undeclared nofun rfl }
  obtain ⟨w, hholds⟩ := hadmissible.exists_holds
  obtain ⟨v, hv, hvalid⟩ :=
    Validity.verdictIn_true hholds _ _ _ () (Validity.serves_holding _ w) trivial
  exact ⟨w, v, hv, hvalid⟩

/-- A mounted name of 56 bytes leaves just enough room, and the secret of the console may end with a
hyphen. -/
theorem WorkloadPlan.volumeNames_labels_room :
    let map := "settings-of-all-brokers-of-orders-in-the-northern-region"
    (∃ w v, Task.outcome (Validity.holding w) (Validity.validate {} (mountingCluster map "tls-"))
      () = .ok v ∧
        v.isValid = true) ∧
      ofCluster (mountingCluster map "tls-") = .ok (mountingPlan map "tls-") ∧
      ∀ name ∈ ((mountingPlan map "tls-").statefulSet none).volumeNames, Constraint.Label name := by
  intro map
  have hmap : Constraint.Label map := Constraint.name_eq_none_iff.mp (by decide)
  obtain ⟨w, v, hv, hvalid⟩ := exists_valid_mountingCluster "tls-" hmap (by decide)
  obtain ⟨-, -, hall⟩ := volumeNames_labels (p := mountingPlan map "tls-") hv hvalid rfl none
  have hstart : Constraint.LabelStart "tls-".toList :=
    .intro (by decide) (List.all_eq_true.mp (by decide))
  exact ⟨⟨w, v, hv, hvalid⟩, rfl, hall.mpr ⟨by decide, fun _ => hstart⟩⟩

/-- Validation passes a cluster whose stateful set has a volume with a name that is too long, after
a mounted name of 57 bytes, and one with a name that has a point, after the secret of the
console. -/
theorem unlabelled_volumes_valid :
    let map := "settings-of-all-brokers-of-orders-in-the-northern-regions"
    (∃ w v, Task.outcome (Validity.holding w)
      (Validity.validate {} (mountingCluster map "console.tls")) () = .ok v ∧
        v.isValid = true) ∧
      ∃ p, WorkloadPlan.ofCluster (mountingCluster map "console.tls") = .ok p ∧
      ∀ handler : Option ConfigHandler,
        map ++ "-volume" ∈ (p.statefulSet handler).volumeNames ∧
        ¬ Constraint.Label (map ++ "-volume") ∧
          "console.tls-volume" ∈ (p.statefulSet handler).volumeNames ∧
          ¬ Constraint.Label "console.tls-volume" := by
  intro map
  have hmap : Constraint.Label map := Constraint.name_eq_none_iff.mp (by decide)
  have hlong : Constraint.name (map ++ "-volume") ≠ none := by decide
  have hpoint : Constraint.name "console.tls-volume" ≠ none := by decide
  refine ⟨exists_valid_mountingCluster "console.tls" hmap (by decide),
    mountingPlan map "console.tls", rfl, fun handler => ?_⟩
  rw [WorkloadPlan.volumeNames_statefulSet]
  exact ⟨by decide, fun h => hlong (Constraint.name_eq_none_iff.mpr h), by decide,
    fun h => hpoint (Constraint.name_eq_none_iff.mpr h)⟩

end BrokerFleet
