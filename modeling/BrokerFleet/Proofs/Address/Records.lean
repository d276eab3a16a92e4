import BrokerFleet.Address.Record
import BrokerFleet.Proofs.Cluster.Names
import BrokerFleet.Proofs.Program.Task
import BrokerFleet.Proofs.Store.World

/-! # Records as a map

A record is written and deleted by a name that is put together from its owner and its kind, and it
is read by a selector that is made of labels. Both lead to the same config map and to no other, so
the records form a map: what is found for an owner and a kind is the record that was stored for them
last, unless it was removed. -/

namespace BrokerFleet.Record

/-! ## Names -/

/-- Where the record of an owner is kept. -/
def keyOf (owner : ObjectKey) (kind : String) : ObjectKey := ⟨owner.ns, nameOf owner kind⟩

theorem toList_nameOf (owner : ObjectKey) (kind : String) :
    (nameOf owner kind).toList = (owner.name.toList ++ '-' :: kind.toList) ++
    "-reconciled".toList := by
  simp [nameOf]

/-- The place of a record tells its owner and its kind. -/
theorem keyOf_inj {owner owner' : ObjectKey} {kind kind' : String} (hkind : '-' ∉ kind.toList)
    (hkind' : '-' ∉ kind'.toList) :
    keyOf owner kind = keyOf owner' kind' ↔ owner = owner' ∧ kind = kind' := by
  constructor
  · intro h
    obtain ⟨hns, hname⟩ := ObjectKey.mk.inj h
    have hlist := congrArg String.toList hname
    rw [toList_nameOf, toList_nameOf] at hlist
    obtain ⟨howner, hkinds⟩ := Text.last_separator_inj hkind hkind' (List.append_cancel_right hlist)
    obtain ⟨ns, name⟩ := owner
    obtain ⟨ns', name'⟩ := owner'
    simp_all [String.toList_inj]
  · rintro ⟨rfl, rfl⟩
    rfl

/-! ## Labels -/

variable {owner : ObjectKey} {kind : String}

theorem addressLabels_eq (address : String) :
    addressLabels address = Dict.empty.insert applicationLabel (hyphenated [address, "addr"]) := rfl

theorem mem_labelsOf {e : String × String}
    (he : e ∈ (labelsOf (addressLabels owner.name) kind).entries) :
    e = (kindLabel, kind) ∨ e = (applicationLabel, hyphenated [owner.name, "addr"]) := by
  rw [labelsOf, addressLabels_eq] at he
  rcases Dict.mem_put he with he | he
  · exact .inl he
  · rcases Dict.mem_put he with he | he
    · exact .inr he
    · cases he

/-- The selector of a record selects what carries the labels of the record. -/
theorem selects_labelsOf (howner : ',' ∉ owner.name.toList) (hkind : ',' ∉ kind.toList)
    {given : Dict String String} (hgiven : given = labelsOf (addressLabels owner.name) kind) :
    Simulation.selects (selectorOf (labelsOf (addressLabels owner.name) kind)) given = true := by
  have happ : ',' ∉ (hyphenated [owner.name, "addr"]).toList :=
    comma_notMem_hyphenated howner (by decide) (by decide)
  subst hgiven
  refine (selects_selectorOf ?_ ?_).mpr fun e he => Dict.mem_entries_iff.mp he
  · intro e he
    rcases mem_labelsOf he with rfl | rfl <;> simp [kindLabel, applicationLabel]
  · intro e he
    rcases mem_labelsOf he with rfl | rfl
    · simpa [toList_selectorTerm, kindLabel] using hkind
    · simpa [toList_selectorTerm, applicationLabel] using happ

/-- Without the label of the kind, the labels are those that were given. -/
theorem erase_labelsOf (address : String) :
    (labelsOf (addressLabels address) kind).erase kindLabel = addressLabels address := by
  have horder : compare kindLabel applicationLabel = .gt := by decide
  have horder' : compare kindLabel applicationLabel ≠ .eq := by decide
  ext1
  simp [labelsOf, addressLabels_eq, Dict.insert, Dict.put, Dict.erase, Dict.filter,
    Dict.empty, horder]

/-! ## Writing and reading -/

/-- Config maps that agree in what records are found and read by. -/
structure Alike (map map' : ConfigMap) : Prop where
  name : map'.metadata.anyName = map.metadata.anyName
  labels : map'.metadata.labelSet = map.metadata.labelSet
  data : map'.data = map.data

/-- A record comes back from its config map with all its fields. -/
theorem ofConfigMap?_toConfigMap {r : Record} (hlabels : r.labels = addressLabels r.owner.name)
    {map : ConfigMap} (hmap : Alike r.toConfigMap map) :
    ofConfigMap? r.owner r.kind map = some r := by
  have hlabelSet : map.metadata.labelSet = labelsOf (addressLabels r.owner.name) r.kind := by
    rw [hmap.labels, ← hlabels]
    rfl
  obtain ⟨owner, kind, snapshot, checksum, labels⟩ := r
  simp only at hlabels hlabelSet
  simp [ofConfigMap?, hmap.data, toConfigMap, Dict.ofList, Dict.get?_insert, hlabelSet,
    erase_labelsOf, hlabels]

/-! ## Stores of config maps -/

section Store

variable {σ : Type} {h : Handler surroundings σ} {Q : σ → Prop}
  {maps : σ → Dict ObjectKey ConfigMap} {s : σ}

/-- A store that keeps config maps by namespace and name: what it is asked to create it holds from
then on, as far as records are concerned, what it is asked to delete it holds no longer, and it
lists the config maps of a namespace that carry every label of a selector. A request that fails may
do anything. -/
structure Keeps (h : Handler surroundings σ) (Q : σ → Prop) (maps : σ → Dict ObjectKey ConfigMap) :
    Prop where
  created : ∀ ns map s, Q s → (h (.createConfigMap ns map) s).1 = .ok () →
    Q (h (.createConfigMap ns map) s).2 ∧ ∃ map', Alike map map' ∧
      maps (h (.createConfigMap ns map) s).2 = (maps s).insert ⟨ns, map.metadata.anyName⟩ map'
  deleted : ∀ key s, Q s → (h (.deleteConfigMap key) s).1 = .ok () →
    Q (h (.deleteConfigMap key) s).2 ∧ maps (h (.deleteConfigMap key) s).2 = (maps s).erase key
  listed : ∀ ns selector s found, Q s → (h (.listConfigMaps ns selector) s).1 = .ok found →
    ∀ map, map ∈ found ↔ (maps s).get? ⟨ns, map.metadata.anyName⟩ = some map ∧
      Simulation.selects selector map.metadata.labelSet = true

/-- What a store holds in the place of a record: nothing, or a config map that was written for
it. -/
inductive Held (maps : Dict ObjectKey ConfigMap) (owner : ObjectKey) (kind : String) :
    Option Record → Prop where
  | nothing (hnone : maps.get? (keyOf owner kind) = none) : Held maps owner kind none
  | record {r : Record} {map : ConfigMap} (howner : r.owner = owner) (hkind : r.kind = kind)
      (hlabels : r.labels = addressLabels owner.name) (hmap : Alike r.toConfigMap map)
      (hheld : maps.get? (keyOf owner kind) = some map) : Held maps owner kind (some r)

/-! ## Look-up -/

/-- The listing that a record is looked for in. -/
def listing (owner : ObjectKey) (kind : String) : Request :=
  .listConfigMaps owner.ns (selectorOf (labelsOf (addressLabels owner.name) kind))

theorem outcome_lookup {found : List ConfigMap}
    (hfound : (h (listing owner kind) s).1 = .ok found) :
    Task.outcome h (lookup owner kind (addressLabels owner.name)) s =
      .ok ((found.find? fun m => m.metadata.anyName == nameOf owner kind).bind
        (ofConfigMap? owner kind)) := by
  have hmaps : Task.outcome h (Task.listConfigMaps owner.ns
      (selectorOf (labelsOf (addressLabels owner.name) kind))) s = .ok found := hfound
  rw [lookup, Task.outcome_bind_ok _ hmaps]
  rfl

/-- A record that is held is found, and none is found where nothing is held. -/
theorem lookup_of_held (hkeeps : Keeps h Q maps) (hs : Q s) (howner : ',' ∉ owner.name.toList)
    (hkind : ',' ∉ kind.toList) {r? : Option Record} (hheld : Held (maps s) owner kind r?)
    {found : List ConfigMap} (hfound : (h (listing owner kind) s).1 = .ok found) :
    Task.outcome h (lookup owner kind (addressLabels owner.name)) s = .ok r? := by
  have hlisted := hkeeps.listed _ _ s found hs hfound
  rw [outcome_lookup hfound]
  cases hheld with
  | nothing hnone =>
    have hnot : found.find? (fun m => m.metadata.anyName == nameOf owner kind) = none := by
      refine List.find?_eq_none.mpr fun map hmap hname => ?_
      obtain ⟨hget, -⟩ := (hlisted map).mp hmap
      rw [eq_of_beq hname] at hget
      exact nomatch hnone.symm.trans hget
    rw [hnot]
    rfl
  | @record r map hr hk hlabels hmap hget =>
    have hname : map.metadata.anyName = nameOf owner kind := by
      rw [hmap.name, ← hr, ← hk]
      rfl
    have hmem : map ∈ found := by
      refine (hlisted map).mpr ⟨hname ▸ hget, selects_labelsOf howner hkind ?_⟩
      rw [hmap.labels, ← hlabels, ← hk]
      rfl
    have hfirst : found.find? (fun m => m.metadata.anyName == nameOf owner kind) = some map := by
      obtain ⟨map', hmap'⟩ :
          ∃ map', found.find? (fun m => m.metadata.anyName == nameOf owner kind) = some map' :=
        Option.isSome_iff_exists.mp
          (List.find?_isSome.mpr ⟨map, hmem, beq_iff_eq.mpr hname⟩)
      obtain ⟨hget', -⟩ := (hlisted map').mp (List.mem_of_find?_eq_some hmap')
      have hname' : (map'.metadata.anyName == nameOf owner kind) = true :=
        List.find?_some (p := fun m : ConfigMap => m.metadata.anyName == nameOf owner kind) hmap'
      rw [eq_of_beq hname'] at hget'
      rw [hmap', ← hget, ← hget']
      rfl
    subst hr hk
    rw [hfirst, Option.bind_some, ofConfigMap?_toConfigMap hlabels hmap]

theorem Held.congr {maps maps' : Dict ObjectKey ConfigMap} {r? : Option Record}
    (hsame : maps'.get? (keyOf owner kind) = maps.get? (keyOf owner kind))
    (hheld : Held maps owner kind r?) :
    Held maps' owner kind r? := by
  cases hheld with
  | nothing hnone => exact .nothing (hsame.trans hnone)
  | record howner hkind hlabels hmap hget =>
    exact .record howner hkind hlabels hmap (hsame.trans hget)

/-! ## Storing and removing -/

/-- A record that was stored stands in its place, whatever stood there; nothing else has changed. -/
theorem maps_store (hkeeps : Keeps h Q maps) (hs : Q s) {r : Record}
    (hdone : Task.outcome h r.store s = .ok ()) :
    Q (Task.after h r.store s) ∧ ∃ map, Alike r.toConfigMap map ∧ maps (Task.after h r.store s) =
      ((maps s).erase (keyOf r.owner r.kind)).insert (keyOf r.owner r.kind) map := by
  obtain ⟨u, hdeleted, hcreated⟩ := Task.outcome_bind_eq_ok _ hdone
  obtain ⟨hs', herase⟩ := hkeeps.deleted _ s hs hdeleted
  obtain ⟨hs'', map, hmap, hinsert⟩ := hkeeps.created _ _ _ hs' hcreated
  rw [herase] at hinsert
  rw [store, Task.after_bind_ok _ hdeleted]
  exact ⟨hs'', map, hmap, hinsert⟩

theorem maps_remove (hkeeps : Keeps h Q maps) (hs : Q s)
    (hdone : Task.outcome h (remove owner kind) s = .ok ()) :
    Q (Task.after h (remove owner kind) s) ∧
      maps (Task.after h (remove owner kind) s) = (maps s).erase (keyOf owner kind) :=
  hkeeps.deleted (keyOf owner kind) s hs hdone

end Store

/-! ## Changes in turn -/

inductive Change where
  | store (r : Record)
  | remove (owner : ObjectKey) (kind : String)

namespace Change

def task : Change → Task Unit
  | .store r => r.store
  | .remove owner kind => Record.remove owner kind

/-- The owner and the kind of the record that is changed. -/
def target : Change → ObjectKey × String
  | .store r => (r.owner, r.kind)
  | .remove owner kind => (owner, kind)

def record? : Change → Option Record
  | .store r => some r
  | .remove _ _ => none

/-- A change of records whose kind has no hyphen, with the labels that go with the name of the
owner. -/
structure Plain (c : Change) : Prop where
  kind : '-' ∉ c.target.2.toList
  labels : ∀ r, c.record? = some r → r.labels = addressLabels r.owner.name

variable {σ : Type} {h : Handler surroundings σ} {Q : σ → Prop}
  {maps : σ → Dict ObjectKey ConfigMap} {s : σ}
  {c : Change}

/-- A change that succeeds leaves its record in its place. -/
theorem held_target (hkeeps : Keeps h Q maps) (hs : Q s) (hplain : c.Plain)
    (hdone : Task.outcome h c.task s = .ok ()) :
    Held (maps (Task.after h c.task s)) c.target.1 c.target.2 c.record? := by
  cases c with
  | store r =>
    obtain ⟨-, map, hmap, hmaps⟩ := maps_store hkeeps hs hdone
    refine .record rfl rfl (hplain.labels r rfl) hmap ?_
    rw [task, hmaps]
    exact Dict.get?_insert_self _ _ _
  | remove owner kind =>
    obtain ⟨-, hmaps⟩ := maps_remove hkeeps hs hdone
    refine .nothing ?_
    rw [task, hmaps]
    exact Dict.get?_erase_self _ _

/-- A change that succeeds leaves every other place as it was. -/
theorem get?_of_ne (hkeeps : Keeps h Q maps) (hs : Q s) (hdone : Task.outcome h c.task s = .ok ())
    {key : ObjectKey} (hne : key ≠ keyOf c.target.1 c.target.2) :
    (maps (Task.after h c.task s)).get? key = (maps s).get? key := by
  cases c with
  | store r =>
    have hne : key ≠ keyOf r.owner r.kind := hne
    obtain ⟨-, map, -, hmaps⟩ := maps_store hkeeps hs hdone
    rw [task, hmaps, Dict.get?_insert_of_ne _ _ hne, Dict.get?_erase_of_ne _ hne]
  | remove owner kind =>
    have hne : key ≠ keyOf owner kind := hne
    obtain ⟨-, hmaps⟩ := maps_remove hkeeps hs hdone
    rw [task, hmaps, Dict.get?_erase_of_ne _ hne]

theorem keeps_state (hkeeps : Keeps h Q maps) (hs : Q s)
    (hdone : Task.outcome h c.task s = .ok ()) :
    Q (Task.after h c.task s) := by
  cases c with
  | store r => exact (maps_store hkeeps hs hdone).1
  | remove owner kind => exact (maps_remove hkeeps hs hdone).1

/-- What is held for an owner and a kind after a change: what the change leaves there if it is about
them, else what was held before. -/
theorem held_step (hkeeps : Keeps h Q maps) (hs : Q s) (hplain : c.Plain)
    (hkind : '-' ∉ kind.toList) (hdone : Task.outcome h c.task s = .ok ()) {r? : Option Record}
    (hheld : Held (maps s) owner kind r?) :
    Held (maps (Task.after h c.task s)) owner kind
      (if c.target = (owner, kind) then c.record? else r?) := by
  split
  · next htarget =>
    have hnew := held_target hkeeps hs hplain hdone
    rwa [htarget] at hnew
  · next htarget =>
    refine hheld.congr (get?_of_ne hkeeps hs hdone fun hkey => htarget ?_)
    obtain ⟨rfl, rfl⟩ := (keyOf_inj hkind hplain.kind).mp hkey
    rfl

/-- The changes of the record of an owner and a kind. -/
def about (cs : List Change) (owner : ObjectKey) (kind : String) : List Change :=
  cs.filter fun c => c.target = (owner, kind)

/-- The record that was stored last for an owner and a kind, unless it was removed since. -/
def last? (cs : List Change) (owner : ObjectKey) (kind : String) : Option Record :=
  (about cs owner kind).getLast?.bind record?

/-- No change of another record counts. -/
theorem last?_about (cs : List Change) (owner : ObjectKey) (kind : String) :
    last? (about cs owner kind) owner kind = last? cs owner kind := by
  simp [last?, about]

theorem held_run (hkeeps : Keeps h Q maps) {cs : List Change} (hplain : ∀ c ∈ cs, c.Plain)
    (hkind : '-' ∉ kind.toList) (hs : Q s) {r? : Option Record}
    (hheld : Held (maps s) owner kind r?) (hdone : Task.outcome h (cs.forM task) s = .ok ()) :
    Q (Task.after h (cs.forM task) s) ∧ Held (maps (Task.after h (cs.forM task) s)) owner kind
      ((about cs owner kind).getLast?.elim r? record?) := by
  induction cs generalizing s r? with
  | nil => exact ⟨hs, hheld⟩
  | cons c cs ih =>
    obtain ⟨hc, hcs⟩ := List.forall_mem_cons.mp hplain
    change Task.outcome h (c.task >>= fun _ => cs.forM task) s = _ at hdone
    change Q (Task.after h (c.task >>= fun _ => cs.forM task) s) ∧
      Held (maps (Task.after h (c.task >>= fun _ => cs.forM task) s)) _ _ _
    obtain ⟨u, hfirst, hrest⟩ := Task.outcome_bind_eq_ok _ hdone
    rw [Task.after_bind_ok _ hfirst]
    have hstep := held_step hkeeps hs hc hkind hfirst hheld
    obtain ⟨hs', hrun⟩ := ih hcs (keeps_state hkeeps hs hfirst) hstep hrest
    refine ⟨hs', ?_⟩
    by_cases htarget : c.target = (owner, kind)
    · rw [if_pos htarget] at hrun
      rw [about, List.filter_cons_of_pos (by simpa using htarget), List.getLast?_cons, ← about]
      cases hlast : (about cs owner kind).getLast? <;> simpa [hlast] using hrun
    · rw [if_neg htarget] at hrun
      rwa [about, List.filter_cons_of_neg (by simpa using htarget), ← about]

/-- The records form a map by owner and kind. After changes that all succeeded, in a store that held
nothing in the place of a record, the record is found that was stored last for its owner and kind,
with all its fields, and none if there was none or if it was removed since. So what is found depends
on the changes of that record alone. -/
theorem lookup_eq_last (hkeeps : Keeps h Q maps) (hs : Q s)
    (hfresh : (maps s).get? (keyOf owner kind) = none) {cs : List Change}
    (hplain : ∀ c ∈ cs, c.Plain) (howner : ',' ∉ owner.name.toList) (hhyphen : '-' ∉ kind.toList)
    (hcomma : ',' ∉ kind.toList) (hdone : Task.outcome h (cs.forM task) s = .ok ())
    {found : List ConfigMap}
    (hfound : (h (listing owner kind) (Task.after h (cs.forM task) s)).1 = .ok found) :
    Task.outcome h (lookup owner kind (addressLabels owner.name)) (Task.after h (cs.forM task) s) =
        .ok (last? cs owner kind) ∧
      last? cs owner kind = last? (about cs owner kind) owner kind := by
  obtain ⟨hs', hheld⟩ := held_run hkeeps hplain hhyphen hs (.nothing hfresh) hdone
  refine ⟨?_, (last?_about cs owner kind).symm⟩
  rw [lookup_of_held hkeeps hs' howner hcomma hheld hfound, last?]
  cases (about cs owner kind).getLast? <;> rfl

end Change

/-! ## The world in memory -/

/-- The config maps of a world are held under their own names. -/
def Keyed (w : Simulation.World) : Prop :=
  ∀ key map, w.objects.configMaps.get? key = some map → map.metadata.anyName = key.name

theorem Keyed.insert {w : Simulation.World} (hw : Keyed w) {key : ObjectKey} {map : ConfigMap}
    (hname : map.metadata.anyName = key.name) {w' : Simulation.World}
    (hmaps : w'.objects.configMaps = w.objects.configMaps.insert key map) : Keyed w' := by
  intro key' map' hget
  rw [hmaps] at hget
  by_cases hkey : key' = key
  · rw [hkey, Dict.get?_insert_self] at hget
    cases hget
    rw [hname, hkey]
  · rw [Dict.get?_insert_of_ne _ _ hkey] at hget
    exact hw key' map' hget

theorem Keyed.erase {w : Simulation.World} (hw : Keyed w) {key : ObjectKey} {w' : Simulation.World}
    (hmaps : w'.objects.configMaps = w.objects.configMaps.erase key) : Keyed w' := by
  intro key' map' hget
  rw [hmaps, Dict.get?_erase] at hget
  split at hget
  · cases hget
  · exact hw key' map' hget

/-- The world in memory keeps config maps by namespace and name, whatever faults are to come. -/
theorem keeps_world : Keeps Simulation.World.answer Keyed (·.objects.configMaps) where
  created ns map w hw hok := by
    have hmaps := Simulation.World.configMaps_createConfigMap hok
    refine ⟨hw.insert rfl hmaps, _, ?_, hmaps⟩
    exact ⟨rfl, rfl, rfl⟩
  deleted key w hw hok := by
    have hmaps := Simulation.World.configMaps_deleteConfigMap hok
    exact ⟨hw.erase hmaps, hmaps⟩
  listed ns selector w found hw hok map := by
    rw [Simulation.World.eq_of_read hok, List.mem_filter, Simulation.mem_inNamespace]
    refine and_congr_left fun _ => ⟨?_, fun hget => ⟨_, hget⟩⟩
    rintro ⟨name, hget⟩
    rwa [hw _ _ hget]

/-- A record of an owner in a namespace of that name. -/
def recordIn (name kind checksum : String) : Record where
  owner := ⟨"test-ns", name⟩
  kind := kind
  snapshot := "snapshot"
  checksum := checksum
  labels := addressLabels name

/-- Changes of three records: one is stored twice, one is removed, and one differs in its kind
only. -/
def threeRecords : List Change :=
  [.store (recordIn "orders" "address" "1"), .store (recordIn "invoices" "address" "2"),
    .store (recordIn "orders" "address" "3"), .store (recordIn "orders" "security" "4"),
    .remove ⟨"test-ns", "invoices"⟩ "address"]

def emptyWorld : Simulation.World where
  now := ""

/-- The world after the changes of the three records. -/
def recordedWorld : Simulation.World :=
  Task.after Simulation.World.answer (threeRecords.forM Change.task) emptyWorld

theorem lookup_eq_last_threeRecords :
    Task.outcome Simulation.World.answer (threeRecords.forM Change.task) emptyWorld = .ok () ∧
      (∀ c ∈ threeRecords, c.Plain) ∧
      Task.outcome Simulation.World.answer
        (lookup ⟨"test-ns", "orders"⟩ "address" (addressLabels "orders"))
        recordedWorld = .ok (some (recordIn "orders" "address" "3")) ∧
      Task.outcome Simulation.World.answer
        (lookup ⟨"test-ns", "invoices"⟩ "address" (addressLabels "invoices"))
        recordedWorld = .ok none := by
  have hkeyed : Keyed emptyWorld :=
    fun key map hget => nomatch (Dict.get?_empty key).symm.trans hget
  have hdone : Task.outcome Simulation.World.answer (threeRecords.forM Change.task) emptyWorld =
      .ok () := by
    rfl
  have hplain : ∀ c ∈ threeRecords, c.Plain := by
    intro c hc
    simp only [threeRecords, List.mem_cons, List.not_mem_nil, or_false] at hc
    rcases hc with rfl | rfl | rfl | rfl | rfl
    all_goals exact ⟨by decide, by simp [Change.record?, recordIn]⟩
  have hanswered (owner : ObjectKey) (kind : String) :
      ∃ found, (Simulation.World.answer (listing owner kind) recordedWorld).1 = .ok found :=
        ⟨_, rfl⟩
  have horders : Change.last? threeRecords ⟨"test-ns", "orders"⟩ "address" =
      some (recordIn "orders" "address" "3") := by
    rfl
  have hinvoices : Change.last? threeRecords ⟨"test-ns", "invoices"⟩ "address" = none := by
    rfl
  obtain ⟨found, hfound⟩ := hanswered ⟨"test-ns", "orders"⟩ "address"
  obtain ⟨found', hfound'⟩ := hanswered ⟨"test-ns", "invoices"⟩ "address"
  refine ⟨hdone, hplain, ?_, ?_⟩
  · rw [← horders]
    exact (Change.lookup_eq_last keeps_world hkeyed rfl hplain (by decide) (by decide)
      (by decide) hdone
      hfound).1
  · rw [← hinvoices]
    exact (Change.lookup_eq_last keeps_world hkeyed rfl hplain (by decide) (by decide)
      (by decide) hdone
      hfound').1

end BrokerFleet.Record
