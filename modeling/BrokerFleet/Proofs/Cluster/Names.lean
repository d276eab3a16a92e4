import BrokerFleet.Cluster.Names
import BrokerFleet.Proofs.Dict.Lookup
import BrokerFleet.Proofs.Text.ReadBack
import BrokerFleet.Simulation.Objects

/-! # Names that lead back

The ordinal of a pod and the cluster of a stateful set are read off their names, and no pod is read
as one of two stateful sets. The domain name of a replica tells its cluster, its ordinal and its
namespace. The selector made of labels selects what carries them. -/

namespace BrokerFleet

/-! ## Hyphenated names -/

/-- How the names of the objects of a cluster begin. -/
def stem (c : String) : String := if c = "" then "" else c ++ "-"

theorem hyphenated_cons (c : String) {parts : List String} (hparts : parts.filter (· ≠ "") ≠ []) :
    hyphenated (c :: parts) = stem c ++ hyphenated parts := by
  by_cases hc : c = ""
  · simp [hyphenated, stem, hc]
  · simp only [hyphenated, stem, hc, if_false]
    rw [List.filter_cons_of_pos (by simpa using hc), String.intercalate_cons_of_ne_nil hparts]

theorem hyphenated_pair (c : String) {tail : String} (htail : tail ≠ "") :
    hyphenated [c, tail] = stem c ++ tail := by
  rw [hyphenated_cons c (by simp [htail])]
  simp [hyphenated, htail]

theorem stem_injective : Function.Injective stem := by
  intro c c' h
  unfold stem at h
  split at h <;> split at h
  · next hc hc' => rw [hc, hc']
  · next hc' => exact absurd h.symm (by simp [String.append_eq_empty_iff])
  · next hc' => exact absurd h (by simp [String.append_eq_empty_iff])
  · exact (String.append_left_inj "-").mp h

theorem getLast?_stem {c : String} (hc : stem c ≠ "") : (stem c).toList.getLast? = some '-' := by
  unfold stem at hc ⊢
  split at hc
  · exact absurd rfl hc
  · next hne => simp [hne]

/-- What a longer stem puts before an ending ends with a hyphen. -/
theorem stem_eq_of_append {c c' : String} {more tail : List Char}
    (htail : ¬ '-' :: tail <:+ more ++ tail) (h : (stem c).toList = (stem c').toList ++ more) :
    more = [] := by
  rcases List.eq_nil_or_concat more with rfl | ⟨rest, x, rfl⟩
  · rfl
  · rw [List.concat_eq_append] at h htail
    have hne : stem c ≠ "" := by
      rintro hempty
      simp [hempty] at h
    have hlast := getLast?_stem hne
    rw [h, ← List.append_assoc, List.getLast?_concat, Option.some_inj] at hlast
    subst hlast
    exact absurd ⟨rest, by simp⟩ htail

/-- Endings of which neither continues the other after a hyphen are told off the name, and so is the
cluster. -/
theorem stem_append_inj {c c' tail tail' : String} (htail : ¬ '-' :: tail.toList <:+ tail'.toList)
    (htail' : ¬ '-' :: tail'.toList <:+ tail.toList) (h : stem c ++ tail = stem c' ++ tail') :
    c = c' ∧ tail = tail' := by
  have hlist := congrArg String.toList h
  rw [String.toList_append, String.toList_append] at hlist
  have hmore : (stem c).toList = (stem c').toList ∧ tail.toList = tail'.toList := by
    obtain ⟨more, hstem, hmore⟩ | ⟨more, hstem, hmore⟩ := List.append_eq_append_iff.mp hlist
    · rw [hmore] at htail'
      obtain rfl := stem_eq_of_append htail' hstem
      exact ⟨by simpa using hstem.symm, by simpa using hmore⟩
    · rw [hmore] at htail
      obtain rfl := stem_eq_of_append htail hstem
      exact ⟨by simpa using hstem, by simpa using hmore.symm⟩
  exact ⟨stem_injective (String.toList_inj.mp hmore.1), String.toList_inj.mp hmore.2⟩

/-! ## Declared clusters -/

namespace ClusterNames

/-- But for the secret of the console, the names of a cluster follow from its name. -/
theorem ofCluster_eq (c : Cluster) :
    ofCluster c = { ofName c.metadata.anyName with consoleSecret :=
      (ofCluster c).consoleSecret } := by
  unfold ofCluster
  dsimp only
  split <;> rfl

theorem ofCluster_of_undeclared {c : Cluster}
    (hc : c.spec.console.sslSecret.filter (· ≠ "") = none) :
    ofCluster c = ofName c.metadata.anyName := by
  unfold ofCluster
  rw [hc]

end ClusterNames

/-! ## Stateful sets -/

theorem statefulSetName_of_ne {c : String} (hc : c ≠ "") : statefulSetName c = c ++ "-ss" := by
  rw [statefulSetName, hyphenated_pair c (by decide), stem, if_neg hc, String.append_assoc]
  rfl

theorem statefulSetName_injective : Function.Injective statefulSetName := by
  intro c c' h
  rw [statefulSetName, statefulSetName, hyphenated_pair c (by decide),
    hyphenated_pair c' (by decide)] at h
  exact stem_injective ((String.append_left_inj "ss").mp h)

theorem clusterOfStatefulSet_statefulSetName {c : String} (hc : c ≠ "") :
    clusterOfStatefulSet (statefulSetName c) = c := by
  have htail : Text.dropTail? ['-', 's', 's'] (statefulSetName c).toList = some c.toList := by
    rw [Text.dropTail?_eq_some_iff, statefulSetName_of_ne hc, String.toList_append]
    rfl
  simp [clusterOfStatefulSet, htail]

/-! ## Pods -/

theorem podOrdinal?_eq_some_iff {pod set : String} {ordinal : Nat} :
    podOrdinal? pod set = some ordinal ↔
      ∃ text, pod.toList = set.toList ++ '-' :: text ∧ Text.natBelow? 4294967296 text =
        some ordinal := by
  simp only [podOrdinal?, Option.bind_eq_bind, Option.bind_eq_some_iff, Text.dropHead?_eq_some_iff]
  constructor
  · rintro ⟨rest, hpod, text, rfl, htext⟩
    exact ⟨text, hpod, htext⟩
  · rintro ⟨text, hpod, htext⟩
    exact ⟨'-' :: text, hpod, text, rfl, htext⟩

theorem podOrdinal?_append {set : String} {ordinal : Nat} (hordinal : ordinal < 4294967296) :
    podOrdinal? (set ++ "-" ++ toString ordinal) set = some ordinal := by
  refine podOrdinal?_eq_some_iff.mpr ⟨(toString ordinal).toList, ?_,
    Text.natBelow?_toString hordinal⟩
  simp only [String.toList_append, List.append_assoc]
  rfl

/-- A pod is read as one of a single stateful set, whatever the two are called: an ordinal has no
hyphen. -/
theorem podOrdinal?_inj {pod set set' : String} {ordinal ordinal' : Nat}
    (h : podOrdinal? pod set = some ordinal) (h' : podOrdinal? pod set' = some ordinal') :
    set = set' ∧ ordinal = ordinal' := by
  obtain ⟨text, hpod, htext⟩ := podOrdinal?_eq_some_iff.mp h
  obtain ⟨text', hpod', htext'⟩ := podOrdinal?_eq_some_iff.mp h'
  have hhyphen : '-' ∉ text := Text.notMem_of_natBelow? (by decide) (by decide) htext
  have hhyphen' : '-' ∉ text' := Text.notMem_of_natBelow? (by decide) (by decide) htext'
  obtain ⟨hset, rfl⟩ := Text.last_separator_inj hhyphen hhyphen' (hpod.symm.trans hpod')
  exact ⟨String.toList_inj.mp hset, Option.some.inj (htext.symm.trans htext')⟩

namespace ClusterNames

theorem toList_pod (names : ClusterNames) (ordinal : Nat) :
    (names.pod ordinal).toList = names.statefulSet.toList ++ '-' :: (toString ordinal).toList := by
  simp only [pod, String.toList_append, List.append_assoc]
  rfl

theorem pod_inj {c c' : String} {ordinal ordinal' : Nat} :
    (ofName c).pod ordinal = (ofName c').pod ordinal' ↔ c = c' ∧ ordinal = ordinal' := by
  constructor
  · intro h
    have hlist := congrArg String.toList h
    rw [toList_pod, toList_pod] at hlist
    obtain ⟨hset, hordinal⟩ := Text.last_separator_inj (Text.notMem_toString (by decide) ordinal)
      (Text.notMem_toString (by decide) ordinal') hlist
    exact ⟨statefulSetName_injective (String.toList_inj.mp hset), Text.toString_inj hordinal⟩
  · rintro ⟨rfl, rfl⟩
    rfl

/-- The name of a pod leads back to its ordinal and that of its stateful set to the cluster; read as
a pod of any other cluster, it has no ordinal. -/
theorem pod_leads_back {c : String} (hc : c ≠ "") (i : UInt32) :
    podOrdinal? ((ofName c).pod i.toNat) (ofName c).statefulSet = some i.toNat ∧
      clusterOfStatefulSet (ofName c).statefulSet = c ∧
      ∀ c', c' ≠ c → podOrdinal? ((ofName c).pod i.toNat) (ofName c').statefulSet = none := by
  have hown : podOrdinal? ((ofName c).pod i.toNat) (ofName c).statefulSet = some i.toNat :=
    podOrdinal?_append i.toNat_lt
  refine ⟨hown, clusterOfStatefulSet_statefulSetName hc, fun c' hne => ?_⟩
  cases hother : podOrdinal? ((ofName c).pod i.toNat) (ofName c').statefulSet with
  | none => rfl
  | some ordinal =>
    obtain ⟨hset, -⟩ := podOrdinal?_inj hother hown
    exact absurd (statefulSetName_injective hset) hne

/-- A cluster that is called like a pod of another has pods of its own. -/
theorem pod_leads_back_nested :
    "a-ss-1" ≠ "" ∧ podOrdinal? "a-ss-1-ss-0" "a-ss-1-ss" = some 0 ∧
    clusterOfStatefulSet "a-ss-1-ss" = "a-ss-1" ∧
      podOrdinal? "a-ss-1-ss-0" "a-ss" = none := by
  have hc : "a-ss-1" ≠ "" := by decide
  obtain ⟨hown, hcluster, hother⟩ := pod_leads_back hc 0
  exact ⟨hc, hown, hcluster, hother "a" (by decide)⟩

end ClusterNames

/-! ## Domain names -/

theorem part_inj_of_append {sep : Char} {ends more part part' tail : List Char} (hpart : sep ∉ part)
    (hpart' : sep ∉ part')
    (h : ends ++ (part ++ sep :: (ends ++ tail)) = (ends ++ more) ++
      (part' ++ sep :: (ends ++ more ++ tail))) :
    more = [] ∧ part = part' := by
  -- both readings hold as many separators, so the first one after the shorter ends stands after
  -- both parts
  have hcount := congrArg (List.count sep) h
  simp only [List.count_append, List.count_cons_self, List.count_eq_zero.mpr hpart,
    List.count_eq_zero.mpr hpart'] at hcount
  have hmore : sep ∉ more := List.count_eq_zero.mp (by omega)
  rw [List.append_assoc, List.append_cancel_left_eq, ← List.append_assoc more] at h
  have hfirst := congrArg (Text.splitFirst? sep) h
  rw [Text.splitFirst?_append hpart, Text.splitFirst?_append (by simp [hmore, hpart'])] at hfirst
  obtain ⟨hhead, htail⟩ := Prod.mk.inj (Option.some.inj hfirst)
  rw [List.append_assoc, List.append_cancel_left_eq] at htail
  obtain rfl : more = [] := List.self_eq_append_left.mp htail
  exact ⟨rfl, hhead⟩

/-- A text between two equal ends tells them and its part before the first separator. -/
theorem ends_and_part_inj {sep : Char} {ends ends' part part' tail : List Char} (hpart : sep ∉ part)
    (hpart' : sep ∉ part')
    (h : ends ++ (part ++ sep :: (ends ++ tail)) = ends' ++ (part' ++ sep :: (ends' ++ tail))) :
    ends = ends' ∧ part = part' := by
  obtain ⟨more, rfl, -⟩ | ⟨more, rfl, -⟩ := List.append_eq_append_iff.mp h
  · obtain ⟨rfl, rfl⟩ := part_inj_of_append hpart hpart' h
    exact ⟨(List.append_nil ends).symm, rfl⟩
  · obtain ⟨rfl, rfl⟩ := part_inj_of_append hpart' hpart h.symm
    exact ⟨List.append_nil ends', rfl⟩

namespace ClusterNames

theorem toList_fqdn (c : String) (ordinal : Nat) (ns domain : String) :
    ((ofName c).fqdn ordinal ns domain).toList =
      (stem c).toList ++ ("ss-".toList ++ (toString ordinal).toList ++
        '.' :: ((stem c).toList ++ ("hdls-svc." ++ ns ++ ".svc." ++ domain).toList)) := by
  have hset : (ofName c).statefulSet = stem c ++ "ss" := hyphenated_cons c (by decide)
  have hservice : (ofName c).headlessService = stem c ++ "hdls-svc" := hyphenated_cons c (by decide)
  simp only [fqdn, pod, hset, hservice, String.toList_append, List.append_assoc]
  rfl

/-- The domain name of a replica, in a namespace and a domain, tells its cluster and its ordinal. -/
theorem fqdn_inj {c c' : String} {ordinal ordinal' : Nat} (ns domain : String) :
    (ofName c).fqdn ordinal ns domain = (ofName c').fqdn ordinal' ns domain ↔
      c = c' ∧ ordinal = ordinal' := by
  constructor
  · intro h
    have hlist := congrArg String.toList h
    rw [toList_fqdn, toList_fqdn] at hlist
    have hpoint (n : Nat) : '.' ∉ "ss-".toList ++ (toString n).toList := by
      simpa using Text.notMem_toString (by decide) n
    obtain ⟨hstem, hpart⟩ := ends_and_part_inj (hpoint ordinal) (hpoint ordinal') hlist
    exact ⟨stem_injective (String.toList_inj.mp hstem),
      Text.toString_inj (List.append_cancel_left hpart)⟩
  · rintro ⟨rfl, rfl⟩
    rfl

theorem toList_fqdn_ns (names : ClusterNames) (ordinal : Nat) (ns domain : String) :
    (names.fqdn ordinal ns domain).toList =
      ((names.pod ordinal ++ "." ++ names.headlessService).toList ++ '.' :: ns.toList) ++
        (".svc." ++ domain).toList := by
  simp only [fqdn, String.toList_append, List.append_assoc]
  rfl

/-- The domain name of a replica tells its cluster, its ordinal and its namespace. A namespace is
one part of it, so the point before it is the last one before the domain, whatever points the name
of the cluster has. -/
theorem fqdn_tells_replica {c c' ns ns' : String} (ordinal ordinal' : Nat) (domain : String)
    (hns : '.' ∉ ns.toList) (hns' : '.' ∉ ns'.toList) :
    (ofName c).fqdn ordinal ns domain = (ofName c').fqdn ordinal' ns' domain ↔
      c = c' ∧ ordinal = ordinal' ∧ ns = ns' := by
  constructor
  · intro h
    have hlist := congrArg String.toList h
    rw [toList_fqdn_ns, toList_fqdn_ns] at hlist
    obtain ⟨-, hspace⟩ := Text.last_separator_inj hns hns' (List.append_cancel_right hlist)
    obtain rfl : ns = ns' := String.toList_inj.mp hspace
    obtain ⟨hc, hordinal⟩ := (fqdn_inj ns domain).mp h
    exact ⟨hc, hordinal, rfl⟩
  · rintro ⟨rfl, rfl, rfl⟩
    rfl

/-- A cluster that is called like a replica of another shares no domain name with it. -/
theorem fqdn_tells_replica_nested :
    '.' ∉ "n".toList ∧ '.' ∉ "m".toList ∧
      (ofName "a-ss-0.a-hdls-svc.m").fqdn 0 "n" "local" ≠ (ofName "a").fqdn 0 "m" "local" := by
  have hn : '.' ∉ "n".toList := by decide
  have hm : '.' ∉ "m".toList := by decide
  refine ⟨hn, hm, fun h => ?_⟩
  obtain ⟨hc, -⟩ := (fqdn_tells_replica 0 0 "local" hn hm).mp h
  exact absurd hc (by decide)

-- a namespace with points could take over parts of the name of another cluster
example : (ofName "a").fqdn 0 "x-ss-0.a-ss-0.a-hdls-svc.x-hdls-svc.m" "local" =
    (ofName "a-ss-0.a-hdls-svc.x").fqdn 0 "m" "local" := by decide

end ClusterNames

/-! ## Selectors -/

theorem entries_clusterLabels (c : String) : (clusterLabels c).entries =
    [(applicationLabel, hyphenated [c, "app"]), (clusterLabel, c)] := by
  have horder : compare clusterLabel applicationLabel = .gt := by decide
  simp [clusterLabels, Dict.ofList, Dict.insert, Dict.put, Dict.empty, horder]

/-- The term of a selector that asks for a label. -/
def selectorTerm (e : String × String) : String := e.1 ++ "=" ++ e.2

theorem toList_selectorTerm (e : String × String) :
    (selectorTerm e).toList = e.1.toList ++ '=' :: e.2.toList := by
  simp only [selectorTerm, String.toList_append, List.append_assoc]
  rfl

theorem satisfies_selectorTerm {given : Dict String String} {e : String × String}
    (hkey : '=' ∉ e.1.toList) :
    Simulation.satisfies given (selectorTerm e).toList = true ↔ given.get? e.1 = some e.2 := by
  rw [Simulation.satisfies, toList_selectorTerm, Text.splitFirst?_append hkey]
  simp

/-- The selector that is made of labels selects what carries all of them. -/
theorem selects_selectorOf {labels given : Dict String String}
    (hkeys : ∀ e ∈ labels.entries, '=' ∉ e.1.toList)
    (hcomma : ∀ e ∈ labels.entries, ',' ∉ (selectorTerm e).toList) :
    Simulation.selects (selectorOf labels) given = true ↔
      ∀ e ∈ labels.entries, given.get? e.1 = some e.2 := by
  have hterms : (Text.splitOn ',' (selectorOf labels).toList).filter (· ≠ []) =
      labels.entries.map fun e => (selectorTerm e).toList := by
    have hwhole : (selectorOf labels).toList =
        [','].intercalate (labels.entries.map fun e => (selectorTerm e).toList) := by
      simp only [selectorOf, String.toList_intercalate, List.map_map]
      rfl
    -- without labels the joined text is empty, and so is the one term that it splits into
    by_cases hnone : labels.entries = []
    · simp [hwhole, hnone, Text.splitOn]
    · rw [hwhole, Text.splitOn_intercalate (List.forall_mem_map.mpr hcomma) (by simp [hnone]),
        List.filter_eq_self, List.forall_mem_map]
      simp [toList_selectorTerm]
  rw [Simulation.selects, hterms, List.all_eq_true, List.forall_mem_map]
  exact forall₂_congr fun e he => satisfies_selectorTerm (hkeys e he)

theorem comma_notMem_hyphenated {c tail : String} (hc : ',' ∉ c.toList) (htail : tail ≠ "")
    (htext : ',' ∉ tail.toList) : ',' ∉ (hyphenated [c, tail]).toList := by
  rw [hyphenated_pair c htail, stem]
  split
  · simpa using htext
  · simp [hc, htext]

/-- The selector of a cluster selects what carries its labels. -/
theorem selects_selector {names : ClusterNames} {given : Dict String String}
    (hcluster : ',' ∉ names.cluster.toList) :
    Simulation.selects names.selector given = true ↔
      ∀ e ∈ names.labels.entries, given.get? e.1 = some e.2 := by
  have happ : ',' ∉ (hyphenated [names.cluster, "app"]).toList :=
    comma_notMem_hyphenated hcluster (by decide) (by decide)
  refine selects_selectorOf ?_ ?_ <;> rw [ClusterNames.labels, entries_clusterLabels]
  · simp [applicationLabel, clusterLabel]
  · simp [toList_selectorTerm, applicationLabel, clusterLabel, happ, hcluster]

end BrokerFleet
