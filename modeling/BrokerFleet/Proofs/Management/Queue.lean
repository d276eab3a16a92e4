import BrokerFleet.Management.Queue
import BrokerFleet.Proofs.Declaration.ReadBack
import Mathlib.Data.List.Basic
import Mathlib.Data.List.Nodup

/-! # The configuration of a queue, read back

The text that is sent for a queue is an object of its name, its address and the settings in force
that are there, each under its name in kebab case. No two names have one key and none has the key of
the queue's name or address, so a payload tells what was declared. -/

namespace BrokerFleet

open Json

/-! ## Kebab case -/

namespace QueuePayload

/-- The words of a name: the first without capitals, and the later ones with a capital before
characters that are none. -/
structure Words where
  first : List Char
  later : List (Char × List Char)
  first_small : ∀ c ∈ first, c.isUpper = false
  later_capital : ∀ word ∈ later, word.1.isUpper = true ∧ ∀ c ∈ word.2, c.isUpper = false

/-- Words in camel case: one after the other. -/
def Words.camel (ws : Words) : List Char :=
  ws.first ++ ws.later.flatMap fun word => word.1 :: word.2

/-- Words in kebab case: the later ones after a hyphen and with a small letter. -/
def Words.kebab (ws : Words) : List Char :=
  ws.first ++ ws.later.flatMap fun word => '-' :: word.1.toLower :: word.2

/-- The same words in camel case and in kebab case. -/
def SameWords (camel kebab : String) : Prop :=
  ∃ ws : Words, camel.toList = ws.camel ∧ kebab.toList = ws.kebab

/-- How a character of a name is written. -/
def kebabChar (c : Char) : List Char := if c.isUpper then ['-', c.toLower] else [c]

variable {c c' : Char} {l l' : List Char} {camel camel' kebab : String}

theorem toList_kebabCase (camel : String) :
    (kebabCase camel).toList = camel.toList.flatMap kebabChar :=
  String.toList_ofList

theorem kebabChar_of_isUpper (hc : c.isUpper = true) : kebabChar c = ['-', c.toLower] := if_pos hc

theorem kebabChar_of_not_isUpper (hc : c.isUpper = false) : kebabChar c = [c] :=
  if_neg (Bool.eq_false_iff.mp hc)

theorem flatMap_kebabChar (hl : ∀ c ∈ l, c.isUpper = false) : l.flatMap kebabChar = l := by
  induction l with
  | nil => rfl
  | cons c l ih =>
    obtain ⟨hc, hl⟩ := List.forall_mem_cons.mp hl
    rw [List.flatMap_cons, kebabChar_of_not_isUpper hc, ih hl, List.singleton_append]

theorem exists_camel (l : List Char) : ∃ ws : Words, l = ws.camel := by
  induction l with
  | nil => exact ⟨⟨[], [], by simp, by simp⟩, rfl⟩
  | cons c l ih =>
    obtain ⟨⟨first, later, hfirst, hlater⟩, rfl⟩ := ih
    cases hc : c.isUpper with
    | true =>
      exact ⟨⟨[], (c, first) :: later, by simp, List.forall_mem_cons.mpr ⟨⟨hc, hfirst⟩, hlater⟩⟩,
        rfl⟩
    | false => exact ⟨⟨c :: first, later, List.forall_mem_cons.mpr ⟨hc, hfirst⟩, hlater⟩, rfl⟩

theorem flatMap_camel (ws : Words) : ws.camel.flatMap kebabChar = ws.kebab := by
  rw [Words.camel, Words.kebab, List.flatMap_append, flatMap_kebabChar ws.first_small,
    List.flatMap_assoc]
  congr 1
  refine List.flatMap_congr fun word hword => ?_
  obtain ⟨hcapital, hrest⟩ := ws.later_capital word hword
  rw [List.flatMap_cons, kebabChar_of_isUpper hcapital, flatMap_kebabChar hrest]
  rfl

/-- A text is written in kebab case word by word. -/
theorem sameWords_iff : SameWords camel kebab ↔ kebab = kebabCase camel := by
  constructor
  · rintro ⟨ws, hcamel, hkebab⟩
    refine String.toList_injective ?_
    rw [toList_kebabCase, hcamel, hkebab, flatMap_camel]
  · rintro rfl
    obtain ⟨ws, hcamel⟩ := exists_camel camel.toList
    exact ⟨ws, hcamel, by rw [toList_kebabCase, hcamel, flatMap_camel]⟩

example : kebabCase "purgeOnNoConsumers" = "purge-on-no-consumers" := by decide

theorem toLower_inj (hc : c.isUpper = true) (hc' : c'.isUpper = true) (h : c.toLower = c'.toLower) :
    c = c' := by
  unfold Char.toLower at h
  rw [dif_pos (of_decide_eq_true hc), dif_pos (of_decide_eq_true hc')] at h
  exact Char.ext ((UInt32.add_left_inj _).mp (congrArg Char.val h))

theorem flatMap_kebabChar_inj (hl : '-' ∉ l) (hl' : '-' ∉ l')
    (h : l.flatMap kebabChar = l'.flatMap kebabChar) :
    l = l' := by
  induction l generalizing l' with
  | nil =>
    cases l' with
    | nil => rfl
    | cons c' l' => cases hc' : c'.isUpper <;> simp [kebabChar, hc'] at h
  | cons c l ih =>
    cases l' with
    | nil => cases hc : c.isUpper <;> simp [kebabChar, hc] at h
    | cons c' l' =>
      rw [List.mem_cons, not_or] at hl hl'
      cases hc : c.isUpper <;> cases hc' : c'.isUpper <;> simp [kebabChar, hc, hc'] at h
      · rw [h.1, ih hl.2 hl'.2 h.2]
      · exact absurd h.1.symm hl.1
      · exact absurd h.1 hl'.1
      · rw [toLower_inj hc hc' h.1, ih hl.2 hl'.2 h.2]

/-- Names without hyphens have keys of their own. -/
theorem kebabCase_inj (hcamel : '-' ∉ camel.toList) (hcamel' : '-' ∉ camel'.toList)
    (h : kebabCase camel = kebabCase camel') : camel = camel' := by
  refine String.toList_injective (flatMap_kebabChar_inj hcamel hcamel' ?_)
  rw [← toList_kebabCase, ← toList_kebabCase, h]

/-! ## Settings in force -/

def declared (spec : AddressSpec) : QueueSettings := spec.queueConfiguration.getD {}

/-- The settings in force without the flag, which is handed over beside them. -/
def settings (spec : AddressSpec) : QueueSettings := { effective spec with ignoreIfExists := none }

/-- The settings that follow from a declaration: the routing is that of the queue, of the address or
the usual one, the broker manages the queue unless that is declined, the flag is taken out, and all
else is as declared. -/
structure InForce (spec : AddressSpec) (q : QueueSettings) : Prop where
  routing : q.routingType =
    some (((declared spec).routingType.or spec.routingType).getD "MULTICAST")
  managed : q.configurationManaged = some ((declared spec).configurationManaged.getD true)
  taken : q.ignoreIfExists = none
  others : declared spec = { q with
    routingType := (declared spec).routingType
    configurationManaged := (declared spec).configurationManaged
    ignoreIfExists := (declared spec).ignoreIfExists }

theorem inForce_settings (spec : AddressSpec) : InForce spec (settings spec) where
  routing := by
    show (declared spec).routingType.or (some (spec.routingType.getD defaultRouting)) = _
    cases (declared spec).routingType <;> rfl
  managed := by
    show (declared spec).configurationManaged.or (some true) = _
    cases (declared spec).configurationManaged <;> rfl
  taken := rfl
  others := rfl

/-! ## What is sent -/

/-- The fields that are sent for a queue: its name, its address and the settings in force that are
there, each under its name in kebab case. -/
inductive Sent (spec : AddressSpec) (queue : String) : String → Json → Prop where
  | name : Sent spec queue "name" (str queue)
  | address : Sent spec queue "address" (str spec.addressName)
  | setting {name key : String} {v : Json} (hgiven : (name, some v) ∈ (settings spec).fields)
      (hkey : SameWords name key) : Sent spec queue key v

/-- A payload that tells of a declared queue: its text is an object of the fields that are sent,
none of them twice, and its flag is that of the declaration. -/
structure Describes (payload : QueuePayload) (spec : AddressSpec) (queue : String) : Prop where
  config : ∃ fields, parseSound? payload.config = some (obj fields) ∧ (fields.map Prod.fst).Nodup ∧
    ∀ key v, (key, v) ∈ fields ↔ Sent spec queue key v
  flag : payload.ignoreIfExists = (declared spec).ignoreIfExists.getD false

variable {spec spec' : AddressSpec} {queue queue' name key : String} {v : Json}
  {payload : QueuePayload}

/-- Every field by its name in camel case, the settings behind the queue's name and address. -/
def given (queue : String) (spec : AddressSpec) : List (String × Option Json) :=
  ("name", some (str queue)) :: ("address", some (str spec.addressName)) :: (settings spec).fields

def fieldNames : List String := (given "" { addressName := "" }).map Prod.fst

theorem map_fst_given (queue : String) (spec : AddressSpec) :
    (given queue spec).map Prod.fst = fieldNames := rfl

theorem mem_fieldNames {o : Option Json} (hmem : (name, o) ∈ given queue spec) :
    name ∈ fieldNames :=
  map_fst_given queue spec ▸ List.mem_map_of_mem hmem

theorem nodup_fieldNames : fieldNames.Nodup := by decide +kernel

theorem not_hyphen_of_mem_fieldNames : ∀ name ∈ fieldNames, '-' ∉ name.toList := by decide +kernel

theorem nodup_keys : (fieldNames.map kebabCase).Nodup :=
  nodup_fieldNames.map_on fun _ hname _ hname' =>
    kebabCase_inj (not_hyphen_of_mem_fieldNames _ hname) (not_hyphen_of_mem_fieldNames _ hname')

theorem kebabCase_name : kebabCase "name" = "name" := by decide

theorem kebabCase_address : kebabCase "address" = "address" := by decide

theorem sent_iff :
    Sent spec queue key v ↔ ∃ name, (name, some v) ∈ given queue spec ∧ key = kebabCase name := by
  constructor
  · intro hsent
    cases hsent with
    | name => exact ⟨"name", by simp [given], kebabCase_name.symm⟩
    | address => exact ⟨"address", by simp [given], kebabCase_address.symm⟩
    | @setting name _ _ hgiven hkey =>
      exact ⟨name, List.mem_cons_of_mem _ (List.mem_cons_of_mem _ hgiven), sameWords_iff.mp hkey⟩
  · rintro ⟨name, hmem, rfl⟩
    rcases List.mem_cons.mp hmem with hname | hmem
    · cases hname
      exact kebabCase_name ▸ .name
    · rcases List.mem_cons.mp hmem with haddress | hgiven
      · cases haddress
        exact kebabCase_address ▸ .address
      · exact .setting hgiven (sameWords_iff.mpr rfl)

/-- The key of a field has the value of that field and no other's. -/
theorem sent_kebabCase_iff (hname : name ∈ fieldNames) :
    Sent spec queue (kebabCase name) v ↔ (name, some v) ∈ given queue spec := by
  rw [sent_iff]
  constructor
  · rintro ⟨name', hmem, hkey⟩
    have hname' := not_hyphen_of_mem_fieldNames _ (mem_fieldNames hmem)
    rwa [kebabCase_inj (not_hyphen_of_mem_fieldNames _ hname) hname' hkey]
  · exact fun hmem => ⟨name, hmem, rfl⟩

theorem fields_eq (queue : String) (spec : AddressSpec) :
    fields queue spec = .ofList ((given queue spec).filterMap fun e =>
      e.2.map (kebabCase e.1, ·)) := by
  simp [fields, given, settings, kebabCase_name, kebabCase_address]

theorem nodup_keys_fields (queue : String) (spec : AddressSpec) :
    (((given queue spec).filterMap fun e => e.2.map (kebabCase e.1, ·)).map Prod.fst).Nodup := by
  refine nodup_keys.sublist ?_
  rw [← map_fst_given queue spec]
  induction given queue spec with
  | nil => exact List.Sublist.slnil
  | cons e rest ih =>
    obtain ⟨name, v⟩ := e
    cases v with
    | none => exact ih.cons _
    | some v => exact ih.cons_cons _

theorem mem_entries_fields : (key, v) ∈ (fields queue spec).entries ↔ Sent spec queue key v := by
  rw [fields_eq, Dict.mem_entries_ofList (nodup_keys_fields queue spec), sent_iff,
    List.mem_filterMap]
  constructor
  · rintro ⟨⟨name, o⟩, hmem, hmap⟩
    obtain ⟨v', rfl, heq⟩ := Option.map_eq_some_iff.mp hmap
    cases heq
    exact ⟨name, hmem, rfl⟩
  · rintro ⟨name, hmem, rfl⟩
    exact ⟨(name, some v), hmem, rfl⟩

theorem carried_of_sent {depth : Nat} (hsent : Sent spec queue key v) : Carried depth v := by
  cases hsent with
  | name => exact .str queue
  | address => exact .str spec.addressName
  | setting hgiven => exact carried_present.mp (settings spec).carried _ hgiven v rfl

/-- The payload that is sent for a declared queue tells of it. -/
theorem describes (spec : AddressSpec) (queue : String) :
    Describes ⟨(ofDict (fields queue spec) id).render, (effective spec).ignoreIfExists.getD false⟩
      spec queue where
  config := by
    have hentries : ofDict (fields queue spec) id = obj (fields queue spec).entries := by
      simp [ofDict]
    have hcarried : Carried depthLimit (obj (fields queue spec).entries) :=
      .obj fun e he => carried_of_sent (mem_entries_fields.mp he)
    rw [hentries]
    exact ⟨_, parseSound?_render hcarried, Dict.nodup_keys _, fun _ _ => mem_entries_fields⟩
  flag := rfl

/-! ## What a payload tells -/

theorem eq_some_iff_mem {l : List (String × Option Json)} (hnodup : (l.map Prod.fst).Nodup)
    {o : Option Json} (hmem : (name, o) ∈ l) : o = some v ↔ (name, some v) ∈ l :=
  ⟨fun ho => ho ▸ hmem, fun hv => congrArg Prod.snd (List.inj_on_of_nodup_map hnodup hmem hv rfl)⟩

/-- Lists that name the same fields, each once, are told apart by the values that are there. -/
theorem eq_of_mem_iff {l l' : List (String × Option Json)}
    (hnames : l.map Prod.fst = l'.map Prod.fst) (hnodup : (l.map Prod.fst).Nodup)
    (hmem : ∀ name v, (name, some v) ∈ l ↔ (name, some v) ∈ l') : l = l' := by
  have hlength : l.length = l'.length := by simpa using congrArg List.length hnames
  refine List.ext_getElem hlength fun i hi hi' => ?_
  have hname := List.getElem_of_eq hnames (List.length_map Prod.fst ▸ hi)
  rw [List.getElem_map, List.getElem_map] at hname
  refine Prod.ext hname (Option.ext fun v => ?_)
  calc l[i].2 = some v
    _ ↔ (l[i].1, some v) ∈ l := eq_some_iff_mem hnodup (List.getElem_mem hi)
    _ ↔ (l'[i].1, some v) ∈ l' := by rw [hmem, hname]
    _ ↔ l'[i].2 = some v := (eq_some_iff_mem (hnames ▸ hnodup) (List.getElem_mem hi')).symm

theorem Describes.given_eq (h : Describes payload spec queue)
    (h' : Describes payload spec' queue') :
    given queue spec = given queue' spec' := by
  obtain ⟨fields, hread, -, hfields⟩ := h.config
  obtain ⟨fields', hread', -, hfields'⟩ := h'.config
  obtain rfl : fields = fields' := by simpa [hread] using hread'
  refine eq_of_mem_iff rfl nodup_fieldNames fun name v => ?_
  by_cases hname : name ∈ fieldNames
  · rw [← sent_kebabCase_iff hname, ← sent_kebabCase_iff hname, ← hfields, hfields']
  · exact iff_of_false (fun hmem => hname (mem_fieldNames hmem)) fun hmem =>
      hname (mem_fieldNames hmem)

/-- Declarations of which one payload tells agree on the queue, the address, the settings in force
and the flag. -/
theorem Describes.unique (h : Describes payload spec queue) (h' : Describes payload spec' queue') :
    queue = queue' ∧ spec.addressName = spec'.addressName ∧ settings spec = settings spec' ∧
      (declared spec).ignoreIfExists.getD false = (declared spec').ignoreIfExists.getD false := by
  have hgiven := h.given_eq h'
  simp only [given, List.cons.injEq, Prod.mk.injEq, Option.some.injEq, str.injEq,
    true_and] at hgiven
  obtain ⟨hqueue, haddress, hsettings⟩ := hgiven
  refine ⟨hqueue, haddress, ?_, h.flag.symm.trans h'.flag⟩
  have hread := QueueSettings.reads.read (settings spec)
  rw [QueueSettings.toJson, hsettings, ← QueueSettings.toJson, QueueSettings.reads.read] at hread
  exact (Option.some.inj hread).symm

/-- A declaration names a queue; an empty name is none. -/
def Names (spec : AddressSpec) (queue : String) : Prop := spec.queueName = some queue ∧ queue ≠ ""

theorem queue?_eq_some : spec.queue? = some queue ↔ Names spec queue := by
  rw [AddressSpec.queue?, Option.filter_eq_some_iff, decide_eq_true_iff, Names]

theorem ofSpec?_of_names (h : Names spec queue) :
    ∃ payload, ofSpec? spec = some payload ∧ Describes payload spec queue := by
  refine ⟨_, ?_, describes spec queue⟩
  rw [ofSpec?, queue?_eq_some.mpr h, Option.map_some]

theorem names_of_ofSpec? (h : ofSpec? spec = some payload) :
    ∃ queue, Names spec queue ∧ Describes payload spec queue := by
  obtain ⟨queue, hqueue, rfl⟩ := Option.map_eq_some_iff.mp h
  exact ⟨queue, queue?_eq_some.mp hqueue, describes spec queue⟩

/-- What a declaration asks for besides its address: a payload that tells of the queue that it
names, or nothing if it names none. -/
inductive Asked (spec : AddressSpec) : Option QueuePayload → Prop where
  | bare (hnone : ∀ queue, ¬ Names spec queue) : Asked spec none
  | queued {queue : String} {payload : QueuePayload} (hnamed : Names spec queue)
      (hdescribes : Describes payload spec queue) : Asked spec (some payload)

/-- A declaration asks for a payload exactly if it names a queue. -/
theorem Asked.isSome_iff {asked : Option QueuePayload} (h : Asked spec asked) :
    asked.isSome ↔ ∃ queue, Names spec queue := by
  cases h with
  | bare hnone => simpa using hnone
  | queued hnamed => exact iff_of_true rfl ⟨_, hnamed⟩

theorem asked_ofSpec? (spec : AddressSpec) : Asked spec (ofSpec? spec) := by
  cases hpayload : ofSpec? spec with
  | none =>
    refine .bare fun queue hnamed => ?_
    obtain ⟨payload, hsome, -⟩ := ofSpec?_of_names hnamed
    rw [hpayload] at hsome
    cases hsome
  | some payload =>
    obtain ⟨queue, hnamed, hdescribes⟩ := names_of_ofSpec? hpayload
    exact .queued hnamed hdescribes

/-- A declaration that names a queue has a payload whose text is an object of the queue's name, the
address and the settings in force, and whose flag is the declared one; a declaration with the same
payload has the same queue, address, settings in force and flag. -/
theorem ofSpec?_describes (hnamed : spec.queueName = some queue) (hnonempty : queue ≠ "") :
    InForce spec (settings spec) ∧ ∃ payload, ofSpec? spec = some payload ∧
    Describes payload spec queue ∧
      ∀ spec', ofSpec? spec' = some payload →
        spec'.queueName = some queue ∧ spec'.addressName = spec.addressName ∧
        settings spec' = settings spec ∧
          (declared spec').ignoreIfExists.getD false =
            (declared spec).ignoreIfExists.getD false := by
  obtain ⟨payload, hpayload, hdescribes⟩ := ofSpec?_of_names ⟨hnamed, hnonempty⟩
  refine ⟨inForce_settings spec, payload, hpayload, hdescribes, fun spec' h => ?_⟩
  obtain ⟨queue', hnamed', hdescribes'⟩ := names_of_ofSpec? h
  obtain ⟨rfl, hothers⟩ := hdescribes'.unique hdescribes
  exact ⟨hnamed'.1, hothers⟩

/-- A queue that takes its routing from the address and gives some settings of its own. -/
def orders : AddressSpec where
  addressName := "orders"
  queueName := some "orders.eu"
  routingType := some "ANYCAST"
  queueConfiguration :=
    some { ignoreIfExists := some true, maxConsumers := some (-1), purgeOnNoConsumers := some true }

/-- Such a queue has a payload that the declaration of another address does not have. -/
theorem ofSpec?_describes_orders :
    orders.queueName = some "orders.eu" ∧ "orders.eu" ≠ "" ∧
    ∃ payload, ofSpec? orders = some payload ∧
      payload.ignoreIfExists = true ∧ Sent orders "orders.eu" "purge-on-no-consumers" (bool true) ∧
      ∀ spec', ofSpec? spec' = some payload → spec'.addressName = "orders" := by
  have hnamed : orders.queueName = some "orders.eu" := rfl
  have hnonempty : "orders.eu" ≠ "" := by decide
  obtain ⟨-, payload, hpayload, hdescribes, hsame⟩ := ofSpec?_describes hnamed hnonempty
  have hgiven : ("purgeOnNoConsumers", some (bool true)) ∈ (settings orders).fields := by
    simp [settings, effective, orders, QueueSettings.fields]
  have hsent : Sent orders "orders.eu" "purge-on-no-consumers" (bool true) :=
    .setting hgiven (sameWords_iff.mpr (by decide))
  exact ⟨hnamed, hnonempty, payload, hpayload, hdescribes.flag, hsent, fun spec' h =>
    (hsame spec' h).2.1⟩

end QueuePayload

end BrokerFleet
