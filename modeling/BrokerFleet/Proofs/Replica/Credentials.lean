import Mathlib.Data.List.Induction
import BrokerFleet.Proofs.Replica.Resolution

/-! # Where credentials come from

The user and the password of a replica come from one source: from the management secret if it holds
a user, else from the last variables of the broker container that name them. The protocol comes from
the container in both cases. Any of the secrets may fail to be read, which fails the whole if a
variable needs it. -/

namespace BrokerFleet.Credentials

open BrokerFleet.Task (Answers)

/-! ## What is read -/

/-- What the secrets of a namespace are read as, each by its name: the secret, nothing, or a
failure. -/
abbrev Secrets := String → Except Failure (Option Secret)

/-- A store answers with these secrets of a namespace, in all states that reading leads to. -/
def Serves {σ : Type} (h : Handler surroundings σ) (Q : σ → Prop) (ns : String)
    (secrets : Secrets) : Prop :=
  ∀ name, Answers h Q (Task.getSecret ⟨ns, name⟩) (secrets name)

/-- The value of a variable: a literal that is not empty, else the key of a secret, else nothing. -/
def value (secrets : Secrets) (v : EnvVar) : Except Failure String :=
  match v.value.filter (· ≠ ""), v.secretKeyRef with
  | some text, _ => .ok text
  | none, none => .ok ""
  | none, some ref => (fun secret => (secret.bind (·.value? ref.key)).getD "") <$> secrets ref.name

/-- Whether a variable is looked at: the user and the password are not if they are settled. -/
def consulted (settled : Bool) (v : EnvVar) : Bool :=
  v.name = consoleVariable ∨ (¬ settled ∧ (v.name = userVariable ∨ v.name = passwordVariable))

def set (c : Credentials) (name value : String) : Credentials :=
  if name = userVariable then { c with user := value }
  else if name = passwordVariable then { c with password := value }
  else if value = "" then c
  else { c with protocol := .https }

def add (secrets : Secrets) (settled : Bool) (c : Credentials) (v : EnvVar) :
    Except Failure Credentials :=
  if consulted settled v then set c v.name <$> value secrets v else .ok c

theorem set_user (c : Credentials) : set c userVariable = fun text => { c with user := text } := rfl

theorem set_password (c : Credentials) :
    set c passwordVariable = fun text => { c with password := text } := by
  funext text
  exact (if_neg (by decide)).trans (if_pos rfl)

theorem set_console (c : Credentials) :
    set c consoleVariable = fun text => if text = "" then c else { c with protocol := .https } := by
  funext text
  exact (if_neg (by decide)).trans (if_neg (by decide))

theorem addVariable_eq (ns : String) (settled : Bool) (c : Credentials) (v : EnvVar) :
    addVariable ns settled c v =
      if consulted settled v then set c v.name <$> variableValue ns v else pure c := by
  have huser : userVariable ≠ passwordVariable ∧ userVariable ≠ consoleVariable := by decide
  have hpassword : passwordVariable ≠ consoleVariable := by decide
  unfold addVariable
  by_cases hu : v.name = userVariable
  · cases settled <;> simp [consulted, set_user, hu, huser]
  by_cases hp : v.name = passwordVariable
  · cases settled <;> simp [consulted, set_password, hp, huser.1.symm, hpassword]
  by_cases hc : v.name = consoleVariable
  · rw [hc, set_console, map_eq_pure_bind]
    simp only [consulted, hc, huser.2.symm, hpassword.symm, false_and, if_false, if_true,
      true_or, decide_true]
    congr 1
    funext text
    split <;> rfl
  · simp [consulted, hu, hp, hc]

section Read

variable {σ : Type} {h : Handler surroundings σ} {Q : σ → Prop} {ns : String} {secrets : Secrets}
  (hserves : Serves h Q ns secrets)

include hserves

theorem answers_variableValue (v : EnvVar) :
    Answers h Q (variableValue ns v) (value secrets v) := by
  unfold variableValue value
  cases v.value.filter (· ≠ "") with
  | some text => exact .pure text
  | none =>
    cases v.secretKeyRef with
    | none => exact .pure ""
    | some ref => exact (hserves ref.name).map _

theorem answers_addVariable (settled : Bool) (c : Credentials) (v : EnvVar) :
    Answers h Q (addVariable ns settled c v) (add secrets settled c v) := by
  rw [addVariable_eq, add]
  split
  · exact (answers_variableValue hserves v).map _
  · exact .pure c

theorem answers_resolve (names : ClusterNames) (pod : Pod) :
    Answers h Q (resolve ns names pod) (secrets names.managementSecret >>= fun secret =>
      (brokerVariables pod).foldlM (add secrets (ofManagementSecret? secret).isSome)
        ((ofManagementSecret? secret).getD {})) :=
  (hserves names.managementSecret).bind fun _ => .foldlM (answers_addVariable hserves _) _ _

end Read

/-! ## Variable after variable -/

def lastNamed (name : String) (vars : List EnvVar) : Option EnvVar :=
  (vars.filter fun v => v.name = name).getLast?

/-- The value of the last variable of a name, or a text if there is none. -/
def lastValue (secrets : Secrets) (name text : String) (vars : List EnvVar) :
    Except Failure String :=
  (lastNamed name vars).elim (.ok text) (value secrets)

/-- Whether a variable says that the console is encrypted. -/
def Encrypts (secrets : Secrets) (v : EnvVar) : Prop :=
  v.name = consoleVariable ∧ ∃ text, value secrets v = .ok text ∧ text ≠ ""

section Gather

variable {secrets : Secrets} {settled : Bool} {c c' : Credentials} {v : EnvVar} {vars : List EnvVar}

theorem lastValue_concat (name text : String) :
    lastValue secrets name text (vars ++ [v]) =
      if v.name = name then value secrets v else lastValue secrets name text vars := by
  by_cases hv : v.name = name <;> simp [lastValue, lastNamed, hv]

/-- What variables make of credentials: they leave what is settled, else the last of a name says
what the user or the password is; and one that says that the console is encrypted decides the
protocol. -/
structure Gathered (secrets : Secrets) (settled : Bool) (c : Credentials) (vars : List EnvVar)
    (c' : Credentials) :
    Prop where
  kept : settled = true → c'.user = c.user ∧ c'.password = c.password
  user : settled = false → lastValue secrets userVariable c.user vars = .ok c'.user
  password : settled = false → lastValue secrets passwordVariable c.password vars = .ok c'.password
  https_iff : c'.protocol = .https ↔ c.protocol = .https ∨ ∃ v ∈ vars, Encrypts secrets v

theorem gathered_nil (secrets : Secrets) (settled : Bool) (c : Credentials) :
    Gathered secrets settled c [] c :=
  ⟨fun _ => ⟨rfl, rfl⟩, fun _ => rfl, fun _ => rfl, by simp⟩

/-- The ways in which a variable can go. -/
inductive Added (secrets : Secrets) (settled : Bool) (c : Credentials) (v : EnvVar) :
    Credentials → Prop where
  | user {text : String} (hname : v.name = userVariable) (hsettled : settled = false)
      (hvalue : value secrets v = .ok text) : Added secrets settled c v { c with user := text }
  | password {text : String} (hname : v.name = passwordVariable) (hsettled : settled = false)
      (hvalue : value secrets v = .ok text) : Added secrets settled c v { c with password := text }
  | encrypted (hencrypts : Encrypts secrets v) :
    Added secrets settled c v { c with protocol := .https }
  | plain (hname : v.name = consoleVariable) (hvalue : value secrets v = .ok "") :
    Added secrets settled c v c
  | passed (hpassed : consulted settled v = false) : Added secrets settled c v c

theorem added_of_add (h : add secrets settled c v = .ok c') : Added secrets settled c v c' := by
  unfold add at h
  split at h
  · next hconsulted =>
    cases hvalue : value secrets v with
    | error e =>
      rw [hvalue] at h
      cases h
    | ok text =>
      rw [hvalue] at h
      cases h
      simp only [consulted, decide_eq_true_eq] at hconsulted
      rcases hconsulted with hname | ⟨hsettled, hname | hname⟩
      · by_cases hempty : text = ""
        · subst hempty
          rw [hname, set_console]
          exact .plain hname hvalue
        · simp only [hname, set_console, if_neg hempty]
          exact .encrypted ⟨hname, text, hvalue, hempty⟩
      · rw [hname, set_user]
        exact .user hname (by simpa using hsettled) hvalue
      · rw [hname, set_password]
        exact .password hname (by simpa using hsettled) hvalue
  · next hpassed =>
    cases h
    exact .passed (by simpa using hpassed)

/-- One more variable. -/
theorem Gathered.concat (h : Gathered secrets settled c vars c') {c'' : Credentials}
    (hadded : Added secrets settled c' v c'') : Gathered secrets settled c (vars ++ [v]) c'' := by
  have huser : userVariable ≠ passwordVariable ∧ userVariable ≠ consoleVariable := by decide
  have hpassword : passwordVariable ≠ consoleVariable := by decide
  have hhttps : (∃ x ∈ vars ++ [v], Encrypts secrets x) ↔ (∃ x ∈ vars, Encrypts secrets x) ∨
      Encrypts secrets v := by
    simp [or_and_right, exists_or]
  cases hadded with
  | user hname hsettled hvalue =>
    have hother : ¬ Encrypts secrets v := fun hv => huser.2 (hname.symm.trans hv.1)
    refine ⟨by simp [hsettled], fun _ => ?_, fun hs => ?_, ?_⟩
    · rw [lastValue_concat, if_pos hname, hvalue]
    · rw [lastValue_concat, if_neg (hname ▸ huser.1), h.password hs]
    · rw [hhttps, or_iff_left hother, ← h.https_iff]
  | password hname hsettled hvalue =>
    have hother : ¬ Encrypts secrets v := fun hv => hpassword (hname.symm.trans hv.1)
    refine ⟨by simp [hsettled], fun hs => ?_, fun _ => ?_, ?_⟩
    · rw [lastValue_concat, if_neg (hname ▸ huser.1.symm), h.user hs]
    · rw [lastValue_concat, if_pos hname, hvalue]
    · rw [hhttps, or_iff_left hother, ← h.https_iff]
  | encrypted hencrypts =>
    refine ⟨h.kept, fun hs => ?_, fun hs => ?_, ?_⟩
    · rw [lastValue_concat, if_neg (hencrypts.1 ▸ huser.2.symm), h.user hs]
    · rw [lastValue_concat, if_neg (hencrypts.1 ▸ hpassword.symm), h.password hs]
    · simp [hencrypts]
  | plain hname hvalue =>
    have hother : ¬ Encrypts secrets v := by
      rintro ⟨-, text, htext, hne⟩
      exact hne (Except.ok.inj (htext.symm.trans hvalue))
    refine ⟨h.kept, fun hs => ?_, fun hs => ?_, ?_⟩
    · rw [lastValue_concat, if_neg (hname ▸ huser.2.symm), h.user hs]
    · rw [lastValue_concat, if_neg (hname ▸ hpassword.symm), h.password hs]
    · rw [hhttps, or_iff_left hother, ← h.https_iff]
  | passed hpassed =>
    simp only [consulted, decide_eq_false_iff_not, not_or, not_and] at hpassed
    have hother : ¬ Encrypts secrets v := fun hv => hpassed.1 hv.1
    refine ⟨h.kept, fun hs => ?_, fun hs => ?_, ?_⟩
    · rw [lastValue_concat, if_neg (hpassed.2 (by simp [hs])).1, h.user hs]
    · rw [lastValue_concat, if_neg (hpassed.2 (by simp [hs])).2, h.password hs]
    · rw [hhttps, or_iff_left hother, ← h.https_iff]

theorem gathered_of_foldlM (h : vars.foldlM (add secrets settled) c = .ok c') :
    Gathered secrets settled c vars c' := by
  induction vars using List.reverseRecOn generalizing c' with
  | nil =>
    cases h
    exact gathered_nil secrets settled c
  | append_singleton vars v ih =>
    rw [List.foldlM_append] at h
    cases hvars : vars.foldlM (add secrets settled) c with
    | error e =>
      rw [hvars] at h
      cases h
    | ok between =>
      rw [hvars] at h
      have hadd : add secrets settled between v = .ok c' := by
        change List.foldlM (add secrets settled) between [v] = .ok c' at h
        simpa only [List.foldlM_cons, List.foldlM_nil, bind_pure] using h
      exact (ih hvars).concat (added_of_add hadd)

/-- Variables come to something exactly if each one that is looked at can be read. -/
theorem foldlM_ok_iff : (∃ c', vars.foldlM (add secrets settled) c = .ok c') ↔
    ∀ v ∈ vars, consulted settled v → ∃ text, value secrets v = .ok text := by
  induction vars generalizing c with
  | nil => exact ⟨fun _ => nofun, fun _ => ⟨c, rfl⟩⟩
  | cons v rest ih =>
    rw [List.foldlM_cons, List.forall_mem_cons, add]
    by_cases hconsulted : consulted settled v = true
    · rw [if_pos hconsulted]
      cases hvalue : value secrets v with
      | error e =>
        refine ⟨fun hok => ?_, fun hread => ?_⟩
        · obtain ⟨c', hc'⟩ := hok
          cases hc'
        · obtain ⟨text, htext⟩ := hread.1 hconsulted
          cases htext
      | ok text => exact ih.trans (and_iff_right fun _ => ⟨text, rfl⟩).symm
    · rw [if_neg hconsulted]
      exact ih.trans (and_iff_right fun h => absurd h hconsulted).symm

end Gather

/-! ## One source -/

def NoUser (secret : Option Secret) : Prop := ∀ m, secret = some m → m.value? userKey = none

theorem ofManagementSecret?_of_user {m : Secret} {user : String}
    (huser : m.value? userKey = some user) :
    ofManagementSecret? (some m) = some { user, password := (m.value? passwordKey).getD "" } := by
  simp [ofManagementSecret?, huser]

theorem ofManagementSecret?_of_noUser {secret : Option Secret} (h : NoUser secret) :
    ofManagementSecret? secret = none := by
  cases secret with
  | none => rfl
  | some m => simp [ofManagementSecret?, h m rfl]

/-- Where the credentials for variables come from: the user and the password from the management
secret if it holds a user, else from the last variables of their names; the protocol from the
variables. -/
structure OneSource (secrets : Secrets) (secret : Option Secret) (vars : List EnvVar)
    (c : Credentials) : Prop where
  given : ∀ m user, secret = some m → m.value? userKey = some user →
    c.user = user ∧ c.password = (m.value? passwordKey).getD ""
  named : NoUser secret → lastValue secrets userVariable "" vars = .ok c.user ∧
    lastValue secrets passwordVariable "" vars = .ok c.password
  https_iff : c.protocol = .https ↔ ∃ v ∈ vars, Encrypts secrets v

/-- A variable takes its value from a secret: it has no literal that is not empty, and refers to the
secret. -/
def TakenFrom (name : String) (v : EnvVar) : Prop :=
  v.value.filter (· ≠ "") = none ∧ ∃ ref, v.secretKeyRef = some ref ∧ ref.name = name

section Resolve

variable {σ : Type} {h : Handler surroundings σ} {Q : σ → Prop} {ns : String} {secrets : Secrets}
  {s : σ}
  {names : ClusterNames} {pod : Pod} {secret : Option Secret}

theorem oneSource_of_foldlM {vars : List EnvVar} {c : Credentials}
    (hc : vars.foldlM (add secrets (ofManagementSecret? secret).isSome)
      ((ofManagementSecret? secret).getD {}) = .ok c) :
    OneSource secrets secret vars c := by
  have hgathered := gathered_of_foldlM hc
  have hplain : ((ofManagementSecret? secret).getD {}).protocol ≠ .https := by
    cases secret with
    | none => nofun
    | some m => cases huser : m.value? userKey <;> simp [ofManagementSecret?, huser]
  constructor
  case given =>
    rintro m user rfl huser
    have hkept := hgathered.kept
    rw [ofManagementSecret?_of_user huser] at hkept
    exact hkept rfl
  case named =>
    intro hnone
    have huser := hgathered.user
    have hpassword := hgathered.password
    rw [ofManagementSecret?_of_noUser hnone] at huser hpassword
    exact ⟨huser rfl, hpassword rfl⟩
  case https_iff => rw [hgathered.https_iff, or_iff_right hplain]

theorem outcome_resolve (hserves : Serves h Q ns secrets) (hs : Q s)
    (hsecret : secrets names.managementSecret = .ok secret) :
    Task.outcome h (resolve ns names pod) s =
      (brokerVariables pod).foldlM (add secrets (ofManagementSecret? secret).isSome)
        ((ofManagementSecret? secret).getD {}) := by
  rw [(answers_resolve hserves names pod s hs).1, hsecret]
  rfl

theorem value_congr {secrets' : Secrets} {name : String} {v : EnvVar}
    (halike : ∀ other, other ≠ name → secrets' other = secrets other) (hv : ¬ TakenFrom name v) :
    value secrets' v = value secrets v := by
  unfold value
  cases hliteral : v.value.filter (· ≠ "") with
  | some text => rfl
  | none =>
    cases href : v.secretKeyRef with
    | none => rfl
    | some ref =>
      have hother : ref.name ≠ name := fun hname => hv ⟨hliteral, ref, href, hname⟩
      simp only [halike ref.name hother]

theorem lastValue_congr {secrets' : Secrets} {name variableName text : String} {vars : List EnvVar}
    (halike : ∀ other, other ≠ name → secrets' other = secrets other)
    (hlast : ∀ v, lastNamed variableName vars = some v → ¬ TakenFrom name v) :
    lastValue secrets' variableName text vars = lastValue secrets variableName text vars := by
  unfold lastValue
  cases hv : lastNamed variableName vars with
  | none => rfl
  | some v => exact value_congr halike (hlast v hv)

/-- Credentials are found exactly if the management secret and each variable that is looked at can
be read, and they come from one source. Where the management secret holds no user it makes no
difference to the user, nor to the password, unless the last variable of that name takes its value
from it. -/
theorem resolve_oneSource (hserves : Serves h Q ns secrets) (hs : Q s) (names : ClusterNames)
    (pod : Pod) :
    ((∃ c, Task.outcome h (resolve ns names pod) s = .ok c) ↔
      ∃ secret, secrets names.managementSecret = .ok secret ∧ ∀ v ∈ brokerVariables pod,
        consulted (ofManagementSecret? secret).isSome v → ∃ text, value secrets v = .ok text) ∧
    ∀ c secret, Task.outcome h (resolve ns names pod) s = .ok c →
    secrets names.managementSecret = .ok secret →
      OneSource secrets secret (brokerVariables pod) c ∧
      ∀ {σ' : Type} (h' : Handler surroundings σ') (Q' : σ' → Prop) (s' : σ') (secrets' : Secrets)
        (secret' : Option Secret) (c' : Credentials), Serves h' Q' ns secrets' → Q' s' →
        (∀ other, other ≠ names.managementSecret → secrets' other = secrets other) →
        secrets' names.managementSecret = .ok secret' → NoUser secret → NoUser secret' →
        Task.outcome h' (resolve ns names pod) s' = .ok c' →
          ((∀ v, lastNamed userVariable (brokerVariables pod) = some v →
            ¬ TakenFrom names.managementSecret v) →
            c'.user = c.user) ∧
          ((∀ v, lastNamed passwordVariable (brokerVariables pod) = some v →
            ¬ TakenFrom names.managementSecret v) →
            c'.password = c.password) := by
  refine ⟨?_, fun c secret hc hsecret => ?_⟩
  · cases hsecret : secrets names.managementSecret with
    | error e =>
      have hfailed : Task.outcome h (resolve ns names pod) s = .error e := by
        rw [(answers_resolve hserves names pod s hs).1, hsecret]
        rfl
      simp [hfailed]
    | ok secret =>
      rw [outcome_resolve hserves hs hsecret, foldlM_ok_iff]
      simp
  · rw [outcome_resolve hserves hs hsecret] at hc
    have hone := oneSource_of_foldlM hc
    refine ⟨hone, ?_⟩
    intro σ' h' Q' s' secrets' secret' c' hserves' hs' halike hsecret' hnone hnone' hc'
    rw [outcome_resolve hserves' hs' hsecret'] at hc'
    obtain ⟨huser, hpassword⟩ := hone.named hnone
    obtain ⟨huser', hpassword'⟩ := (oneSource_of_foldlM hc').named hnone'
    refine ⟨fun hlast => ?_, fun hlast => ?_⟩
    · rw [lastValue_congr halike hlast, huser] at huser'
      exact (Except.ok.inj huser').symm
    · rw [lastValue_congr halike hlast, hpassword] at hpassword'
      exact (Except.ok.inj hpassword').symm

end Resolve

def secretStore (secrets : Secrets) : Handler surroundings Unit
  | .getSecret key, s => (secrets key.name, s)
  | r, s => (r.refusal, s)

theorem serves_secretStore (ns : String) (secrets : Secrets) :
    Serves (secretStore secrets) (fun _ => True) ns secrets := fun _ _ _ => ⟨rfl, trivial⟩

/-- Only the management secret is there, with one text. -/
def onlyManagement (key text : String) : Secrets := fun name =>
  .ok (if name = (ClusterNames.ofName "broker").managementSecret then
    some { stringData := some (.ofList [(key, text)]) } else none)

/-- A user as it stands, and a password that is taken from the management secret. -/
def referring : List EnvVar :=
  [{ name := userVariable, value := some "admin" },
    { name := passwordVariable,
      secretKeyRef :=
        some { name := (ClusterNames.ofName "broker").managementSecret, key := "password" } }]

/-- A pod whose broker is given these variables. -/
def referringPod : Pod :=
  { spec := some { containers := [{ name := "broker", env := some referring }] } }

theorem resolve_oneSource_onlyManagement :
    let names := ClusterNames.ofName "broker"
    let secrets := onlyManagement userKey "root"
    Serves (secretStore secrets) (fun _ => True) "ns" secrets ∧
      ∃ secret, secrets names.managementSecret = .ok secret ∧
        Task.outcome (secretStore secrets) (resolve "ns" names referringPod) () =
          .ok { user := "root" } ∧
        OneSource secrets secret referring { user := "root" } := by
  intro names secrets
  have hserves : Serves (secretStore secrets) (fun _ => True) "ns" secrets :=
    serves_secretStore "ns" secrets
  have hsecret : secrets names.managementSecret =
      .ok (some { stringData := some (.ofList [(userKey, "root")]) }) := rfl
  have hfound : Task.outcome (secretStore secrets) (resolve "ns" names referringPod) () =
      .ok { user := "root" } := by rfl
  exact ⟨hserves, _, hsecret, hfound,
    ((resolve_oneSource hserves trivial names referringPod).2 _ _ hfound hsecret).1⟩

/-- A management secret that holds no user can still hold the password, for a variable that refers
to it. -/
theorem managementSecret_tells_password :
    let names := ClusterNames.ofName "broker"
    let missing : Secrets := fun _ => .ok none
    let held := onlyManagement "password" "guest"
    (∀ other, other ≠ names.managementSecret → held other = missing other) ∧
      (∀ secret, held names.managementSecret = .ok secret → NoUser secret) ∧
      Task.outcome (secretStore missing) (resolve "ns" names referringPod) () =
        .ok { user := "admin" } ∧
      Task.outcome (secretStore held) (resolve "ns" names referringPod) () =
        .ok { user := "admin", password := "guest" } := by
  intro names missing held
  refine ⟨fun other hother => ?_, ?_, rfl, by rfl⟩
  · simp only [held, missing, onlyManagement]
    rw [if_neg hother]
  · rintro secret hsecret m rfl
    cases hsecret
    rfl

end BrokerFleet.Credentials
