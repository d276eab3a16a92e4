import BrokerFleet.Proofs.Address.FanOut
import Mathlib.Data.List.Infix

/-! # Codes in what brokers say

A broker reports a code and goes on with a text of its own, in which names chosen by users stand.
The codes are looked for one after another in the whole of it, so a report is read as its own code
unless its text names one that is looked for earlier. -/

namespace BrokerFleet

/-- What starts with an item that a list lacks occurs behind the list or not at all. -/
theorem infix_append_iff_of_notMem {α : Type} {a : α} {part before : List α} (hbefore : a ∉ before)
    (rest : List α) : a :: part <:+: before ++ rest ↔ a :: part <:+: rest := by
  induction before with
  | nil => rfl
  | cons b before ih =>
    rw [List.mem_cons, not_or] at hbefore
    rw [List.cons_append, List.infix_cons_iff, List.cons_prefix_cons, ih hbefore.2]
    exact or_iff_right fun hprefix => hbefore.1 hprefix.1

namespace BrokerCode

variable {c d : BrokerCode} {rest : String}

/-! ## Reports -/

/-- Whether a text names a code. -/
def NamedIn (c : BrokerCode) (text : String) : Prop := c.code.toList <:+: text.toList

theorem namedIn_iff {text : String} :
    c.NamedIn text ↔ Text.occursIn c.code.toList text.toList = true := by
  rw [Text.occursIn_iff]
  exact exists₂_congr fun before after => eq_comm

instance (c : BrokerCode) (text : String) : Decidable (c.NamedIn text) :=
  decidable_of_iff _ namedIn_iff.symm

/-- The text with which a broker reports a code: the code, and what it has to say about it. -/
def report (c : BrokerCode) (rest : String) : String := c.code ++ ": " ++ rest

/-- The codes are equally long and start with a letter that they do not repeat. -/
theorem code_eq_cons (c : BrokerCode) :
    ∃ digits, c.code.toList = 'A' :: digits ∧ digits.length = 8 ∧ 'A' ∉ digits ++ [':', ' '] := by
  cases c <;> exact ⟨_, rfl, rfl, by decide⟩

theorem code_injective : Function.Injective code := by
  intro c d h
  cases c <;> cases d <;> first | rfl | exact absurd h (by decide)

/-- A report names its own code, and the codes that its text names. -/
theorem namedIn_report : d.NamedIn (c.report rest) ↔ d = c ∨ d.NamedIn rest := by
  obtain ⟨digits, hc, hlength, hletter⟩ := code_eq_cons c
  obtain ⟨digits', hd, hlength', -⟩ := code_eq_cons d
  have hreport : (c.report rest).toList = 'A' :: ((digits ++ [':', ' ']) ++ rest.toList) := by
    simp [report, hc]
  -- codes are equally long, so none but the reported one stands at the start
  have hstart : digits' <+: (digits ++ [':', ' ']) ++ rest.toList ↔ d = c := by
    rw [List.append_assoc, List.prefix_iff_eq_take, hlength', List.take_left' hlength,
      ← code_injective.eq_iff, ← String.toList_inj, hc, hd, List.cons.injEq]
    exact (and_iff_right rfl).symm
  rw [NamedIn, NamedIn, hd, hreport, List.infix_cons_iff, List.cons_prefix_cons, hstart,
    infix_append_iff_of_notMem hletter]
  exact or_congr_left (and_iff_right rfl)

/-! ## Reading a report -/

/-- The codes that are looked for before a code. -/
def earlier (c : BrokerCode) : List BrokerCode := all.takeWhile (· ≠ c)

theorem all_eq_append (c : BrokerCode) : ∃ later, all = c.earlier ++ c :: later := by
  cases c <;> exact ⟨_, rfl⟩

theorem notMem_earlier (c : BrokerCode) : c ∉ c.earlier := by cases c <;> decide

/-- A report is read as the first of the earlier codes that its text names, or else as its own. -/
theorem ofMessage?_report (c : BrokerCode) (rest : String) :
    ofMessage? (c.report rest) = some ((c.earlier.find? fun d => d.NamedIn rest).getD c) := by
  obtain ⟨later, hall⟩ := all_eq_append c
  have hnamed (d : BrokerCode) :
      Text.occursIn d.code.toList (c.report rest).toList = decide (d = c ∨ d.NamedIn rest) :=
    Bool.eq_iff_iff.mpr (by rw [← namedIn_iff, namedIn_report, decide_eq_true_iff])
  have hearlier : (c.earlier.find? fun d => decide (d = c ∨ d.NamedIn rest)) =
      c.earlier.find? fun d => d.NamedIn rest := by
    rw [← List.head?_filter, ← List.head?_filter]
    refine congrArg List.head? (List.filter_congr fun d hd => ?_)
    have hne : d ≠ c := ne_of_mem_of_not_mem hd (notMem_earlier c)
    simp [hne]
  simp only [ofMessage?, hnamed, hall, List.find?_append, hearlier]
  cases c.earlier.find? fun d => d.NamedIn rest <;> simp

end BrokerCode

/-! ## What follows from a report -/

namespace CallFailure

theorem code_report (operation : String) (c : BrokerCode) (rest : String) :
    (remote operation (c.report rest)).code = some
    ((c.earlier.find? fun d => d.NamedIn rest).getD c) :=
  BrokerCode.ofMessage?_report c rest

theorem hasCode_report (operation : String) (c : BrokerCode) (rest : String) :
    (remote operation (c.report rest)).hasCode c = true ↔ ∀ d ∈ c.earlier, ¬ d.NamedIn rest := by
  rw [hasCode, code_report, beq_iff_eq, Option.some_inj]
  cases hfound : c.earlier.find? fun d => d.NamedIn rest with
  | none => simpa using hfound
  | some d =>
    have hd := List.mem_of_find?_eq_some hfound
    have hnamed : d.NamedIn rest := by simpa using List.find?_some hfound
    exact iff_of_false (ne_of_mem_of_not_mem hd (BrokerCode.notMem_earlier c))
      fun h => h d hd hnamed

end CallFailure

namespace AddressSync

variable {σ : Type} {h : Handler surroundings σ} {p : QueuePayload} {t : ReplicaTarget} {s : σ}
  {e : CallFailure}

/-- A queue whose creation is refused is updated if the refusal is read as that it exists; any other
refusal is reported. -/
theorem ensureQueue_of_refused
    (hrefused : (h (.call t (.createQueue p.config p.ignoreIfExists)) s).1 = .error e) :
    ((∃ x ∈ callsIn ((ensureQueue p t).transcript h s), x.call = .updateQueue p.config) ↔
        e.hasCode .queueAlreadyExists = true) ∧
      (¬ e.hasCode .queueAlreadyExists = true → ((ensureQueue p t).run h s).1 = some e) := by
  simp only [ensureQueue, transcript_callReplica_bind, run_callReplica_bind, hrefused]
  by_cases hexists : e.hasCode .queueAlreadyExists = true
  · simp [hexists, transcript_callReplica_bind, callsIn, CallRecord.ofReply?]
  · simp [hexists, callsIn, CallRecord.ofReply?]

end AddressSync

namespace CallFailure

open AddressSync BrokerCode

/-- A report is read as the first of the earlier codes that its text names, or else as its own: it
is taken for what it is exactly if its text names none of them. So a queue that exists already is
updated exactly if what the broker says about it, its name with it, does not name the code of an
existing address; otherwise it counts as a failure. -/
theorem report_read (operation rest : String) (c : BrokerCode) :
    (remote operation (c.report rest)).code = some
    ((c.earlier.find? fun d => d.NamedIn rest).getD c) ∧
      ((remote operation (c.report rest)).hasCode c = true ↔ ∀ d ∈ c.earlier, ¬ d.NamedIn rest) ∧
      ∀ {σ : Type} (h : Handler surroundings σ) (p : QueuePayload) (t : ReplicaTarget) (s : σ),
        let e := remote operation (queueAlreadyExists.report rest)
        (h (.call t (.createQueue p.config p.ignoreIfExists)) s).1 = .error e →
          ((∃ x ∈ callsIn ((ensureQueue p t).transcript h s), x.call = .updateQueue p.config) ↔
              ¬ addressAlreadyExists.NamedIn rest) ∧
            (addressAlreadyExists.NamedIn rest → ((ensureQueue p t).run h s).1 = some e) := by
  refine ⟨code_report operation c rest, hasCode_report operation c rest, ?_⟩
  intro σ h p t s e hrefused
  have hcode : e.hasCode .queueAlreadyExists = true ↔ ¬ addressAlreadyExists.NamedIn rest := by
    rw [hasCode_report]
    exact List.forall_mem_singleton
  obtain ⟨hupdated, hreported⟩ := ensureQueue_of_refused hrefused
  exact ⟨hupdated.trans hcode, fun hnamed => hreported fun hexists => hcode.mp hexists hnamed⟩

/-- Surroundings in which every call comes to the same failure. -/
def refusing (e : CallFailure) : Handler surroundings Unit
  | .call _ _, s => (.error e, s)
  | r, s => (r.refusal, s)

/-- Two queues that exist: one is updated, the other has the name of a code and is reported as a
failure. -/
theorem report_read_twoQueues :
    let p : QueuePayload := ⟨"{}", false⟩
    let t : ReplicaTarget := ⟨⟨"n", "c"⟩, 0, "c-ss-0", {}⟩
    let creation := Request.call t (.createQueue p.config p.ignoreIfExists)
    let orders := remote "createQueue" (queueAlreadyExists.report "Queue orders already exists")
    let namesake :=
      remote "createQueue" (queueAlreadyExists.report "Queue AMQ229204 already exists")
    (refusing orders creation ()).1 = .error orders ∧ (refusing namesake creation ()).1 =
      .error namesake ∧
      (∃ x ∈ callsIn ((ensureQueue p t).transcript (refusing orders) ()),
        x.call = .updateQueue p.config) ∧
      addressAlreadyExists.NamedIn "Queue AMQ229204 already exists" ∧
      ((ensureQueue p t).run (refusing namesake) ()).1 = some namesake := by
  intro p t creation orders namesake
  have hrefused (e : CallFailure) : (refusing e creation ()).1 = .error e := rfl
  obtain ⟨-, -, hread⟩ := report_read "createQueue" "Queue orders already exists" queueAlreadyExists
  obtain ⟨-, -, hread'⟩ :=
    report_read "createQueue" "Queue AMQ229204 already exists" queueAlreadyExists
  have hnamed : addressAlreadyExists.NamedIn "Queue AMQ229204 already exists" := by decide
  refine ⟨hrefused orders, hrefused namesake, ?_, hnamed, ?_⟩
  · exact (hread (refusing orders) p t () (hrefused orders)).1.mpr (by decide)
  · exact (hread' (refusing namesake) p t () (hrefused namesake)).2 hnamed

/-- A queue that exists is taken for an address that does, because of its name. -/
theorem existing_queue_misread :
    let e := remote "createQueue"
      (queueAlreadyExists.report "Queue AMQ229204 already exists on address orders")
    e.code = some .addressAlreadyExists ∧ e.hasCode .queueAlreadyExists = false := by
  decide

end CallFailure

end BrokerFleet
