import BrokerFleet.Proofs.Program.Transcript
import BrokerFleet.Surroundings

/-! # Tasks that only read

A task that only reads the store fails exactly when one of its readings does: nothing is asked after
a reading that failed, and nothing but a reading makes it fail. -/

namespace BrokerFleet

def Request.isRead : Request → Bool
  | .getCluster _ | .listClusters _ | .getStatefulSet _ | .getPod _ | .listPods _ _ | .getSecret _
  | .getConfigMap _ | .listConfigMaps _ _ => true
  | _ => false

/-- How a reading failed, if it did. -/
def Request.readFailure? : (r : Request) → r.Answer → Option Failure
  | .getCluster _, .error e => some e
  | .listClusters _, .error e => some e
  | .getStatefulSet _, .error e => some e
  | .getPod _, .error e => some e
  | .listPods _ _, .error e => some e
  | .getSecret _, .error e => some e
  | .getConfigMap _, .error e => some e
  | .listConfigMaps _ _, .error e => some e
  | _, _ => none

/-- Whether a reply says that the store could not be read. -/
def readFailed (x : surroundings.Reply) : Prop := (x.1.readFailure? x.2).isSome

instance : DecidablePred readFailed := fun _ => inferInstanceAs (Decidable (_ = true))

/-- The answer of surroundings in which nothing works and no one listens. -/
def Request.refusal : (r : Request) → r.Answer
  | .getCluster _ | .listClusters _ | .getStatefulSet _ | .getPod _ | .listPods _ _ | .getSecret _
  | .getConfigMap _ | .listConfigMaps _ _ | .createConfigMap _ _ | .deleteConfigMap _
  | .patchClusterStatus _ _ _ | .provision _ _ => .error (.api .unreadable)
  | .patchFinalizers _ _ => .error .unreadable
  | .call _ _ => .error (.transport "call" "connection refused")
  | .clock => ""
  | .send _ => false

/-- A course that reads until a reading fails, and comes to a value if none does. -/
inductive Reading {α : Type} : Course (Except Failure α) → Prop where
  | done (a : α) : Reading (.done (.ok a))
  | ask (r : Request) (next : r.Answer → Course (Except Failure α)) (hr : r.isRead)
      (hfailed : ∀ a e, r.readFailure? a = some e → next a = .done (.error e))
      (hread : ∀ a, r.readFailure? a = none → Reading (next a)) :
      Reading (.ask (I := surroundings) r next)

namespace Reading

variable {α β σ : Type}

/-! ## How such courses are made -/

theorem bind {t : Task α} {f : α → Task β} (ht : Reading t.run) (hf : ∀ a, Reading (f a).run) :
    Reading (t >>= f).run := by
  rw [ExceptT.run_bind]
  generalize t.run = c at ht ⊢
  induction ht with
  | done a => exact hf a
  | ask r next hr hfailed _ ih =>
    refine .ask r _ hr ?_ ih
    intro a e he
    rw [hfailed a e he]
    rfl

theorem pure (a : α) : Reading (Pure.pure a : Task α).run := .done a

theorem map {t : Task α} (f : α → β) (ht : Reading t.run) : Reading (f <$> t).run := by
  rw [map_eq_pure_bind]
  exact ht.bind fun a => .pure (f a)

theorem mapM {f : α → Task β} (hf : ∀ a, Reading (f a).run) (l : List α) :
    Reading (l.mapM f).run := by
  induction l with
  | nil => exact .pure []
  | cons a rest ih =>
    rw [List.mapM_cons]
    exact (hf a).bind fun b => ih.bind fun bs => .pure (b :: bs)

theorem foldlM {f : β → α → Task β} (hf : ∀ b a, Reading (f b a).run) (l : List α) (b : β) :
    Reading (l.foldlM f b).run := by
  induction l generalizing b with
  | nil => exact .pure b
  | cons a rest ih =>
    rw [List.foldlM_cons]
    exact (hf b a).bind ih

/-- One reading, whose answer is the outcome. -/
theorem request {r : Request} (hr : r.isRead) (outcome : r.Answer → Except Failure α)
    (hfailed : ∀ a e, r.readFailure? a = some e → outcome a = .error e)
    (hread : ∀ a, r.readFailure? a = none → ∃ v, outcome a = .ok v) :
    Reading (.ask (I := surroundings) r fun a => .done (outcome a)) := by
  refine .ask r _ hr (fun a e h => congrArg _ (hfailed a e h)) fun a h => ?_
  obtain ⟨v, hv⟩ := hread a h
  rw [hv]
  exact .done v

theorem getCluster (key : ObjectKey) : Reading (Task.getCluster key).run :=
  request (r := .getCluster key) rfl id (by rintro (_ | _) _ h <;> cases h; rfl)
    (by rintro (_ | found) h <;> cases h; exact ⟨found, rfl⟩)

theorem getStatefulSet (key : ObjectKey) : Reading (Task.getStatefulSet key).run :=
  request (r := .getStatefulSet key) rfl id (by rintro (_ | _) _ h <;> cases h; rfl)
    (by rintro (_ | set) h <;> cases h; exact ⟨set, rfl⟩)

theorem getPod (key : ObjectKey) : Reading (Task.getPod key).run :=
  request (r := .getPod key) rfl id (by rintro (_ | _) _ h <;> cases h; rfl)
    (by rintro (_ | pod) h <;> cases h; exact ⟨pod, rfl⟩)

theorem getSecret (key : ObjectKey) : Reading (Task.getSecret key).run :=
  request (r := .getSecret key) rfl id (by rintro (_ | _) _ h <;> cases h; rfl)
    (by rintro (_ | secret) h <;> cases h; exact ⟨secret, rfl⟩)

theorem listClusters (ns : Option String) : Reading (Task.listClusters ns).run :=
  request (r := .listClusters ns) rfl id (by rintro (_ | _) _ h <;> cases h; rfl)
    (by rintro (_ | clusters) h <;> cases h; exact ⟨clusters, rfl⟩)

/-! ## What they do -/

theorem asks {c : Course (Except Failure α)} (hc : Reading c) :
    c.Asks fun r : Request => r.isRead = true := by
  induction hc with
  | done a => trivial
  | ask r next hr hfailed _ ih =>
    refine ⟨hr, fun a => ?_⟩
    cases ha : r.readFailure? a with
    | none => exact ih a ha
    | some e =>
      rw [hfailed a e ha]
      trivial

/-- A reading course fails exactly when a reading did. -/
theorem error_iff {c : Course (Except Failure α)} (hc : Reading c) (h : Handler surroundings σ)
    (s : σ) : (∃ e, (c.run h s).1 = .error e) ↔ ∃ x ∈ c.transcript h s, readFailed x := by
  induction hc generalizing s with
  | done a => simp
  | ask r next hr hfailed _ ih =>
    simp only [Program.run, Program.transcript, List.mem_cons, exists_eq_or_imp]
    cases ha : r.readFailure? (h r s).1 with
    | none =>
      rw [ih _ ha]
      simp [readFailed, ha]
    | some e =>
      rw [hfailed _ e ha]
      simp [readFailed, ha]

/-- A reading course that fails comes to the failure of one of its readings. -/
theorem failure {c : Course (Except Failure α)} (hc : Reading c) {h : Handler surroundings σ}
    {s : σ} {e : Failure} (he : (c.run h s).1 = .error e) :
    ∃ x ∈ c.transcript h s, x.1.readFailure? x.2 = some e := by
  induction hc generalizing s with
  | done a => cases he
  | ask r next hr hfailed _ ih =>
    simp only [Program.run, Program.transcript, List.mem_cons, exists_eq_or_imp] at he ⊢
    cases ha : r.readFailure? (h r s).1 with
    | none => exact .inr (ih _ ha he)
    | some e' =>
      rw [hfailed _ e' ha] at he
      cases he
      exact .inl rfl

end Reading

end BrokerFleet
