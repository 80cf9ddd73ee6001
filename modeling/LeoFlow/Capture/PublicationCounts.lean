import LeoFlow.Capture.Publication
import LeoFlow.Capture.SpoolConcurrency

/-!
# LeoFlow.Capture.PublicationCounts — what `reconcile` attempts and counts

Every recording that was fetched for publication is published or deferred, and every one that was fetched for cleanup
or published is cleaned up or deferred.
-/

namespace LeoFlow

namespace Publication

/-- The counts are those of the recordings that were fetched. -/
structure Accounts (result : ReconciliationResult) (w : Log) : Prop where
  /-- the publisher was called once for every recording, in their order -/
  attempted : w.published = w.pending
  publications : ∃ published deferred, w.pending.Perm (published ++ deferred) ∧
    result.published = published.length ∧ w.cleanups = w.acknowledged ++ published ∧
    ∃ cleaned uncleaned, w.cleanups.Perm (cleaned ++ uncleaned) ∧ result.cleaned = cleaned.length ∧
      result.deferred = deferred.length + uncleaned.length ∧ result.errors.length = result.deferred

/-- The errors that end `reconcile`. -/
def Stopping (e : PyError) (w : Log) : Prop :=
  w.unfetched = some e ∨ w.unnoted = some e ∨ ¬e.kind.IsException

/-- What is promised of the outcome. -/
def Outcome (w : Log) : Except PyError ReconciliationResult → Prop
  | .ok result => Accounts result w
  | .error e => Stopping e w

def contract : Contract Unit Log where
  Inv w := ∀ r, w.returned = some r → Outcome w r
  -- the run is the only process
  Rely _ w w' := w = w'

variable {α : Type} {s : Log}

/-- The triple of a part of `reconcile`, from this log. -/
abbrev Holds (s : Log) (x : ReconcilerScript α) (Q : Except PyError α → Log → Prop) : Prop :=
  x.Meets contract (fun _ w q answer => some (Log.respond w q answer)) () Q fun w => w = s

theorem stable (A : Log → Prop) : contract.Stable () A := by
  rintro w w' _ _ rfl h
  exact h

/-- Any log before the outcome is recorded. -/
theorem inv_of_running {w : Log} (h : w.returned = none) : contract.Inv w := by
  intro r hr
  rw [h] at hr
  cases hr

theorem allows_of_inv {w w' : Log} (h : contract.Inv w') : contract.Allows () w w' :=
  ⟨h, fun _ hp => absurd rfl hp⟩

theorem holds_call (q : Call) (hrunning : ∀ a, (s.respond q a).returned = none) :
    Holds s (ask q) (Script.Yields fun a w => w = s.respond q a) := by
  refine Script.meets_ask (fun _ => stable _) ?_
  rintro w a w' _ rfl h
  cases h
  exact ⟨allows_of_inv (inv_of_running (hrunning a)), rfl⟩

theorem holds_attempt {Q : Except PyError α → Log → Prop} {x : ReconcilerScript (Except PyError α)}
    (hx : Holds s x (Script.Yields Q)) : Holds s (attempt x) Q := by
  refine Script.meets_bind hx ?_ fun _ _ _ h => False.elim h
  intro r
  cases r with
  | ok a => exact fun _ _ h => h
  | error e => exact fun _ _ h => h

/-- What is known at the end of a `try` block whose handler catches every `Exception`. -/
def Caught (Q : Except PyError α → Log → Prop) : Except PyError (Except PyError α) → Log → Prop
  | .ok r, w => Q r w
  | .error e, w => ¬e.kind.IsException ∧ Q (.error e) w

theorem holds_caught {Q : Except PyError α → Log → Prop} {x : ReconcilerScript α} (hx : Holds s x Q) :
    Holds s (caught x) (Caught Q) := by
  refine Script.meets_bind (Script.meets_result (R := Script.Yields Q) hx fun _ _ _ h => h) ?_ fun _ _ _ h => False.elim h
  intro r
  cases r with
  | ok a => exact Script.meets_pure fun _ _ h => h
  | error e =>
    show Script.Meets contract _ () (Caught Q) _ (if e.kind.IsException then pure (.error e) else .raise e)
    split
    · exact Script.meets_pure fun _ _ h => h
    · rename_i he
      exact Script.meets_raise fun _ _ h => ⟨he, h⟩

/-! ## One recording -/

/-- The log after a part, which may also end the run. -/
def After (w₁ : Log) : Except PyError α → Log → Prop
  | .ok _, w => w = w₁
  | .error e, w => w.returned = none ∧ Stopping e w

theorem holds_cleanupEntry (hrunning : s.returned = none) (recording : CompletedLocalRecording) :
    Holds s (cleanupEntry openPorts recording) (After { s with cleanups := s.cleanups ++ [recording] }) := by
  have hbody : Holds s (do
      openPorts.cleanup recording
      openPorts.mark_cleaned recording.val.recording_id)
        fun _ w => w = { s with cleanups := s.cleanups ++ [recording] } := by
    refine Script.meets_bind (holds_attempt (holds_call (.cleanup recording) fun _ => hrunning)) (fun _ => ?_)
      fun _ _ _ h => h
    refine (holds_attempt (holds_call (s := { s with cleanups := s.cleanups ++ [recording] })
      (.mark_cleaned recording.val.recording_id) fun _ => hrunning)).weaken (fun _ _ h => h) fun _ _ _ h => h
  refine Script.meets_bind (holds_caught hbody) ?_ ?_
  · intro r
    cases r <;> exact Script.meets_pure fun _ _ h => h
  · rintro e w _ ⟨he, rfl⟩
    exact ⟨hrunning, .inr (.inr he)⟩

theorem holds_publishChecked (hrunning : s.returned = none) (recording : CompletedLocalRecording) :
    Holds s (publishChecked openPorts recording) fun _ w => w = { s with published := s.published ++ [recording] } := by
  refine Script.meets_bind (holds_attempt (holds_call (.publish recording _) fun _ => hrunning)) ?_ fun _ _ _ h => h
  intro published
  cases hvalid : validate_publication recording published with
  | ok _ => exact Script.meets_pure fun _ _ h => h
  | error e => exact Script.meets_raise fun _ _ h => h

theorem holds_publishEntry (hrunning : s.returned = none) (recording : CompletedLocalRecording) :
    Holds s (publishEntry openPorts recording) (After { s with published := s.published ++ [recording] }) := by
  have hafter : ({ s with published := s.published ++ [recording] } : Log).returned = none := hrunning
  refine Script.meets_bind (holds_caught (holds_publishChecked hrunning recording)) ?_ ?_
  · intro r
    cases r with
    | error e =>
      -- the handler
      refine Script.meets_bind ((holds_attempt (holds_call (.note_publish_attempt recording.val.recording_id
        (publication_idempotency_key recording) (some (str (e.kind.name ++ ": " ++ e.message)))) ?_)).weaken
          (fun _ _ h => h) fun _ _ _ h => h) (fun _ => Script.meets_pure fun _ _ h => h) ?_
      · intro a
        cases a <;> exact hrunning
      · rintro e' w _ rfl
        exact ⟨hrunning, .inr (.inl rfl)⟩
    | ok published =>
      have hbody : Holds { s with published := s.published ++ [recording] } (do
          openPorts.note_publish_attempt recording.val.recording_id (publication_idempotency_key recording) none
          openPorts.acknowledge recording published (publication_idempotency_key recording))
            fun _ w => w = { s with published := s.published ++ [recording] } := by
        refine Script.meets_bind (holds_attempt (holds_call (.note_publish_attempt recording.val.recording_id
          (publication_idempotency_key recording) none) fun _ => hafter)) (fun _ => ?_) fun _ _ _ h => h
        exact holds_attempt (holds_call (.acknowledge recording published (publication_idempotency_key recording))
          fun _ => hafter)
      refine Script.meets_bind (holds_caught hbody) ?_ ?_
      · intro r
        cases r <;> exact Script.meets_pure fun _ _ h => h
      · rintro e w _ ⟨he, rfl⟩
        exact ⟨hrunning, .inr (.inr he)⟩
  · rintro e w _ ⟨he, rfl⟩
    exact ⟨hrunning, .inr (.inr he)⟩

/-! ## The loops -/

/-- What the loop over the acknowledged recordings adds. -/
structure CleanedUp (recordings : List CompletedLocalRecording) (before after : ReconciliationResult) : Prop where
  published : after.published = before.published
  counts : ∃ cleaned uncleaned, recordings.Perm (cleaned ++ uncleaned) ∧
    after.cleaned = before.cleaned + cleaned.length ∧ after.deferred = before.deferred + uncleaned.length
  errors : after.errors.length + before.deferred = before.errors.length + after.deferred

variable {recording : CompletedLocalRecording} {recordings : List CompletedLocalRecording}
  {before after : ReconciliationResult}

theorem cleanedUp_cons {failure : Option PyError}
    (h : CleanedUp recordings (afterCleanup before recording failure) after) :
    CleanedUp (recording :: recordings) before after := by
  obtain ⟨hpublished, ⟨cleaned, uncleaned, hperm, hcleaned, hdeferred⟩, herrors⟩ := h
  cases failure with
  | none =>
    refine ⟨hpublished, ⟨recording :: cleaned, uncleaned, hperm.cons recording, ?_, hdeferred⟩, herrors⟩
    simp only [afterCleanup] at hcleaned
    simp only [List.length_cons]
    omega
  | some e =>
    simp only [afterCleanup, deferEntry, List.length_append, List.length_singleton] at hpublished hcleaned hdeferred herrors
    refine ⟨hpublished, ⟨cleaned, recording :: uncleaned, (hperm.cons recording).trans List.perm_middle.symm,
      hcleaned, ?_⟩, ?_⟩
    · simp only [List.length_cons]
      omega
    · omega

theorem holds_cleanupAll (recordings : List CompletedLocalRecording) (counts : ReconciliationResult)
    {s : Log} (hrunning : s.returned = none) :
    Holds s (cleanupAll openPorts recordings counts) fun r w => match r with
      | .ok counts' => CleanedUp recordings counts counts' ∧ w = { s with cleanups := s.cleanups ++ recordings }
      | .error e => w.returned = none ∧ Stopping e w := by
  induction recordings generalizing counts s with
  | nil =>
    refine Script.meets_pure ?_
    rintro w _ rfl
    exact ⟨⟨rfl, ⟨[], [], .nil, rfl, rfl⟩, rfl⟩, by simp⟩
  | cons recording recordings ih =>
    refine Script.meets_bind (holds_cleanupEntry hrunning recording) (fun failure => ?_) fun _ _ _ h => h
    refine (ih (afterCleanup counts recording failure) (s := { s with cleanups := s.cleanups ++ [recording] })
      hrunning).weaken (fun _ _ h => h) ?_
    intro r w _ h
    cases r with
    | error e => exact h
    | ok counts' =>
      obtain ⟨hcounts, rfl⟩ := h
      exact ⟨cleanedUp_cons hcounts, by simp⟩

/-- What the loop over the pending recordings adds. -/
structure Published (recordings published : List CompletedLocalRecording) (before after : ReconciliationResult) : Prop where
  counts : ∃ deferred cleaned uncleaned, recordings.Perm (published ++ deferred) ∧ published.Perm (cleaned ++ uncleaned) ∧
    after.published = before.published + published.length ∧ after.cleaned = before.cleaned + cleaned.length ∧
    after.deferred = before.deferred + (deferred.length + uncleaned.length)
  errors : after.errors.length + before.deferred = before.errors.length + after.deferred

theorem published_deferred {published : List CompletedLocalRecording} {operation : String} {e : PyError}
    (h : Published recordings published (deferEntry before recording operation e) after) :
    Published (recording :: recordings) published before after := by
  obtain ⟨⟨deferred, cleaned, uncleaned, hperm, hpublished, hcount, hcleaned, hdeferred⟩, herrors⟩ := h
  simp only [deferEntry, List.length_append, List.length_singleton] at hcount hcleaned hdeferred herrors
  refine ⟨⟨recording :: deferred, cleaned, uncleaned, (hperm.cons recording).trans List.perm_middle.symm, hpublished,
    hcount, hcleaned, ?_⟩, ?_⟩
  · simp only [List.length_cons]
    omega
  · omega

theorem published_cons {published : List CompletedLocalRecording} {failure : Option PyError}
    (h : Published recordings published (afterCleanup { before with published := before.published + 1 } recording failure) after) :
    Published (recording :: recordings) (recording :: published) before after := by
  obtain ⟨⟨deferred, cleaned, uncleaned, hperm, hpublished, hcount, hcleaned, hdeferred⟩, herrors⟩ := h
  cases failure with
  | none =>
    simp only [afterCleanup] at hcount hcleaned hdeferred herrors
    refine ⟨⟨deferred, recording :: cleaned, uncleaned, hperm.cons recording, hpublished.cons recording, ?_, ?_,
      hdeferred⟩, herrors⟩
    · simp only [List.length_cons]
      omega
    · simp only [List.length_cons]
      omega
  | some e =>
    simp only [afterCleanup, deferEntry, List.length_append, List.length_singleton] at hcount hcleaned hdeferred herrors
    refine ⟨⟨deferred, cleaned, recording :: uncleaned, hperm.cons recording,
      (hpublished.cons recording).trans List.perm_middle.symm, ?_, hcleaned, ?_⟩, ?_⟩
    · simp only [List.length_cons]
      omega
    · simp only [List.length_cons]
      omega
    · omega

theorem holds_publishAll (recordings : List CompletedLocalRecording) (counts : ReconciliationResult)
    {s : Log} (hrunning : s.returned = none) :
    Holds s (publishAll openPorts recordings counts) fun r w => match r with
      | .ok counts' => ∃ published, Published recordings published counts counts' ∧
          w = { s with published := s.published ++ recordings, cleanups := s.cleanups ++ published }
      | .error e => w.returned = none ∧ Stopping e w := by
  induction recordings generalizing counts s with
  | nil =>
    refine Script.meets_pure ?_
    rintro w _ rfl
    exact ⟨[], ⟨⟨[], [], [], .nil, .nil, rfl, rfl, rfl⟩, rfl⟩, by simp⟩
  | cons recording recordings ih =>
    refine Script.meets_bind (holds_publishEntry hrunning recording) ?_ fun _ _ _ h => h
    intro outcome
    cases outcome with
    | some failed =>
      refine (ih (deferEntry counts recording failed.1 failed.2)
        (s := { s with published := s.published ++ [recording] }) hrunning).weaken (fun _ _ h => h) ?_
      intro r w _ h
      cases r with
      | error e => exact h
      | ok counts' =>
        obtain ⟨published, hcounts, rfl⟩ := h
        exact ⟨published, published_deferred hcounts, by simp⟩
    | none =>
      refine Script.meets_bind (holds_cleanupEntry (s := { s with published := s.published ++ [recording] })
        hrunning recording) (fun failure => ?_) fun _ _ _ h => h
      refine (ih (afterCleanup { counts with published := counts.published + 1 } recording failure)
        (s := { s with published := s.published ++ [recording], cleanups := s.cleanups ++ [recording] })
        hrunning).weaken (fun _ _ h => h) ?_
      intro r w _ h
      cases r with
      | error e => exact h
      | ok counts' =>
        obtain ⟨published, hcounts, rfl⟩ := h
        exact ⟨recording :: published, published_cons hcounts, by simp⟩

/-! ## The run -/

theorem holds_fetchPending (hrunning : s.returned = none) (hpending : s.pending = []) (remaining : Nat) :
    Holds s (fetchPending openPorts remaining) fun r w => match r with
      | .ok pending => w = { s with pending := pending }
      | .error e => w.returned = none ∧ Stopping e w := by
  unfold fetchPending
  split
  · refine Script.meets_pure ?_
    rintro w _ rfl
    rw [← hpending]
  · refine (holds_attempt (holds_call (.pending_publication remaining) ?_)).weaken (fun _ _ h => h) ?_
    · intro a
      cases a <;> exact hrunning
    · intro r w _ h
      cases r with
      | ok pending => exact h
      | error e =>
        cases h
        exact ⟨hrunning, .inl rfl⟩

theorem holds_reconcile {limit : Int} (hlimit : 0 < limit) :
    Holds initial (reconcile openPorts limit) fun r w => w.returned = none ∧ Outcome w r := by
  unfold reconcile
  rw [if_neg (not_le.2 hlimit)]
  have hcleanup : Holds initial (openPorts.pending_cleanup limit.toNat) fun r w => match r with
      | .ok acknowledged => w = { initial with acknowledged := acknowledged }
      | .error e => w.returned = none ∧ Stopping e w := by
    refine (holds_attempt (holds_call (.pending_cleanup limit.toNat) ?_)).weaken (fun _ _ h => h) ?_
    · intro a
      cases a <;> rfl
    · intro r w _ h
      cases r with
      | ok pending => exact h
      | error e =>
        cases h
        exact ⟨rfl, .inl rfl⟩
  refine Script.meets_bind hcleanup ?_ fun _ _ _ h => h
  intro acknowledged
  refine Script.meets_bind (holds_cleanupAll acknowledged ⟨0, 0, 0, []⟩ (s := { initial with acknowledged := acknowledged })
    rfl) ?_ fun _ _ _ h => h
  intro counts
  -- the counts of the first loop do not depend on the log
  by_cases hcounts : CleanedUp acknowledged ⟨0, 0, 0, []⟩ counts
  swap
  · exact Script.meets_absurd fun _ _ h => hcounts h.1
  refine Script.meets_bind ((holds_fetchPending (s := { initial with
    acknowledged := acknowledged
    cleanups := acknowledged }) rfl rfl _).weaken (fun _ _ h => h.2) fun _ _ _ h => h) ?_ fun _ _ _ h => h
  intro pending
  refine (holds_publishAll pending counts (s := { initial with
    acknowledged := acknowledged
    cleanups := acknowledged
    pending := pending }) rfl).weaken (fun _ _ h => h) ?_
  intro r w _ h
  cases r with
  | error e => exact h
  | ok counts' =>
    obtain ⟨published, ⟨⟨deferred, cleaned', uncleaned', hperm, hsplit, hpublished, hcleaned', hdeferred'⟩, herrors'⟩, rfl⟩ := h
    obtain ⟨hzero, ⟨cleaned, uncleaned, hacknowledged, hcleaned, hdeferred⟩, herrors⟩ := hcounts
    simp only [List.length_nil] at hzero hcleaned hdeferred herrors
    refine ⟨rfl, rfl, published, deferred, hperm, by omega, rfl, cleaned ++ cleaned', uncleaned ++ uncleaned', ?_, ?_, ?_, ?_⟩
    · -- both loops clean up
      refine (hacknowledged.append hsplit).trans ?_
      rw [List.append_assoc, List.append_assoc]
      refine List.Perm.append_left cleaned ?_
      rw [← List.append_assoc, ← List.append_assoc]
      exact List.perm_append_comm.append_right uncleaned'
    · simp only [List.length_append]
      omega
    · simp only [List.length_append]
      omega
    · omega

theorem sound : Setting.Sound setting contract fun _ _ _ => True where
  enter := by
    intro _ limit w w' _ h
    simp only [setting] at h
    split at h
    · rename_i hlimit
      cases h
      refine ⟨allows_of_inv (inv_of_running rfl), fun w => w = initial, stable _, rfl, ?_⟩
      refine Script.meets_bind (Script.meets_result (R := Script.Yields fun r (w : Log) => w.returned = none ∧ Outcome w r)
        (holds_reconcile hlimit) fun _ _ _ h => h) ?_ fun _ _ _ _ => trivial
      intro result
      have hreturn : Script.Meets contract setting.respond () (Script.Yields fun _ _ => True)
          (fun w => w.returned = none ∧ Outcome w result) (ask (.returned result)) := by
        refine Script.meets_ask (fun _ => stable _) ?_
        rintro w _ w' _ ⟨_, houtcome⟩ hrespond
        cases hrespond
        refine ⟨allows_of_inv ?_, trivial⟩
        intro r hr
        cases hr
        cases result with
        | ok counts => exact { houtcome with }
        | error e => exact houtcome
      exact hreturn.weaken (fun _ _ h => h) fun _ _ _ _ => trivial
    · cases h
  leave := fun _ _ _ hw _ => allows_of_inv hw
  die := fun _ _ hw => allows_of_inv hw
  move := nofun

/-- One recording is pending, and the cleaner raises. -/
def dirtyAnswers : ∀ q : Call, q.Answer
  | .pending_cleanup _ => .ok []
  | .pending_publication _ => .ok [SpoolConcurrency.emptyRecording]
  | .publish .. => .ok {
      recording_object := {
        val := {
          recording_id := SpoolConcurrency.emptyRecording.val.recording_id
          data_object := ⟨⟨Digest.sha256 (List.replicate 16 0), 16, str "application/octet-stream", str "sigmf-data", str "data"⟩, by decide +kernel⟩
          metadata_object := ⟨⟨Digest.sha256 [123, 125], 2, str "application/json", str "sigmf-meta", str "metadata"⟩, by decide +kernel⟩
          manifest_digest := SpoolConcurrency.emptyRecording.val.manifest_digest }
        ok := by decide +kernel } }
  | .note_publish_attempt .. | .acknowledge .. | .mark_cleaned _ => .ok ()
  | .cleanup _ => .error ⟨.os_error, "busy"⟩
  | .returned _ => ()

def dirtyRun : List (Setting.Label Unit Int Empty Call Call.Answer) :=
  .start () 100 :: List.replicate 7 (.step () dirtyAnswers)

theorem reachable_dirtyRun : ∃ st, machine.Reachable st ∧ st.world.pending.length = 1 ∧ st.world.acknowledged = [] ∧
    ∃ result, st.world.returned = some (.ok result) ∧ result.published = 1 ∧ result.deferred = 1 := by
  have hrun : ((machine.run ⟨initial, fun _ => none⟩ dirtyRun).map fun st =>
      (st.world.pending.length, st.world.acknowledged.length,
        (st.world.returned.bind Except.toOption).map fun result => (result.published, result.deferred))) =
          some (1, 0, some (1, 1)) := by
    decide +kernel
  obtain ⟨st, hst, h⟩ := Option.map_eq_some_iff.1 hrun
  obtain ⟨hpending, h⟩ := Prod.mk.inj h
  obtain ⟨hacknowledged, h⟩ := Prod.mk.inj h
  obtain ⟨result, hresult, hcounts⟩ := Option.map_eq_some_iff.1 h
  obtain ⟨r, hreturned, hok⟩ := Option.bind_eq_some_iff.1 hresult
  cases r with
  | error e => cases hok
  | ok counts =>
    cases hok
    obtain ⟨hpublished, hdeferred⟩ := Prod.mk.inj hcounts
    exact ⟨st, machine.run_reachable (.init ⟨rfl, rfl⟩) hst, hpending, List.eq_nil_of_length_eq_zero hacknowledged,
      result, hreturned, hpublished, hdeferred⟩

end Publication

end LeoFlow
