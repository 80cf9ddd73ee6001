import LeoFlow.Contracts.Validation
import LeoFlow.Core.Machine
import LeoFlow.Dwell.Queue

/-!
# LeoFlow.Dwell.Safety — what the dwell functions can do to a request

Each call of a dwell function is one step of the tables; a call that raises
changes nothing. `Effect` lists everything a call can do to one job row, with the guards of
the source; the safety theorem reads it in exact nanoseconds, where each
database conversion costs at most `toleranceNs`. No order of the clock readings is
assumed.
-/

namespace LeoFlow

open Postgres

inductive DwellCall (J : Type) where
  | publish (p : DwellPublication J) (authoritative : Bool)
  | claim (station_id radio_id lease_token : PyStr) (ttl : Int) (locked : List JobId)
      (swept parked_at now later : Int)
  | heartbeat (job_id : JobId) (lease_token : PyStr) (generation ttl now later : Int)
  | complete (job_id : JobId) (lease_token : PyStr) (generation : Int)
      (result_ref : DwellResultRef) (now : Int)
  | fail (job_id : JobId) (lease_token : PyStr) (generation : Int) (reason : PyStr)
      (retry_at_utc now : Int)
  | park (job_id : JobId) (lease_token : PyStr) (generation : Int) (reason : PyStr)
      (now later : Int)

/-- The clock readings of a call. -/
def DwellCall.readings {J : Type} : DwellCall J → List Int
  | .publish _ _ => []
  | .claim _ _ _ _ _ swept parked_at now later => [swept, parked_at, now, later]
  | .heartbeat _ _ _ _ now later => [now, later]
  | .complete _ _ _ _ now => [now]
  | .fail _ _ _ _ _ now => [now]
  | .park _ _ _ _ now later => [now, later]

/-- The lease a call acts under, and the clock reading it is checked at. -/
def DwellCall.lease {J : Type} : DwellCall J → Option (JobId × PyStr × Int × Int)
  | .heartbeat job_id lease_token generation _ now _ => some (job_id, lease_token, generation, now)
  | .complete job_id lease_token generation _ now => some (job_id, lease_token, generation, now)
  | .fail job_id lease_token generation _ _ now => some (job_id, lease_token, generation, now)
  | .park job_id lease_token generation _ now _ => some (job_id, lease_token, generation, now)
  | .publish .. | .claim .. => none

namespace DwellTables

variable {J : Type}

/-- The tables a function returns, if it does not raise. -/
def committed {α : Type} (q : DwellTables J) (r : Except DwellSqlError (DwellTables J × α)) :
    DwellTables J :=
  match r with
  | .ok (q', _) => q'
  | .error _ => q

/-- The tables after a call. -/
def call [DecidableEq J] (q : DwellTables J) : DwellCall J → DwellTables J
  | .publish p authoritative => q.committed (q.publish_dwell_request p authoritative)
  | .claim station_id radio_id lease_token ttl locked swept parked_at now later =>
    q.committed (q.claim_dwell_request station_id radio_id lease_token ttl locked swept parked_at
      now later)
  | .heartbeat job_id lease_token generation ttl now later =>
    q.committed (q.heartbeat_dwell_request job_id lease_token generation ttl now later)
  | .complete job_id lease_token generation result_ref now =>
    q.committed (q.complete_dwell_request job_id lease_token generation result_ref now)
  | .fail job_id lease_token generation reason retry_at_utc now =>
    q.committed (q.fail_dwell_request job_id lease_token generation reason retry_at_utc now)
  | .park job_id lease_token generation reason now later =>
    q.committed (q.park_dwell_request job_id lease_token generation reason now later)

/-- The dwell functions over initially empty tables. -/
def machine (J : Type) [DecidableEq J] : Machine (DwellTables J) (DwellCall J) where
  Init q := q = empty
  step q c := some (q.call c)

/-! ## One row under one call -/

/-- Everything a call can do to the row `id`, from the row and its ingress row before. -/
inductive Effect (q : DwellTables J) (c : DwellCall J) (id : JobId) :
    Option (DwellJob J) → Prop where
  | same : Effect q c id (q.job id)
  | published (p : DwellPublication J) (available_at_utc : Int) (hc : c.lease = none)
    (hnone : q.job id = none) :
    Effect q c id (some (.published p available_at_utc))
  /-- the first statement of a claim -/
  | expired (j : DwellJob J) (later : Int) (hc : c.lease = none) (hj : q.job id = some j)
    (hopen : ¬j.Terminal) :
    Effect q c id (some (j.park (str "request_expired") later requestExpired_isParkReason))
  | claimed (j : DwellJob J) (d : DwellIngressRow) (lease_token : PyStr)
    (now ns expires capped : Int) (hc : c.lease = none) (hj : q.job id = some j)
    (hd : q.ingressOf id = some d) (hopen : ¬j.Terminal) (hnow : now ∈ c.readings)
    (hns : epoch_ns now = some ns) (hissued : d.issued_utc_ns ≤ ns)
    (hexpires : ns < d.expires_utc_ns) (hcap : to_timestamp d.expires_utc_ns = some expires)
    (hle : capped ≤ expires) :
    Effect q c id (some (j.claim lease_token capped hopen))
  | extended (j : DwellJob J) (d : DwellIngressRow) (lease_token : PyStr)
    (generation now ns expires capped : Int) (hc : c.lease = some (id, lease_token, generation, now))
    (hj : q.job id = some j) (hd : q.ingressOf id = some d)
    (h : j.activeLease lease_token generation now) (hns : epoch_ns now = some ns)
    (hexpires : ns < d.expires_utc_ns) (hcap : to_timestamp d.expires_utc_ns = some expires)
    (hle : capped ≤ expires) :
    Effect q c id (some (j.heartbeat capped h.1))
  | completed (j : DwellJob J) (d : DwellIngressRow) (lease_token : PyStr)
    (generation now ns : Int) (result_ref : DwellResultRef)
    (hc : c.lease = some (id, lease_token, generation, now)) (hj : q.job id = some j)
    (hd : q.ingressOf id = some d) (h : j.activeLease lease_token generation now)
    (hns : epoch_ns now = some ns) (hexpires : ns < d.expires_utc_ns) :
    Effect q c id (some (j.complete result_ref h.1))
  | failed (j : DwellJob J) (d : DwellIngressRow) (lease_token reason : PyStr)
    (generation now retry_at_utc expires : Int)
    (hc : c.lease = some (id, lease_token, generation, now)) (hj : q.job id = some j)
    (hd : q.ingressOf id = some d) (h : j.activeLease lease_token generation now)
    (hcap : to_timestamp d.expires_utc_ns = some expires) (hnow : now < expires) :
    Effect q c id (some (j.fail reason retry_at_utc h.1))
  | parked (j : DwellJob J) (lease_token reason : PyStr) (generation now later : Int)
    (hreason : IsParkReason reason) (hc : c.lease = some (id, lease_token, generation, now))
    (hj : q.job id = some j) (h : j.activeLease lease_token generation now) :
    Effect q c id (some (j.park reason later hreason))

/-- What every call meets. -/
structure CallSpec (q : DwellTables J) (c : DwellCall J) (q' : DwellTables J) : Prop where
  row : ∀ id, Effect q c id (q'.job id)
  /-- ingress rows are immutable -/
  kept : ∀ id d, q.ingressOf id = some d → q'.ingressOf id = some d
  /-- a new job has its ingress row -/
  joined : ∀ id, q.job id = none → q'.job id ≠ none → q'.ingressOf id ≠ none

theorem callSpec_self (q : DwellTables J) (c : DwellCall J) : CallSpec q c q where
  row _ := .same
  kept _ _ h := h
  joined _ hnone hsome := absurd hnone hsome

variable {q : DwellTables J} {c : DwellCall J} {id : JobId}

/-- One row changes to what the call may make of it. -/
theorem callSpec_setJob {j j' : DwellJob J} (hj : q.job id = some j) (h : Effect q c id (some j')) : CallSpec q c (q.setJob id j') where
  row id' := by
    rw [job_setJob]
    split
    · rename_i hid
      rw [hid]
      exact h
    · exact .same
  kept _ _ h := h
  joined id' hnone hsome := by
    rw [job_setJob] at hsome
    split at hsome
    · rename_i hid
      rw [hid, hj] at hnone
      cases hnone
    · exact absurd hnone hsome

/-! ### The fenced updates -/

variable {job_id : JobId} {lease_token : PyStr} {generation now : Int}

/-- A fenced update changes the row of its lease and no other. -/
theorem updateActive_spec
    {update : DwellIngressRow → (j : DwellJob J) → j.state = .leased → Except DwellSqlError (Option (DwellJob J))}
    (heffect : ∀ j d j', q.job job_id = some j → q.ingressOf job_id = some d → ∀ h : j.activeLease lease_token generation now, update d j h.1 = .ok (some j') → Effect q c job_id (some j')) :
    CallSpec q c (q.committed (q.updateActive job_id lease_token generation now update)) := by
  unfold updateActive
  split
  · rename_i j d hj hd
    split
    · rename_i h
      split
      · exact q.callSpec_self c
      · exact q.callSpec_self c
      · rename_i j' hupdate
        exact callSpec_setJob hj (heffect j d j' hj hd h hupdate)
    · exact q.callSpec_self c
  · exact q.callSpec_self c

variable {d : DwellIngressRow}

theorem leaseExpiry_ok {ttl later capped : Int} (h : leaseExpiry d ttl later = .ok capped) :
    ∃ expires, to_timestamp d.expires_utc_ns = some expires ∧ capped ≤ expires := by
  unfold leaseExpiry at h
  split at h
  · cases h
  · rename_i expires hexpires
    cases h
    exact ⟨expires, hexpires, min_le_right _ _⟩

theorem unexpired_ok (h : unexpired d now = .ok true) :
    ∃ ns, epoch_ns now = some ns ∧ ns < d.expires_utc_ns := by
  unfold unexpired at h
  split at h
  · cases h
  · rename_i ns hns
    exact ⟨ns, hns, of_decide_eq_true (Except.ok.inj h)⟩

theorem heartbeat_spec (q : DwellTables J) {ttl later : Int}
    (hc : c.lease = some (job_id, lease_token, generation, now)) :
    CallSpec q c
      (q.committed (q.heartbeat_dwell_request job_id lease_token generation ttl now later)) := by
  apply updateActive_spec
  intro j d j' hj hd h hupdate
  obtain ⟨fresh, hfresh, hupdate⟩ := bind_ok.1 hupdate
  split at hupdate
  · rename_i hguard
    obtain ⟨capped, hcapped, hupdate⟩ := bind_ok.1 hupdate
    cases hupdate
    obtain ⟨ns, hns, hexpires⟩ := unexpired_ok (hguard.1 ▸ hfresh)
    obtain ⟨expires, hcap, hle⟩ := leaseExpiry_ok hcapped
    exact .extended j d lease_token generation now ns expires capped hc hj hd h hns hexpires hcap hle
  · cases hupdate

theorem complete_spec (q : DwellTables J) {result_ref : DwellResultRef}
    (hc : c.lease = some (job_id, lease_token, generation, now)) :
    CallSpec q c
      (q.committed (q.complete_dwell_request job_id lease_token generation result_ref now)) := by
  apply updateActive_spec
  intro j d j' hj hd h hupdate
  obtain ⟨fresh, hfresh, hupdate⟩ := bind_ok.1 hupdate
  split at hupdate
  · rename_i hguard
    cases hupdate
    obtain ⟨ns, hns, hexpires⟩ := unexpired_ok (hguard.1 ▸ hfresh)
    exact .completed j d lease_token generation now ns result_ref hc hj hd h hns hexpires
  · cases hupdate

theorem fail_spec (q : DwellTables J) {reason : PyStr} {retry_at_utc : Int}
    (hc : c.lease = some (job_id, lease_token, generation, now)) :
    CallSpec q c
      (q.committed (q.fail_dwell_request job_id lease_token generation reason retry_at_utc now)) := by
  apply updateActive_spec
  intro j d j' hj hd h hupdate
  split at hupdate
  · cases hupdate
  · rename_i expires hcap
    split at hupdate
    · rename_i hguard
      cases hupdate
      exact .failed j d lease_token reason generation now retry_at_utc expires hc hj hd h hcap
        (hguard.2.1.trans hguard.2.2)
    · cases hupdate

theorem park_spec (q : DwellTables J) {reason : PyStr} {later : Int}
    (hc : c.lease = some (job_id, lease_token, generation, now)) :
    CallSpec q c
      (q.committed (q.park_dwell_request job_id lease_token generation reason now later)) := by
  apply updateActive_spec
  intro j d j' hj hd h hupdate
  split at hupdate
  · rename_i hreason
    cases hupdate
    exact .parked j lease_token reason generation now later hreason hc hj h
  · cases hupdate

/-! ### Claims -/

@[simp] theorem job_parkExpired (q : DwellTables J) (station_id radio_id : PyStr)
    (now ns later : Int) (id : JobId) :
    (q.parkExpired station_id radio_id now ns later).job id = (q.job id).map fun j =>
      if (∃ d ∈ q.routed station_id radio_id id, d.expires_utc_ns ≤ ns) ∧ j.free now then
        j.park (str "request_expired") later requestExpired_isParkReason
      else j := by
  simp [job, parkExpired]

/-- The first statement of a claim leaves a row, or parks it. -/
theorem parkExpired_spec (hc : c.lease = none) (station_id radio_id : PyStr) (now ns later : Int) :
    CallSpec q c (q.parkExpired station_id radio_id now ns later) where
  row id := by
    rw [job_parkExpired]
    have hsame : Effect q c id (q.job id) := .same
    cases hj : q.job id with
    | none =>
      rw [Option.map_none]
      rwa [hj] at hsame
    | some j =>
      rw [Option.map_some]
      split
      · rename_i h
        exact .expired j later hc hj (DwellJob.not_terminal_of_free h.2)
      · rwa [hj] at hsame
  kept _ _ h := h
  joined id hnone hsome := by
    rw [job_parkExpired, hnone] at hsome
    exact absurd rfl hsome

/-- The second statement claims a row that the first left as it was. -/
theorem claimCandidate_spec (hc : c.lease = none) (station_id radio_id lease_token : PyStr) (ttl : Int)
    (locked : List JobId) (swept swept_ns parked_at ns later : Int) (hnow : now ∈ c.readings)
    (hns : epoch_ns now = some ns) :
    CallSpec q c (q.committed
      ((q.parkExpired station_id radio_id swept swept_ns parked_at).claimCandidate station_id
        radio_id lease_token ttl locked now ns later)) := by
  have hswept := parkExpired_spec (q := q) hc station_id radio_id swept swept_ns parked_at
  set q₁ := q.parkExpired station_id radio_id swept swept_ns parked_at with hq₁
  unfold claimCandidate
  split
  · exact hswept
  · rename_i id j hcandidate
    obtain ⟨hj₁, ⟨d, hrouted, hissued, hexpires⟩, _, hfree⟩ := candidate_ok hcandidate
    split
    · exact hswept
    · rename_i d' hd'
      split
      · exact q.callSpec_self c
      · rename_i capped hcapped
        split
        · exact q.callSpec_self c
        -- the row was not parked just before: a parked row is not free
        have hj : q.job id = some j := by
          rw [hq₁, job_parkExpired] at hj₁
          obtain ⟨j₀, hj₀, heq⟩ := Option.map_eq_some_iff.1 hj₁
          split at heq
          · rw [← heq] at hfree
            exact absurd (Or.inr rfl) (DwellJob.not_terminal_of_free hfree)
          · rw [hj₀, heq]
        obtain ⟨expires, hcap, hle⟩ := leaseExpiry_ok hcapped
        have hd : d' = d := by
          have hmem := Option.mem_filter_iff.1 hrouted
          rw [Option.mem_def, hd'] at hmem
          exact Option.some.inj hmem.1
        subst hd
        exact
          { row := by
              intro id'
              simp only [committed, job_setJob]
              split
              · rename_i hid
                rw [hid]
                exact .claimed j d' lease_token now ns expires capped hc hj hd'
                  (DwellJob.not_terminal_of_free hfree) hnow hns hissued hexpires hcap hle
              · exact hswept.row id'
            kept := hswept.kept
            joined := by
              intro id' hnone hsome
              simp only [committed, job_setJob] at hsome
              split at hsome
              · rename_i hid
                rw [hid, hj] at hnone
                cases hnone
              · exact hswept.joined id' hnone hsome }

/-! ### Publications -/

theorem ingressOf_eq_none :
    q.ingressOf id = none ↔ ∀ d ∈ q.ingress, d.job_id ≠ id := by
  simp [ingressOf, List.find?_eq_none]

theorem mem_of_ingressOf (h : q.ingressOf id = some d) : d ∈ q.ingress ∧ d.job_id = id :=
  ⟨List.mem_of_find?_eq_some h, by simpa using List.find?_some h⟩

/-- An insertion joins its own job, and keeps the ingress rows of the others. -/
theorem ingressOf_insertIngress (h : q.conflicts d.toDwellIngress = []) (id : JobId) :
    (q.insertIngress d h).ingressOf id = if d.job_id = id then some d else q.ingressOf id := by
  simp only [ingressOf, insertIngress, List.find?_cons]
  split <;> simp_all

theorem publishIngress_spec {q' : DwellTables J} {r : Bool} (h : q.publishIngress d = .ok (q', r)) :
    (∀ id, q'.job id = q.job id) ∧ (∀ id d', q.ingressOf id = some d' → q'.ingressOf id = some d') ∧
      q'.ingressOf d.job_id ≠ none := by
  unfold publishIngress at h
  split at h
  · rename_i hconflicts
    cases h
    refine ⟨fun _ => rfl, ?_, ?_⟩
    · intro id d' hd'
      rw [ingressOf_insertIngress, if_neg]
      · exact hd'
      · rintro rfl
        obtain ⟨hrow, hjob⟩ := mem_of_ingressOf hd'
        exact not_clashes_of_conflicts hconflicts d' hrow (Or.inr (Or.inl hjob.symm))
    · rw [ingressOf_insertIngress, if_pos rfl]
      exact Option.some_ne_none d
  · rename_i row hconflicts
    split at h
    · rename_i hexact
      cases h
      refine ⟨fun _ => rfl, fun _ _ h => h, ?_⟩
      -- the row found is the one of this publication
      rw [Ne, ingressOf_eq_none]
      intro hnone
      have hrow : row ∈ q.conflicts d.toDwellIngress := by
        rw [hconflicts]
        exact List.mem_singleton_self row
      exact hnone row (List.mem_filter.1 hrow).1 hexact.2.1
    · cases h
  · cases h

theorem publishJob_spec [DecidableEq J] {q' : DwellTables J} {p : DwellPublication J} (h : q.publishJob p = .ok q') :
    q' = q ∧ q.job p.job_id ≠ none ∨
      ∃ available, q.job p.job_id = none ∧ q' = q.setJob p.job_id (.published p available) := by
  unfold publishJob at h
  split at h
  · cases h
  · rename_i available _
    split at h
    · rename_i hnone
      cases h
      exact Or.inr ⟨available, hnone, rfl⟩
    · rename_i j hj
      split at h
      · cases h
        rw [hj]
        exact Or.inl ⟨rfl, Option.some_ne_none j⟩
      · cases h

theorem publish_spec [DecidableEq J] (q : DwellTables J) (hc : c.lease = none) (p : DwellPublication J)
    (authoritative : Bool) :
    CallSpec q c (q.committed (q.publish_dwell_request p authoritative)) := by
  unfold publish_dwell_request
  split
  · split
    · split
      · split
        · exact q.callSpec_self c
        · rename_i q₁ hjob
          generalize hrow : (DwellIngressRow.mk p.toDwellIngress _) = d
          have hid : d.job_id = p.job_id := by rw [← hrow]
          cases hingress : q₁.publishIngress d with
          | error e => exact q.callSpec_self c
          | ok r =>
            obtain ⟨q', inserted⟩ := r
            obtain ⟨hjobs, hkept, hjoined⟩ := publishIngress_spec hingress
            rw [hid] at hjoined
            rcases publishJob_spec hjob with ⟨rfl, hold⟩ | ⟨available, hnone, rfl⟩
            · exact
                { row := fun id => hjobs id ▸ .same
                  kept := hkept
                  joined := fun id hfree hsome => absurd hfree (hjobs id ▸ hsome) }
            · refine { row := fun id => ?_, kept := hkept, joined := fun id hfree hsome => ?_ }
              · simp only [committed, hjobs, job_setJob]
                split
                · rename_i h
                  rw [h]
                  exact .published p available hc hnone
                · exact .same
              · by_cases h : id = p.job_id
                · rw [h]
                  exact hjoined
                · simp only [committed, hjobs, job_setJob, if_neg h] at hsome
                  exact absurd hfree hsome
      · exact q.callSpec_self c
    · exact q.callSpec_self c
  · exact q.callSpec_self c

theorem call_spec [DecidableEq J] (q : DwellTables J) (c : DwellCall J) :
    CallSpec q c (q.call c) := by
  cases c with
  | publish p authoritative => exact q.publish_spec rfl p authoritative
  | claim station_id radio_id lease_token ttl locked swept parked_at now later =>
    simp only [call, claim_dwell_request]
    split
    · exact q.callSpec_self _
    · split
      · rename_i swept_ns ns _ hns
        exact claimCandidate_spec rfl station_id radio_id lease_token ttl locked swept swept_ns
          parked_at ns later (by simp [DwellCall.readings]) hns
      · exact q.callSpec_self _
  | heartbeat => exact q.heartbeat_spec rfl
  | complete => exact q.complete_spec rfl
  | fail => exact q.fail_spec rfl
  | park => exact q.park_spec rfl

/-! ## Every run -/

/-- Every job has its ingress row, and no lease outlives the timestamp of its expiry. -/
def Inv (q : DwellTables J) : Prop :=
  ∀ id j, q.job id = some j → ∃ d, q.ingressOf id = some d ∧
    ∀ lease ∈ j.lease_expires_utc, ∃ expires, to_timestamp d.expires_utc_ns = some expires ∧
      lease ≤ expires

theorem inv_empty : Inv (empty : DwellTables J) := by
  intro id j hj
  cases hj

theorem inv_call [DecidableEq J] (h : Inv q) (c : DwellCall J) :
    Inv (q.call c) := by
  intro id j' hj'
  have hspec := q.call_spec c
  have hrow := hspec.row id
  rw [hj'] at hrow
  generalize hr : some j' = r at hrow
  -- a row that was there keeps its ingress row, so only its lease is in question
  have hold : ∀ j, q.job id = some j → ∃ d, (q.call c).ingressOf id = some d ∧
      q.ingressOf id = some d ∧ ∀ lease ∈ j.lease_expires_utc,
        ∃ expires, to_timestamp d.expires_utc_ns = some expires ∧ lease ≤ expires := by
    intro j hj
    obtain ⟨d, hd, hlease⟩ := h id j hj
    exact ⟨d, hspec.kept id d hd, hd, hlease⟩
  cases hrow with
  | same =>
    obtain ⟨d, hd, _, hlease⟩ := hold j' hr.symm
    exact ⟨d, hd, hlease⟩
  | published p available _ hnone =>
    cases hr
    obtain ⟨d, hd⟩ := Option.ne_none_iff_exists'.1
      (hspec.joined id hnone (hj' ▸ Option.some_ne_none _))
    exact ⟨d, hd, fun lease hlease => absurd hlease (Option.not_mem_none lease)⟩
  | expired j later _ hj | completed j _ _ _ _ _ _ _ hj | failed j _ _ _ _ _ _ _ _ hj
  | parked j _ _ _ _ _ _ _ hj =>
    cases hr
    obtain ⟨d, hd, _⟩ := hold j hj
    exact ⟨d, hd, fun lease hlease => absurd hlease (Option.not_mem_none lease)⟩
  | claimed j d _ _ _ expires capped _ hj hd _ _ _ _ _ hcap hle
  | extended j d _ _ _ _ expires capped _ hj hd _ _ _ hcap hle =>
    cases hr
    refine ⟨d, hspec.kept id d hd, fun lease hlease => ?_⟩
    cases hlease
    exact ⟨expires, hcap, hle⟩

/-- The safety of one call. Instants of the database clock are compared with those of a
request in nanoseconds. -/
structure Safe (q : DwellTables J) (c : DwellCall J) (q' : DwellTables J) : Prop where
  /-- a new lease is handed out between the issue and the expiry of its request -/
  claimed : ∀ id j', q'.job id = some j' → j'.state = .leased →
    (∀ j, q.job id = some j → j.lease_generation ≠ j'.lease_generation) →
      ∃ d, q'.ingressOf id = some d ∧ ∃ now ∈ c.readings,
        d.issued_utc_ns ≤ 1000 * now + toleranceNs ∧ 1000 * now < d.expires_utc_ns + toleranceNs
  /-- no lease extends past the expiry of its request -/
  lease : ∀ id j', q'.job id = some j' → ∀ lease ∈ j'.lease_expires_utc,
    ∃ d, q'.ingressOf id = some d ∧ 1000 * lease ≤ d.expires_utc_ns + toleranceNs
  /-- a call under a lease changes the row of that lease, and only while it is held -/
  fenced : ∀ id lease_token generation now, c.lease = some (id, lease_token, generation, now) →
    ∀ id', q'.job id' ≠ q.job id' →
      id' = id ∧ ∃ j, q.job id = some j ∧ j.activeLease lease_token generation now
  /-- a request past its expiry can only be parked -/
  expired : ∀ id j d, q.job id = some j → q.ingressOf id = some d →
    (∀ now ∈ c.readings, d.expires_utc_ns + toleranceNs ≤ 1000 * now) →
      q'.job id = some j ∨ ∃ j', q'.job id = some j' ∧ j'.state = .parked
  terminal : ∀ id j, q.job id = some j → j.Terminal → q'.job id = some j

/-- The reading a lease is checked at is one of the call. -/
theorem lease_mem_readings (h : c.lease = some (id, lease_token, generation, now)) :
    now ∈ c.readings := by
  cases c <;> cases h <;> simp [DwellCall.readings]

theorem epoch_ns_bounds {ns : Int} (h : epoch_ns now = some ns) :
    1000 * now ≤ ns + toleranceNs ∧ ns ≤ 1000 * now + toleranceNs := by
  have herror := abs_le.1 (epoch_ns_error h)
  omega

theorem to_timestamp_le {expires : Int} (h : to_timestamp d.expires_utc_ns = some expires) :
    1000 * expires ≤ d.expires_utc_ns + toleranceNs := by
  have herror := abs_le.1 (to_timestamp_error d.checks.bigint.2 h)
  omega

theorem Effect.terminal {r : Option (DwellJob J)} (h : Effect q c id r) {j : DwellJob J} (hj : q.job id = some j)
    (hfinal : j.Terminal) :
    r = some j := by
  cases h with
  | same => exact hj
  | published _ _ _ hnone =>
    rw [hj] at hnone
    cases hnone
  | expired _ _ _ hj' hopen | claimed _ _ _ _ _ _ _ _ hj' _ hopen =>
    rw [hj] at hj'
    cases hj'
    exact absurd hfinal hopen
  | extended _ _ _ _ _ _ _ _ _ hj' _ h | completed _ _ _ _ _ _ _ _ hj' _ h
  | failed _ _ _ _ _ _ _ _ _ hj' _ h | parked _ _ _ _ _ _ _ _ hj' h =>
    rw [hj] at hj'
    cases hj'
    exact absurd hfinal (DwellJob.not_terminal_of_leased h.1)

theorem Effect.expired_row {r : Option (DwellJob J)} (h : Effect q c id r) {j : DwellJob J} (hj : q.job id = some j)
    (hd : q.ingressOf id = some d) (hlate : ∀ now ∈ c.readings, d.expires_utc_ns + toleranceNs ≤ 1000 * now) :
    r = some j ∨ ∃ j', r = some j' ∧ j'.state = .parked := by
  -- a reading before the expiry is none of this call
  have hcontra : ∀ now ns, now ∈ c.readings → epoch_ns now = some ns → ¬ns < d.expires_utc_ns := by
    intro now ns hnow hns hlt
    have hbounds := epoch_ns_bounds hns
    have hlate := hlate now hnow
    omega
  cases h with
  | same => exact Or.inl hj
  | published _ _ _ hnone =>
    rw [hj] at hnone
    cases hnone
  | expired => exact Or.inr ⟨_, rfl, rfl⟩
  | parked => exact Or.inr ⟨_, rfl, rfl⟩
  | claimed _ d' _ now ns _ _ _ _ hd' _ hnow hns _ hexpires =>
    rw [hd] at hd'
    cases hd'
    exact absurd hexpires (hcontra now ns hnow hns)
  | extended _ d' _ _ now ns _ _ hc _ hd' _ hns hexpires
  | completed _ d' _ _ now ns _ hc _ hd' _ hns hexpires =>
    rw [hd] at hd'
    cases hd'
    exact absurd hexpires (hcontra now ns (lease_mem_readings hc) hns)
  | failed _ d' _ _ _ now _ expires hc _ hd' _ hcap hnow =>
    rw [hd] at hd'
    cases hd'
    have hle := to_timestamp_le hcap
    have hlate := hlate now (lease_mem_readings hc)
    omega

theorem safe_call [DecidableEq J] (h : Inv q) (c : DwellCall J) :
    Safe q c (q.call c) where
  claimed := by
    intro id j' hj' hleased hnew
    have hspec := q.call_spec c
    have hrow := hspec.row id
    rw [hj'] at hrow
    generalize hr : some j' = r at hrow
    cases hrow with
    | same => exact absurd rfl (hnew j' hr.symm)
    | published | expired | completed | failed | parked =>
      cases hr
      cases hleased
    | extended j _ _ _ _ _ _ _ _ hj =>
      cases hr
      exact absurd rfl (hnew j hj)
    | claimed j d _ now ns _ _ _ _ hd _ hnow hns hissued hexpires =>
      have hbounds := epoch_ns_bounds hns
      exact ⟨d, hspec.kept id d hd, now, hnow, by omega, by omega⟩
  lease := by
    intro id j' hj' lease hlease
    obtain ⟨d, hd, hcapped⟩ := inv_call h c id j' hj'
    obtain ⟨expires, hexpires, hle⟩ := hcapped lease hlease
    have hbound := to_timestamp_le hexpires
    exact ⟨d, hd, by omega⟩
  fenced := by
    intro id lease_token generation now hc id' hne
    have hrow := (q.call_spec c).row id'
    generalize (q.call c).job id' = r at hrow hne
    cases hrow with
    | same => exact absurd rfl hne
    | published _ _ hc' | expired _ _ hc' | claimed _ _ _ _ _ _ _ hc' =>
      rw [hc] at hc'
      cases hc'
    | extended j _ _ _ _ _ _ _ hc' hj _ hactive | completed j _ _ _ _ _ _ hc' hj _ hactive
    | failed j _ _ _ _ _ _ _ hc' hj _ hactive | parked j _ _ _ _ _ _ hc' hj hactive =>
      rw [hc] at hc'
      cases hc'
      exact ⟨rfl, j, hj, hactive⟩
  expired := fun id _ _ hj hd hlate => ((q.call_spec c).row id).expired_row hj hd hlate
  terminal := fun id _ hj hfinal => ((q.call_spec c).row id).terminal hj hfinal

/-- Every call of every sequence of calls on empty tables is safe. -/
theorem requests_safe [DecidableEq J] (cs : List (DwellCall J)) :
    (machine J).AllSteps (fun q c => Safe q c (q.call c)) empty cs := by
  have hkeep : ∀ q c q', Inv q → (machine J).step q c = some q' → Inv q' := by
    intro q c q' h hstep
    cases hstep
    exact inv_call h c
  exact (machine J).allSteps_of_inv hkeep (fun _ c h => safe_call h c) inv_empty cs

/-! ### What the conversions round -/

/-- A valid publication with these instants. -/
def publication (issued_utc_ns expires_utc_ns : Int) : DwellPublication Unit where
  request_id := str "dwell_1"
  job_id := str "job_dwell_" ++ List.replicate 64 48
  request_schema_id := str "org.leo-flow.dwell-request"
  request_schema_version := str "0.1"
  request_digest_algorithm := str "sha256"
  request_digest_value := List.replicate 64 48
  idempotency_key := str "key"
  source_recording_id := str "rec_1"
  source_recording_digest_algorithm := str "sha256"
  source_recording_digest_value := List.replicate 64 49
  source_feature_set_id := str "fset_1"
  source_analysis_run_id := str "run_1"
  source_feature_digest_algorithm := str "sha256"
  source_feature_digest_value := List.replicate 64 50
  station_id := str "station_1"
  radio_id := str "radio_1"
  issued_utc_ns := issued_utc_ns
  expires_utc_ns := expires_utc_ns
  payload :=
    { schema_id := str "org.leo-flow.dwell-request"
      schema_major := 0
      schema_minor := 1
      request_id := str "dwell_1"
      idempotency_key := str "key"
      station_id := str "station_1"
      radio_id := str "radio_1"
      issued_utc_ns := issued_utc_ns
      expires_utc_ns := expires_utc_ns
      source := ⟨str "rec_1", str "sha256", List.replicate 64 49, str "fset_1", str "run_1",
        str "sha256", List.replicate 64 50⟩
      others := () }
  octet_length := 2000

/-- The end of the lease when the request is published and claimed, for a minute, while
the clock stands at `now`. -/
def claimedLease (issued_utc_ns expires_utc_ns now : Int) : Option Int := do
  let p := publication issued_utc_ns expires_utc_ns
  let q ← (machine Unit).run empty [.publish p true,
    .claim p.station_id p.radio_id (str "lease_1") 60000000 [] now now now now]
  let j ← q.job p.job_id
  j.lease_expires_utc

/-- In exact nanoseconds a lease may end after its request expires, and a request may be
claimed before its issue and after its expiry. -/
theorem instants_rounded :
    (∃ issued expires now lease, claimedLease issued expires now = some lease ∧
      expires < 1000 * lease) ∧
    (∃ issued expires now lease, claimedLease issued expires now = some lease ∧
      1000 * now < issued) ∧
    ∃ issued expires now lease, claimedLease issued expires now = some lease ∧
      expires < 1000 * now := by
  refine ⟨⟨1700000000000000000, 1700000000000000600, 1700000000000000, 1700000000000001, ?_⟩,
    ⟨1700000000000001010, 1700000001000000000, 1700000000000001, 1700000001000000, ?_⟩,
    ⟨1700000000000000000, 1700000000000001900, 1700000000000002, 1700000000000002, ?_⟩⟩ <;>
    decide +kernel

end DwellTables

end LeoFlow
