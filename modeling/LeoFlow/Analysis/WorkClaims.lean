import LeoFlow.Core.Machine
import LeoFlow.Contracts.Validation
import LeoFlow.Catalog.References
import LeoFlow.Analysis.WorkTable
import LeoFlow.Contracts.Samples

/-!
# LeoFlow.Analysis.WorkClaims — exact claims of analysis work

The work tables of full-dwell analyses (0042) and of the feature, waterfall and detector-suite projections (0020,
0025, 0029), the table `job` (0017), and the claims of one campaign's rows (0030).

* `AnalysisDb`: the tables, with the catalogs and the objects they refer to;
* the functions, one transaction each, under the source's names;
* `machine`: any calls, each committed or rolled back;
* `Inv`: the object that a claim joins is referenced, so it is live;
* `claims_exact`: what claims, reports and admissions do in every reachable state.
-/

namespace LeoFlow

/-! ## Tables -/

/-- A row of `recording_starlink_detector_suite`, under its `analysis_id`. -/
structure DetectorSuite where
  recording_id : PyStr
  request_digest_value : PyStr
  bundle : Digest
  /-- `result_state = 'candidates'` -/
  candidates : Bool
  published_at_utc : Int

/-- A row of `feature_set`. -/
structure FeatureSetRow where
  feature_set_id : PyStr
  analysis_run_id : PyStr
  bundle : Digest
  recording_id : PyStr
  input_recording : Digest
deriving DecidableEq

/-- A row of `recording_waterfall`. -/
structure WaterfallRow where
  product_id : PyStr
  analysis_run_id : PyStr
  recording_id : PyStr
  bundle : Digest
deriving DecidableEq

/-- A row of `recording_starlink_full_dwell_v0_1`. -/
structure FullDwellRow where
  analysis_id : PyStr
  recording_id : PyStr
  source_suite_analysis_id : PyStr

/-- `starlink_full_dwell_work_v0_1`, under `source_suite_analysis_id`. -/
structure FullDwellSource where
  recording_id : PyStr
  source_suite_request_digest_value : PyStr
deriving DecidableEq

/-- `feature_projection_work`, under `work_id`. -/
structure FeatureProjectionSource where
  source_job_id : JobId
  feature_set_id : PyStr
  analysis_run_id : PyStr
  feature : Digest
  recording_id : PyStr
  recording : Digest
deriving DecidableEq

/-- `waterfall_projection_work`, under `work_id`. -/
structure WaterfallProjectionSource where
  source_job_id : JobId
  product_id : PyStr
  analysis_run_id : PyStr
  recording_id : PyStr
  bundle : Digest
deriving DecidableEq

/-- `starlink_detector_suite_projection_work`, under `work_id`. -/
structure SuiteProjectionSource where
  source_job_id : JobId
  analysis_id : PyStr
  recording_id : PyStr
  bundle : Digest
deriving DecidableEq

/-- The unique keys of the projections beside the primary key. -/
def FeatureProjectionSource.clashes (w e : FeatureProjectionSource) : Bool :=
  w.source_job_id = e.source_job_id ||
    (w.feature_set_id = e.feature_set_id && w.analysis_run_id = e.analysis_run_id && w.feature = e.feature)

def WaterfallProjectionSource.clashes (w e : WaterfallProjectionSource) : Bool :=
  w.source_job_id = e.source_job_id || w.product_id = e.product_id

def SuiteProjectionSource.clashes (w e : SuiteProjectionSource) : Bool :=
  w.source_job_id = e.source_job_id || w.analysis_id = e.analysis_id

/-- The four work tables. -/
inductive WorkKind where
  | full_dwell
  | feature_projection
  | waterfall_projection
  | starlink_detector_suite_projection
deriving DecidableEq

/-- What their rows keep from their admission. -/
abbrev WorkKind.Source : WorkKind → Type
  | .full_dwell => FullDwellSource
  | .feature_projection => FeatureProjectionSource
  | .waterfall_projection => WaterfallProjectionSource
  | .starlink_detector_suite_projection => SuiteProjectionSource

instance : (k : WorkKind) → DecidableEq k.Source
  | .full_dwell => inferInstanceAs (DecidableEq FullDwellSource)
  | .feature_projection => inferInstanceAs (DecidableEq FeatureProjectionSource)
  | .waterfall_projection => inferInstanceAs (DecidableEq WaterfallProjectionSource)
  | .starlink_detector_suite_projection => inferInstanceAs (DecidableEq SuiteProjectionSource)

/-- What a completion or a parking fills. -/
structure Delivery where
  park_reason : Option PyStr
  parked_at_utc : Option Int
  /-- of full-dwell work only -/
  result_analysis_id : Option PyStr
  /-- `completed_at_utc` or `projected_at_utc` -/
  finished_at_utc : Option Int

def Delivery.none : Delivery := ⟨.none, .none, .none, .none⟩

/-- The tables. `J` is the type of `jsonb` values. -/
structure AnalysisDb (J : Type) where
  objects : Catalog
  suites : Table PyStr DetectorSuite
  feature_sets : List FeatureSetRow
  waterfalls : List WaterfallRow
  full_dwells : List FullDwellRow
  jobs : JobTable J
  work : (k : WorkKind) → WorkTable k.Source Delivery

/-! ## Reports -/

namespace WorkTable

variable {S : Type}

/-- `heartbeat_..`: the lease runs for another `ttl`. -/
def heartbeat (q : WorkTable S Delivery) (id lease_token : PyStr) (lease_generation ttl now later : Int) :
    WorkTable S Delivery × Bool :=
  q.updateActive id lease_token lease_generation now fun w =>
    if h : w.state = .leased ∧ 0 < ttl then some (w.renew (later + ttl) h.1) else none

/-- `complete_..`, of the rows that are `allowed`. -/
def complete (q : WorkTable S Delivery) (id lease_token : PyStr) (lease_generation : Int)
    (allowed : Work S Delivery → Bool) (result_analysis_id : Option PyStr) (now later : Int) :
    WorkTable S Delivery × Bool :=
  q.updateActive id lease_token lease_generation now fun w =>
    if allowed w then
      some (w.release .succeeded succeeded_ne_leased none w.available_at_utc
        { w.outcome with result_analysis_id, finished_at_utc := some later })
    else none

/-- `retry_..`, at a time in the future. -/
def retry (q : WorkTable S Delivery) (id lease_token : PyStr) (lease_generation : Int) (reason : PyStr)
    (available_at_utc : Int) (future : Bool) (now : Int) : WorkTable S Delivery × Bool :=
  q.updateActive id lease_token lease_generation now fun w =>
    if IsParkReason reason ∧ future then some (w.release .failed failed_ne_leased (some reason) available_at_utc w.outcome)
    else none

/-- `park_..` -/
def park (q : WorkTable S Delivery) (id lease_token : PyStr) (lease_generation : Int) (reason : PyStr)
    (now later : Int) : WorkTable S Delivery × Bool :=
  q.updateActive id lease_token lease_generation now fun w =>
    if IsParkReason reason then
      some (w.release .parked parked_ne_leased none w.available_at_utc
        { w.outcome with park_reason := some reason, parked_at_utc := some later })
    else none

end WorkTable

/-- What a holder reports. -/
inductive Report where
  | heartbeat (ttl : Int)
  | complete (result_analysis_id : Option PyStr)
  /-- the time of the next attempt, or the delay until then -/
  | retry (reason : PyStr) (available : Int)
  | park (reason : PyStr)

namespace AnalysisDb

variable {J : Type}

def setWork (db : AnalysisDb J) (k : WorkKind) (q : WorkTable k.Source Delivery) : AnalysisDb J :=
  { db with work := Function.update db.work k q }

/-- `complete_starlink_full_dwell_work_v0_1` -/
def complete_starlink_full_dwell_work (db : AnalysisDb J) (id lease_token : PyStr) (lease_generation : Int)
    (result_analysis_id : Option PyStr) (now later : Int) : WorkTable FullDwellSource Delivery × Bool :=
  (db.work .full_dwell).complete id lease_token lease_generation
    (fun w => db.full_dwells.any fun f => some f.analysis_id = result_analysis_id &&
      f.recording_id = FullDwellSource.recording_id w.source && f.source_suite_analysis_id = id)
    result_analysis_id now later

/-- The reports of the four tables. Those of the projections have one text. -/
def report (db : AnalysisDb J) (k : WorkKind) (id lease_token : PyStr) (lease_generation : Int) (r : Report)
    (now later : Int) : WorkTable k.Source Delivery × Bool :=
  match k, r with
  | .full_dwell, .heartbeat _ => (db.work .full_dwell, false)
  | .full_dwell, .complete result_analysis_id =>
    db.complete_starlink_full_dwell_work id lease_token lease_generation result_analysis_id now later
  | .full_dwell, .retry reason available_at_utc =>
    (db.work .full_dwell).retry id lease_token lease_generation reason available_at_utc (now < available_at_utc) now
  -- migration 0029 has no heartbeat
  | .starlink_detector_suite_projection, .heartbeat _ => (db.work .starlink_detector_suite_projection, false)
  | k, .heartbeat ttl => (db.work k).heartbeat id lease_token lease_generation ttl now later
  | k, .complete _ => (db.work k).complete id lease_token lease_generation (fun _ => true) none now later
  | k, .retry reason delay =>
    (db.work k).retry id lease_token lease_generation reason (later + delay) (0 < delay) now
  | k, .park reason => (db.work k).park id lease_token lease_generation reason now later

/-! ## Admissions -/

/-- The suites `admit_starlink_full_dwell_work_v0_1` looks for, the newest first. -/
def pendingSuites (db : AnalysisDb J) : List (PyStr × DetectorSuite) :=
  ((db.suites.entries.map fun e => (e.1, e.2)).filter fun e =>
      e.2.candidates && db.objects.isLive e.2.bundle &&
        !(db.full_dwells.any fun f => f.source_suite_analysis_id = e.1) &&
        ((db.work .full_dwell).row e.1).isNone)
    |>.insertionSort fun a b => a.2.published_at_utc > b.2.published_at_utc ∨
      a.2.published_at_utc = b.2.published_at_utc ∧ b.1 ≤ a.1

/-- `least` passes over a `NULL`. -/
def least : Option Int → Option Int → Option Int
  | some a, some b => some (min a b)
  | some a, none => some a
  | none, b => b

/-- What `admit_starlink_full_dwell_work_v0_1` returns. -/
structure Admission where
  admitted : Nat
  active_backlog : Nat
  saturated : Option Bool

/-- `admit_starlink_full_dwell_work_v0_1`, under its advisory lock. -/
def admit_starlink_full_dwell_work (db : AnalysisDb J) (limit maximum : Option Int) (later : Int) :
    Except WorkSqlError (AnalysisDb J × Admission) :=
  if (limit.any fun l => l < 1 || 64 < l) || (maximum.any fun m => m < 1 || 256 < m) ||
      (limit.any fun l => maximum.any fun m => m < l) then .error .invalid_parameter_value
  else
    let active_backlog := (db.work .full_dwell).backlog
    let capacity := max 0 ((least limit (maximum.map fun m => m - active_backlog)).getD 0)
    let candidates := db.pendingSuites.take capacity.toNat
    let added := (db.work .full_dwell).insertNew .none later
      (candidates.map fun e => (e.1, (⟨e.2.recording_id, e.2.request_digest_value⟩ : FullDwellSource)))
    let db' := db.setWork .full_dwell added.1
    let active_backlog := active_backlog + added.2
    let saturated := if db'.pendingSuites = [] then some false else maximum.map fun m => decide (m ≤ (active_backlog : Int))
    .ok (db', ⟨added.2, active_backlog, saturated⟩)

/-- An insertion of projection work: `ON CONFLICT DO NOTHING`, or the same row again. -/
def publishWork {S : Type} [DecidableEq S] (q : WorkTable S Delivery) (clashes : S → S → Bool) (id : PyStr) (source : S)
    (later : Int) : Except WorkSqlError (WorkTable S Delivery) :=
  if (q.row id).isNone && !(q.rows.entries.any fun e => clashes source e.2.source) then
    .ok (q.setRow id (.admitted source .none later))
  else if (q.row id).any fun w => w.source = source then .ok q
  else .error .unique_violation

/-- `publish_feature_projection_work`; `valid` is the check of its arguments. -/
def publish_feature_projection_work (db : AnalysisDb J) (valid : Bool) (work_id : PyStr) (lease_token : PyStr)
    (lease_generation : Int) (source : FeatureProjectionSource) (now later : Int) :
    Except WorkSqlError (AnalysisDb J) :=
  if !valid then .error .invalid_parameter_value
  else if ¬db.jobs.lock_active_job_lease source.source_job_id .recording_analysis lease_token lease_generation now then
    .error .lease_not_current
  else if ¬(⟨source.feature_set_id, source.analysis_run_id, source.feature, source.recording_id, source.recording⟩ ∈
      db.feature_sets ∧ db.objects.isLive source.feature = true) then .error .foreign_key_violation
  else do
    let q ← publishWork (db.work .feature_projection)
      FeatureProjectionSource.clashes work_id source later
    return db.setWork .feature_projection q

/-- `publish_waterfall_projection_work`: it inserts nothing when the job or the product is another. -/
def publish_waterfall_projection_work (db : AnalysisDb J) (work_id : PyStr) (source : WaterfallProjectionSource)
    (later : Int) : Except WorkSqlError (AnalysisDb J) :=
  if ¬((db.jobs.job source.source_job_id).any (fun j => j.job_type = .waterfall_analysis) ∧
      ⟨source.product_id, source.analysis_run_id, source.recording_id, source.bundle⟩ ∈ db.waterfalls) then .ok db
  else
    match publishWork (db.work .waterfall_projection)
        WaterfallProjectionSource.clashes work_id source later with
    | .ok q => .ok (db.setWork .waterfall_projection q)
    | .error _ => .ok db

/-- `publish_starlink_detector_suite_projection_work`; `valid` is the check of its arguments. -/
def publish_starlink_detector_suite_projection_work (db : AnalysisDb J) (valid : Bool) (work_id lease_token : PyStr)
    (lease_generation : Int) (source : SuiteProjectionSource) (now later : Int) :
    Except WorkSqlError (AnalysisDb J) :=
  if !valid then .error .invalid_parameter_value
  else if ¬db.jobs.lock_active_job_lease source.source_job_id .starlink_suite_analysis lease_token lease_generation
      now then .error .lease_not_current
  else if ¬(db.suites.lookup source.analysis_id).any fun s =>
      s.recording_id = source.recording_id && s.bundle = source.bundle && db.objects.isLive s.bundle then
    .error .foreign_key_violation
  else do
    let q ← publishWork (db.work .starlink_detector_suite_projection)
      SuiteProjectionSource.clashes work_id source later
    return db.setWork .starlink_detector_suite_projection q

end AnalysisDb

/-! ## Claims -/

/-- The check of a `text[]` of job identifiers: 1 to 72, all different, none `NULL`. -/
def invalidScope : Option (List (Option PyStr)) → Bool
  | none => true
  | some ids => ids.length < 1 || 72 < ids.length || (ids.filterMap id).dedup.length ≠ ids.length

/-- `= ANY(ids)` -/
def inScope (ids : Option (List (Option PyStr))) (job_id : JobId) : Bool := ids.any fun ids => some job_id ∈ ids

/-- The claims of the work tables. Those of 0030 take the job identifiers of a campaign. -/
inductive WorkClaim where
  | claim_starlink_full_dwell_work
  | claim_feature_projection_work
  | claim_waterfall_projection_work
  | claim_starlink_detector_suite_projection_work
  | claim_campaign_feature_projection (p_source_job_ids : Option (List (Option PyStr)))
  | claim_campaign_waterfall_projection (p_source_job_ids : Option (List (Option PyStr)))
  | claim_campaign_starlink_suite_projection (p_source_job_ids : Option (List (Option PyStr)))

namespace WorkClaim

def kind : WorkClaim → WorkKind
  | claim_starlink_full_dwell_work => .full_dwell
  | claim_feature_projection_work | claim_campaign_feature_projection _ => .feature_projection
  | claim_waterfall_projection_work | claim_campaign_waterfall_projection _ => .waterfall_projection
  | claim_starlink_detector_suite_projection_work | claim_campaign_starlink_suite_projection _ =>
    .starlink_detector_suite_projection

/-- The first check of the function. What is `NULL` passes a comparison. -/
def invalid (f : WorkClaim) (lease_token : Option PyStr) (ttl : Option Int) : Bool :=
  match f with
  | claim_starlink_full_dwell_work => lease_token = some [] || ttl.any fun ttl => ttl ≤ 0 || 28800000000 < ttl
  | claim_feature_projection_work | claim_waterfall_projection_work =>
    lease_token = none || lease_token = some [] || ttl.any fun ttl => ttl ≤ 0
  | claim_starlink_detector_suite_projection_work => lease_token = some [] || ttl.any fun ttl => ttl ≤ 0
  | claim_campaign_feature_projection ids | claim_campaign_waterfall_projection ids
  | claim_campaign_starlink_suite_projection ids =>
    invalidScope ids || lease_token = none || lease_token = some [] || !(ttl.any fun ttl => 0 < ttl)

end WorkClaim

/-- `ORDER BY available_at_utc, <primary key>` -/
def beforeWork {S : Type} (a b : PyStr × Work S Delivery) : Bool :=
  a.2.available_at_utc < b.2.available_at_utc ||
    (a.2.available_at_utc = b.2.available_at_utc && decide (a.1 ≤ b.1))

namespace AnalysisDb

variable {J : Type}

/-- The claim statements. The claims of full-dwell and of feature work join the object of the row and filter it by
its state, after the row has been leased. -/
def claimStatement (db : AnalysisDb J) : (f : WorkClaim) → WorkTable.Claim f.kind.Source Delivery
  | .claim_starlink_full_dwell_work =>
    { before := beforeWork
      admits := fun _ _ => true
      joins := fun id _ => (db.suites.lookup id).any fun s => db.objects.isLive s.bundle
      last_error := fun _ => none }
  | .claim_feature_projection_work =>
    { before := beforeWork
      admits := fun _ _ => true
      joins := fun _ source => db.objects.isLive (FeatureProjectionSource.feature source)
      last_error := fun _ => none }
  | .claim_waterfall_projection_work =>
    { before := beforeWork
      admits := fun _ _ => true
      joins := fun _ _ => true
      last_error := fun w => w.last_error }
  | .claim_starlink_detector_suite_projection_work =>
    { before := beforeWork
      admits := fun _ _ => true
      joins := fun _ _ => true
      last_error := fun _ => none }
  | .claim_campaign_feature_projection ids =>
    { before := beforeWork
      admits := fun _ w => inScope ids (FeatureProjectionSource.source_job_id w.source)
      joins := fun _ source => db.objects.isLive (FeatureProjectionSource.feature source)
      last_error := fun _ => none }
  | .claim_campaign_waterfall_projection ids =>
    { before := beforeWork
      admits := fun _ w => inScope ids (WaterfallProjectionSource.source_job_id w.source)
      joins := fun _ _ => true
      last_error := fun _ => none }
  | .claim_campaign_starlink_suite_projection ids =>
    { before := beforeWork
      admits := fun _ w => inScope ids (SuiteProjectionSource.source_job_id w.source)
      joins := fun _ _ => true
      last_error := fun _ => none }

def claim (db : AnalysisDb J) (f : WorkClaim) (lease_token : Option PyStr) (ttl : Option Int) (locked : List PyStr)
    (now later : Int) : Except WorkSqlError
      (WorkTable f.kind.Source Delivery × Option (PyStr × Work f.kind.Source Delivery)) :=
  if f.invalid lease_token ttl then .error .invalid_parameter_value
  else (db.work f.kind).claim_row (db.claimStatement f) lease_token ttl locked now later

end AnalysisDb

variable {now : Int}

namespace JobTable

variable {J : Type}

/-- The candidate of a campaign's claim: as in `claim_job`, among the campaign's jobs of one type. -/
def campaignCandidate (q : JobTable J) (job_ids : Option (List (Option PyStr))) (job_type : Option JobType)
    (locked : List JobId) (now : Int) : Option (JobId × Job J) :=
  let rows := q.jobs.entries.filter fun e =>
    inScope job_ids e.1 ∧ e.1 ∉ locked ∧ e.2.claimable job_type.toList now
  let ordered := rows.insertionSort fun a b =>
    a.2.available_at_utc < b.2.available_at_utc ∨
      a.2.available_at_utc = b.2.available_at_utc ∧ a.1 ≤ b.1
  ordered.head?.map fun e => (e.1, e.2)

theorem campaignCandidate_ok {q : JobTable J} {job_ids : Option (List (Option PyStr))} {job_type : Option JobType}
    {locked : List JobId} {id : JobId} {j : Job J}
    (h : q.campaignCandidate job_ids job_type locked now = some (id, j)) :
    q.job id = some j ∧ j.claimable job_type.toList now := by
  unfold campaignCandidate at h
  rcases Option.map_eq_some_iff.1 h with ⟨⟨id', j'⟩, hhead, heq⟩
  cases heq
  have hmem := (List.mem_insertionSort _).1 (List.mem_of_mem_head? (Option.mem_def.2 hhead))
  rw [List.mem_filter] at hmem
  have hguard : inScope job_ids id' = true ∧ id' ∉ locked ∧ j'.claimable job_type.toList now := by
    simpa using hmem.2
  exact ⟨(Table.mem_entries_iff _ _ _).1 hmem.1, hguard.2.2⟩

/-- The types a campaign claims. -/
def campaignTypes : List JobType := [.recording_analysis, .waterfall_analysis, .starlink_suite_analysis]

/-- `claim_campaign_analysis_job`. A type that is `NULL` passes the check and matches no job. -/
def claim_campaign_analysis_job (q : JobTable J) (job_ids : Option (List (Option PyStr)))
    (job_type : Option JobType) (lease_token : Option PyStr) (ttl : Option Int) (locked : List JobId)
    (now later : Int) : Except JobSqlError (JobTable J × Option (JobId × Job J)) :=
  if invalidScope job_ids || job_type.any (fun t => t ∉ campaignTypes) then .error .invalid_job_claim
  else
    match lease_token, ttl with
    | some lease_token, some ttl =>
      if lease_token = [] ∨ ttl ≤ 0 then .error .invalid_job_claim
      else
        match h : q.campaignCandidate job_ids job_type locked now with
        | none => .ok (q, none)
        | some (id, j) =>
          if 2147483647 < j.attempt + 1 ∨ 9223372036854775807 < j.lease_generation + 1 then
            .error .numeric_value_out_of_range
          else
            let hparked := Job.not_parked_of_claimable (campaignCandidate_ok h).2
            let leased := j.claim lease_token (later + ttl) hparked
            let claimed := { leased with
              last_error := none
              job_parked_state_consistent := Or.inr ⟨nofun, @Job.parking_none _ j hparked⟩ }
            .ok (q.setJob id claimed, some (id, claimed))
    | _, _ => .error .invalid_job_claim

end JobTable

/-! ## The machine -/

/-- What a holder of a job reports. -/
inductive JobReport where
  | heartbeat (ttl : Int)
  | complete (result_ref : ArtifactRef)
  | fail (reason : PyStr) (retry_at_utc : Int)
  | park (reason : PyStr)

/-- `heartbeat_job`, `complete_job`, `fail_job`, `park_job` -/
def JobTable.report {J : Type} (q : JobTable J) (id : JobId) (lease_token : PyStr) (lease_generation : Int)
    (r : JobReport) (now later : Int) : JobTable J × Option (Job J) :=
  match r with
  | .heartbeat ttl => q.heartbeat_job id lease_token lease_generation ttl now later
  | .complete result_ref => q.complete_job id lease_token lease_generation result_ref now
  | .fail reason retry_at_utc => q.fail_job id lease_token lease_generation reason retry_at_utc now
  | .park reason => q.park_job id lease_token lease_generation reason now later

/-- A call, with what it is given and the clock readings of its statements. -/
inductive AnalysisCall (J : Type) where
  | objects (a : Catalog.ObjectCall)
  | publish_suite (analysis_id : PyStr) (row : DetectorSuite)
  | publish_feature_set (row : FeatureSetRow)
  | publish_waterfall (row : WaterfallRow)
  | publish_full_dwell (row : FullDwellRow) (bundle : Digest)
  | enqueue_job (id : JobId) (j : Job J)
  | claim_job (job_types : List JobType) (lease_token : PyStr) (ttl : Int) (locked : List JobId) (now later : Int)
  | claim_campaign_analysis_job (job_ids : Option (List (Option PyStr))) (job_type : Option JobType)
      (lease_token : Option PyStr) (ttl : Option Int) (locked : List JobId) (now later : Int)
  | reportJob (id : JobId) (lease_token : PyStr) (lease_generation : Int) (r : JobReport) (now later : Int)
  | admit_work (limit maximum : Option Int) (later : Int)
  | publish_feature_projection_work (valid : Bool) (work_id lease_token : PyStr) (lease_generation : Int)
      (source : FeatureProjectionSource) (now later : Int)
  | publish_waterfall_projection_work (work_id : PyStr) (source : WaterfallProjectionSource) (later : Int)
  | publish_suite_projection_work (valid : Bool) (work_id lease_token : PyStr) (lease_generation : Int)
      (source : SuiteProjectionSource) (now later : Int)
  | claim (f : WorkClaim) (lease_token : Option PyStr) (ttl : Option Int) (locked : List PyStr) (now later : Int)
  | report (k : WorkKind) (id lease_token : PyStr) (lease_generation : Int) (r : Report) (now later : Int)

namespace AnalysisDb

variable {J : Type}

/-- What is committed of a call that may raise. -/
def commit {ε : Type} (db : AnalysisDb J) : Except ε (AnalysisDb J) → AnalysisDb J
  | .ok db' => db'
  | .error _ => db

/-- A row that refers to an object, inserted under its trigger. -/
def insertReferring (db : AnalysisDb J) (bundle : Digest) (insert : AnalysisDb J → AnalysisDb J) : AnalysisDb J :=
  match db.objects.applyObjects (.insertReference bundle) with
  | some objects => insert { db with objects }
  | none => db

/-- The tables after a call. -/
def apply (db : AnalysisDb J) : AnalysisCall J → AnalysisDb J
  | .objects a =>
    match db.objects.applyObjects a with
    | some objects => { db with objects }
    | none => db
  | .publish_suite analysis_id row =>
    if (db.suites.lookup analysis_id).isSome then db
    else db.insertReferring row.bundle fun db => { db with suites := db.suites.insert analysis_id row }
  | .publish_feature_set row =>
    db.insertReferring row.bundle fun db => { db with feature_sets := row :: db.feature_sets }
  | .publish_waterfall row =>
    db.insertReferring row.bundle fun db => { db with waterfalls := row :: db.waterfalls }
  | .publish_full_dwell row bundle =>
    db.insertReferring bundle fun db => { db with full_dwells := row :: db.full_dwells }
  | .enqueue_job id j => { db with jobs := (db.jobs.enqueue_job id j).1 }
  | .claim_job job_types lease_token ttl locked now later =>
    db.commit ((db.jobs.claim_job job_types lease_token ttl locked now later).map fun r => { db with jobs := r.1 })
  | .claim_campaign_analysis_job job_ids job_type lease_token ttl locked now later =>
    db.commit ((db.jobs.claim_campaign_analysis_job job_ids job_type lease_token ttl locked now later).map
      fun r => { db with jobs := r.1 })
  | .reportJob id lease_token lease_generation r now later =>
    { db with jobs := (db.jobs.report id lease_token lease_generation r now later).1 }
  | .admit_work limit maximum later => db.commit ((db.admit_starlink_full_dwell_work limit maximum later).map (·.1))
  | .publish_feature_projection_work valid work_id lease_token lease_generation source now later =>
    db.commit (db.publish_feature_projection_work valid work_id lease_token lease_generation source now later)
  | .publish_waterfall_projection_work work_id source later =>
    db.commit (db.publish_waterfall_projection_work work_id source later)
  | .publish_suite_projection_work valid work_id lease_token lease_generation source now later =>
    db.commit (db.publish_starlink_detector_suite_projection_work valid work_id lease_token lease_generation source
      now later)
  | .claim f lease_token ttl locked now later =>
    db.commit ((db.claim f lease_token ttl locked now later).map fun r => db.setWork f.kind r.1)
  | .report k id lease_token lease_generation r now later =>
    db.setWork k (db.report k id lease_token lease_generation r now later).1

/-- Any calls, each committed or rolled back. -/
def machine (J : Type) : Machine (AnalysisDb J) (AnalysisCall J) where
  Init db := db.objects = .empty ∧ db.suites = ∅ ∧ db.feature_sets = [] ∧ db.jobs = .empty ∧
    ∀ k, db.work k = .empty
  step db a := some (db.apply a)

/-! ## What a call does to a row -/

/-- The source of a row is in its catalog. -/
def SourceOk (db : AnalysisDb J) : (k : WorkKind) → PyStr → k.Source → Prop
  | .full_dwell, id, _ => ∃ suite, db.suites.lookup id = some suite
  | .feature_projection, _, source => ∃ row ∈ db.feature_sets, row.bundle = FeatureProjectionSource.feature source
  | .waterfall_projection, _, _ => True
  | .starlink_detector_suite_projection, _, _ => True

/-- One row of one table, before and after a call. -/
inductive RowStep (db : AnalysisDb J) (a : AnalysisCall J) (k : WorkKind) (id : PyStr) :
    Option (Work k.Source Delivery) → Option (Work k.Source Delivery) → Prop where
  | same {w : Option (Work k.Source Delivery)} : RowStep db a k id w w
  | admitted (source : k.Source) (later : Int) : db.SourceOk k id source →
      RowStep db a k id none (some (.admitted source .none later))
  | claimed {w : Work k.Source Delivery} (lease_token : PyStr) (expires : Int) (last_error : Option PyStr) :
      RowStep db a k id (some w) (some (w.claim lease_token expires last_error))
  | reported {w w' : Work k.Source Delivery} (lease_token : PyStr) (lease_generation : Int) (r : Report)
      (now later : Int) : a = .report k id lease_token lease_generation r now later →
      w.activeLease lease_token lease_generation now → w'.source = w.source → RowStep db a k id (some w) (some w')

@[simp] theorem work_setWork_self (db : AnalysisDb J) (k : WorkKind) (q : WorkTable k.Source Delivery) :
    (db.setWork k q).work k = q := by
  simp [setWork]

variable {k : WorkKind}

theorem work_setWork_of_ne (db : AnalysisDb J) {k' : WorkKind} (q : WorkTable k.Source Delivery) (h : k' ≠ k) :
    (db.setWork k q).work k' = db.work k' := by
  simp [setWork, h]

variable {db : AnalysisDb J} {id : PyStr}

/-- A table that a call leaves alone. -/
theorem RowStep.of_eq {a : AnalysisCall J} {q : WorkTable k.Source Delivery} (h : q = db.work k) : RowStep db a k id ((db.work k).row id) (q.row id) := by
  rw [h]
  exact .same

/-- A change of one row of one table is a step of every row of every table. -/
theorem rowStep_setRow {a : AnalysisCall J} {w' : Work k.Source Delivery}
    (h : RowStep db a k id ((db.work k).row id) (some w')) (k' : WorkKind) (id' : PyStr) :
    RowStep db a k' id' ((db.work k').row id')
      (((db.setWork k ((db.work k).setRow id w')).work k').row id') := by
  by_cases hk : k' = k
  · subst hk
    rw [work_setWork_self, WorkTable.row_setRow]
    by_cases hid : id' = id
    · subst hid
      rw [if_pos rfl]
      exact h
    · rw [if_neg hid]
      exact .same
  · exact .of_eq (work_setWork_of_ne db _ hk)

variable {lease_token : Option PyStr} {later : Int}

/-- The claims' common statement. -/
theorem claim_ok {f : WorkClaim} {ttl : Option Int} {locked : List PyStr} {q' : WorkTable f.kind.Source Delivery}
    {r : Option (PyStr × Work f.kind.Source Delivery)}
    (h : db.claim f lease_token ttl locked now later = .ok (q', r)) :
    q' = db.work f.kind ∧ r = none ∨
      ∃ id w token interval, (db.work f.kind).row id = some w ∧ lease_token = some token ∧ ttl = some interval ∧
        q' = (db.work f.kind).setRow id (w.claim token (later + interval) ((db.claimStatement f).last_error w)) ∧
        r = if (db.claimStatement f).joins id w.source then
          some (id, w.claim token (later + interval) ((db.claimStatement f).last_error w)) else none := by
  unfold claim at h
  split at h
  · cases h
  · rcases WorkTable.claim_row_ok h with ⟨_, hq, hr⟩ | ⟨id, w, token, interval, hcandidate, htoken, hinterval, hq, hr⟩
    · exact Or.inl ⟨hq, hr⟩
    · exact Or.inr ⟨id, w, token, interval, (WorkTable.candidate_ok hcandidate).1, htoken, hinterval, hq, hr⟩

/-- A report is a fenced update of its row that keeps the source. -/
theorem report_cases (db : AnalysisDb J) (k : WorkKind) (id lease_token : PyStr) (lease_generation : Int) (r : Report)
    (now later : Int) :
    (db.report k id lease_token lease_generation r now later).1 = db.work k ∨
      ∃ w w', (db.work k).row id = some w ∧ w.activeLease lease_token lease_generation now ∧
        w'.source = w.source ∧
        (db.report k id lease_token lease_generation r now later).1 = (db.work k).setRow id w' := by
  have hupdate : ∀ update : Work k.Source Delivery → Option (Work k.Source Delivery),
      (∀ w w', update w = some w' → w'.source = w.source) →
      ((db.work k).updateActive id lease_token lease_generation now update).1 = db.work k ∨
        ∃ w w', (db.work k).row id = some w ∧ w.activeLease lease_token lease_generation now ∧
          w'.source = w.source ∧
          ((db.work k).updateActive id lease_token lease_generation now update).1 = (db.work k).setRow id w' := by
    intro update hsource
    rcases (db.work k).updateActive_cases id lease_token lease_generation now update with
      hsame | ⟨w, w', hrow, hactive, hw', heq⟩
    · exact Or.inl (by rw [hsame])
    · exact Or.inr ⟨w, w', hrow, hactive, hsource w w' hw', by rw [heq]⟩
  cases k <;> cases r
  case full_dwell.heartbeat => exact Or.inl rfl
  case starlink_detector_suite_projection.heartbeat => exact Or.inl rfl
  all_goals
    refine hupdate _ ?_
    intro w w' hw'
    split at hw'
    · cases hw'
      rfl
    · cases hw'

theorem publishWork_ok {q q' : WorkTable k.Source Delivery} {clashes : k.Source → k.Source → Bool}
    {source : k.Source} (h : publishWork q clashes id source later = .ok q') :
    q' = q ∨ q.row id = none ∧ q' = q.setRow id (.admitted source .none later) := by
  unfold publishWork at h
  split at h
  · rename_i hfresh
    cases h
    simp only [Bool.and_eq_true, Option.isNone_iff_eq_none] at hfresh
    exact Or.inr ⟨hfresh.1, rfl⟩
  · split at h
    · cases h
      exact Or.inl rfl
    · cases h

/-- A publication of projection work, as a step of the rows. -/
theorem rowStep_publish {a : AnalysisCall J} {q' : WorkTable k.Source Delivery}
    {clashes : k.Source → k.Source → Bool} {source : k.Source}
    (h : publishWork (db.work k) clashes id source later = .ok q') (hsource : db.SourceOk k id source)
    (k' : WorkKind) (id' : PyStr) :
    RowStep db a k' id' ((db.work k').row id') (((db.setWork k q').work k').row id') := by
  rcases publishWork_ok h with rfl | ⟨hnone, rfl⟩
  · refine .of_eq ?_
    simp [setWork]
  · refine rowStep_setRow ?_ k' id'
    rw [hnone]
    exact .admitted source later hsource

theorem pendingSuites_lookup {e : PyStr × DetectorSuite} (h : e ∈ db.pendingSuites) :
    db.suites.lookup e.1 = some e.2 := by
  unfold pendingSuites at h
  rw [List.mem_insertionSort, List.mem_filter, List.mem_map] at h
  rcases h with ⟨⟨⟨id, suite⟩, hmem, rfl⟩, _⟩
  exact (Table.mem_entries_iff _ _ _).1 hmem

variable {db' : AnalysisDb J}

/-- What an admission inserts. -/
theorem admit_ok {limit maximum : Option Int} {r : Admission}
    (h : db.admit_starlink_full_dwell_work limit maximum later = .ok (db', r)) :
    ∃ rows : List (PyStr × FullDwellSource),
      (∀ e ∈ rows, ∃ suite, db.suites.lookup e.1 = some suite) ∧
      (rows.length : Int) ≤ max 0 ((least limit (maximum.map fun m => m - (db.work .full_dwell).backlog)).getD 0) ∧
      db' = db.setWork .full_dwell ((db.work .full_dwell).insertNew .none later rows).1 ∧
      r.admitted = ((db.work .full_dwell).insertNew .none later rows).2 := by
  unfold admit_starlink_full_dwell_work at h
  split at h
  · cases h
  cases h
  refine ⟨_, ?_, ?_, rfl, rfl⟩
  · intro e he
    rcases List.mem_map.1 he with ⟨suite, hsuite, rfl⟩
    exact ⟨suite.2, pendingSuites_lookup (List.mem_of_mem_take hsuite)⟩
  · rw [List.length_map, List.length_take]
    omega

theorem work_insertReferring {bundle : Digest} {insert : AnalysisDb J → AnalysisDb J}
    (hinsert : ∀ db, (insert db).work = db.work) : (db.insertReferring bundle insert).work = db.work := by
  unfold insertReferring
  split
  · exact hinsert _
  · rfl

/-- Every row of every table, over a call. -/
theorem apply_row (db : AnalysisDb J) (a : AnalysisCall J) (k : WorkKind) (id : PyStr) :
    RowStep db a k id ((db.work k).row id) (((db.apply a).work k).row id) := by
  have hcommit : ∀ {ε : Type} (x : Except ε (AnalysisDb J)),
      (∀ db', x = .ok db' → RowStep db a k id ((db.work k).row id) ((db'.work k).row id)) →
      RowStep db a k id ((db.work k).row id) (((db.commit x).work k).row id) := by
    intro ε x hx
    cases x with
    | ok db' => exact hx db' rfl
    | error e => exact .same
  cases a with
  | objects a =>
    refine .of_eq ?_
    simp only [apply]
    split <;> rfl
  | publish_suite analysis_id row =>
    refine .of_eq ?_
    simp only [apply]
    split
    · rfl
    · rw [work_insertReferring]
      exact fun _ => rfl
  | publish_feature_set row =>
    refine .of_eq ?_
    simp only [apply]
    rw [work_insertReferring]
    exact fun _ => rfl
  | publish_waterfall row =>
    refine .of_eq ?_
    simp only [apply]
    rw [work_insertReferring]
    exact fun _ => rfl
  | publish_full_dwell row bundle =>
    refine .of_eq ?_
    simp only [apply]
    rw [work_insertReferring]
    exact fun _ => rfl
  | enqueue_job id j => exact .same
  | claim_job job_types lease_token ttl locked now later =>
    refine hcommit _ ?_
    intro db' h
    rcases (map_ok h) with ⟨r, _, rfl⟩
    exact .same
  | claim_campaign_analysis_job job_ids job_type lease_token ttl locked now later =>
    refine hcommit _ ?_
    intro db' h
    rcases (map_ok h) with ⟨r, _, rfl⟩
    exact .same
  | reportJob id lease_token lease_generation r now later => exact .same
  | admit_work limit maximum later =>
    refine hcommit _ ?_
    intro db' h
    rcases map_ok h with ⟨⟨db'', r⟩, hadmit, rfl⟩
    rcases admit_ok hadmit with ⟨rows, hrows, _, rfl, _⟩
    by_cases hk : k = .full_dwell
    · subst hk
      simp only [work_setWork_self]
      rcases (db.work .full_dwell).insertNew_rows .none later rows with ⟨added, hsubset, _, _, _, hadded, hkept⟩
      by_cases hid : id ∈ added.map Prod.fst
      · rcases List.mem_map.1 hid with ⟨e, he, rfl⟩
        rcases hadded e he with ⟨hbefore, hafter⟩
        rw [hbefore, hafter]
        exact .admitted e.2 later (hrows e (hsubset he))
      · rw [hkept id hid]
        exact .same
    · exact .of_eq (work_setWork_of_ne db _ hk)
  | publish_feature_projection_work valid work_id lease_token lease_generation source now later =>
    refine hcommit _ ?_
    intro db' h
    unfold publish_feature_projection_work at h
    split at h
    · cases h
    split at h
    · cases h
    split at h
    · cases h
    rename_i hsource
    rcases bind_ok.1 h with ⟨q, hq, hdb'⟩
    cases hdb'
    exact rowStep_publish hq ⟨_, (not_not.1 hsource).1, rfl⟩ k id
  | publish_waterfall_projection_work work_id source later =>
    refine hcommit _ ?_
    intro db' h
    unfold publish_waterfall_projection_work at h
    split at h
    · cases h
      exact .same
    split at h
    · rename_i q hq
      cases h
      exact rowStep_publish hq trivial k id
    · cases h
      exact .same
  | publish_suite_projection_work valid work_id lease_token lease_generation source now later =>
    refine hcommit _ ?_
    intro db' h
    unfold publish_starlink_detector_suite_projection_work at h
    split at h
    · cases h
    split at h
    · cases h
    split at h
    · cases h
    rcases bind_ok.1 h with ⟨q, hq, hdb'⟩
    cases hdb'
    exact rowStep_publish hq trivial k id
  | claim f lease_token ttl locked now later =>
    refine hcommit _ ?_
    intro db' h
    rcases map_ok h with ⟨⟨q', r⟩, hclaim, rfl⟩
    rcases claim_ok hclaim with ⟨rfl, _⟩ | ⟨id', w, token, interval, hrow, _, _, rfl, _⟩
    · refine .of_eq ?_
      simp [setWork]
    · refine rowStep_setRow ?_ k id
      rw [hrow]
      exact .claimed token _ _
  | report k' id' lease_token lease_generation r now later =>
    simp only [apply]
    rcases db.report_cases k' id' lease_token lease_generation r now later with
      hsame | ⟨w, w', hrow, hactive, hsource, hset⟩
    · rw [hsame]
      refine .of_eq ?_
      simp [setWork]
    · rw [hset]
      refine rowStep_setRow ?_ k id
      rw [hrow]
      exact .reported lease_token lease_generation r now later rfl hactive hsource

/-- A call that writes work tables only. -/
structure WorkOnly (db db' : AnalysisDb J) : Prop where
  objects : db'.objects = db.objects
  suites : db'.suites = db.suites
  feature_sets : db'.feature_sets = db.feature_sets
  jobs : db'.jobs = db.jobs

theorem workOnly_setWork (db : AnalysisDb J) (k : WorkKind) (q : WorkTable k.Source Delivery) :
    db.WorkOnly (db.setWork k q) := ⟨rfl, rfl, rfl, rfl⟩

theorem publish_feature_projection_work_frame {valid : Bool} {work_id lease_token : PyStr} {lease_generation : Int}
    {source : FeatureProjectionSource}
    (h : db.publish_feature_projection_work valid work_id lease_token lease_generation source now later = .ok db') :
    db.WorkOnly db' := by
  unfold publish_feature_projection_work at h
  split at h
  · cases h
  split at h
  · cases h
  split at h
  · cases h
  rcases bind_ok.1 h with ⟨q, _, hdb'⟩
  cases hdb'
  exact db.workOnly_setWork _ q

theorem publish_waterfall_projection_work_frame {work_id : PyStr} {source : WaterfallProjectionSource}
    (h : db.publish_waterfall_projection_work work_id source later = .ok db') : db.WorkOnly db' := by
  unfold publish_waterfall_projection_work at h
  split at h
  · cases h
    exact ⟨rfl, rfl, rfl, rfl⟩
  split at h
  · cases h
    exact db.workOnly_setWork _ _
  · cases h
    exact ⟨rfl, rfl, rfl, rfl⟩

theorem publish_suite_projection_work_frame {valid : Bool} {work_id lease_token : PyStr} {lease_generation : Int}
    {source : SuiteProjectionSource}
    (h : db.publish_starlink_detector_suite_projection_work valid work_id lease_token lease_generation source now later = .ok db') : db.WorkOnly db' := by
  unfold publish_starlink_detector_suite_projection_work at h
  split at h
  · cases h
  split at h
  · cases h
  split at h
  · cases h
  rcases bind_ok.1 h with ⟨q, _, hdb'⟩
  cases hdb'
  exact db.workOnly_setWork _ q

/-! ## The invariant -/

/-- The catalogs only grow. -/
structure Grows (db db' : AnalysisDb J) : Prop where
  references : ∀ d ∈ db.objects.live_reference, d ∈ db'.objects.live_reference
  suites : ∀ id suite, db.suites.lookup id = some suite → db'.suites.lookup id = some suite
  feature_sets : ∀ row ∈ db.feature_sets, row ∈ db'.feature_sets

theorem Grows.refl (db : AnalysisDb J) : db.Grows db := ⟨fun _ h => h, fun _ _ h => h, fun _ h => h⟩

/-- What the catalogs refer to is live. -/
structure CatalogInv (db : AnalysisDb J) : Prop where
  references_live : db.objects.ReferencesLive
  suites : ∀ id suite, db.suites.lookup id = some suite → suite.bundle ∈ db.objects.live_reference
  feature_sets : ∀ row ∈ db.feature_sets, row.bundle ∈ db.objects.live_reference

/-- Every row of work has its source in the catalogs. -/
structure Inv (db : AnalysisDb J) : Prop extends CatalogInv db where
  sources : ∀ k id w, (db.work k).row id = some w → db.SourceOk k id w.source

/-- A call that leaves the objects and the two catalogs alone. -/
theorem CatalogInv.of_eq (h : db.CatalogInv) (hobjects : db'.objects = db.objects)
    (hsuites : db'.suites = db.suites) (hfeatures : db'.feature_sets = db.feature_sets) :
    db'.CatalogInv ∧ db.Grows db' := by
  constructor
  · constructor
    · rw [hobjects]
      exact h.references_live
    · rw [hobjects, hsuites]
      exact h.suites
    · rw [hobjects, hfeatures]
      exact h.feature_sets
  · constructor
    · rw [hobjects]
      exact fun _ h => h
    · rw [hsuites]
      exact fun _ _ h => h
    · rw [hfeatures]
      exact fun _ h => h

/-- A call of the object catalog. -/
theorem CatalogInv.applyObjects (h : db.CatalogInv) {a : Catalog.ObjectCall} {objects : Catalog}
    (hobjects : db.objects.applyObjects a = some objects) :
    ({ db with objects } : AnalysisDb J).CatalogInv ∧ db.Grows { db with objects } := by
  constructor
  · constructor
    · exact h.references_live.applyObjects hobjects
    · exact fun id suite hsuite => Catalog.reference_mono hobjects (h.suites id suite hsuite)
    · exact fun row hrow => Catalog.reference_mono hobjects (h.feature_sets row hrow)
  · exact ⟨fun d hd => Catalog.reference_mono hobjects hd, fun _ _ h => h, fun _ h => h⟩

/-- The reference that a trigger lets pass. -/
theorem mem_insertReference {db db' : Catalog} {d : Digest} (h : db.applyObjects (.insertReference d) = some db') :
    d ∈ db'.live_reference := by
  have hok := Catalog.toOption_eq_some.1 h
  unfold Catalog.insertReference at hok
  split at hok
  · cases hok
    exact List.mem_cons_self
  · cases hok

theorem CatalogInv.insertReferring (h : db.CatalogInv) {bundle : Digest} {insert : AnalysisDb J → AnalysisDb J}
    (hinsert : ∀ db' : AnalysisDb J, db'.CatalogInv → db.Grows db' → db'.suites = db.suites → bundle ∈ db'.objects.live_reference → (insert db').CatalogInv ∧ db.Grows (insert db')) :
    (db.insertReferring bundle insert).CatalogInv ∧ db.Grows (db.insertReferring bundle insert) := by
  unfold AnalysisDb.insertReferring
  split
  · rename_i objects hobjects
    rcases h.applyObjects hobjects with ⟨hinv, hgrows⟩
    exact hinsert _ hinv hgrows rfl (mem_insertReference hobjects)
  · exact ⟨h, .refl db⟩

theorem catalogInv_apply (h : db.CatalogInv) (a : AnalysisCall J) :
    (db.apply a).CatalogInv ∧ db.Grows (db.apply a) := by
  have hcommit : ∀ {ε : Type} (x : Except ε (AnalysisDb J)),
      (∀ db', x = .ok db' → db'.objects = db.objects ∧ db'.suites = db.suites ∧ db'.feature_sets = db.feature_sets) →
      (db.commit x).CatalogInv ∧ db.Grows (db.commit x) := by
    intro ε x hx
    cases x with
    | ok db' =>
      rcases hx db' rfl with ⟨hobjects, hsuites, hfeatures⟩
      exact h.of_eq hobjects hsuites hfeatures
    | error e => exact ⟨h, .refl db⟩
  cases a with
  | objects a =>
    simp only [apply]
    split
    · rename_i objects hobjects
      exact h.applyObjects hobjects
    · exact ⟨h, .refl db⟩
  | publish_suite analysis_id row =>
    simp only [apply]
    split
    · exact ⟨h, .refl db⟩
    rename_i hnew
    apply h.insertReferring
    intro db' hinv hgrows hsuites hbundle
    have hnone : db'.suites.lookup analysis_id = none := by
      rw [hsuites]
      simpa using hnew
    refine ⟨⟨hinv.references_live, ?_, hinv.feature_sets⟩, ⟨hgrows.references, ?_, hgrows.feature_sets⟩⟩
    · intro id suite hsuite
      rw [Table.lookup_insert_ite] at hsuite
      split at hsuite
      · cases hsuite
        exact hbundle
      · exact hinv.suites id suite hsuite
    · intro id suite hsuite
      have hold := hgrows.suites id suite hsuite
      rw [Table.lookup_insert_ite, if_neg]
      · exact hold
      · rintro rfl
        rw [hnone] at hold
        cases hold
  | publish_feature_set row =>
    simp only [apply]
    apply h.insertReferring
    intro db' hinv hgrows hsuites hbundle
    refine ⟨⟨hinv.references_live, hinv.suites, ?_⟩, ⟨hgrows.references, hgrows.suites, ?_⟩⟩
    · intro row' hrow'
      rcases List.mem_cons.1 hrow' with rfl | hrow'
      · exact hbundle
      · exact hinv.feature_sets row' hrow'
    · exact fun row' hrow' => List.mem_cons_of_mem _ (hgrows.feature_sets row' hrow')
  | publish_waterfall row =>
    simp only [apply]
    apply h.insertReferring
    intro db' hinv hgrows hsuites hbundle
    exact ⟨⟨hinv.references_live, hinv.suites, hinv.feature_sets⟩,
      ⟨hgrows.references, hgrows.suites, hgrows.feature_sets⟩⟩
  | publish_full_dwell row bundle =>
    simp only [apply]
    apply h.insertReferring
    intro db' hinv hgrows hsuites hbundle
    exact ⟨⟨hinv.references_live, hinv.suites, hinv.feature_sets⟩,
      ⟨hgrows.references, hgrows.suites, hgrows.feature_sets⟩⟩
  | enqueue_job id j => exact h.of_eq rfl rfl rfl
  | claim_job job_types lease_token ttl locked now later =>
    refine hcommit _ fun db' hdb' => ?_
    rcases map_ok hdb' with ⟨r, _, rfl⟩
    exact ⟨rfl, rfl, rfl⟩
  | claim_campaign_analysis_job job_ids job_type lease_token ttl locked now later =>
    refine hcommit _ fun db' hdb' => ?_
    rcases map_ok hdb' with ⟨r, _, rfl⟩
    exact ⟨rfl, rfl, rfl⟩
  | reportJob id lease_token lease_generation r now later => exact h.of_eq rfl rfl rfl
  | admit_work limit maximum later =>
    refine hcommit _ fun db' hdb' => ?_
    rcases map_ok hdb' with ⟨⟨db'', r⟩, hadmit, rfl⟩
    rcases admit_ok hadmit with ⟨rows, _, _, rfl, _⟩
    exact ⟨rfl, rfl, rfl⟩
  | publish_feature_projection_work valid work_id lease_token lease_generation source now later =>
    refine hcommit _ fun db' hdb' => ?_
    have hframe := publish_feature_projection_work_frame hdb'
    exact ⟨hframe.objects, hframe.suites, hframe.feature_sets⟩
  | publish_waterfall_projection_work work_id source later =>
    refine hcommit _ fun db' hdb' => ?_
    have hframe := publish_waterfall_projection_work_frame hdb'
    exact ⟨hframe.objects, hframe.suites, hframe.feature_sets⟩
  | publish_suite_projection_work valid work_id lease_token lease_generation source now later =>
    refine hcommit _ fun db' hdb' => ?_
    have hframe := publish_suite_projection_work_frame hdb'
    exact ⟨hframe.objects, hframe.suites, hframe.feature_sets⟩
  | claim f lease_token ttl locked now later =>
    refine hcommit _ fun db' hdb' => ?_
    rcases map_ok hdb' with ⟨r, _, rfl⟩
    exact ⟨rfl, rfl, rfl⟩
  | report k id lease_token lease_generation r now later => exact h.of_eq rfl rfl rfl

/-- A source stays in its catalog. -/
theorem SourceOk.grows (hgrows : db.Grows db') {source : k.Source} (h : db.SourceOk k id source) : db'.SourceOk k id source := by
  cases k with
  | full_dwell =>
    rcases h with ⟨suite, hsuite⟩
    exact ⟨suite, hgrows.suites id suite hsuite⟩
  | feature_projection =>
    rcases h with ⟨row, hrow, hbundle⟩
    exact ⟨row, hgrows.feature_sets row hrow, hbundle⟩
  | waterfall_projection => trivial
  | starlink_detector_suite_projection => trivial

theorem inv_apply (h : db.Inv) (a : AnalysisCall J) : (db.apply a).Inv := by
  rcases catalogInv_apply h.toCatalogInv a with ⟨hcatalog, hgrows⟩
  refine ⟨hcatalog, ?_⟩
  intro k id w' hrow'
  have hstep := db.apply_row a k id
  rw [hrow'] at hstep
  generalize hrow : (db.work k).row id = before at hstep
  apply SourceOk.grows hgrows
  cases hstep with
  | same => exact h.sources k id w' hrow
  | admitted source later hsource => exact hsource
  | @claimed w lease_token expires last_error => exact h.sources k id w hrow
  | @reported w _ lease_token lease_generation r now later _ _ hsource =>
    rw [hsource]
    exact h.sources k id w hrow

theorem reachable_inv (h : (machine J).Reachable db) : db.Inv := by
  refine (machine J).init_invariant ?_ ?_ h
  · rintro db ⟨hobjects, hsuites, hfeatures, _, hwork⟩
    refine ⟨⟨?_, ?_, ?_⟩, ?_⟩
    · rw [hobjects]
      exact Catalog.referencesLive_empty
    · intro id suite hsuite
      rw [hsuites] at hsuite
      cases hsuite
    · intro row hrow
      rw [hfeatures] at hrow
      cases hrow
    · intro k id w hrow
      rw [hwork] at hrow
      cases hrow
  · intro db a db' hinv hstep
    cases hstep
    exact inv_apply hinv a

/-- The joins of a claim find the sources of every row. -/
theorem Inv.joins (h : db.Inv) {f : WorkClaim} {w : Work f.kind.Source Delivery}
    (hrow : (db.work f.kind).row id = some w) : (db.claimStatement f).joins id w.source = true := by
  have hsource := h.sources f.kind id w hrow
  have hfeature : ∀ d, (∃ row ∈ db.feature_sets, row.bundle = d) → db.objects.isLive d = true := by
    rintro d ⟨row, hmem, rfl⟩
    exact h.references_live _ (h.feature_sets row hmem)
  cases f with
  | claim_starlink_full_dwell_work =>
    rcases hsource with ⟨suite, hsuite⟩
    simp only [claimStatement, hsuite, Option.any_some]
    exact h.references_live _ (h.suites id suite hsuite)
  | claim_feature_projection_work => exact hfeature _ hsource
  | claim_campaign_feature_projection ids => exact hfeature _ hsource
  | claim_waterfall_projection_work => rfl
  | claim_starlink_detector_suite_projection_work => rfl
  | claim_campaign_waterfall_projection ids => rfl
  | claim_campaign_starlink_suite_projection ids => rfl

/-! ## Exact claims -/

/-- A claim of a work table returned nothing and changed nothing, or it returned the one row it leased. -/
def WorkClaimExact (db : AnalysisDb J) (f : WorkClaim) (lease_token : Option PyStr) (ttl : Option Int)
    (later : Int) (q' : WorkTable f.kind.Source Delivery) (r : Option (PyStr × Work f.kind.Source Delivery)) : Prop :=
  r = none ∧ q' = db.work f.kind ∨
    ∃ id w w', r = some (id, w') ∧ (db.work f.kind).row id = some w ∧ q' = (db.work f.kind).setRow id w' ∧
      w'.source = w.source ∧ w'.attempt = w.attempt + 1 ∧ w'.lease_generation = w.lease_generation + 1 ∧
      w'.state = .leased ∧ w'.lease_token = lease_token ∧ ∃ interval ∈ ttl, w'.lease_expires_utc = some (later + interval)

theorem claim_exact (hinv : db.Inv) {f : WorkClaim} {ttl : Option Int} {locked : List PyStr}
    {q' : WorkTable f.kind.Source Delivery} {r : Option (PyStr × Work f.kind.Source Delivery)}
    (h : db.claim f lease_token ttl locked now later = .ok (q', r)) :
    db.WorkClaimExact f lease_token ttl later q' r := by
  rcases claim_ok h with ⟨hq, hr⟩ | ⟨id, w, token, interval, hrow, htoken, hinterval, hq, hr⟩
  · exact Or.inl ⟨hr, hq⟩
  · rw [if_pos (hinv.joins hrow)] at hr
    exact Or.inr ⟨id, w, _, hr, hrow, hq, rfl, rfl, rfl, rfl, htoken.symm, interval, hinterval, rfl⟩

/-- The same of a claim of the table `job`. -/
def JobClaimExact (db : AnalysisDb J) (lease_token : Option PyStr) (ttl : Option Int) (later : Int)
    (q' : JobTable J) (r : Option (JobId × Job J)) : Prop :=
  r = none ∧ q' = db.jobs ∨
    ∃ id j j', r = some (id, j') ∧ db.jobs.job id = some j ∧ q' = db.jobs.setJob id j' ∧
      j'.payload = j.payload ∧ j'.attempt = j.attempt + 1 ∧ j'.lease_generation = j.lease_generation + 1 ∧
      j'.state = .leased ∧ j'.lease_token = lease_token ∧ ∃ interval ∈ ttl, j'.lease_expires_utc = some (later + interval)

theorem claim_campaign_analysis_job_exact {job_ids : Option (List (Option PyStr))} {job_type : Option JobType}
    {ttl : Option Int} {locked : List JobId} {q' : JobTable J} {r : Option (JobId × Job J)}
    (h : db.jobs.claim_campaign_analysis_job job_ids job_type lease_token ttl locked now later = .ok (q', r)) :
    db.JobClaimExact lease_token ttl later q' r := by
  unfold JobTable.claim_campaign_analysis_job at h
  split at h
  · cases h
  split at h
  · split at h
    · cases h
    split at h
    · cases h
      exact Or.inl ⟨rfl, rfl⟩
    · rename_i id j hcandidate
      split at h
      · cases h
      · cases h
        exact Or.inr ⟨id, j, _, rfl, (JobTable.campaignCandidate_ok hcandidate).1, rfl, rfl, rfl, rfl, rfl, rfl, _,
          rfl, rfl⟩
  · cases h

/-- A row that ends its work was reported by the holder of its lease. -/
def WorkFenced (db : AnalysisDb J) (a : AnalysisCall J) : Prop :=
  ∀ k id w w', (db.work k).row id = some w → ((db.apply a).work k).row id = some w' → w' ≠ w →
    w'.state = .succeeded ∨ w'.state = .failed ∨ w'.state = .parked →
    ∃ lease_token lease_generation r now later, a = .report k id lease_token lease_generation r now later ∧
      w.activeLease lease_token lease_generation now

theorem workFenced (db : AnalysisDb J) (a : AnalysisCall J) : db.WorkFenced a := by
  intro k id w w' hrow hrow' hne hfinal
  have hstep := db.apply_row a k id
  rw [hrow, hrow'] at hstep
  cases hstep with
  | same => exact absurd rfl hne
  | claimed lease_token expires last_error =>
    rcases hfinal with hstate | hstate | hstate <;> cases hstate
  | reported lease_token lease_generation r now later ha hactive hsource =>
    exact ⟨lease_token, lease_generation, r, now, later, ha, hactive⟩

/-- A report of a job is a fenced update. -/
theorem jobReport_cases (q : JobTable J) (id : JobId) (lease_token : PyStr) (lease_generation : Int) (r : JobReport)
    (now later : Int) :
    (q.report id lease_token lease_generation r now later).1 = q ∨
      ∃ j j', q.job id = some j ∧ j.activeLease lease_token lease_generation now ∧
        (q.report id lease_token lease_generation r now later).1 = q.setJob id j' := by
  have hupdate : ∀ update : (j : Job J) → j.state = .leased → Job J,
      (q.updateActive id lease_token lease_generation now update).1 = q ∨
        ∃ j j', q.job id = some j ∧ j.activeLease lease_token lease_generation now ∧
          (q.updateActive id lease_token lease_generation now update).1 = q.setJob id j' := by
    intro update
    rcases q.updateActive_cases id lease_token lease_generation now update with hsame | ⟨j, hactive, hjob, heq⟩
    · exact Or.inl (by rw [hsame])
    · exact Or.inr ⟨j, _, hjob, hactive, by rw [heq]⟩
  cases r with
  | heartbeat ttl =>
    simp only [JobTable.report, JobTable.heartbeat_job]
    split
    · exact hupdate _
    · exact Or.inl rfl
  | complete result_ref => exact hupdate _
  | fail reason retry_at_utc =>
    simp only [JobTable.report, JobTable.fail_job]
    split
    · exact hupdate _
    · exact Or.inl rfl
  | park reason =>
    simp only [JobTable.report, JobTable.park_job]
    split
    · exact hupdate _
    · exact Or.inl rfl

/-- A job that ends an attempt was reported by the holder of its lease. -/
def JobFenced (db : AnalysisDb J) (a : AnalysisCall J) : Prop :=
  ∀ id j j', db.jobs.job id = some j → (db.apply a).jobs.job id = some j' → j' ≠ j →
    j'.state = .succeeded ∨ j'.state = .failed ∨ j'.state = .parked →
    ∃ lease_token lease_generation r now later, a = .reportJob id lease_token lease_generation r now later ∧
      j.activeLease lease_token lease_generation now

/-- Over one call the table `job` keeps a row, or the row is new, or leased, or reported. -/
theorem apply_jobs (db : AnalysisDb J) (a : AnalysisCall J) :
    (db.apply a).jobs = db.jobs ∨ ∃ id j', (db.apply a).jobs = db.jobs.setJob id j' ∧
      (db.jobs.job id = none ∨ j'.state = .leased ∨
        ∃ j lease_token lease_generation r now later, db.jobs.job id = some j ∧
          a = .reportJob id lease_token lease_generation r now later ∧
          j.activeLease lease_token lease_generation now) := by
  have hreferring : ∀ bundle insert, (∀ db : AnalysisDb J, (insert db).jobs = db.jobs) →
      (db.insertReferring bundle insert).jobs = db.jobs := by
    intro bundle insert hinsert
    unfold insertReferring
    split
    · exact hinsert _
    · rfl
  have hcommit : ∀ {ε : Type} (x : Except ε (AnalysisDb J)), (∀ db', x = .ok db' → db'.jobs = db.jobs) →
      (db.commit x).jobs = db.jobs := by
    intro ε x hx
    cases x with
    | ok db' => exact hx db' rfl
    | error e => rfl
  cases a with
  | objects a =>
    left
    simp only [apply]
    split <;> rfl
  | publish_suite analysis_id row =>
    left
    simp only [apply]
    split
    · rfl
    · exact hreferring _ _ fun _ => rfl
  | publish_feature_set row =>
    left
    simp only [apply]
    exact hreferring _ _ fun _ => rfl
  | publish_waterfall row =>
    left
    simp only [apply]
    exact hreferring _ _ fun _ => rfl
  | publish_full_dwell row bundle =>
    left
    simp only [apply]
    exact hreferring _ _ fun _ => rfl
  | enqueue_job id j =>
    rcases db.jobs.enqueue_job_cases id j with hsame | ⟨hnone, hset⟩
    · exact Or.inl (by simp only [apply, hsame])
    · exact Or.inr ⟨id, j, by simp only [apply, hset], Or.inl hnone⟩
  | claim_job job_types lease_token ttl locked now later =>
    simp only [apply]
    cases hclaim : db.jobs.claim_job job_types lease_token ttl locked now later with
    | error e => exact Or.inl rfl
    | ok result =>
      rcases result with ⟨q', r⟩
      rcases JobTable.claim_job_ok hclaim with ⟨hsame, _⟩ | ⟨id, j, hparked, _, _, _, _, hset⟩
      · exact Or.inl hsame
      · exact Or.inr ⟨id, _, hset, Or.inr (Or.inl rfl)⟩
  | claim_campaign_analysis_job job_ids job_type lease_token ttl locked now later =>
    simp only [apply]
    cases hclaim : db.jobs.claim_campaign_analysis_job job_ids job_type lease_token ttl locked now later with
    | error e => exact Or.inl rfl
    | ok result =>
      rcases result with ⟨q', r⟩
      rcases claim_campaign_analysis_job_exact hclaim with
        ⟨_, hsame⟩ | ⟨id, j, j', _, _, hset, _, _, _, hleased, _⟩
      · exact Or.inl hsame
      · exact Or.inr ⟨id, j', hset, Or.inr (Or.inl hleased)⟩
  | reportJob id lease_token lease_generation r now later =>
    rcases jobReport_cases db.jobs id lease_token lease_generation r now later with
      hsame | ⟨j, j', hjob, hactive, hset⟩
    · exact Or.inl hsame
    · exact Or.inr ⟨id, j', hset,
        Or.inr (Or.inr ⟨j, lease_token, lease_generation, r, now, later, hjob, rfl, hactive⟩)⟩
  | admit_work limit maximum later =>
    refine Or.inl (hcommit _ fun db' hdb' => ?_)
    rcases map_ok hdb' with ⟨⟨db'', r⟩, hadmit, rfl⟩
    rcases admit_ok hadmit with ⟨rows, _, _, rfl, _⟩
    rfl
  | publish_feature_projection_work valid work_id lease_token lease_generation source now later =>
    exact Or.inl (hcommit _ fun db' hdb' => (publish_feature_projection_work_frame hdb').jobs)
  | publish_waterfall_projection_work work_id source later =>
    exact Or.inl (hcommit _ fun db' hdb' => (publish_waterfall_projection_work_frame hdb').jobs)
  | publish_suite_projection_work valid work_id lease_token lease_generation source now later =>
    exact Or.inl (hcommit _ fun db' hdb' => (publish_suite_projection_work_frame hdb').jobs)
  | claim f lease_token ttl locked now later =>
    refine Or.inl (hcommit _ fun db' hdb' => ?_)
    rcases map_ok hdb' with ⟨r, _, rfl⟩
    rfl
  | report k id lease_token lease_generation r now later => exact Or.inl rfl

theorem jobFenced (db : AnalysisDb J) (a : AnalysisCall J) : db.JobFenced a := by
  intro id j j' hjob hjob' hne hfinal
  rcases db.apply_jobs a with hsame | ⟨id', v, hset, hcases⟩
  · rw [hsame, hjob] at hjob'
    exact absurd (Option.some.inj hjob').symm hne
  · rw [hset, JobTable.job_setJob] at hjob'
    split at hjob'
    · rename_i hid
      subst hid
      cases hjob'
      rcases hcases with hnone | hleased | ⟨v, lease_token, lease_generation, r, now, later, hv, ha, hactive⟩
      · rw [hjob] at hnone
        cases hnone
      · rcases hfinal with hstate | hstate | hstate <;>
          · rw [hleased] at hstate
            cases hstate
      · rw [hjob] at hv
        cases hv
        exact ⟨lease_token, lease_generation, r, now, later, ha, hactive⟩
    · rw [hjob] at hjob'
      exact absurd (Option.some.inj hjob').symm hne

/-- An admission inserts new rows only, at most `limit` of them, and the backlog it leaves is no larger than before
or than `maximum`. -/
theorem admit_exact {limit maximum : Option Int} {r : Admission}
    (h : db.admit_starlink_full_dwell_work limit maximum later = .ok (db', r)) :
    (∃ ids : List PyStr, ids.Nodup ∧ ids.length = r.admitted ∧
      (∀ id ∈ ids, (db.work .full_dwell).row id = none ∧
        ∃ w, (db'.work .full_dwell).row id = some w ∧ w.state = .ready) ∧
      ∀ id ∉ ids, (db'.work .full_dwell).row id = (db.work .full_dwell).row id) ∧
    (∀ l ∈ limit, (r.admitted : Int) ≤ l) ∧
    ∀ m ∈ maximum, ((db'.work .full_dwell).backlog : Int) ≤ max ((db.work .full_dwell).backlog : Int) m := by
  have hlimit : ∀ l ∈ limit, 0 ≤ l := by
    intro l hl
    unfold admit_starlink_full_dwell_work at h
    split at h
    · cases h
    rename_i hvalid
    cases hl
    simp only [Option.any_some, Bool.or_eq_true, decide_eq_true_eq, not_or] at hvalid
    omega
  rcases admit_ok h with ⟨rows, _, hcapacity, rfl, hadmitted⟩
  rcases (db.work .full_dwell).insertNew_rows .none later rows with ⟨added, _, hnodup, hcount, hlength, hadded, hkept⟩
  have hbacklog := (db.work .full_dwell).backlog_insertNew .none later rows
  rw [work_setWork_self]
  refine ⟨⟨added.map Prod.fst, hnodup, ?_, ?_, hkept⟩, ?_, ?_⟩
  · rw [List.length_map, hadmitted, hcount]
  · intro id hid
    rcases List.mem_map.1 hid with ⟨e, he, rfl⟩
    rcases hadded e he with ⟨hbefore, hafter⟩
    exact ⟨hbefore, _, hafter, rfl⟩
  · intro l hl
    have hnonneg := hlimit l hl
    cases hl
    cases maximum with
    | none =>
      simp only [least, Option.map_none, Option.getD_some] at hcapacity
      omega
    | some m =>
      simp only [least, Option.map_some, Option.getD_some] at hcapacity
      omega
  · intro m hm
    cases hm
    cases limit with
    | none =>
      simp only [least, Option.map_some, Option.getD_some] at hcapacity
      omega
    | some l =>
      simp only [least, Option.map_some, Option.getD_some] at hcapacity
      omega

/-- Rows of work are never taken away, so no suite is admitted a second time. -/
theorem work_kept (db : AnalysisDb J) (a : AnalysisCall J) {w : Work k.Source Delivery}
    (hrow : (db.work k).row id = some w) :
    ∃ w', ((db.apply a).work k).row id = some w' ∧ w'.source = w.source := by
  have hstep := db.apply_row a k id
  rw [hrow] at hstep
  generalize ((db.apply a).work k).row id = after at hstep
  cases hstep with
  | same => exact ⟨w, rfl, rfl⟩
  | claimed lease_token expires last_error => exact ⟨_, rfl, rfl⟩
  | @reported _ w' lease_token lease_generation r now later _ _ hsource => exact ⟨w', rfl, hsource⟩

/-- In every reachable state: a claim returns the one row it leased, or nothing and then it changes nothing; a row ends
an attempt only by a report under its current, unexpired lease; rows stay; and admissions keep to their bounds. -/
theorem claims_exact (J : Type) (db : AnalysisDb J) (h : (machine J).Reachable db) :
    (∀ f lease_token ttl locked now later,
      (∃ e, db.claim f lease_token ttl locked now later = .error e ∧
        db.apply (.claim f lease_token ttl locked now later) = db) ∨
      ∃ q' r, db.claim f lease_token ttl locked now later = .ok (q', r) ∧
        db.apply (.claim f lease_token ttl locked now later) = db.setWork f.kind q' ∧
        db.WorkClaimExact f lease_token ttl later q' r) ∧
    (∀ job_ids job_type lease_token ttl locked now later,
      (∃ e, db.jobs.claim_campaign_analysis_job job_ids job_type lease_token ttl locked now later = .error e ∧
        db.apply (.claim_campaign_analysis_job job_ids job_type lease_token ttl locked now later) = db) ∨
      ∃ q' r, db.jobs.claim_campaign_analysis_job job_ids job_type lease_token ttl locked now later = .ok (q', r) ∧
        db.apply (.claim_campaign_analysis_job job_ids job_type lease_token ttl locked now later) =
          { db with jobs := q' } ∧
        db.JobClaimExact lease_token ttl later q' r) ∧
    (∀ a, db.WorkFenced a ∧ db.JobFenced a) ∧
    (∀ a k id w, (db.work k).row id = some w →
      ∃ w', ((db.apply a).work k).row id = some w' ∧ w'.source = w.source) ∧
    ∀ limit maximum later db' r, db.admit_starlink_full_dwell_work limit maximum later = .ok (db', r) →
      (∃ ids : List PyStr, ids.Nodup ∧ ids.length = r.admitted ∧
        (∀ id ∈ ids, (db.work .full_dwell).row id = none ∧
          ∃ w, (db'.work .full_dwell).row id = some w ∧ w.state = .ready) ∧
        ∀ id ∉ ids, (db'.work .full_dwell).row id = (db.work .full_dwell).row id) ∧
      (∀ l ∈ limit, (r.admitted : Int) ≤ l) ∧
      ∀ m ∈ maximum, ((db'.work .full_dwell).backlog : Int) ≤ max ((db.work .full_dwell).backlog : Int) m := by
  refine ⟨?_, ?_, fun a => ⟨db.workFenced a, db.jobFenced a⟩, fun a k id w hrow => db.work_kept a hrow, ?_⟩
  · intro f lease_token ttl locked now later
    simp only [apply]
    cases hclaim : db.claim f lease_token ttl locked now later with
    | error e => exact Or.inl ⟨e, rfl, rfl⟩
    | ok result => exact Or.inr ⟨result.1, result.2, rfl, rfl, claim_exact (reachable_inv h) hclaim⟩
  · intro job_ids job_type lease_token ttl locked now later
    simp only [apply]
    cases hclaim : db.jobs.claim_campaign_analysis_job job_ids job_type lease_token ttl locked now later with
    | error e => exact Or.inl ⟨e, rfl, rfl⟩
    | ok result => exact Or.inr ⟨result.1, result.2, rfl, rfl, claim_campaign_analysis_job_exact hclaim⟩
  · intro limit maximum later db' r hadmit
    exact admit_exact hadmit

/-- No tables yet. -/
def empty (J : Type) : AnalysisDb J where
  objects := .empty
  suites := ∅
  feature_sets := []
  waterfalls := []
  full_dwells := []
  jobs := .empty
  work _ := .empty

/-- A suite and its admission. -/
def admission : List (AnalysisCall Nat) :=
  let bundle : Digest := Sample.zeros
  [.objects (.register_live_object_blob 0 ⟨bundle, 0, [], [], []⟩),
    .publish_suite (str "slsuite") ⟨str "rec", [], bundle, true, 0⟩, .admit_work (some 1) (some 1) 0]

def oneAdmitted : AnalysisDb Nat := admission.foldl apply (empty Nat)

theorem claims_exact_admitted :
    ((oneAdmitted.work .full_dwell).row (str "slsuite")).isSome = true ∧
      ∀ a, oneAdmitted.WorkFenced a ∧ oneAdmitted.JobFenced a := by
  constructor
  · rfl
  · have hempty : (machine Nat).Reachable (empty Nat) := .init ⟨rfl, rfl, rfl, rfl, fun _ => rfl⟩
    have hrun : (machine Nat).run (empty Nat) admission = some oneAdmitted := rfl
    exact (claims_exact Nat oneAdmitted ((machine Nat).run_reachable hempty hrun)).2.2.1

end AnalysisDb

end LeoFlow
