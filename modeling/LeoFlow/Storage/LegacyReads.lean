import LeoFlow.Core.Pieces
import LeoFlow.Storage.LegacyRecording
import LeoFlow.Contracts.Samples

/-!
# LeoFlow.Storage.LegacyReads — a range of chunks is the range of the stream

The source manifest fixes that the chunks together hold eight bytes for each sample. A
range of samples is cut at the chunk borders; what the pieces give is the range of the
concatenated payloads, unless a single piece is longer than one `pread` returns.
-/

namespace LeoFlow

/-! ## What an accepted source says -/

variable {registration : LegacyRecordingRegistration}

/-- What an accepted chunk adds. -/
theorem validateChunk_ok {next_sample : Int} {raw : PyValue} {payload : LegacyFileRef} {samples byte_count : Int}
    (h : validateChunk registration next_sample raw payload = .ok (samples, byte_count)) :
    byte_count = samples * 8 ∧ byte_count = payload.val.byte_count := by
  unfold validateChunk at h
  split at h
  · split at h
    · rcases bind_ok.1 h with ⟨_, _, h1⟩
      rcases bind_ok.1 h1 with ⟨_, _, h2⟩
      rcases bind_ok.1 h2 with ⟨_, hchecks, h3⟩
      have hall := raiseIf_ok.1 hchecks
      simp only [not_or, not_not] at hall
      cases h3
      exact ⟨hall.2.2.2.1, hall.2.2.2.2.1⟩
    · cases h
  · cases h

/-- The loop counts eight bytes for each sample, and the bytes of the files. -/
theorem validateChunks_ok {next_sample total_bytes : Int} {pairs : List (PyValue × LegacyFileRef)}
    {samples byte_count : Int}
    (h : validateChunks registration next_sample total_bytes pairs = .ok (samples, byte_count)) :
    byte_count - total_bytes = (samples - next_sample) * 8 ∧
      byte_count - total_bytes = ((pairs.map Prod.snd).map fun payload => payload.val.byte_count).sum := by
  induction pairs generalizing next_sample total_bytes with
  | nil =>
    cases h
    constructor
    · omega
    · simp
  | cons pair pairs ih =>
    rcases pair with ⟨raw, payload⟩
    rcases bind_ok.1 h with ⟨⟨n, b⟩, hchunk, hrest⟩
    have hone := validateChunk_ok hchunk
    have hmany := ih hrest
    constructor
    · omega
    · rw [List.map_cons, List.map_cons, List.sum_cons, ← hmany.2, ← hone.2]
      omega

/-- The chunks of an accepted source hold the samples of the segment. -/
theorem samples_of_validateSource {source : LegacySource} (h : validateSource source registration = .ok ()) :
    (registration.val.payloads.map fun payload => payload.val.byte_count).sum =
      registration.segment.val.sample_count * 8 := by
  unfold validateSource at h
  rcases bind_ok.1 h with ⟨_, _, h1⟩
  rcases bind_ok.1 h1 with ⟨_, _, h2⟩
  rcases bind_ok.1 h2 with ⟨_, _, h3⟩
  rcases bind_ok.1 h3 with ⟨_, _, h4⟩
  rcases bind_ok.1 h4 with ⟨_, _, h5⟩
  split at h5
  · rename_i chunk chunks _
    rcases bind_ok.1 h5 with ⟨_, hlength, h6⟩
    rcases bind_ok.1 h6 with ⟨⟨next_sample, total_bytes⟩, hchunks, h7⟩
    rcases bind_ok.1 h7 with ⟨mode, _, hfacts⟩
    have hsame : (chunk :: chunks).length = registration.val.payloads.length := not_not.1 (raiseIf_ok.1 hlength)
    have hsegment : registration.segment.val.sample_count = next_sample := (not_not.1 (raiseIf_ok.1 hfacts)).1
    have hcount := validateChunks_ok hchunks
    rw [List.map_snd_zip (by omega)] at hcount
    omega
  · cases h5

/-! ## Effects -/

variable {log log' : List Fetch}

namespace LegacyEff

theorem run_raiseIf_neg {bad : Prop} [Decidable bad] {e : PyError} (h : ¬bad) (log : List Fetch) :
    (LegacyEff.raiseIf bad e).run log = .ok () log := by
  unfold LegacyEff.raiseIf
  rw [if_neg h]
  rfl

theorem run_raiseIf_pos {bad : Prop} [Decidable bad] {e : PyError} (h : bad) (log : List Fetch) :
    (LegacyEff.raiseIf bad e).run log = .error e log := by
  unfold LegacyEff.raiseIf
  rw [if_pos h]
  rfl

theorem raiseIf_ok {bad : Prop} [Decidable bad] {e : PyError} {u : Unit} :
    (LegacyEff.raiseIf bad e).run log = .ok u log' ↔ ¬bad ∧ log' = log := by
  by_cases h : bad
  · rw [run_raiseIf_pos h]
    simp [h]
  · rw [run_raiseIf_neg h]
    simp [h, eq_comm]

theorem ofExcept_ok {α : Type} {x : Except PyError α} {a : α} :
    (MonadExcept.ofExcept x : LegacyEff α).run log = .ok a log' ↔ x = .ok a ∧ log' = log := by
  cases x with
  | error e =>
    constructor
    · intro h
      cases h
    · rintro ⟨h, _⟩
      cases h
  | ok b =>
    constructor
    · intro h
      cases h
      exact ⟨rfl, rfl⟩
    · rintro ⟨h, rfl⟩
      cases h
      rfl

end LegacyEff

/-! ## Ranges of one file -/

/-- The file is open on what was verified: nothing has changed and the content has its registered size. -/
structure VerifiedFile.Intact (f : VerifiedFile) (host : Host) : Prop where
  unchanged : (host.files f.descriptor).fingerprint = f.fingerprint
  size : ((host.files f.descriptor).content.length : Int) = f.byte_count

/-- `read_range` returns the range, or raises when it is longer than one `pread` returns. -/
theorem VerifiedFile.Intact.run_read_range {f : VerifiedFile} {host : Host} (h : f.Intact host) {start stop : Int}
    (hstart : 0 ≤ start) (hlt : start < stop) (hstop : stop ≤ f.byte_count) (log : List Fetch) :
    (f.read_range host start stop).run log =
      if stop - start ≤ host.transfer then
        .ok ((host.files f.descriptor).content.extract start.toNat stop.toNat) (log ++ [⟨f.descriptor, start, stop⟩])
      else .error (.legacy "legacy object changed or was truncated") (log ++ [⟨f.descriptor, start, stop⟩]) := by
  have hsize := h.size
  unfold VerifiedFile.read_range VerifiedFile.assertUnchanged
  rw [Effect.run_bind_of_ok (LegacyEff.run_raiseIf_neg (not_not.2 ⟨hstart, hlt, hstop⟩) log)]
  rw [Effect.run_bind_of_ok (LegacyEff.run_raiseIf_neg (not_not.2 h.unchanged) log)]
  -- what `pread` hands back, and the range it leaves in the log
  have hpread : (host.pread f.descriptor (stop - start) start).run log =
      .ok (((host.files f.descriptor).content.drop start.toNat).take (min (stop - start).toNat host.transfer))
        (log ++ [⟨f.descriptor, start, stop⟩]) := by
    have hsum : start + (stop - start) = stop := by omega
    unfold Host.pread
    rw [hsum]
    rfl
  rw [Effect.run_bind_of_ok hpread]
  rw [Effect.run_bind_of_ok (LegacyEff.run_raiseIf_neg (not_not.2 h.unchanged) _)]
  by_cases hfits : stop - start ≤ host.transfer
  · have hwhole : min (stop - start).toNat host.transfer = stop.toNat - start.toNat := by omega
    rw [if_pos hfits, hwhole, ← List.extract_eq_take_drop, Effect.run_bind_of_ok (LegacyEff.run_raiseIf_neg ?_ _)]
    · rfl
    · rw [Pieces.length_extract (by omega)]
      omega
  · rw [if_neg hfits, Effect.run_bind_of_error (LegacyEff.run_raiseIf_pos ?_ _)]
    rw [List.length_take, List.length_drop]
    omega

/-! ## The loop over the chunks -/

/-- What a round asks of `pread`: the part of the chunk that the range covers. -/
def covered (start stop : Int) (payload : VerifiedFile) (cursor : Int) : List Fetch :=
  if start < cursor + payload.byte_count ∧ stop > cursor then
    [⟨payload.descriptor, max start cursor - cursor, min stop (cursor + payload.byte_count) - cursor⟩]
  else []

/-- What the loop asks of `pread`, chunk after chunk. -/
def fetches (start stop : Int) : List VerifiedFile → Int → List Fetch
  | [], _ => []
  | payload :: payloads, cursor =>
    covered start stop payload cursor ++ fetches start stop payloads (cursor + payload.byte_count)

/-- The contents of the chunks. -/
def contents (host : Host) (payloads : List VerifiedFile) : List Bytes :=
  payloads.map fun payload => (host.files payload.descriptor).content

/-- The byte of the stream that the `k`-th chunk starts at. -/
def chunkStart (payloads : List VerifiedFile) (k : Nat) : Int :=
  ((payloads.take k).map VerifiedFile.byte_count).sum

@[simp] theorem chunkStart_zero (payloads : List VerifiedFile) : chunkStart payloads 0 = 0 := rfl

@[simp] theorem chunkStart_cons_succ (payload : VerifiedFile) (payloads : List VerifiedFile) (k : Nat) :
    chunkStart (payload :: payloads) (k + 1) = payload.byte_count + chunkStart payloads k := by
  unfold chunkStart
  rw [List.take_succ_cons, List.map_cons, List.sum_cons]

theorem VerifiedFile.byte_count_pos (f : VerifiedFile) : 0 < f.byte_count := f.ref.byte_count_pos

variable {cursor : Int}

section Loop

variable {host : Host} {payloads : List VerifiedFile} {start stop : Int}

/-- A range that has ended covers nothing of the chunks that follow. -/
theorem fetches_of_stop_le (h : stop ≤ cursor) : fetches start stop payloads cursor = [] := by
  induction payloads generalizing cursor with
  | nil => rfl
  | cons payload payloads ih =>
    have hpos := payload.byte_count_pos
    have hmissed : covered start stop payload cursor = [] := if_neg (by omega)
    rw [fetches, hmissed, ih (by omega), List.append_nil]

/-- What the range covers of a chunk that is kept whole. -/
theorem extract_covered {content : Bytes} (hmeet : stop > cursor) :
    content.extract (max start cursor - cursor).toNat (min stop (cursor + content.length) - cursor).toNat =
      content.extract (start - cursor).toNat (stop - cursor).toNat := by
  have hstart : (max start cursor - cursor).toNat = (start - cursor).toNat := by omega
  have hstop : (min stop (cursor + content.length) - cursor).toNat = min (stop - cursor).toNat content.length := by
    omega
  rw [hstart, hstop]
  simp only [List.extract_eq_take_drop]
  -- the content ends where the cut does
  by_cases h : (stop - cursor).toNat ≤ content.length
  · rw [min_eq_left h]
  · rw [min_eq_right (by omega), List.take_of_length_le (by simp), List.take_of_length_le (by simp; omega)]

/-- A chunk that the range does not meet adds nothing. -/
theorem extract_missed {content : Bytes} (h : ¬(start < cursor + content.length ∧ stop > cursor)) :
    content.extract (start - cursor).toNat (stop - cursor).toNat = [] := by
  simp only [List.extract_eq_take_drop]
  by_cases hstop : stop > cursor
  · rw [List.drop_eq_nil_of_le (by omega), List.take_nil]
  · have hzero : (stop - cursor).toNat - (start - cursor).toNat = 0 := by omega
    rw [hzero, List.take_zero]

/-- What one round returns: the bytes of the range that lie in the chunk. -/
theorem VerifiedFile.Intact.run_readCovered {payload : VerifiedFile} (h : payload.Intact host) (hlt : start < stop)
    (cursor : Int) (log : List Fetch) :
    (readCovered host start stop payload cursor).run log =
      if ∀ fetch ∈ covered start stop payload cursor, fetch.stop - fetch.start ≤ host.transfer then
        .ok ((host.files payload.descriptor).content.extract (start - cursor).toNat (stop - cursor).toNat)
          (log ++ covered start stop payload cursor)
      else .error (.legacy "legacy object changed or was truncated") (log ++ covered start stop payload cursor) := by
  have hpos := payload.byte_count_pos
  have hsize := h.size
  unfold readCovered covered
  by_cases hmeet : start < cursor + payload.byte_count ∧ stop > cursor
  · simp only [if_pos hmeet, List.forall_mem_singleton]
    rw [h.run_read_range (by omega) (by omega) (by omega), ← hsize, extract_covered hmeet.2]
  · have hmissed : ¬(start < cursor + (host.files payload.descriptor).content.length ∧ stop > cursor) := by omega
    simp only [if_neg hmeet, List.append_nil]
    rw [if_pos fun fetch hfetch => absurd hfetch List.not_mem_nil, extract_missed hmissed]
    rfl

/-- The loop returns what it had and the bytes of the range that lie in the chunks. -/
theorem run_readPayloads (hintact : ∀ payload ∈ payloads, payload.Intact host) (hlt : start < stop)
    (hfits : ∀ fetch ∈ fetches start stop payloads cursor, fetch.stop - fetch.start ≤ host.transfer)
    (output : Bytes) (log : List Fetch) :
    (readPayloads host start stop payloads cursor output).run log =
      .ok (output ++ Pieces.cut (contents host payloads) (start - cursor).toNat (stop - cursor).toNat)
        (log ++ fetches start stop payloads cursor) := by
  induction payloads generalizing cursor output log with
  | nil => simp [readPayloads, contents, Pieces.cut, fetches]
  | cons payload payloads ih =>
    have hfirst := hintact payload List.mem_cons_self
    have hsize := hfirst.size
    have hround := hfirst.run_readCovered hlt cursor log
    rw [if_pos fun fetch hfetch => hfits fetch (List.mem_append_left _ hfetch)] at hround
    unfold readPayloads
    rw [Effect.run_bind_of_ok hround]
    -- the rest of the range, counted from the next chunk
    have hstart : (start - cursor).toNat - (host.files payload.descriptor).content.length =
        (start - (cursor + payload.byte_count)).toNat := by omega
    have hstop : (stop - cursor).toNat - (host.files payload.descriptor).content.length =
        (stop - (cursor + payload.byte_count)).toNat := by omega
    rw [contents, List.map_cons, Pieces.cut, ← contents, hstart, hstop, fetches]
    by_cases hend : cursor + payload.byte_count ≥ stop
    · have hzero : (stop - (cursor + payload.byte_count)).toNat = 0 := by omega
      rw [if_pos hend, hzero, Pieces.cut_zero, fetches_of_stop_le hend, List.append_nil, List.append_nil]
      rfl
    · rw [if_neg hend, ih (fun p hp => hintact p (List.mem_cons_of_mem _ hp))
        (fun fetch hfetch => hfits fetch (List.mem_append_right _ hfetch)), List.append_assoc, List.append_assoc]

/-- It raises when a part is longer than one `pread` returns. -/
theorem run_readPayloads_error (hintact : ∀ payload ∈ payloads, payload.Intact host) (hlt : start < stop)
    (hlong : ∃ fetch ∈ fetches start stop payloads cursor, host.transfer < fetch.stop - fetch.start)
    (output : Bytes) (log : List Fetch) :
    ∃ log', (readPayloads host start stop payloads cursor output).run log =
      .error (.legacy "legacy object changed or was truncated") log' := by
  induction payloads generalizing cursor output log with
  | nil =>
    rcases hlong with ⟨_, hfetch, _⟩
    cases hfetch
  | cons payload payloads ih =>
    have hround := (hintact payload List.mem_cons_self).run_readCovered hlt cursor log
    rw [fetches] at hlong
    unfold readPayloads
    by_cases hfits : ∀ fetch ∈ covered start stop payload cursor, fetch.stop - fetch.start ≤ host.transfer
    · -- the long part is in a chunk that follows, so the loop goes on
      have hrest : ∃ fetch ∈ fetches start stop payloads (cursor + payload.byte_count),
          host.transfer < fetch.stop - fetch.start := by
        rcases hlong with ⟨fetch, hfetch, hlt'⟩
        rcases List.mem_append.1 hfetch with hfetch | hfetch
        · have := hfits fetch hfetch
          omega
        · exact ⟨fetch, hfetch, hlt'⟩
      rw [if_pos hfits] at hround
      rw [Effect.run_bind_of_ok hround]
      by_cases hend : cursor + payload.byte_count ≥ stop
      · rw [fetches_of_stop_le hend] at hrest
        rcases hrest with ⟨_, hfetch, _⟩
        cases hfetch
      · rw [if_neg hend]
        exact ih (fun p hp => hintact p (List.mem_cons_of_mem _ hp)) hrest _ _
    · rw [if_neg hfits] at hround
      exact ⟨_, Effect.run_bind_of_error hround⟩

end Loop

section Fetches

variable {payloads : List VerifiedFile} {start stop : Int}

/-- Every fetch lies in its chunk and in the range. -/
theorem mem_fetches {fetch : Fetch} (h : fetch ∈ fetches start stop payloads cursor) :
    ∃ k, ∃ hk : k < payloads.length, fetch.descriptor = (payloads.get ⟨k, hk⟩).descriptor ∧
      0 ≤ fetch.start ∧ fetch.stop ≤ (payloads.get ⟨k, hk⟩).byte_count ∧
      start ≤ cursor + chunkStart payloads k + fetch.start ∧
      cursor + chunkStart payloads k + fetch.stop ≤ stop := by
  induction payloads generalizing cursor with
  | nil => cases h
  | cons payload payloads ih =>
    rcases List.mem_append.1 h with hhere | hlater
    · unfold covered at hhere
      split at hhere
      · rw [List.mem_singleton.1 hhere]
        refine ⟨0, Nat.succ_pos _, rfl, ?_, ?_, ?_, ?_⟩
        · show 0 ≤ max start cursor - cursor
          omega
        · show min stop (cursor + payload.byte_count) - cursor ≤ payload.byte_count
          omega
        · rw [chunkStart_zero]
          show start ≤ cursor + 0 + (max start cursor - cursor)
          omega
        · rw [chunkStart_zero]
          show cursor + 0 + (min stop (cursor + payload.byte_count) - cursor) ≤ stop
          omega
      · cases hhere
    · rcases ih hlater with ⟨k, hk, hdescriptor, hstart, hstop, hlow, hhigh⟩
      refine ⟨k + 1, Nat.succ_lt_succ hk, hdescriptor, hstart, hstop, ?_, ?_⟩
      · rw [chunkStart_cons_succ]
        omega
      · rw [chunkStart_cons_succ]
        omega

/-- The fetches are short when the range covers only a short part of every chunk. -/
theorem fetches_fit_iff {limit : Nat} :
    (∀ fetch ∈ fetches start stop payloads cursor, fetch.stop - fetch.start ≤ limit) ↔
      ∀ k < payloads.length,
        min stop (cursor + chunkStart payloads (k + 1)) - max start (cursor + chunkStart payloads k) ≤ limit := by
  induction payloads generalizing cursor with
  | nil => simp [fetches]
  | cons payload payloads ih =>
    have hhere : (∀ fetch ∈ covered start stop payload cursor, fetch.stop - fetch.start ≤ limit) ↔
        min stop (cursor + payload.byte_count) - max start cursor ≤ limit := by
      unfold covered
      split
      · rw [List.forall_mem_singleton]
        constructor
        · intro h
          dsimp only at h
          omega
        · intro h
          dsimp only
          omega
      · -- nothing is covered: the difference is not positive
        have hpos := payload.byte_count_pos
        refine iff_of_true (fun _ h => absurd h List.not_mem_nil) ?_
        omega
    rw [fetches, List.forall_mem_append, hhere, ih]
    constructor
    · rintro ⟨hfirst, hrest⟩ k hk
      cases k with
      | zero =>
        rw [chunkStart_cons_succ, chunkStart_zero, chunkStart_zero]
        simpa using hfirst
      | succ k =>
        have := hrest k (Nat.lt_of_succ_lt_succ hk)
        rw [chunkStart_cons_succ, chunkStart_cons_succ]
        omega
    · intro h
      constructor
      · have := h 0 (Nat.succ_pos _)
        rw [chunkStart_cons_succ, chunkStart_zero, chunkStart_zero] at this
        simpa using this
      · intro k hk
        have := h (k + 1) (Nat.succ_lt_succ hk)
        rw [chunkStart_cons_succ, chunkStart_cons_succ] at this
        omega

end Fetches

/-! ## Views -/

namespace LegacyRecordingView

variable (v : LegacyRecordingView) (host : Host)

/-- The payloads are the registered files, and none has changed. -/
structure Opened : Prop where
  refs : v.payloads.map VerifiedFile.ref = v.registration.val.payloads
  intact : ∀ payload ∈ v.payloads, payload.Intact host

/-- The fetch lies in one of the chunks, and in the range `[start, stop)` of the stream. -/
def Within (fetch : Fetch) (start stop : Int) : Prop :=
  ∃ k, ∃ hk : k < v.payloads.length, fetch.descriptor = (v.payloads.get ⟨k, hk⟩).descriptor ∧
    0 ≤ fetch.start ∧ fetch.stop ≤ (v.payloads.get ⟨k, hk⟩).byte_count ∧
    start ≤ chunkStart v.payloads k + fetch.start ∧ chunkStart v.payloads k + fetch.stop ≤ stop

/-- `read_iq_bytes` returns the bytes `[8 * start, 8 * stop)` of the concatenated payloads,
and fetches nothing but bytes of that range. -/
def ReadsExactly (start stop : Int) : Prop :=
  ∃ fetched,
    (∀ log, (v.read_iq_bytes host v.segment_id start stop).run log =
      .ok ((contents host v.payloads).flatten.extract (8 * start).toNat (8 * stop).toNat) (log ++ fetched)) ∧
    ∀ fetch ∈ fetched, v.Within fetch (8 * start) (8 * stop)

/-- The range covers no more of any chunk than one `pread` returns. -/
def FitsTransfer (start stop : Int) : Prop :=
  ∀ k < v.payloads.length,
    min (8 * stop) (chunkStart v.payloads (k + 1)) - max (8 * start) (chunkStart v.payloads k) ≤ host.transfer

variable {v host}

/-- The concatenated payloads of an accepted source are the samples of the segment. -/
theorem Opened.length_contents (hopened : v.Opened host) {source : LegacySource}
    (hsource : validateSource source v.registration = .ok ()) :
    ((contents host v.payloads).flatten.length : Int) = v.registration.segment.val.sample_count * 8 := by
  have hsizes : ∀ payloads : List VerifiedFile, (∀ payload ∈ payloads, payload.Intact host) →
      ((contents host payloads).flatten.length : Int) = (payloads.map VerifiedFile.byte_count).sum := by
    intro payloads hintact
    induction payloads with
    | nil => rfl
    | cons payload payloads ih =>
      have hsize := (hintact payload List.mem_cons_self).size
      have hrest := ih fun p hp => hintact p (List.mem_cons_of_mem _ hp)
      rw [contents, List.map_cons, List.flatten_cons, List.length_append, List.map_cons, List.sum_cons, ← contents]
      omega
  rw [hsizes v.payloads hopened.intact, ← samples_of_validateSource hsource, ← hopened.refs, List.map_map]
  rfl

/-! ### What a reader opens -/

/-- The verified blocks are the file: every block goes on where the data ended and has a byte. -/
theorem readBlocks_ok {host : Host} {descriptor : Nat} {fuel : Nat} {data whole : Bytes}
    (hdata : data <+: (host.files descriptor).content)
    (hfuel : (host.files descriptor).content.length ≤ data.length + fuel)
    (h : (readBlocks host descriptor (host.files descriptor).content.length fuel data).run log = .ok whole log') :
    whole = (host.files descriptor).content := by
  induction fuel generalizing data log with
  | zero =>
    cases h
    exact hdata.eq_of_length_le hfuel
  | succ fuel ih =>
    unfold readBlocks at h
    split at h
    · rcases Effect.bind_ok.1 h with ⟨block, log₁, hblock, h1⟩
      rcases Effect.bind_ok.1 h1 with ⟨_, log₂, hnonempty, h2⟩
      have hsome : block ≠ [] := (LegacyEff.raiseIf_ok.1 hnonempty).1
      have hlonger := List.length_pos_iff.2 hsome
      refine ih ?_ (by rw [List.length_append]; omega) h2
      rcases hdata with ⟨rest, hrest⟩
      cases hblock
      rw [← hrest, Int.toNat_natCast, List.drop_left]
      exact (List.prefix_append_right_inj data).2 (List.take_prefix _ rest)
    · rename_i hall
      cases h
      exact hdata.eq_of_length_le (by omega)

/-- A file that was opened is intact, and its content has the registered digest. -/
theorem openVerified_ok {host : Host} {roots : List (PyStr × ConfiguredRoot)} {ref : LegacyFileRef}
    {f : VerifiedFile} {data : Bytes} (h : (openVerified host roots ref).run log = .ok (f, data) log') :
    f.ref = ref ∧ f.Intact host ∧ data = (host.files f.descriptor).content ∧
      Digest.sha256 data = ref.val.digest := by
  unfold openVerified at h
  rcases Effect.bind_ok.1 h with ⟨parts, _, _, h1⟩
  split at h1
  · rcases Effect.bind_ok.1 h1 with ⟨_, _, _, h2⟩
    split at h2
    · rename_i descriptor _
      rcases Effect.bind_ok.1 h2 with ⟨_, _, hsize, h3⟩
      rcases Effect.bind_ok.1 h3 with ⟨whole, _, hblocks, h4⟩
      rcases Effect.bind_ok.1 h4 with ⟨_, _, _, h5⟩
      rcases Effect.bind_ok.1 h5 with ⟨_, _, hdigest, h6⟩
      cases h6
      have hlength : ((host.files descriptor).content.length : Int) = ref.val.byte_count :=
        not_not.1 (not_or.1 (LegacyEff.raiseIf_ok.1 hsize).1).2
      rw [← hlength] at hblocks
      refine ⟨rfl, ⟨rfl, hlength⟩, readBlocks_ok List.nil_prefix ?_ hblocks, not_not.1 (LegacyEff.raiseIf_ok.1 hdigest).1⟩
      show (host.files descriptor).content.length ≤ 0 + ((host.files descriptor).content.length : Int).toNat
      omega
    · cases h2
  · cases h1

/-- The payloads of a recording, opened in order. -/
theorem openPayloads_ok {host : Host} {roots : List (PyStr × ConfiguredRoot)} {refs : List LegacyFileRef}
    {opened : List (VerifiedFile × Bytes)}
    (h : (refs.mapM fun payload => openVerified host roots payload).run log = .ok opened log') :
    (opened.map Prod.fst).map VerifiedFile.ref = refs ∧ ∀ f ∈ opened.map Prod.fst, f.Intact host := by
  induction refs generalizing opened log with
  | nil =>
    rw [List.mapM_nil] at h
    cases h
    simp
  | cons ref refs ih =>
    rw [List.mapM_cons] at h
    rcases Effect.bind_ok.1 h with ⟨⟨f, data⟩, _, hfirst, h1⟩
    rcases Effect.bind_ok.1 h1 with ⟨rest, _, hrest, h2⟩
    cases h2
    rcases openVerified_ok hfirst with ⟨href, hintact, _, _⟩
    rcases ih hrest with ⟨hrefs, hall⟩
    constructor
    · rw [List.map_cons, List.map_cons, hrefs, href]
    · rw [List.map_cons]
      exact List.forall_mem_cons.2 ⟨hintact, hall⟩

/-- A recording that a reader opens has an accepted source and intact files. -/
theorem opened_of_open {reader : LegacyRecordingReader} {recording_ref : RecordingObjectRef}
    (h : (reader.open host recording_ref).run log = .ok v log') :
    v.Opened host ∧ ∃ source, validateSource source v.registration = .ok () := by
  unfold LegacyRecordingReader.open at h
  rcases Effect.bind_ok.1 h with ⟨_, _, _, h1⟩
  split at h1
  · cases h1
  · rcases Effect.bind_ok.1 h1 with ⟨_, _, _, h2⟩
    rcases Effect.bind_ok.1 h2 with ⟨⟨_, _⟩, _, _, h3⟩
    rcases Effect.bind_ok.1 h3 with ⟨_, _, _, h4⟩
    rcases Effect.bind_ok.1 h4 with ⟨source, _, _, h5⟩
    rcases Effect.bind_ok.1 h5 with ⟨opened, _, hopened, h6⟩
    rcases Effect.bind_ok.1 h6 with ⟨_, _, _, h7⟩
    rcases Effect.bind_ok.1 h7 with ⟨_, _, hsource, h8⟩
    rcases Effect.bind_ok.1 h8 with ⟨_, _, _, h9⟩
    cases h9
    rcases openPayloads_ok hopened with ⟨hrefs, hintact⟩
    exact ⟨⟨hrefs, hintact⟩, source, (LegacyEff.ofExcept_ok.1 hsource).1⟩

/-! ### Reading -/

/-- The read, for a range inside the segment. -/
theorem run_read_iq_bytes {start stop : Int} (hstart : 0 ≤ start) (hlt : start < stop)
    (hstop : stop ≤ v.registration.segment.val.sample_count) (log : List Fetch) :
    (v.read_iq_bytes host v.segment_id start stop).run log =
      (readPayloads host (start * 8) (stop * 8) v.payloads 0 [] >>= fun output => do
        LegacyEff.raiseIf ((output.length : Int) ≠ stop * 8 - start * 8) (.legacy "legacy payload stream was truncated")
        return output).run log := by
  unfold read_iq_bytes
  rw [Effect.run_bind_of_ok (LegacyEff.run_raiseIf_neg (not_not.2 rfl) log)]
  rw [Effect.run_bind_of_ok (LegacyEff.run_raiseIf_neg (not_not.2 ⟨hstart, hlt, hstop⟩) log)]

section Range

variable {source : LegacySource} {start stop : Int}

theorem fitsTransfer_iff :
    v.FitsTransfer host start stop ↔
      ∀ fetch ∈ fetches (start * 8) (stop * 8) v.payloads 0, fetch.stop - fetch.start ≤ host.transfer := by
  rw [fetches_fit_iff]
  simp only [FitsTransfer, Int.zero_add, Int.mul_comm]

/-- A range that covers a long part of a chunk cannot be read. -/
theorem Opened.read_error (hopened : v.Opened host) (hstart : 0 ≤ start) (hlt : start < stop)
    (hstop : stop ≤ v.registration.segment.val.sample_count) (hlong : ¬v.FitsTransfer host start stop)
    (log : List Fetch) :
    ∃ log', (v.read_iq_bytes host v.segment_id start stop).run log =
      .error (.legacy "legacy object changed or was truncated") log' := by
  rw [fitsTransfer_iff] at hlong
  push Not at hlong
  rcases run_readPayloads_error hopened.intact (by omega) hlong [] log with ⟨log', herror⟩
  exact ⟨log', by rw [run_read_iq_bytes hstart hlt hstop, Effect.run_bind_of_error herror]⟩

/-- Any other range is read as it stands in the concatenated payloads. -/
theorem Opened.reads_exactly (hopened : v.Opened host) (hsource : validateSource source v.registration = .ok ())
    (hstart : 0 ≤ start) (hlt : start < stop) (hstop : stop ≤ v.registration.segment.val.sample_count)
    (hfits : v.FitsTransfer host start stop) : v.ReadsExactly host start stop := by
  have hlength := hopened.length_contents hsource
  refine ⟨fetches (start * 8) (stop * 8) v.payloads 0, ?_, ?_⟩
  · intro log
    have hloop := run_readPayloads hopened.intact (by omega) (fitsTransfer_iff.1 hfits) [] log
    rw [Pieces.cut_eq_extract, List.nil_append, Int.sub_zero, Int.sub_zero] at hloop
    have htotal : ((contents host v.payloads).flatten.extract (start * 8).toNat (stop * 8).toNat).length =
        (stop * 8).toNat - (start * 8).toNat := Pieces.length_extract (by omega)
    rw [run_read_iq_bytes hstart hlt hstop, Effect.run_bind_of_ok hloop,
      Effect.run_bind_of_ok (LegacyEff.run_raiseIf_neg (not_not.2 (by omega)) _), Int.mul_comm 8, Int.mul_comm 8]
    rfl
  · intro fetch hfetch
    have hwithin := mem_fetches hfetch
    simp only [Int.zero_add] at hwithin
    rw [Int.mul_comm 8, Int.mul_comm 8]
    exact hwithin

/-- Reading by chunks is reading the stream, exactly when no covered part is longer than one `pread` returns. -/
theorem reads_exactly_iff (hopened : v.Opened host) (hsource : validateSource source v.registration = .ok ())
    (hstart : 0 ≤ start) (hlt : start < stop) (hstop : stop ≤ v.registration.segment.val.sample_count) :
    v.ReadsExactly host start stop ↔ v.FitsTransfer host start stop := by
  constructor
  · rintro ⟨fetched, hrun, _⟩
    by_contra hlong
    rcases hopened.read_error hstart hlt hstop hlong [] with ⟨log', herror⟩
    rw [hrun] at herror
    cases herror
  · exact hopened.reads_exactly hsource hstart hlt hstop

end Range

end LegacyRecordingView

/-! ## A chunk of two gibibytes -/

/-- Two chunks: 2^28 samples, and one more. -/
def longSegment : SegmentManifest where
  val := {
    segment_id := Sample.seg_1
    requested := ⟨{
      segment_id := Sample.seg_1
      center_frequency_hz := .int 1600000000
      sample_rate_hz := .int 2000000
      bandwidth_hz := .int 1500000
      receiver_chain_ids := [Sample.rx_1, Sample.rx_2]
      gain := ⟨{ mode := .manual, gain_db := some (.int 40) }, by decide⟩
      sample_count := some 268435457 }, by decide⟩
    actual_center_frequency_hz := .int 1600000000
    actual_sample_rate_hz := .int 2000000
    actual_bandwidth_hz := .int 1500000
    actual_gain := ⟨{ mode := .manual, gain_db := some (.int 40) }, by decide⟩
    start_utc_ns := 10
    monotonic_start_ns := 10
    sample_count := 268435457
    shape := (268435457, 2, 2) }
  ok := by decide +kernel

def longManifest : RecordingManifest where
  val := {
    schema := ⟨str "org.leo-flow.recording-manifest", V0_1, isToken_recording_manifest⟩
    recording_id := Sample.rec_1
    created_utc_ns := 5
    capture_started_utc_ns := 10
    capture_finished_utc_ns := 20
    station_id := Sample.station_1
    radio_id := Sample.radio_1
    radio_serial := str "1"
    receiver_chain_ids := [Sample.rx_1, Sample.rx_2]
    clock_status := str "locked"
    hardware_metadata_snapshot_id := Sample.hw_1
    activities := [⟨{
      activity_id := Sample.act_1
      kind := .dwell
      started_utc_ns := 10
      finished_utc_ns := 20
      segment_ids := [Sample.seg_1] }, by decide⟩]
    segments := [longSegment]
    plan_id := Sample.plan_1
    producer := str "leo-tracker" }
  ok := by decide +kernel

/-- A digest of one repeated digit. -/
def digestOf (c : Nat) (h : IsLowerHex c) : Digest := Sample.repeated c h

def longFile (path : String) (c : Nat) (h : IsLowerHex c) (byte_count : Int) : LegacyFileRef.Fields :=
  ⟨str "archive", str path, digestOf c h, byte_count⟩

/-- The digest of the manifest. -/
@[irreducible] def longDigest : Digest :=
  match canonicalDigest (RecordingManifest.toPy longManifest) with
  | .ok digest => digest
  | .error _ => digestOf 48 Sample.isLowerHex_zero

theorem canonicalDigest_longManifest : canonicalDigest (RecordingManifest.toPy longManifest) = .ok longDigest := by
  have hbytes : (Json.canonicalJsonBytes (RecordingManifest.toPy longManifest)).isOk = true := by decide +kernel
  unfold longDigest canonicalDigest
  cases h : Json.canonicalJsonBytes (RecordingManifest.toPy longManifest) with
  | ok bytes => rfl
  | error e =>
    rw [h] at hbytes
    cases hbytes

def longRegistration : LegacyRecordingRegistration where
  val := {
    recording_ref := ⟨{
      recording_id := Sample.rec_1
      data_object := ⟨⟨digestOf 49 Sample.isLowerHex_one, 2147483656, str "application/octet-stream",
        str "legacy-ci16-chunk-set-v1", str "legacy"⟩, by decide⟩
      metadata_object := ⟨⟨digestOf 50 (by decide), 2, str "application/json", str "legacy-beacon-manifest-v1",
        str "legacy"⟩, by decide⟩
      manifest_digest := longDigest }, by decide +kernel⟩
    manifest := longManifest
    source_manifest := ⟨longFile "rec/manifest.json" 50 (by decide) 2, by decide +kernel⟩
    payloads := [
      ⟨longFile "rec/0.iq" 51 (by decide) 2147483648, by decide +kernel⟩,
      ⟨longFile "rec/1.iq" 52 (by decide) 8, by decide +kernel⟩] }
  ok := by
    refine LegacyRecordingRegistration.Fields.post_init_ok.2 ⟨?_, canonicalDigest_longManifest, ?_, ?_, ?_⟩
    · decide +kernel
    · decide +kernel
    · decide +kernel
    · decide +kernel

/-- The entry of one chunk. -/
def chunkEntry (path : String) (first samples : Int) (digest : Digest) : PyValue :=
  .dict [(str "path", .str (str path)), (str "first_sample_index", .int first), (str "sample_count", .int samples),
    (str "bytes", .int (samples * 8)), (str "sha256", .str digest.value)]

def longSource : LegacySource := [
  (str "schema", .str (str "leo-tracker.beacon-iq/v1")),
  (str "state", .str (str "complete")),
  (str "dtype", .str (str "ci16_le")),
  (str "layout", .str (str "sample,receiver,component; receivers=rx0,rx1; components=i,q")),
  (str "receiver_count", .int 2),
  (str "chunks", .list [chunkEntry "0.iq" 0 268435456 (digestOf 51 (by decide)),
    chunkEntry "1.iq" 268435456 1 (digestOf 52 (by decide))]),
  (str "sample_rate_hz", .int 2000000),
  (str "center_frequency_hz", .int 1600000000),
  (str "bandwidth_hz", .int 1500000),
  (str "gain_mode", .str (str "manual")),
  (str "configured_gain_db", .int 40),
  (str "created_utc_ns", .int 5)]

theorem accepted_longSource : validateSource longSource longRegistration = .ok () := by
  decide +kernel

/-- A descriptor for each chunk; a `pread` of Linux returns at most `0x7ffff000` bytes. -/
def longHost : Host where
  rootInfo _ := some (1, 2)
  openAt _ parts := if parts = [str "rec", str "0.iq"] then some 3 else some 4
  files descriptor :=
    ⟨true, if descriptor = 3 then List.replicate 2147483648 0 else List.replicate 8 1, 1, descriptor, 0, 0⟩
  transfer := 0x7ffff000

def longView : LegacyRecordingView where
  registration := longRegistration
  payloads := longRegistration.val.payloads.zipIdx.map fun (ref, k) =>
    ⟨3 + k, ref, (longHost.files (3 + k)).fingerprint⟩

theorem opened_longView : longView.Opened longHost where
  refs := rfl
  intact := by
    rw [longView, List.forall_mem_map]
    show ∀ x ∈ [((⟨longFile "rec/0.iq" 51 (by decide) 2147483648, by decide +kernel⟩ : LegacyFileRef), 0),
      (⟨longFile "rec/1.iq" 52 (by decide) 8, by decide +kernel⟩, 1)], _
    rw [List.forall_mem_cons, List.forall_mem_singleton]
    constructor
    · refine ⟨rfl, ?_⟩
      show ((List.replicate 2147483648 (0 : UInt8)).length : Int) = 2147483648
      rw [List.length_replicate]
      rfl
    · refine ⟨rfl, ?_⟩
      show ((List.replicate 8 (1 : UInt8)).length : Int) = 8
      rfl

/-- A sample on either side of the border between the chunks. -/
theorem reads_exactly_at_border : longView.ReadsExactly longHost 268435455 268435457 := by
  have hfits : longView.FitsTransfer longHost 268435455 268435457 := by
    unfold LegacyRecordingView.FitsTransfer
    decide +kernel
  exact (LegacyRecordingView.reads_exactly_iff opened_longView accepted_longSource (by decide) (by decide)
    (by decide +kernel)).2 hfits

/-- The whole segment cannot be read: its first chunk is longer than one `pread` returns. -/
theorem long_chunk_unreadable :
    longView.Opened longHost ∧ validateSource longSource longView.registration = .ok () ∧
      (∀ log, ∃ log', (longView.read_iq_bytes longHost longView.segment_id 0 268435457).run log =
        .error (.legacy "legacy object changed or was truncated") log') ∧
      ¬longView.ReadsExactly longHost 0 268435457 := by
  have hlong : ¬longView.FitsTransfer longHost 0 268435457 := by
    unfold LegacyRecordingView.FitsTransfer
    decide +kernel
  have herror : ∀ log, ∃ log', (longView.read_iq_bytes longHost longView.segment_id 0 268435457).run log =
      .error (.legacy "legacy object changed or was truncated") log' :=
    fun log => opened_longView.read_error (by decide) (by decide) (by decide +kernel) hlong log
  refine ⟨opened_longView, accepted_longSource, herror, ?_⟩
  rintro ⟨fetched, hrun, _⟩
  rcases herror [] with ⟨log', herror⟩
  rw [hrun] at herror
  cases herror

end LeoFlow
