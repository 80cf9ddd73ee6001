import LeoFlow.Admission.CaptureGuard
import LeoFlow.Contracts.Validation

/-!
# LeoFlow.Admission.GuardFencing — a successor fences its predecessors

Whoever holds the lock reads the latest ownership, so generations increase and a superseded publisher stops at its
check. A publisher that is alone succeeds where no temporary file of its process id was left behind.
-/

namespace LeoFlow

namespace CaptureGuard

open GuardAct

/-! ## The ownership document -/

/-- A writer that was constructed. -/
def WellFormed (writer : GuardWriter) : Prop := 1 ≤ writer.generation ∧ ValidToken writer.token

/-- The document of a writer is small enough to be read. -/
def Fits (writer : GuardWriter) : Prop :=
  ∃ bytes, writerDocument writer = .ok bytes ∧ bytes.length ≤ maximumOwnershipBytes

variable {writer : GuardWriter}

theorem loads_writerDocument {bytes : Bytes} (h : writerDocument writer = .ok bytes) (hwriter : WellFormed writer) :
    Json.loads bytes = .ok (.dict [(str "generation", .int writer.generation), (str "owner_token", .str writer.token),
      (str "schema", .str ownershipSchema)]) := by
  unfold writerDocument at h
  obtain ⟨generation, hgeneration, h⟩ := bind_ok.1 h
  unfold encodeLine at h
  split at h
  · rename_i line hline
    cases h
    have hkeys : [str "generation", str "owner_token", str "schema"].Nodup := by decide
    have hplain : ∀ key ∈ [str "generation", str "owner_token", str "schema"], ∀ c ∈ key, c < 127 := by decide
    have hencodable : Encodable (str "generation") ∧ Encodable (str "owner_token") ∧ Encodable (str "schema") := by
      decide
    have hschema : ∀ c ∈ ownershipSchema, c < 128 := by decide
    refine Json.loads_line (Json.reads_objectAscii ?_ hkeys ?_) hline
    · refine .cons ⟨rfl, hencodable.1, Json.reads_int hgeneration⟩ (.cons ⟨rfl, hencodable.2.1, ?_⟩
        (.cons ⟨rfl, hencodable.2.2, ?_⟩ .nil))
      · exact Json.reads_quoteAscii hwriter.2.2.1
      · exact Json.reads_quoteAscii hschema
    · intro e he
      exact hplain e.1 (List.mem_map_of_mem he)
  · cases h

/-- A document that fits is read back. -/
theorem readOwnership_document {bytes : Bytes} (h : writerDocument writer = .ok bytes) (hwriter : WellFormed writer)
    (missing_ok : Bool) :
    readOwnership missing_ok (some bytes) =
      if bytes.length ≤ maximumOwnershipBytes then .ok (some writer) else .error invalidOwnership := by
  unfold readOwnership
  by_cases hlength : maximumOwnershipBytes < bytes.length
  · simp only [if_pos hlength, if_neg (Nat.not_le_of_lt hlength)]
  · rw [if_pos (Nat.le_of_not_lt hlength)]
    simp only [if_neg hlength, loads_writerDocument h hwriter]
    have hchecks : ownershipOf (.dict [(str "generation", .int writer.generation),
        (str "owner_token", .str writer.token), (str "schema", .str ownershipSchema)]) = .ok writer := by
      unfold ownershipOf
      have htoken : (str "owner_token" == str "generation") = false := by decide
      have hschema : (str "schema" == str "generation") = false ∧ (str "schema" == str "owner_token") = false := by
        decide
      have hgeneration : (1 : Int) ≤ writer.generation := by exact_mod_cast hwriter.1
      simp [List.lookup, htoken, hschema, hgeneration, hwriter.2]
    rw [hchecks]
    rfl

/-! ## The invariant -/

variable {P : Type}

/-- The ownership file is the document of the latest owner. -/
def Current (w : GuardFiles P) : Prop :=
  match w.owners with
  | [] => w.files .ownership = none
  | owner :: _ => ∃ bytes, writerDocument owner = .ok bytes ∧ w.files .ownership = some bytes

/-- Every ownership that was written can be read. -/
def Readable (w : GuardFiles P) : Prop := ∀ owner ∈ w.owners, Fits owner

structure Inv (w : GuardFiles P) : Prop where
  current : Current w
  wellFormed : ∀ owner ∈ w.owners, WellFormed owner
  /-- generations increase -/
  ordered : w.owners.Pairwise fun later earlier => earlier.generation < later.generation
  constructed : ∀ writer ∈ w.constructed, writer ∈ w.owners
  /-- no superseded publisher replaced the guard -/
  published : ∀ x ∈ w.published, x.2 = false
  /-- every superseded publisher was told so -/
  returned : Readable w → ∀ x ∈ w.returned, x.2.1 = true → x.2.2 = .ok false

variable {w w' : GuardFiles P} {missing_ok : Bool}

theorem exists_latest {owner : GuardWriter} (h : owner ∈ w.owners) : ∃ latest, w.owners.head? = some latest := by
  cases howners : w.owners with
  | nil =>
    rw [howners] at h
    cases h
  | cons latest rest => exact ⟨latest, rfl⟩

/-- A successful read is the latest owner. -/
theorem Inv.read (hw : Inv w) {owner : Option GuardWriter}
    (h : readOwnership missing_ok (w.files .ownership) = .ok owner) : owner = w.owners.head? := by
  have hcurrent := hw.current
  have hwellFormed := hw.wellFormed
  unfold Current at hcurrent
  split at hcurrent
  · rename_i howners
    rw [hcurrent, readOwnership] at h
    rw [howners]
    split at h
    · cases h
      rfl
    · cases h
  · rename_i latest rest howners
    obtain ⟨bytes, hbytes, hfile⟩ := hcurrent
    rw [howners] at hwellFormed ⊢
    rw [hfile, readOwnership_document hbytes (hwellFormed latest List.mem_cons_self)] at h
    split at h
    · cases h
      rfl
    · cases h

/-- The latest owner can be read when its document fits. -/
theorem Inv.read_fits (hw : Inv w) (missing_ok : Bool) {owner : GuardWriter} (howner : w.owners.head? = some owner) :
    readOwnership missing_ok (w.files .ownership) = .ok (some owner) ↔ Fits owner := by
  have hcurrent := hw.current
  have hwellFormed := hw.wellFormed owner (List.mem_of_mem_head? howner)
  unfold Current at hcurrent
  split at hcurrent
  · rename_i howners
    rw [howners] at howner
    cases howner
  · rename_i latest rest howners
    rw [howners] at howner
    cases howner
    obtain ⟨bytes, hbytes, hfile⟩ := hcurrent
    rw [hfile, readOwnership_document hbytes hwellFormed]
    constructor
    · intro h
      split at h
      · exact ⟨bytes, hbytes, ‹_›⟩
      · cases h
    · rintro ⟨bytes', hbytes', hlength⟩
      rw [hbytes] at hbytes'
      cases hbytes'
      rw [if_pos hlength]

/-- Nobody owns the file yet. -/
theorem Inv.read_missing (hw : Inv w) (hnone : w.owners.head? = none) :
    readOwnership true (w.files .ownership) = .ok none := by
  have hcurrent := hw.current
  unfold Current at hcurrent
  split at hcurrent
  · rw [hcurrent]
    rfl
  · rename_i howners
    rw [howners] at hnone
    cases hnone

/-- No owner is younger than the latest one. -/
theorem Inv.le_latest (hw : Inv w) {latest owner : GuardWriter} (hlatest : w.owners.head? = some latest)
    (howner : owner ∈ w.owners) : owner.generation ≤ latest.generation := by
  have hordered := hw.ordered
  cases howners : w.owners with
  | nil =>
    rw [howners] at hlatest
    cases hlatest
  | cons first rest =>
    rw [howners] at hlatest howner hordered
    cases hlatest
    rcases List.mem_cons.1 howner with rfl | hrest
    · exact le_rfl
    · exact le_of_lt ((List.pairwise_cons.1 hordered).1 owner hrest)

/-- What a process sees of the steps of the others: nothing moves while it holds the lock. -/
structure Rely (p : P) (w w' : GuardFiles P) : Prop where
  locked : w.holder = some p → w'.holder = some p ∧ w'.files = w.files ∧ w'.temporaries = w.temporaries ∧
    w'.owners = w.owners
  owners : ∀ owner ∈ w.owners, owner ∈ w'.owners
  constructed : ∀ writer ∈ w.constructed, writer ∈ w'.constructed

def contract : Contract P (GuardFiles P) where
  Inv := Inv
  Rely := Rely

theorem Readable.of_rely {p : P} (h : Rely p w w') (hreadable : Readable w') : Readable w :=
  fun owner howner => hreadable owner (h.owners owner howner)

/-- A step of the process that holds the lock. -/
theorem allows_of_holder {p : P} (hholder : w.holder = some p) (hinv : Inv w')
    (howners : ∀ owner ∈ w.owners, owner ∈ w'.owners)
    (hconstructed : ∀ writer ∈ w.constructed, writer ∈ w'.constructed) : contract.Allows p w w' := by
  refine ⟨hinv, ?_⟩
  intro p' hne
  refine ⟨?_, howners, hconstructed⟩
  intro hother
  rw [hholder] at hother
  exact absurd (Option.some.inj hother).symm hne

/-- A step that only adds to the records. -/
theorem allows_of_same {p : P} (hinv : Inv w') (hholder : w'.holder = w.holder) (hfiles : w'.files = w.files)
    (htemporaries : w'.temporaries = w.temporaries) (howners : w'.owners = w.owners)
    (hconstructed : ∀ writer ∈ w.constructed, writer ∈ w'.constructed) : contract.Allows p w w' := by
  refine ⟨hinv, ?_⟩
  intro p' _
  refine ⟨fun h => ⟨hholder.trans h, hfiles, htemporaries, howners⟩, ?_, hconstructed⟩
  rw [howners]
  exact fun _ h => h

/-- An assertion about what the lock guards, and about records that grow. -/
def Guarded (A : GuardFiles P → Prop) : Prop :=
  ∀ w w', w'.files = w.files → w'.temporaries = w.temporaries → w'.owners = w.owners →
    (∀ writer ∈ w.constructed, writer ∈ w'.constructed) → A w → A w'

theorem Guarded.stable {A : GuardFiles P → Prop} (hA : Guarded A) (p : P) :
    contract.Stable p fun w => w.holder = some p ∧ A w := by
  rintro w w' _ _ h ⟨hholder, ha⟩
  obtain ⟨hholder', hfiles, htemporaries, howners⟩ := h.locked hholder
  exact ⟨hholder', hA w w' hfiles htemporaries howners h.constructed ha⟩

theorem inv_setTemporary (hw : Inv w) (file : GuardFile) (n : Nat) (content : Option Bytes) :
    Inv (w.setTemporary file n content) :=
  ⟨hw.current, hw.wellFormed, hw.ordered, hw.constructed, hw.published, hw.returned⟩

variable {token : PyStr}

/-- The next generation owns the file. -/
theorem inv_owned (hw : Inv w) (htoken : ValidToken token) {payload : Bytes}
    (hpayload : writerDocument (successor w.owners.head? token) = .ok payload) :
    Inv { w with files := Function.update w.files .ownership (some payload)
                 owners := successor w.owners.head? token :: w.owners } := by
  have hfile : Function.update w.files .ownership (some payload) .ownership = some payload := by simp
  refine ⟨⟨payload, hpayload, hfile⟩, ?_, ?_, ?_, hw.published, ?_⟩
  · intro owner howner
    rcases List.mem_cons.1 howner with rfl | howner
    · exact ⟨Nat.succ_le_succ (Nat.zero_le _), htoken⟩
    · exact hw.wellFormed owner howner
  · refine List.pairwise_cons.2 ⟨?_, hw.ordered⟩
    intro owner howner
    obtain ⟨latest, hlatest⟩ := exists_latest howner
    rw [hlatest]
    exact Nat.lt_succ_of_le (hw.le_latest hlatest howner)
  · exact fun writer h => List.mem_cons_of_mem _ (hw.constructed writer h)
  · exact fun hreadable => hw.returned fun owner howner => hreadable owner (List.mem_cons_of_mem _ howner)

/-- An assertion about the files in place and the owners. -/
def Steady (A : GuardFiles P → Prop) : Prop :=
  ∀ w w', w'.files = w.files → w'.owners = w.owners → (∀ writer ∈ w.constructed, writer ∈ w'.constructed) → A w → A w'

theorem Steady.guarded {A : GuardFiles P → Prop} (hA : Steady A) : Guarded A :=
  fun w w' hfiles _ howners hconstructed ha => hA w w' hfiles howners hconstructed ha

/-- The temporary file of the process has this content. -/
def Holding (pid : P → Nat) (p : P) (file : GuardFile) (content : Bytes) (w : GuardFiles P) : Prop :=
  w.temporaries file (pid p) = some content

theorem guarded_holding {pid : P → Nat} {p : P} {file : GuardFile} {content : Bytes} : Guarded (Holding pid p file content) := by
  intro w w' _ htemporaries _ _ h
  unfold Holding
  rw [htemporaries]
  exact h

theorem Guarded.and {A B : GuardFiles P → Prop} (hA : Guarded A) (hB : Guarded B) : Guarded fun w => A w ∧ B w :=
  fun w w' hfiles htemporaries howners hconstructed h =>
    ⟨hA w w' hfiles htemporaries howners hconstructed h.1, hB w w' hfiles htemporaries howners hconstructed h.2⟩

theorem temporaries_setTemporary (w : GuardFiles P) (file : GuardFile) (n : Nat) (content : Option Bytes) :
    (w.setTemporary file n content).temporaries file n = content := by
  simp [GuardFiles.setTemporary]

theorem setTemporary_setTemporary (w : GuardFiles P) (file : GuardFile) (n : Nat) (content content' : Option Bytes) :
    (w.setTemporary file n content).setTemporary file n content' = w.setTemporary file n content' := by
  unfold GuardFiles.setTemporary
  simp

theorem setTemporary_same {file : GuardFile} {n : Nat} {content : Option Bytes} (h : w.temporaries file n = content) :
    w.setTemporary file n content = w := by
  unfold GuardFiles.setTemporary
  subst h
  simp

theorem Steady.setTemporary {K : GuardFiles P → Prop} (hK : Steady K) {w : GuardFiles P} (h : K w) (file : GuardFile) (n : Nat)
    (content : Option Bytes) : K (w.setTemporary file n content) :=
  hK w _ rfl rfl (fun _ h => h) h

theorem steady_latest (previous : Option GuardWriter) : Steady fun w : GuardFiles P => previous = w.owners.head? := by
  intro w w' _ howners _ h
  rw [howners]
  exact h

theorem steady_owner (writer : GuardWriter) : Steady fun w : GuardFiles P => writer ∈ w.owners := by
  intro w w' _ howners _ h
  rw [howners]
  exact h

theorem steady_true : Steady fun _ : GuardFiles P => True := fun _ _ _ _ _ h => h

/-! ## Scripts under the lock -/

variable [DecidableEq P] {pid : P → Nat} {p : P} {A : GuardFiles P → Prop}

/-- The triple of a part of a process. -/
abbrev Holds (pid : P → Nat) (p : P) {α : Type} (A : GuardFiles P → Prop) (x : GuardScript α)
    (Q : Except PyError α → GuardFiles P → Prop) : Prop :=
  x.Meets contract (fun p => Script.responds (GuardFiles.perform pid p)) p Q A

/-- What is known with the result while the lock is held. -/
def Under (p : P) {α : Type} (B : Except PyError α → GuardFiles P → Prop) (r : Except PyError α) (w : GuardFiles P) :
    Prop := w.holder = some p ∧ B r w

theorem inv_release (hw : Inv w) : Inv (w.release p) :=
  ⟨hw.current, hw.wellFormed, hw.ordered, hw.constructed, hw.published, hw.returned⟩

/-- A process that is gone, or closes the lock. -/
theorem allows_release (hw : Inv w) (p : P) : contract.Allows p w (w.release p) := by
  refine ⟨inv_release hw, ?_⟩
  intro p' hne
  refine ⟨?_, fun _ h => h, fun _ h => h⟩
  intro hother
  refine ⟨?_, rfl, rfl, rfl⟩
  show (if w.holder = some p then none else w.holder) = some p'
  rw [if_neg, hother]
  rw [hother]
  exact fun heq => hne (Option.some.inj heq)

/-- `with self._ownership_lock()` -/
theorem holds_locked {α : Type} {B : Except PyError α → GuardFiles P → Prop} {body : GuardScript α} (hA : Guarded A)
    (hB : ∀ r, contract.Stable p (B r)) (hclose : ∀ r w, B r w → B r (w.release p))
    (hbody : Holds pid p (fun w => w.holder = some p ∧ A w) body (Under p B))
    (hlock : ∀ w, A w → A { w with holder := some p }) :
    Holds pid p A (locked body) B := by
  have hflock : Holds pid p A (.ask flock) (Script.Yields fun _ w => w.holder = some p ∧ A w) := by
    refine Script.meets_ask (fun _ => hA.stable p) ?_
    intro w a w' hw ha hrespond
    have hperform := Script.responds_iff.1 hrespond
    simp only [GuardFiles.perform] at hperform
    split at hperform
    · rename_i hfree
      cases hperform
      have hinv : Inv { w with holder := some p } :=
        ⟨hw.current, hw.wellFormed, hw.ordered, hw.constructed, hw.published, hw.returned⟩
      refine ⟨⟨hinv, ?_⟩, rfl, hlock w ha⟩
      intro p' _
      refine ⟨?_, fun _ h => h, fun _ h => h⟩
      intro hother
      rw [hfree] at hother
      cases hother
    · cases hperform
  have hclosing : ∀ r, Holds pid p (Under p B r) (.ask close) (Script.Yields fun _ => B r) := by
    intro r
    refine Script.meets_ask (fun _ => hB r) ?_
    rintro w a w' hw ⟨_, hb⟩ hrespond
    have hperform := Script.responds_iff.1 hrespond
    cases hperform
    exact ⟨allows_release hw p, hclose r w hb⟩
  refine Script.meets_bind hflock (fun _ => Script.meets_ensure hbody ?_) fun _ _ _ h => False.elim h
  intro r
  refine (hclosing r).weaken (fun _ _ h => h) ?_
  intro done w _ h
  cases done with
  | ok _ => exact h
  | error e => exact False.elim h

theorem holds_attempt {B : Except PyError Unit → GuardFiles P → Prop} {x : GuardScript (Except PyError Unit)}
    (hx : Holds pid p A x (Under p (Script.Yields B))) : Holds pid p A (attempt x) (Under p B) := by
  refine Script.meets_bind hx ?_ fun _ _ _ h => False.elim h.2
  intro a
  cases a with
  | ok _ => exact fun w _ h => h
  | error e => exact fun w _ h => h

/-- An act of the lock holder that answers once. -/
theorem holds_ask {q : GuardAct} {K : GuardFiles P → Prop} {B : q.Answer → GuardFiles P → Prop}
    (hB : ∀ a, Guarded (B a))
    (h : ∀ w a w', Inv w → w.holder = some p → K w → w.perform pid p q = some (a, w') →
      Inv w' ∧ w'.holder = some p ∧ (∀ owner ∈ w.owners, owner ∈ w'.owners) ∧
        (∀ writer ∈ w.constructed, writer ∈ w'.constructed) ∧ B a w') :
    Holds pid p (fun w => w.holder = some p ∧ K w) (.ask q) (Under p (Script.Yields B)) := by
  have hask : Holds pid p (fun w => w.holder = some p ∧ K w) (.ask q)
      (Script.Yields fun a w => w.holder = some p ∧ B a w) := by
    refine Script.meets_ask (fun a => (hB a).stable p) ?_
    rintro w a w' hw ⟨hholder, hk⟩ hrespond
    obtain ⟨hinv, hholder', howners, hconstructed, hb⟩ :=
      h w a w' hw hholder hk (Script.responds_iff.1 hrespond)
    exact ⟨allows_of_holder hholder hinv howners hconstructed, hholder', hb⟩
  refine hask.weaken (fun _ _ h => h) ?_
  intro r w _ h
  cases r with
  | ok a => exact h
  | error e => exact False.elim h

variable {K K' : GuardFiles P → Prop} {file : GuardFile}

theorem holds_open_temporary (hK : Steady K) :
    Holds pid p (fun w => w.holder = some p ∧ K w) (.ask (open_temporary file)) (Under p (Script.Yields fun a w =>
      a = .ok () → K w ∧ Holding pid p file [] w)) := by
  refine holds_ask ?_ ?_
  · intro a w w' hfiles htemporaries howners hconstructed h ha
    exact (hK.guarded.and guarded_holding) w w' hfiles htemporaries howners hconstructed (h ha)
  · intro w a w' hw hholder hk hperform
    simp only [GuardFiles.perform] at hperform
    split at hperform
    · cases hperform
      exact ⟨hw, hholder, fun _ h => h, fun _ h => h, nofun⟩
    · cases hperform
      exact ⟨inv_setTemporary hw _ _ _, hholder, fun _ h => h, fun _ h => h, fun _ =>
        ⟨hK.setTemporary hk _ _ _, temporaries_setTemporary w file (pid p) _⟩⟩

theorem holds_write_temporary (hK : Steady K) (content payload : Bytes) :
    Holds pid p (fun w => w.holder = some p ∧ K w ∧ Holding pid p file content w)
      (.ask (write_temporary file payload)) (Under p (Script.Yields fun _ w => K w ∧ Holding pid p file payload w)) := by
  refine holds_ask (fun _ => hK.guarded.and guarded_holding) ?_
  rintro w a w' hw hholder ⟨hk, hholding⟩ hperform
  cases hperform
  refine ⟨inv_setTemporary hw _ _ _, hholder, fun _ h => h, fun _ h => h, hK.setTemporary hk _ _ _, ?_⟩
  unfold Holding at hholding ⊢
  rw [temporaries_setTemporary, hholding]
  rfl

theorem holds_unlink_temporary (hK : Steady K) :
    Holds pid p (fun w => w.holder = some p ∧ K w) (.ask (unlink_temporary file))
      (Under p (Script.Yields fun _ => K)) := by
  refine holds_ask (fun _ => hK.guarded) ?_
  intro w a w' hw hholder hk hperform
  cases hperform
  exact ⟨inv_setTemporary hw _ _ _, hholder, fun _ h => h, fun _ h => h, hK.setTemporary hk _ _ _⟩

/-- A file is replaced through its temporary file. -/
theorem holds_writeReplace {encode : Except PyError Bytes} {replace : GuardScript (Except PyError Unit)}
    (hK : Steady K) (hK' : Steady K')
    (hreplace : ∀ payload, encode = .ok payload →
      Holds pid p (fun w => w.holder = some p ∧ K w ∧ Holding pid p file payload w) replace
        (Under p (Script.Yields fun a w => a = .ok () → K' w))) :
    Holds pid p (fun w => w.holder = some p ∧ K w) (writeReplace file encode replace)
      (Under p fun r w => r = .ok () → K' w) := by
  refine Script.meets_bind (holds_attempt (holds_open_temporary hK)) ?_ ?_
  · intro _
    refine Script.meets_ensure (Q := Under p fun r w => r = .ok () → K' w) ?_ ?_
    · cases encode with
      | error e => exact fun w _ h => ⟨h.1, nofun⟩
      | ok payload =>
        rw [Script.ofExcept_ok_bind]
        refine Script.meets_bind (Q := Under p (Script.Yields fun _ w => K w ∧ Holding pid p file payload w)) ?_ ?_
          fun _ _ _ h => False.elim h.2
        · exact (holds_write_temporary hK [] payload).weaken (fun w _ h => ⟨h.1, h.2 rfl⟩) fun _ _ _ h => h
        · intro _
          exact holds_attempt (hreplace payload rfl)
    · intro r
      have hsteady : Steady fun w : GuardFiles P => r = .ok () → K' w := fun w w' hfiles howners hconstructed h hr =>
        hK' w w' hfiles howners hconstructed (h hr)
      refine (holds_unlink_temporary hsteady).weaken (fun _ _ h => h) ?_
      intro done w _ h
      cases done with
      | ok _ => exact h
      | error e => exact False.elim h.2
  · intro e w _ h
    exact ⟨h.1, nofun⟩

/-! ## The publisher -/

theorem holds_read_ownership (hK : Steady K) :
    Holds pid p (fun w => w.holder = some p ∧ K w) (.ask read_ownership)
      (Under p (Script.Yields fun a w => K w ∧ a = w.files .ownership)) := by
  refine holds_ask ?_ ?_
  · intro a w w' hfiles _ howners hconstructed h
    refine ⟨hK w w' hfiles howners hconstructed h.1, ?_⟩
    rw [hfiles]
    exact h.2
  · intro w a w' hw hholder hk hperform
    cases hperform
    exact ⟨hw, hholder, fun _ h => h, fun _ h => h, hk, rfl⟩

/-- The next generation is written over the latest one. -/
theorem holds_replace_ownership (htoken : ValidToken token) (previous : Option GuardWriter) {payload : Bytes}
    (hpayload : writerDocument (successor previous token) = .ok payload) :
    Holds pid p (fun w => w.holder = some p ∧ previous = w.owners.head? ∧ Holding pid p .ownership payload w)
      (.ask (replace_ownership (successor previous token)))
      (Under p (Script.Yields fun a w => a = .ok () → successor previous token ∈ w.owners)) := by
  refine holds_ask ?_ ?_
  · intro a w w' _ _ howners _ h ha
    rw [howners]
    exact h ha
  · rintro w a w' hw hholder ⟨hprevious, hholding⟩ hperform
    unfold Holding at hholding
    simp only [GuardFiles.perform, GuardFiles.replace, hholding, Option.map_some] at hperform
    cases hperform
    rw [hprevious] at hpayload ⊢
    refine ⟨inv_owned (inv_setTemporary hw .ownership (pid p) none) htoken hpayload, hholder,
      fun _ h => List.mem_cons_of_mem _ h, fun _ h => h, fun _ => List.mem_cons_self⟩

/-- `_write_ownership` -/
theorem holds_write_ownership (htoken : ValidToken token) (previous : Option GuardWriter) {payload : Bytes}
    (hpayload : writerDocument (successor previous token) = .ok payload) :
    Holds pid p (fun w => w.holder = some p ∧ previous = w.owners.head?)
      (writeReplace .ownership (.ok payload) (.ask (replace_ownership (successor previous token))))
      (Under p fun r w => r = .ok () → successor previous token ∈ w.owners) := by
  refine holds_writeReplace (steady_latest previous) (steady_owner _) ?_
  intro payload' h
  cases h
  exact holds_replace_ownership htoken previous hpayload

/-- A publisher that was constructed has owned the file. -/
theorem holds_construct (token : PyStr) :
    Holds pid p (fun _ => True) (construct token) fun r w => ∀ writer, r = .ok writer → writer ∈ w.owners := by
  unfold construct
  split
  · exact Script.meets_raise fun _ _ _ => nofun
  rename_i htoken
  refine holds_locked steady_true.guarded ?_ (fun _ _ h => h) ?_ fun _ h => h
  · intro r w w' _ _ hrely h writer hwriter
    exact hrely.owners writer (h writer hwriter)
  refine Script.meets_bind (holds_read_ownership steady_true) ?_ fun _ _ _ h => False.elim h.2
  intro ownership
  cases hread : readOwnership true ownership with
  | error e =>
    rw [Script.ofExcept_error_bind]
    exact Script.meets_raise fun w _ h => ⟨h.1, nofun⟩
  | ok previous =>
    rw [Script.ofExcept_ok_bind]
    cases hpayload : writerDocument (successor previous token) with
    | error e =>
      rw [Script.ofExcept_error_bind]
      exact Script.meets_raise fun w _ h => ⟨h.1, nofun⟩
    | ok payload =>
      rw [Script.ofExcept_ok_bind]
      refine Script.meets_bind ((holds_write_ownership (not_not.1 htoken) previous hpayload).weaken ?_
        fun _ _ _ h => h) ?_ ?_
      · rintro w hw ⟨hholder, _, hownership⟩
        rw [hownership] at hread
        exact ⟨hholder, hw.read hread⟩
      · intro _
        refine Script.meets_pure ?_
        intro w _ h
        refine ⟨h.1, ?_⟩
        intro writer hwriter
        cases hwriter
        exact h.2 rfl
      · intro e w _ h
        exact ⟨h.1, nofun⟩

/-- A successor's construction has returned, if the call says so. -/
def Superseding (writer : GuardWriter) (superseded : Bool) (w : GuardFiles P) : Prop :=
  superseded = true → ∃ c ∈ w.constructed, writer.generation < c.generation

/-- A superseded publisher is told so, while ownerships can be read. -/
def Answered (superseded : Bool) (r : Except PyError Bool) (w : GuardFiles P) : Prop :=
  superseded = true → Readable w → r = .ok false

omit [DecidableEq P] in
theorem steady_superseding (writer : GuardWriter) (superseded : Bool) :
    Steady (Superseding (P := P) writer superseded) := by
  intro w w' _ _ hconstructed h hsuperseded
  obtain ⟨c, hc, hlt⟩ := h hsuperseded
  exact ⟨c, hconstructed c hc, hlt⟩

omit [DecidableEq P] in
/-- The owner of the file is not superseded. -/
theorem Inv.not_superseded (hw : Inv w) {superseded : Bool} (howner : w.owners.head? = some writer)
    (h : Superseding writer superseded w) : superseded = false := by
  by_contra hne
  obtain ⟨c, hc, hlt⟩ := h (by simpa using hne)
  have hle := hw.le_latest howner (hw.constructed c hc)
  omega

theorem holds_replace_guard (writer : GuardWriter) (payload : Bytes) :
    Holds pid p (fun w => w.holder = some p ∧ True ∧ Holding pid p .guard payload w)
      (.ask (replace_guard writer false)) (Under p (Script.Yields fun a _ => a = .ok () → True)) := by
  refine holds_ask (fun _ _ _ _ _ _ _ _ _ => trivial) ?_
  rintro w a w' hw hholder ⟨_, hholding⟩ hperform
  unfold Holding at hholding
  simp only [GuardFiles.perform, GuardFiles.replace, hholding, Option.map_some] at hperform
  cases hperform
  have hcurrent := hw.current
  have hfile : Function.update w.files .guard (some payload) .ownership = w.files .ownership := by simp
  refine ⟨⟨?_, hw.wellFormed, hw.ordered, hw.constructed, ?_, hw.returned⟩, hholder, fun _ h => h, fun _ h => h,
    fun _ => trivial⟩
  · unfold Current at hcurrent ⊢
    show match w.owners with
      | [] => Function.update w.files .guard (some payload) .ownership = none
      | owner :: _ => ∃ bytes, writerDocument owner = .ok bytes ∧
          Function.update w.files .guard (some payload) .ownership = some bytes
    rw [hfile]
    exact hcurrent
  · intro x hx
    rcases List.mem_cons.1 hx with rfl | hx
    · rfl
    · exact hw.published x hx

/-- `publish` -/
theorem holds_publish (writer : GuardWriter) (superseded : Bool) (snapshot : FocusedCaptureGuard) :
    Holds pid p (Superseding writer superseded) (publish writer superseded snapshot) (Answered superseded) := by
  unfold publish
  refine holds_locked (steady_superseding writer superseded).guarded ?_ (fun _ _ h => h) ?_ fun _ h => h
  · intro r w w' _ _ hrely h hsuperseded hreadable
    exact h hsuperseded (hreadable.of_rely hrely)
  refine Script.meets_bind (holds_read_ownership (steady_superseding writer superseded)) ?_
    fun _ _ _ h => False.elim h.2
  intro ownership
  cases hread : readOwnership false ownership with
  | error e =>
    rw [Script.ofExcept_error_bind]
    refine Script.meets_raise ?_
    rintro w hw ⟨hholder, hsuperseding, hownership⟩
    refine ⟨hholder, ?_⟩
    intro hsuperseded hreadable
    -- the successor owns the file, and its document can be read
    obtain ⟨c, hc, _⟩ := hsuperseding hsuperseded
    obtain ⟨latest, hlatest⟩ := exists_latest (hw.constructed c hc)
    have hok := (hw.read_fits false hlatest).2 (hreadable latest (List.mem_of_mem_head? hlatest))
    rw [hownership, hok] at hread
    cases hread
  | ok owner =>
    rw [Script.ofExcept_ok_bind]
    split
    · refine Script.meets_pure ?_
      intro w _ h
      exact ⟨h.1, fun _ _ => rfl⟩
    · rename_i howner
      have hlatest : ∀ w : GuardFiles P, Inv w → ownership = w.files .ownership → w.owners.head? = some writer := by
        intro w hw hownership
        rw [hownership] at hread
        rw [← hw.read hread]
        exact not_not.1 howner
      cases superseded with
      | true =>
        refine Script.meets_absurd ?_
        rintro w hw ⟨_, hsuperseding, hownership⟩
        cases hw.not_superseded (hlatest w hw hownership) hsuperseding
      | false =>
        refine Script.meets_bind (Q := Under p fun r _ => r = .ok () → True) ?_ ?_ ?_
        · refine (holds_writeReplace steady_true steady_true ?_).weaken (fun w _ h => ⟨h.1, trivial⟩) fun _ _ _ h => h
          intro payload _
          exact holds_replace_guard writer payload
        · intro _
          exact Script.meets_pure fun w _ h => ⟨h.1, nofun⟩
        · intro e w _ h
          exact ⟨h.1, nofun⟩

/-! ## Every interleaving -/

/-- Records may be added whoever holds the lock. -/
theorem holds_record {q : GuardAct} {K : GuardFiles P → Prop} {B : q.Answer → GuardFiles P → Prop}
    (hB : ∀ a, contract.Stable p (B a))
    (h : ∀ w a w', Inv w → K w → w.perform pid p q = some (a, w') → contract.Allows p w w' ∧ B a w') :
    Holds pid p K (.ask q) (Script.Yields B) := by
  refine Script.meets_ask hB ?_
  intro w a w' hw hk hrespond
  exact h w a w' hw hk (Script.responds_iff.1 hrespond)

theorem holds_called (writer : GuardWriter) :
    Holds pid p (fun _ => True) (.ask (called writer)) (Script.Yields (Superseding writer)) := by
  refine holds_record ?_ ?_
  · intro superseded w w' _ _ hrely h hsuperseded
    obtain ⟨c, hc, hlt⟩ := h hsuperseded
    exact ⟨c, hrely.constructed c hc, hlt⟩
  · intro w superseded w' hw _ hperform
    cases hperform
    refine ⟨allows_of_same hw rfl rfl rfl rfl fun _ h => h, ?_⟩
    intro hsuperseded
    simpa using hsuperseded

theorem holds_constructed (writer : GuardWriter) :
    Holds pid p (fun w => writer ∈ w.owners) (.ask (constructed writer)) (Script.Yields fun _ _ => True) := by
  refine holds_record (fun _ _ _ _ _ _ h => h) ?_
  intro w a w' hw howner hperform
  cases hperform
  have hinv : Inv { w with constructed := writer :: w.constructed } := by
    refine ⟨hw.current, hw.wellFormed, hw.ordered, ?_, hw.published, hw.returned⟩
    intro writer' h
    rcases List.mem_cons.1 h with rfl | h
    · exact howner
    · exact hw.constructed writer' h
  exact ⟨allows_of_same hinv rfl rfl rfl rfl fun _ h => List.mem_cons_of_mem _ h, trivial⟩

theorem holds_returned (writer : GuardWriter) (superseded : Bool) (r : Except PyError Bool) :
    Holds pid p (Answered superseded r) (.ask (returned writer superseded r)) (Script.Yields fun _ _ => True) := by
  refine holds_record (fun _ _ _ _ _ _ h => h) ?_
  intro w a w' hw hanswered hperform
  cases hperform
  have hinv : Inv { w with returned := (writer, superseded, r) :: w.returned } := by
    refine ⟨hw.current, hw.wellFormed, hw.ordered, hw.constructed, hw.published, ?_⟩
    intro hreadable x hx hsuperseded
    rcases List.mem_cons.1 hx with rfl | hx
    · exact hanswered hsuperseded hreadable
    · exact hw.returned hreadable x hx hsuperseded
  exact ⟨allows_of_same hinv rfl rfl rfl rfl fun _ h => h, trivial⟩

/-- A process with its publishers. -/
theorem holds_run (commands : List Command) (writers : List GuardWriter) :
    Holds pid p (fun _ => True) (run commands writers) fun _ _ => True := by
  induction commands generalizing writers with
  | nil => exact Script.meets_pure fun _ _ _ => trivial
  | cons command commands ih =>
    cases command with
    | construct token =>
      refine Script.meets_bind (Script.meets_result (R := Script.Yields fun r (w : GuardFiles P) => ∀ writer,
        r = .ok writer → writer ∈ w.owners) (holds_construct token) fun _ _ _ h => h) ?_ fun _ _ _ _ => trivial
      intro r
      cases r with
      | error e => exact (ih writers).weaken (fun _ _ _ => trivial) fun _ _ _ h => h
      | ok writer =>
        refine Script.meets_bind ((holds_constructed writer).weaken (fun w _ h => h writer rfl) fun _ _ _ h => h) ?_
          fun _ _ _ _ => trivial
        intro _
        exact (ih _).weaken (fun _ _ _ => trivial) fun _ _ _ h => h
    | publish index snapshot =>
      unfold run
      split
      · exact ih writers
      · rename_i writer _
        refine Script.meets_bind (holds_called writer) ?_ fun _ _ _ _ => trivial
        intro superseded
        refine Script.meets_bind (Script.meets_result (R := Script.Yields (Answered superseded))
          (holds_publish writer superseded snapshot) fun _ _ _ h => h) ?_ fun _ _ _ _ => trivial
        intro r
        refine Script.meets_bind (holds_returned writer superseded r) ?_ fun _ _ _ _ => trivial
        intro _
        exact (ih writers).weaken (fun _ _ _ => trivial) fun _ _ _ h => h

theorem sound : Setting.Sound (setting pid) contract fun _ _ _ => True where
  enter := by
    intro p commands w w' hw h
    cases h
    exact ⟨allows_of_same hw rfl rfl rfl rfl fun _ h => h, fun _ => True, fun _ _ _ _ _ h => h, trivial,
      holds_run commands []⟩
  leave := by
    intro p _ w hw _
    exact allows_release hw p
  die := by
    intro p w hw
    exact allows_release hw p
  move := nofun

theorem inv_of_reachable {st : Setting.State P (GuardFiles P) GuardAct Answer PyError Unit}
    (h : (machine pid).Reachable st) : Inv st.world := by
  refine (Setting.running_of_reachable sound ?_ h).inv
  rintro _ rfl
  exact ⟨rfl, nofun, List.Pairwise.nil, nofun, nofun, nofun⟩

/-! ## A publisher alone -/

/-- The run of one process while the others stand still. -/
abbrev Runs (pid : P → Nat) (p : P) {α : Type} (x : GuardScript α) (w : GuardFiles P) (a : α) (w' : GuardFiles P) :
    Prop := x.exec (GuardFiles.perform pid p) w = some (.ok a, w')

theorem runs_locked {α : Type} {body : GuardScript α} {a : α} :
    Runs pid p (locked body) w a w' ↔
      w.holder = none ∧ ∃ u, Runs pid p body { w with holder := some p } a u ∧ w' = u.release p := by
  unfold Runs locked
  simp only [Script.exec_bind_ok, Script.exec_ensure_ok, Script.exec_ask_ok, GuardFiles.perform]
  constructor
  · rintro ⟨_, u, hlock, u', hbody, hclose⟩
    split at hlock
    · cases hlock
      cases hclose
      exact ⟨‹_›, u', hbody, rfl⟩
    · cases hlock
  · rintro ⟨hfree, u, hbody, rfl⟩
    exact ⟨(), _, if_pos hfree, u, hbody, rfl⟩

theorem runs_attempt {q : GuardScript (Except PyError Unit)} :
    Runs pid p (attempt q) w () w' ↔ Runs pid p q w (.ok ()) w' := by
  unfold Runs attempt
  simp only [Script.exec_bind_ok, Script.exec_ofExcept_ok]
  constructor
  · rintro ⟨_, u, hq, rfl, rfl⟩
    exact hq
  · intro h
    exact ⟨_, _, h, rfl, rfl⟩

/-- A file is replaced where no temporary file is in the way. -/
theorem runs_writeReplace {encode : Except PyError Bytes} {replace : GuardScript (Except PyError Unit)} :
    Runs pid p (writeReplace file encode replace) w () w' ↔
      w.temporaries file (pid p) = none ∧ ∃ payload u, encode = .ok payload ∧
        Runs pid p replace (w.setTemporary file (pid p) (some payload)) (.ok ()) u ∧
        w' = u.setTemporary file (pid p) none := by
  have hopen : ∀ u, Runs pid p (.ask (open_temporary file)) w (.ok ()) u ↔
      w.temporaries file (pid p) = none ∧ u = w.setTemporary file (pid p) (some []) := by
    intro u
    unfold Runs
    simp only [Script.exec_ask_ok, GuardFiles.perform]
    split
    · rename_i hsome
      simp [hsome]
    · rename_i hnone
      simp [hnone, eq_comm]
  have hwrite : ∀ u payload u', Runs pid p (.ask (write_temporary file payload)) u () u' ↔
      u' = u.setTemporary file (pid p) ((u.temporaries file (pid p)).map fun _ => payload) := by
    intro u payload u'
    unfold Runs
    rw [Script.exec_ask_ok]
    simp only [GuardFiles.perform, Option.some.injEq, Prod.mk.injEq, true_and]
    exact eq_comm
  unfold writeReplace
  show (attempt (.ask (open_temporary file)) >>= _ : GuardScript Unit).exec _ w = _ ↔ _
  rw [Script.exec_bind_ok]
  constructor
  · rintro ⟨_, u, hattempt, hbody⟩
    obtain ⟨hnone, rfl⟩ := (hopen u).1 (runs_attempt.1 hattempt)
    obtain ⟨u', hbody, hunlink⟩ := Script.exec_ensure_ok.1 hbody
    obtain ⟨payload, u₁, hencode, hbody⟩ := Script.exec_bind_ok.1 hbody
    obtain ⟨rfl, rfl⟩ := Script.exec_ofExcept_ok.1 hencode
    obtain ⟨_, u₂, hwritten, hreplace⟩ := Script.exec_bind_ok.1 hbody
    obtain rfl := (hwrite _ payload u₂).1 hwritten
    have hreplace := runs_attempt.1 hreplace
    rw [temporaries_setTemporary, setTemporary_setTemporary] at hreplace
    refine ⟨hnone, payload, u', rfl, hreplace, ?_⟩
    cases Script.exec_ask_ok.1 hunlink
    rfl
  · rintro ⟨hnone, payload, u, rfl, hreplace, rfl⟩
    refine ⟨(), _, runs_attempt.2 ((hopen _).2 ⟨hnone, rfl⟩), Script.exec_ensure_ok.2 ⟨u, ?_, rfl⟩⟩
    refine Script.exec_bind_ok.2 ⟨payload, _, Script.exec_ofExcept_ok.2 ⟨rfl, rfl⟩, ?_⟩
    refine Script.exec_bind_ok.2 ⟨(), _, (hwrite _ payload _).2 rfl, runs_attempt.2 ?_⟩
    rw [temporaries_setTemporary, setTemporary_setTemporary]
    exact hreplace

/-- The lock and the temporary file are as before. -/
theorem release_replaced (hfree : w.holder = none) (hnone : w.temporaries file (pid p) = none)
    (files : GuardFile → Option Bytes) (owners : List GuardWriter) (published : List (GuardWriter × Bool)) :
    GuardFiles.release p (GuardFiles.setTemporary
        { GuardFiles.setTemporary { w with holder := some p } file (pid p) none with
          files := files
          owners := owners
          published := published } file (pid p) none) =
      { w with files := files
               owners := owners
               published := published } := by
  have hsame := congrArg GuardFiles.temporaries (setTemporary_same (w := w) hnone)
  unfold GuardFiles.setTemporary at hsame
  simp only at hsame
  simp [GuardFiles.release, GuardFiles.setTemporary, hfree, hsame]

/-- The ownership is replaced. -/
theorem runs_construct (hw : Inv w) (hfree : w.holder = none) :
    Runs pid p (construct token) w writer w' ↔
      ValidToken token ∧ (∀ owner, w.owners.head? = some owner → Fits owner) ∧
        w.temporaries .ownership (pid p) = none ∧ ∃ payload, writerDocument (successor w.owners.head? token) = .ok payload ∧
        writer = successor w.owners.head? token ∧
        w' = { w with files := Function.update w.files .ownership (some payload)
                      owners := successor w.owners.head? token :: w.owners } := by
  have hreplace : ∀ (u u' : GuardFiles P) (payload : Bytes) (writer : GuardWriter),
      Runs pid p (.ask (replace_ownership writer)) (u.setTemporary .ownership (pid p) (some payload)) (.ok ()) u' ↔
        u' = { u.setTemporary .ownership (pid p) none with
          files := Function.update u.files .ownership (some payload)
          owners := writer :: u.owners } := by
    intro u u' payload writer
    unfold Runs
    rw [Script.exec_ask_ok]
    simp only [GuardFiles.perform, GuardFiles.replace, temporaries_setTemporary, Option.map_some,
      setTemporary_setTemporary, Option.some.injEq, Prod.mk.injEq, true_and]
    exact eq_comm
  unfold construct
  by_cases htoken : ValidToken token
  swap
  · rw [if_pos htoken]
    exact ⟨fun h => False.elim (Script.exec_raise_ok.1 h), fun h => absurd h.1 htoken⟩
  rw [if_neg (not_not.2 htoken), runs_locked]
  constructor
  · rintro ⟨_, u, hbody, rfl⟩
    obtain ⟨ownership, u₁, hownership, hbody⟩ := Script.exec_bind_ok.1 hbody
    cases Script.exec_ask_ok.1 hownership
    obtain ⟨previous, u₂, hexec, hbody⟩ := Script.exec_bind_ok.1 hbody
    obtain ⟨hread, rfl⟩ := Script.exec_ofExcept_ok.1 hexec
    obtain rfl := hw.read hread
    obtain ⟨payload, u₃, hexec, hbody⟩ := Script.exec_bind_ok.1 hbody
    obtain ⟨hpayload, rfl⟩ := Script.exec_ofExcept_ok.1 hexec
    obtain ⟨_, u₄, hwrite, hbody⟩ := Script.exec_bind_ok.1 hbody
    obtain ⟨rfl, rfl⟩ := Script.exec_pure_ok.1 hbody
    obtain ⟨hnone, payload', u₅, hsame, hreplaced, rfl⟩ := runs_writeReplace.1 hwrite
    cases hsame
    obtain rfl := (hreplace _ _ _ _).1 hreplaced
    refine ⟨htoken, ?_, hnone, payload, hpayload, rfl, ?_⟩
    · intro owner howner
      rw [howner] at hread
      exact (hw.read_fits true howner).1 hread
    · exact release_replaced hfree hnone _ _ _
  · rintro ⟨_, hfits, hnone, payload, hpayload, rfl, rfl⟩
    have hread : readOwnership true (w.files .ownership) = .ok w.owners.head? := by
      cases howners : w.owners.head? with
      | none => exact hw.read_missing howners
      | some owner => exact (hw.read_fits true howners).2 (hfits owner howners)
    refine ⟨hfree, _, ?_, (release_replaced hfree hnone _ _ _).symm⟩
    refine Script.exec_bind_ok.2 ⟨_, _, Script.exec_ask_ok.2 rfl, ?_⟩
    refine Script.exec_bind_ok.2 ⟨_, _, Script.exec_ofExcept_ok.2 ⟨hread, rfl⟩, ?_⟩
    refine Script.exec_bind_ok.2 ⟨_, _, Script.exec_ofExcept_ok.2 ⟨hpayload, rfl⟩, ?_⟩
    exact Script.exec_bind_ok.2 ⟨(), _, runs_writeReplace.2 ⟨hnone, payload, _, rfl, (hreplace _ _ _ _).2 rfl, rfl⟩,
      Script.exec_pure_ok.2 ⟨rfl, rfl⟩⟩

/-- The guard is replaced by the owner. -/
theorem runs_publish (hw : Inv w) (hfree : w.holder = none) (hlatest : w.owners.head? = some writer)
    {snapshot : FocusedCaptureGuard} :
    (∃ w', Runs pid p (publish writer false snapshot) w true w') ↔
      Fits writer ∧ w.temporaries .guard (pid p) = none ∧
        ∃ payload, encode_focused_capture_guard snapshot = .ok payload := by
  unfold publish
  simp only [runs_locked]
  constructor
  · rintro ⟨_, _, u, hbody, rfl⟩
    obtain ⟨ownership, u₁, hownership, hbody⟩ := Script.exec_bind_ok.1 hbody
    cases Script.exec_ask_ok.1 hownership
    obtain ⟨owner, u₂, hexec, hbody⟩ := Script.exec_bind_ok.1 hbody
    obtain ⟨hread, rfl⟩ := Script.exec_ofExcept_ok.1 hexec
    obtain rfl := hw.read hread
    rw [if_neg (not_not.2 hlatest)] at hbody
    obtain ⟨_, u₃, hwrite, hbody⟩ := Script.exec_bind_ok.1 hbody
    obtain ⟨hnone, payload, u₄, hencode, _⟩ := runs_writeReplace.1 hwrite
    rw [hlatest] at hread
    exact ⟨(hw.read_fits false hlatest).1 hread, hnone, payload, hencode⟩
  · rintro ⟨hfits, hnone, payload, hencode⟩
    have hreplace : Runs pid p (.ask (replace_guard writer false))
        (GuardFiles.setTemporary { w with holder := some p } .guard (pid p) (some payload)) (.ok ())
        { GuardFiles.setTemporary { w with holder := some p } .guard (pid p) none with
          files := Function.update w.files .guard (some payload)
          published := (writer, false) :: w.published } := by
      refine Script.exec_ask_ok.2 ?_
      simp only [GuardFiles.perform, GuardFiles.replace, temporaries_setTemporary, Option.map_some,
        setTemporary_setTemporary]
      rfl
    refine ⟨_, hfree, _, ?_, (release_replaced hfree hnone (Function.update w.files .guard (some payload)) w.owners
      ((writer, false) :: w.published)).symm⟩
    refine Script.exec_bind_ok.2 ⟨_, _, Script.exec_ask_ok.2 rfl, ?_⟩
    refine Script.exec_bind_ok.2 ⟨_, _, Script.exec_ofExcept_ok.2 ⟨(hw.read_fits false hlatest).2 hfits, rfl⟩, ?_⟩
    rw [if_neg (not_not.2 rfl)]
    exact Script.exec_bind_ok.2 ⟨(), _, runs_writeReplace.2 ⟨hnone, payload, _, hencode, hreplace, rfl⟩,
      Script.exec_pure_ok.2 ⟨rfl, rfl⟩⟩

/-- Nothing is in the way of a new publisher: its token and the snapshot are valid, ownerships can be read, and no
temporary file of its process id was left behind. -/
def Clear (pid : P → Nat) (p : P) (w : GuardFiles P) (token : PyStr) (snapshot : FocusedCaptureGuard) : Prop :=
  ValidToken token ∧ (∃ payload, encode_focused_capture_guard snapshot = .ok payload) ∧
    (∀ owner, w.owners.head? = some owner → Fits owner) ∧ Fits (successor w.owners.head? token) ∧
    ∀ file, w.temporaries file (pid p) = none

/-- A new publisher publishes. -/
theorem runs_construct_publish (hw : Inv w) (hfree : w.holder = none) {snapshot : FocusedCaptureGuard} :
    (∃ w', Runs pid p (construct token >>= fun writer => publish writer false snapshot) w true w') ↔
      Clear pid p w token snapshot := by
  unfold Clear
  constructor
  · rintro ⟨w', h⟩
    obtain ⟨writer, u, hconstruct, hpublish⟩ := Script.exec_bind_ok.1 h
    obtain ⟨htoken, hlatest, hownership, payload, hpayload, rfl, rfl⟩ := (runs_construct hw hfree).1 hconstruct
    obtain ⟨hfits, hguard, hsnapshot⟩ := (runs_publish (inv_owned hw htoken hpayload) hfree rfl).1 ⟨w', hpublish⟩
    refine ⟨htoken, hsnapshot, hlatest, hfits, ?_⟩
    intro file
    cases file with
    | ownership => exact hownership
    | guard => exact hguard
  · rintro ⟨htoken, hsnapshot, hlatest, hfits, htemporaries⟩
    obtain ⟨payload, hpayload, _⟩ := id hfits
    obtain ⟨w', hpublish⟩ := (runs_publish (inv_owned hw htoken hpayload) hfree rfl).2
      ⟨hfits, htemporaries .guard, hsnapshot⟩
    refine ⟨w', Script.exec_bind_ok.2 ⟨_, _, ?_, hpublish⟩⟩
    exact (runs_construct hw hfree).2 ⟨htoken, hlatest, htemporaries .ownership, payload, hpayload, rfl, rfl⟩

/-- Generations increase, a superseded publisher does not touch the guard and is told so while ownerships can be read,
and where the lock is free a new publisher succeeds if and only if nothing is in its way. -/
theorem guard_fenced {st : Setting.State P (GuardFiles P) GuardAct Answer PyError Unit}
    (h : (machine pid).Reachable st) :
    st.world.owners.Pairwise (fun later earlier => earlier.generation < later.generation) ∧
      (∀ writer ∈ st.world.constructed, writer ∈ st.world.owners) ∧
      (∀ x ∈ st.world.published, x.2 = false) ∧
      (Readable st.world → ∀ x ∈ st.world.returned, x.2.1 = true → x.2.2 = .ok false) ∧
      (st.world.holder = none → ∀ p token snapshot,
        (∃ w', Runs pid p (construct token >>= fun writer => publish writer false snapshot) st.world true w') ↔
          Clear pid p st.world token snapshot) := by
  have hw := inv_of_reachable h
  exact ⟨hw.ordered, hw.constructed, hw.published, hw.returned, fun hfree _ _ _ => runs_construct_publish hw hfree⟩

/-! ## A crash at the temporary file -/

def someSnapshot : FocusedCaptureGuard where
  observed_utc_ns := 0
  valid_until_utc_ns := 1
  capture_guard_from_utc_ns := 0
  capture_guard_until_utc_ns := 1
  focused_backlog := 0
  in_flight_analyses := 0
  continuous_capture_active := true
  validity := by decide
  interval := by decide

/-- What the acts of a process alone are answered in an empty directory. -/
def freshAnswer : ∀ q : GuardAct, q.Answer
  | .flock | .close | .write_temporary .. | .unlink_temporary _ | .constructed _ | .returned .. => ()
  | .read_ownership => none
  | .open_temporary _ | .replace_ownership _ | .replace_guard .. => .ok ()
  | .called _ => false

/-- A process is killed after it created its temporary ownership file. -/
def killedOpening : List (Setting.Label Nat (List Command) Empty GuardAct Answer) :=
  [.start 0 [.construct (str "a")], .step 0 freshAnswer, .step 0 freshAnswer, .step 0 freshAnswer, .kill 0]

theorem reachable_killedOpening : ∃ st, (machine (P := Nat) id).Reachable st ∧ st.world.holder = none ∧
    st.world.temporaries .ownership 0 = some [] := by
  have hrun : (((machine (P := Nat) id).run ⟨initial, fun _ => none⟩ killedOpening).map fun st =>
      (st.world.holder, st.world.temporaries .ownership 0)) = some (none, some []) := by
    decide +kernel
  obtain ⟨st, hst, h⟩ := Option.map_eq_some_iff.1 hrun
  obtain ⟨hfree, htemporary⟩ := Prod.mk.inj h
  exact ⟨st, (machine id).run_reachable (.init ⟨rfl, rfl⟩) hst, hfree, htemporary⟩

/-- The next process of the same id constructs no publisher, though nobody holds the lock. -/
theorem leftover_blocks_publisher : ∃ st, (machine (P := Nat) id).Reachable st ∧ st.world.holder = none ∧
    ValidToken (str "a") ∧ ¬∃ w', Runs id 0 (construct (str "a") >>= fun writer => publish writer false someSnapshot)
      st.world true w' := by
  obtain ⟨st, hst, hfree, htemporary⟩ := reachable_killedOpening
  refine ⟨st, hst, hfree, by decide, ?_⟩
  intro h
  obtain ⟨_, _, _, _, hclear⟩ := (runs_construct_publish (inv_of_reachable hst) hfree).1 h
  have hnone := hclear .ownership
  rw [id, htemporary] at hnone
  cases hnone

/-- After the crash a process of another id succeeds. -/
theorem guard_fenced_after_crash : ∃ st, (machine (P := Nat) id).Reachable st ∧
    st.world.temporaries .ownership 0 = some [] ∧
    (∀ x ∈ st.world.published, x.2 = false) ∧
    ((∃ w', Runs id 1 (construct (str "a") >>= fun writer => publish writer false someSnapshot) st.world true w') ↔
      Clear id 1 st.world (str "a") someSnapshot) := by
  obtain ⟨st, hst, hfree, htemporary⟩ := reachable_killedOpening
  obtain ⟨_, _, hpublished, _, hsucceeds⟩ := guard_fenced hst
  exact ⟨st, hst, htemporary, hpublished, hsucceeds hfree 1 (str "a") someSnapshot⟩

end CaptureGuard

end LeoFlow
