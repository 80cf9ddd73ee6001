import LeoFlow.Core.FloatArith
import LeoFlow.Contracts.RecordingLinks

/-!
# LeoFlow.Analysis.ResidualFilter — the Kalman filter of the residual tracker

The arithmetic of `analysis/tracking/offline.py`: two-dimensional vectors and matrices,
prediction, innovation, the update in Joseph form, and the smoother that goes back over
the steps of one segment.
-/

namespace LeoFlow

abbrev Vector2 := Num × Num

abbrev Matrix2 := Vector2 × Vector2

namespace ResidualFilter

/-- A float literal `d * 10 ** k`. -/
def literal (d : Nat) (k : Int) : Num := .float (PyFloat.ofDecimal false d k)

/-! ## Vectors and matrices -/

/-- `all(isfinite(v) for v in values)`; an `int` is converted to `float` first. -/
def allFinite : List Num → Except PyError Bool
  | [] => .ok true
  | .int n :: values =>
    match PyFloat.ofInt n with
    | some _ => allFinite values
    | none => .error (Num.overflowError "int too large to convert to float")
  | .float f :: values => if f.IsFinite then allFinite values else .ok false

/-- `a * b + c * d` -/
def dot (a b c d : Num) : Except PyError Num := do
  let first ← a.mul b
  let second ← c.mul d
  first.add second

/-- `_determinant` -/
def determinant (m : Matrix2) : Except PyError Num := do
  let first ← m.1.1.mul m.2.2
  let second ← m.1.2.mul m.2.1
  first.sub second

/-- `_inverse` -/
def inverse (m : Matrix2) : Except PyError Matrix2 := do
  let determinant ← determinant m
  let isfinite ← allFinite [determinant]
  raiseIf (¬isfinite ∨ determinant.Le Num.zero) (.value "matrix must be positive definite and invertible")
  let a ← m.2.2.div determinant
  let b ← m.1.2.neg.div determinant
  let c ← m.2.1.neg.div determinant
  let d ← m.1.1.div determinant
  return ((a, b), (c, d))

/-- `_transpose` -/
def transpose (m : Matrix2) : Matrix2 := ((m.1.1, m.2.1), (m.1.2, m.2.2))

/-- `_matmul` -/
def matmul (left right : Matrix2) : Except PyError Matrix2 := do
  let a ← dot left.1.1 right.1.1 left.1.2 right.2.1
  let b ← dot left.1.1 right.1.2 left.1.2 right.2.2
  let c ← dot left.2.1 right.1.1 left.2.2 right.2.1
  let d ← dot left.2.1 right.1.2 left.2.2 right.2.2
  return ((a, b), (c, d))

/-- `_matvec` -/
def matvec (m : Matrix2) (v : Vector2) : Except PyError Vector2 := do
  let a ← dot m.1.1 v.1 m.1.2 v.2
  let b ← dot m.2.1 v.1 m.2.2 v.2
  return (a, b)

/-- `_add_vector`, `_sub_vector`: item by item -/
def zipVector (op : Num → Num → Except PyError Num) (left right : Vector2) : Except PyError Vector2 := do
  let a ← op left.1 right.1
  let b ← op left.2 right.2
  return (a, b)

/-- `_add`, `_sub` -/
def zipMatrix (op : Num → Num → Except PyError Num) (left right : Matrix2) : Except PyError Matrix2 := do
  let a ← zipVector op left.1 right.1
  let b ← zipVector op left.2 right.2
  return (a, b)

/-- `_quadratic` -/
def quadratic (v : Vector2) (m : Matrix2) : Except PyError Num := do
  let product ← matvec m v
  dot v.1 product.1 v.2 product.2

/-- `_symmetrize` -/
def symmetrize (m : Matrix2) : Except PyError Matrix2 := do
  let sum ← m.1.2.add m.2.1
  let off_diagonal ← sum.div (literal 2 0)
  return ((m.1.1, off_diagonal), (off_diagonal, m.2.2))

/-- `_require_vector` -/
def requireVector (v : Vector2) (name : String) : Except PyError Unit := do
  let isfinite ← allFinite [v.1, v.2]
  raiseIf (¬isfinite) (.value (name ++ " must contain two finite values"))

/-- `_require_positive_definite`: the determinant is computed only when nothing else is wrong. -/
def requirePositiveDefinite (m : Matrix2) (name : String) : Except PyError Unit := do
  let message := name ++ " must be finite, symmetric, and positive definite"
  let isfinite ← allFinite [m.1.1, m.1.2, m.2.1, m.2.2]
  raiseIf (¬isfinite) (.value message)
  let difference ← m.1.2.sub m.2.1
  raiseIf ((literal 1 (-9)).Lt difference.abs ∨ m.1.1.Le Num.zero ∨ m.2.2.Le Num.zero) (.value message)
  let determinant ← determinant m
  raiseIf (determinant.Le Num.zero) (.value message)

/-- `_process_covariance` -/
def processCovariance (noise dt_s : Num) : Except PyError Matrix2 := do
  let cube ← noise.mul (← dt_s.cube)
  let a ← cube.div (literal 3 0)
  let square ← noise.mul (← dt_s.square)
  let b ← square.div (literal 2 0)
  let d ← noise.mul dt_s
  return ((a, b), (b, d))

/-! ## One measurement -/

/-- What a measurement is compared with, and how far off it is. -/
structure Innovation where
  predicted_state : Vector2
  predicted_covariance : Matrix2
  measurement_covariance : Matrix2
  innovation : Vector2
  innovation_covariance : Matrix2
  innovation_inverse : Matrix2
  nis : Num

/-- `((1.0, dt_s), (0.0, 1.0))` -/
def transition (dt_s : Num) : Matrix2 := ((Num.one, dt_s), (Num.zero, Num.one))

/-- A measurement and its prediction, each with its variances. -/
structure Residual where
  measured : Vector2
  predicted : Vector2
  measured_variance : Vector2
  predicted_variance : Vector2

/-- From the state before the measurement to its normalized innovation squared. -/
def innovate (noise : Num) (state : Vector2) (covariance : Matrix2) (dt_s : Num) (residual : Residual) :
    Except PyError Innovation := do
  let predicted_state ← matvec (transition dt_s) state
  let moved ← matmul (transition dt_s) covariance
  let moved ← matmul moved (transpose (transition dt_s))
  let process ← processCovariance noise dt_s
  let predicted_covariance ← zipMatrix Num.add moved process
  let measured_residual ← zipVector Num.sub residual.measured residual.predicted
  let variance ← zipVector Num.add residual.measured_variance residual.predicted_variance
  let measurement_covariance := ((variance.1, Num.zero), (Num.zero, variance.2))
  let innovation ← zipVector Num.sub measured_residual predicted_state
  let innovation_covariance ← zipMatrix Num.add predicted_covariance measurement_covariance
  let innovation_inverse ← inverse innovation_covariance
  let nis ← quadratic innovation innovation_inverse
  return {
    predicted_state, predicted_covariance, measurement_covariance, innovation, innovation_covariance
    innovation_inverse, nis }

/-- The filtered state and covariance. -/
def update (i : Innovation) : Except PyError (Vector2 × Matrix2) := do
  let gain ← matmul i.predicted_covariance i.innovation_inverse
  let correction ← matvec gain i.innovation
  let filtered_state ← zipVector Num.add i.predicted_state correction
  let identity : Matrix2 := ((Num.one, Num.zero), (Num.zero, Num.one))
  let residual_gain ← zipMatrix Num.sub identity gain
  let kept ← matmul residual_gain i.predicted_covariance
  let kept ← matmul kept (transpose residual_gain)
  let noise ← matmul gain i.measurement_covariance
  let noise ← matmul noise (transpose gain)
  let filtered_covariance ← zipMatrix Num.add kept noise
  let filtered_covariance ← symmetrize filtered_covariance
  requirePositiveDefinite filtered_covariance "filtered_covariance"
  return (filtered_state, filtered_covariance)

/-! ## Estimates -/

/-- `TrackingEstimate`; the state basis is the same for all. -/
structure TrackingEstimate where
  recording_id : RecordingId
  utc_ns : Int
  filtered_state : Vector2
  filtered_covariance : Matrix2
  predicted_state : Vector2
  predicted_covariance : Matrix2
  innovation : Vector2
  innovation_covariance : Matrix2
  normalized_innovation_squared : Num
  smoothed_state : Option Vector2 := none
  smoothed_covariance : Option Matrix2 := none
deriving DecidableEq

/-- `_Step` -/
structure Step where
  estimate : TrackingEstimate
  transition_from_previous : Matrix2

/-- One step back: the estimate smoothed by the one that follows it. -/
def smoothStep (current following : TrackingEstimate) (transition_from_previous : Matrix2) :
    Except PyError TrackingEstimate := do
  match following.smoothed_state, following.smoothed_covariance with
  | some following_state, some following_covariance => do
    let moved ← matmul current.filtered_covariance (transpose transition_from_previous)
    let smoother_gain ← matmul moved (← inverse following.predicted_covariance)
    let difference ← zipVector Num.sub following_state following.predicted_state
    let correction ← matvec smoother_gain difference
    let smoothed_state ← zipVector Num.add current.filtered_state correction
    let spread ← zipMatrix Num.sub following_covariance following.predicted_covariance
    let spread ← matmul smoother_gain spread
    let spread ← matmul spread (transpose smoother_gain)
    let smoothed_covariance ← zipMatrix Num.add current.filtered_covariance spread
    let smoothed_covariance ← symmetrize smoothed_covariance
    requirePositiveDefinite smoothed_covariance "smoothed_covariance"
    return { current with smoothed_state := some smoothed_state, smoothed_covariance := some smoothed_covariance }
  | _, _ => .error ⟨.assertion_error, ""⟩

/-- `_smooth`: from the last step to the first. -/
def smooth : List Step → Except PyError (List TrackingEstimate)
  | [] => .ok []
  | [last] => .ok [{ last.estimate with
      smoothed_state := some last.estimate.filtered_state
      smoothed_covariance := some last.estimate.filtered_covariance }]
  | current :: following :: rest => do
    match ← smooth (following :: rest) with
    | smoothed :: later =>
      let estimate ← smoothStep current.estimate smoothed following.transition_from_previous
      return estimate :: smoothed :: later
    | [] => .error ⟨.assertion_error, ""⟩

/-- What an estimate is about. -/
def TrackingEstimate.label (e : TrackingEstimate) : RecordingId × Int := (e.recording_id, e.utc_ns)

theorem label_smoothStep {current following e : TrackingEstimate} {m : Matrix2}
    (h : smoothStep current following m = .ok e) : e.label = current.label := by
  unfold smoothStep at h
  split at h
  · rcases bind_ok.1 h with ⟨_, _, h⟩
    rcases bind_ok.1 h with ⟨_, _, h⟩
    rcases bind_ok.1 h with ⟨_, _, h⟩
    rcases bind_ok.1 h with ⟨_, _, h⟩
    rcases bind_ok.1 h with ⟨_, _, h⟩
    rcases bind_ok.1 h with ⟨_, _, h⟩
    rcases bind_ok.1 h with ⟨_, _, h⟩
    rcases bind_ok.1 h with ⟨_, _, h⟩
    rcases bind_ok.1 h with ⟨_, _, h⟩
    rcases bind_ok.1 h with ⟨_, _, h⟩
    rcases bind_ok.1 h with ⟨_, _, h⟩
    rcases bind_ok.1 h with ⟨_, _, h⟩
    cases h
    rfl
  · cases h

/-- Smoothing keeps what the estimates are about, and their order. -/
theorem labels_smooth {steps : List Step} {es : List TrackingEstimate} (h : smooth steps = .ok es) :
    es.map TrackingEstimate.label = steps.map fun s => s.estimate.label := by
  induction steps generalizing es with
  | nil =>
    cases h
    rfl
  | cons current rest ih =>
    cases rest with
    | nil =>
      cases h
      rfl
    | cons following rest =>
      unfold smooth at h
      rcases bind_ok.1 h with ⟨smoothed, hrest, hmatch⟩
      have hlabels := ih hrest
      split at hmatch
      · rcases bind_ok.1 hmatch with ⟨e, he, hlist⟩
        cases hlist
        rw [List.map_cons, hlabels, label_smoothStep he]
        rfl
      · cases hmatch

end ResidualFilter

end LeoFlow
