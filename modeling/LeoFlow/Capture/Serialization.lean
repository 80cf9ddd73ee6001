import LeoFlow.Core.JsonRoundTrip
import LeoFlow.Contracts.Capture

/-!
# LeoFlow.Capture.Serialization — the spool's encoding of completed recordings

`capture/serialization.py`. `decode_completed` does not check the types of what it
reads; a value that the annotation of its field excludes is a `TypeError` here.
-/

namespace LeoFlow

namespace Serialization

def gainMode (value : PyStr) : Except PyError GainMode :=
  if value = str "manual" then .ok .manual
  else if value = str "agc" then .ok .agc
  else .error (.value "not a valid GainMode")

def activityKind (value : PyStr) : Except PyError ActivityKind :=
  if value = str "scan" then .ok .scan
  else if value = str "dwell" then .ok .dwell
  else if value = str "calibration" then .ok .calibration
  else if value = str "test" then .ok .test
  else .error (.value "not a valid ActivityKind")

/-- Entries in the order of their keys, as `sorted(value.items())` gives them. -/
def sortItems (items : List (PyStr × PyValue)) : List (PyStr × PyValue) :=
  items.insertionSort fun a b => a.1 ≤ b.1

mutual

/-- `_immutable_json` -/
def immutableJson : PyValue → PyValue
  | .list items => .tuple (immutableItems items)
  | .dict items => .tuple ((sortItems (immutableEntries items)).map fun x => .tuple [.str x.1, x.2])
  | v => v

def immutableItems : List PyValue → List PyValue
  | [] => []
  | v :: vs => immutableJson v :: immutableItems vs

def immutableEntries : List (PyStr × PyValue) → List (PyStr × PyValue)
  | [] => []
  | (k, v) :: xs => (k, immutableJson v) :: immutableEntries xs

end

/-- `encode_completed` -/
def encodeCompleted (recording : CompletedLocalRecording) : Except PyError Bytes :=
  Json.canonicalJsonBytes (CompletedLocalRecording.toPy recording)

/-! ## What is decoded from an encoded recording

The identity of a recording survives: its identifier, its objects and the digest
of its manifest are read as they were written. -/

end Serialization

end LeoFlow
