import LeoFlow.Core.Sha256

/-!
# LeoFlow.Contracts.Core — digests and object references

`contracts/core.py` and `contracts/storage.py`: the value objects every store
and catalog shares. `DigestAlgorithm` has the single member `SHA256`, so a
digest is its validated hexadecimal value.
-/

namespace LeoFlow

/-- `require_token`: `[A-Za-z0-9][A-Za-z0-9._:-]*` -/
def IsToken (s : PyStr) : Prop := Matches IsAlnum (fun c => IsAlnum c ∨ IsTokenPunct c) s

instance (s : PyStr) : Decidable (IsToken s) :=
  inferInstanceAs (Decidable (Matches IsAlnum (fun c => IsAlnum c ∨ IsTokenPunct c) s))

/-- `Digest`: 64 lower-case hexadecimal characters. -/
structure Digest where
  value : PyStr
  length_value : value.length = 64
  lowerHex_value : ∀ c ∈ value, IsLowerHex c
deriving DecidableEq

/-- `Digest.sha256` -/
def Digest.sha256 (data : Bytes) : Digest where
  value := Sha256.hexdigest data
  length_value := Sha256.length_hexdigest data
  lowerHex_value := Sha256.isLowerHex_hexdigest data

/-- `Digest.__str__` -/
def Digest.toStr (d : Digest) : PyStr := str "sha256:" ++ d.value

/-- `SchemaVersion` -/
structure SchemaVersion where
  major : Nat
  minor : Nat
deriving DecidableEq

/-- `SchemaVersion.__str__` -/
def SchemaVersion.toStr (v : SchemaVersion) : PyStr :=
  str (toString v.major) ++ str "." ++ str (toString v.minor)

/-- `SchemaRef` -/
structure SchemaRef where
  schema_id : PyStr
  version : SchemaVersion
  isToken_schema_id : IsToken schema_id
deriving DecidableEq

/-- `ArtifactRef` -/
structure ArtifactRef where
  artifact_id : PyStr
  digest : Digest
  schema : Option SchemaRef
  isToken_artifact_id : IsToken artifact_id
deriving DecidableEq

/-- `ObjectRef`: one immutable object of a content-addressed store. -/
structure ObjectRef where
  digest : Digest
  byte_count : Nat
  media_type : PyStr
  format_id : PyStr
  locator : PyStr
deriving DecidableEq

/-- `FileSystemBlobReader._locator`: `cas:sha256:<digest>`. -/
def casLocator (d : Digest) : PyStr := str "cas:sha256:" ++ d.value

theorem casLocator_injective {d d' : Digest} (h : casLocator d = casLocator d') : d = d' := by
  cases d
  cases d'
  simpa [casLocator] using h

end LeoFlow
