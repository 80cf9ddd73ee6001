import LeoFlow.Contracts.CanonicalJson
import LeoFlow.Contracts.Capture

/-!
# LeoFlow.Contracts.Renderable — what the shared values have a text for

Tokens, identifiers and digests are ASCII, so canonical JSON can always carry them.
-/

namespace LeoFlow

theorem encodable_of_ascii {s : PyStr} (h : ∀ c ∈ s, c < 0x80) : Encodable s := by
  intro c hc
  have hlow := h c hc
  exact ⟨by omega, by omega⟩

theorem encodable_of_isToken {s : PyStr} (h : IsToken s) : Encodable s := by
  apply encodable_of_ascii
  cases s with
  | nil => exact absurd h id
  | cons c s =>
    rcases h with ⟨hhead, htail⟩
    intro d hd
    rcases List.mem_cons.1 hd with rfl | hd
    · omega
    · have htail := htail d hd
      omega

@[simp] theorem renderable_id {c : IdClass} (id : ContractId c) : Json.Renderable id.toPy :=
  Json.renderable_str.2 (encodable_of_isToken id.isToken)

@[simp] theorem renderable_ids {c : IdClass} (ids : List (ContractId c)) : Json.Renderable (idsToPy ids) := by
  simp [idsToPy]

theorem encodable_value (d : Digest) : Encodable d.value := by
  apply encodable_of_ascii
  intro c hc
  have hhex := d.lowerHex_value c hc
  omega

@[simp high] theorem renderable_value (d : Digest) : Json.Renderable (.str d.value) :=
  Json.renderable_str.2 (encodable_value d)

theorem encodable_toStr (d : Digest) : Encodable d.toStr := by
  intro c hc
  rcases List.mem_append.1 hc with hc | hc
  · exact Json.encodable_literal "sha256:" c hc
  · exact encodable_value d c hc

@[simp] theorem renderable_digest (d : Digest) : Json.Renderable d.toPy := by
  simp [Digest.toPy]

@[simp] theorem renderable_option {α : Type} {toPy : α → PyValue} {value : Option α} :
    Json.Renderable (optionToPy toPy value) ↔ ∀ x, value = some x → Json.Renderable (toPy x) := by
  cases value with
  | none => simp [optionToPy]
  | some x => simp [optionToPy]

theorem renderable_schema {s : SchemaRef} (h : s.version = V0_1) : Json.Renderable s.toPy := by
  have hid := Json.renderable_str.2 (encodable_of_isToken s.isToken_schema_id)
  have hmajor : Json.ShortInt 0 := by decide
  have hminor : Json.ShortInt 1 := by decide
  simp [SchemaRef.toPy, SchemaVersion.toPy, V0_1, h, hid, hmajor, hminor]

/-- A value has a digest when it has a text. -/
theorem exists_canonicalDigest_iff {v : PyValue} (hvalid : v.Valid) :
    (∃ digest, canonicalDigest v = .ok digest) ↔ Json.Renderable v := by
  rw [← Json.exists_canonicalJsonBytes_iff hvalid]
  unfold canonicalDigest
  constructor
  · rintro ⟨digest, hdigest⟩
    obtain ⟨bytes, hbytes, _⟩ := map_ok hdigest
    exact ⟨bytes, hbytes⟩
  · rintro ⟨bytes, hbytes⟩
    exact ⟨Digest.sha256 bytes, by rw [hbytes]; rfl⟩

end LeoFlow
