import SearchPhrase.Digest.Sha256
import SearchPhrase.Record.Param
import SearchPhrase.Text.Hex

/-!
# Fingerprints

The fingerprint of a record is the SHA-256 digest of its query string.  Records that filter by the
same things have the same fingerprint, whatever their category, which makes it a key for stored
results.
-/

namespace SearchPhrase

/-- The fingerprint of a record, as the bytes of a digest. -/
structure Fingerprint where
  /-- The bytes of the digest. -/
  bytes : List UInt8
deriving DecidableEq

namespace Fingerprint

/-- The fingerprint as hexadecimal digits. -/
def hex (fingerprint : Fingerprint) : String :=
  String.ofList (Hex.ofBytes fingerprint.bytes)

/-- A short form of the fingerprint for logs, with its first sixteen digits. -/
def abbreviated (fingerprint : Fingerprint) : String :=
  "FilterFingerprint(" ++ String.ofList ((Hex.ofBytes fingerprint.bytes).take 16) ++ ")"

end Fingerprint

namespace FilterRecord

/-- The fingerprint of a record. -/
def fingerprint (record : FilterRecord) : Fingerprint :=
  ⟨Sha256.digest (Text.toBytes record.queryText)⟩

/-- A fingerprint has sixty-four digits. -/
theorem length_hex_fingerprint (record : FilterRecord) : record.fingerprint.hex.length = 64 := by
  simp [Fingerprint.hex, fingerprint, ← String.length_toList]

end FilterRecord
end SearchPhrase
