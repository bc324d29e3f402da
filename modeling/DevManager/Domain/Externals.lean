import DevManager.Domain.Types

/-!
# What the domain calls outside the repository

`sha2`, `url`, `rmp_serde` and `serde_json` are third-party crates, and the
meaning of a path is the platform's. They enter the model as the fields of the
class `Externals`; nothing is assumed about them, so every theorem holds for
whatever they compute.
-/

namespace DevManager

/-- What `validate_url` (`browser.rs:1974-1993`) reads from a parsed `url::Url`. -/
structure ParsedUrl where
  scheme : String
  username : String
  password : Option String
  query : Option String
  fragment : Option String
  host : Option String

/-- The functions of other crates and of the platform that the domain calls. -/
class Externals where
  /-- `Sha256::digest`. -/
  sha256 : List UInt8 → Digest
  /-- `Path::is_absolute`. -/
  isAbsolute : String → Bool
  /-- `==` on `Path`, which compares components. -/
  samePath : String → String → Bool
  /-- `Url::parse(raw).ok()`. -/
  parseUrl : String → Option ParsedUrl
  /-- `rmp_serde::to_vec_named(request).unwrap_or_default()`. -/
  packRequest : BrowserRequest → List UInt8
  /-- `serde_json::from_str::<SpecialistResult>(body).ok()`, with the validation of its
      `Deserialize` instance. -/
  parseSpecialistResult : String → Option SpecialistResult

@[reducible] def sampleExternals : Externals where
  sha256 _ := Vector.replicate 32 0
  isAbsolute path := path.toList.head? = some '/'
  samePath a b := a = b
  parseUrl _ := none
  packRequest _ := []
  parseSpecialistResult _ := none

/-- `s.as_bytes()`. -/
def asBytes (s : String) : List UInt8 := s.toUTF8.toList

/-- `n.to_le_bytes()` of a `u64`. -/
def toLeBytes (n : ℕ) : List UInt8 := (List.range 8).map fun i => UInt8.ofNat (n / 256 ^ i)

/-- One digit of `{:x}`. -/
def hexDigit (n : ℕ) : Char := if n < 10 then Char.ofNat (0x30 + n) else Char.ofNat (0x57 + n)

/-- `format!("{byte:02x}")` over all bytes of a digest. -/
def hexOfDigest (digest : Digest) : String :=
  String.ofList (digest.toList.flatMap fun b => [hexDigit (b.toNat / 16), hexDigit (b.toNat % 16)])

end DevManager
