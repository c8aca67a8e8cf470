import DigitalSolutions.Persistence.Stores

namespace DigitalSolutions
namespace Platform

/-!
# What the process is configured with

The configuration values that the modelled code reads, and the cryptographic
and collation primitives of the platform.  The primitives are parameters: a
result that needs more than their type says so in its hypotheses.
-/

structure Environment where
  /-- `PAYMENT_PROVIDER`, the name under which the host talks to its provider. -/
  paymentProvider : String
  /-- `PAYMONGO_LIVEMODE === "true"`. -/
  livemode : Bool
  /-- `CLAIM_CODE_ENCRYPTION_KEY`. -/
  claimCodeEncryptionKey : Option String
  /-- `LICENSE_PEPPER`. -/
  licensePepper : String
  localeCompare : String -> String -> Int
  hmacSha256 : String -> String -> String
  /-- AES-GCM under a key derived from the secret, with the drawn nonce. -/
  sealText : String -> String -> String -> String
  openText : String -> String -> Option String
  hashLicenseKey : String -> String
  encryptLicenseKey : String -> String

end Platform
end DigitalSolutions
