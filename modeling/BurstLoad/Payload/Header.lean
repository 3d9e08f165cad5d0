import BurstLoad.Bytes
import BurstLoad.Settings.Failure

/-!
The layout of a transaction: a tag, a discriminator, and zeros up to its size. Both words are
written modulo `2^32`.
-/

set_option autoImplicit false

namespace BurstLoad.Payload

/-- The bytes that the tag and the discriminator fill. -/
def headerSize : Nat := 8

def fillerTag : Nat := 4294967295

/-- One more than the greatest tag of a sample; it keeps sample tags apart from `fillerTag`. -/
def sampleTagCount : Nat := 16777216

/-- An integer modulo `2^32`. -/
def word (n : Int) : Nat :=
  (n.emod Bytes.wordCount).toNat

/-- The transaction of a size of at least eight bytes. -/
def build (tag discriminator : Int) (size : Nat) : Bytes :=
  Bytes.ofWord (word tag) ++ Bytes.ofWord (word discriminator) ++
    List.replicate (size - headerSize) 0

/-- The transaction of any size; one too small for its header is refused. -/
def build? (tag discriminator size : Int) : Except Settings.Rejection Bytes :=
  if size < headerSize then .error .sizeTooSmall else .ok (build tag discriminator size.toNat)

/-- The tag and the discriminator of a transaction that has them. -/
def header? (s : Bytes) : Option (Nat × Nat) := do
  let (tag, rest) ← Bytes.takeWord? s
  let (discriminator, _) ← Bytes.takeWord? rest
  pure (tag, discriminator)

/-- The message for a transaction that is too short for a header. -/
def noHeaderMessage (length : Nat) : String :=
  "payload of " ++ toString length ++ " bytes has no header"

/-- The number by which a sent and a received sample are paired. -/
def sampleId (tag runId : Int) : Int :=
  tag * Bytes.wordCount + runId

end BurstLoad.Payload
