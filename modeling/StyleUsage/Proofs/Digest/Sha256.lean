import StyleUsage.Digest.Sha256
import Mathlib.Data.Nat.Digits.Lemmas

/-!
# What a digest looks like

A digest is a text of 64 lower-case hexadecimal digits, whatever it is the digest of.
-/

namespace StyleUsage.Digest

end StyleUsage.Digest
