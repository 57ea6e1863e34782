import SignedToken.Hash.Sha2

/-!
# Keyed digests

A keyed digest hashes the message between two pads that hold the key.  A key longer than a block is
replaced by its digest, and a shorter one is filled up with zeros.
-/

namespace SignedToken.Hmac

/-- The key as long as a block. -/
def blockKey (digest : Digest) (key : Bytes) : Bytes :=
  let short := if key.length > digest.blockSize then digest.hash key else key
  short ++ List.replicate (digest.blockSize - short.length) 0

def pad (byte : Byte) (key : Bytes) : Bytes := key.map (· ^^^ byte)

def mac (digest : Digest) (key message : Bytes) : Bytes :=
  let key := blockKey digest key
  digest.hash (pad 0x5c key ++ digest.hash (pad 0x36 key ++ message))

end SignedToken.Hmac
