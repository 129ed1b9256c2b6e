import OrgAccess.Hash.Sha256

/-! The keyed hash HMAC of RFC 2104 over SHA-256. -/

namespace OrgAccess.Hmac

/-- A key as long as a block: longer keys are hashed, shorter ones filled up with zeros. -/
def blockKey (key : List UInt8) : List UInt8 :=
  let key := if 64 < key.length then Sha256.hash key else key
  key ++ List.replicate (64 - key.length) 0

def masked (mask : UInt8) (key : List UInt8) : List UInt8 := (blockKey key).map (· ^^^ mask)

def sign (key message : List UInt8) : List UInt8 :=
  Sha256.hash (masked 0x5c key ++ Sha256.hash (masked 0x36 key ++ message))

end OrgAccess.Hmac
