import Gatehouse.Crypto.Sha256

/-! Message authentication with SHA-256 under a secret key. -/

namespace Gatehouse.Crypto.Hmac

def blockKey (key : Bytes) : Bytes :=
  let short := if 64 < key.length then Sha256.hash key else key
  short ++ List.replicate (64 - short.length) 0

def sign (key message : Bytes) : Bytes :=
  let block := blockKey key
  Sha256.hash (block.map (· ^^^ 0x5c) ++ Sha256.hash (block.map (· ^^^ 0x36) ++ message))

end Gatehouse.Crypto.Hmac
