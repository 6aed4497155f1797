import EmbeddingIndex.Snapshot.Payload
import EmbeddingIndex.Digest.Blake3
/-!
The frame around a snapshot's payload: a mark, the payload's digest, the payload.
-/

namespace EmbeddingIndex

namespace Frame

def mark : Bytes := [0x42, 0x49, 0x58, 0x31]

def digestSize : Nat := 32

def wrap (digest : Digest) (payload : Bytes) : Bytes := mark ++ digest.run payload ++ payload

def unwrap (digest : Digest) (bytes : Bytes) : Except SnapshotFault Bytes :=
  if bytes.length < mark.length + digestSize || bytes.take mark.length ≠ mark then .error .foreign
  else
    let rest := bytes.drop mark.length
    let payload := rest.drop digestSize
    if digest.run payload = rest.take digestSize then .ok payload else .error .checksum

end Frame

namespace Snapshot

def encode (digest : Digest) (s : Snapshot) : Bytes := Frame.wrap digest (Payload.encode s)

/-- Bytes behind a whole payload are of no account. -/
def decode (digest : Digest) (bytes : Bytes) : Except Halt Snapshot :=
  match Frame.unwrap digest bytes with
  | .error cause => .error (.fault (.snapshot cause))
  | .ok payload =>
    match Payload.read payload with
    | .error halt => .error halt
    | .ok (s, _) =>
      if s.version = currentVersion then .ok s
      else .error (.fault (.snapshot (.unsupported s.version.toNat)))

end Snapshot

end EmbeddingIndex
