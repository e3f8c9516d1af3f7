import Portcullis.Audit.Entry
import Portcullis.Digest.Sha256
import Portcullis.Json.Writer
/-! The hash chain.

An event carries an entry, its place in the trail and two hashes: that of the event
before it and its own, taken over the trail, the place, the hash before and the entry's
compact text. A chain is intact when every event names the hash before it and carries
the hash of what it holds; changing an event in any field breaks the chain there or at
the next event. The digest is a parameter throughout, SHA-256 in use. -/
namespace Portcullis.Audit

/-- A digest of bytes, as text. -/
abbrev Digest := List UInt8 → String

/-- The digest in use. -/
def sha256 : Digest := Digest.Sha256.hexDigest

/-- One link of the chain. -/
structure Event where
  /-- The place in the chain, counted from zero. -/
  sequence : UInt64
  trailId : String
  entry : Entry
  /-- The hash of the event before, or the genesis hash. -/
  prevHash : String
  thisHash : String
  deriving DecidableEq, Repr

/-- The hash before the first event. -/
def genesisHash : String := String.ofList (List.replicate 64 '0')

/-- The bytes of a text in UTF-8. -/
def utf8 (s : String) : List UInt8 := s.toUTF8.data.toList

/-- The bytes of a number, least significant first. -/
def littleEndian (count n : Nat) : List UInt8 :=
  match count with
  | 0 => []
  | count + 1 => UInt8.ofNat (n % 256) :: littleEndian count (n / 256)

/-- The bytes a hash is taken over. -/
def hashInput (trailId : String) (sequence : UInt64) (entry : Entry) (prevHash : String) :
    List UInt8 :=
  utf8 trailId ++ littleEndian 8 sequence.toNat ++ utf8 prevHash ++ utf8 entry.toJson.compact

/-- The hash of an event with these fields. -/
def hashEvent (H : Digest) (trailId : String) (sequence : UInt64) (entry : Entry)
    (prevHash : String) : String :=
  H (hashInput trailId sequence entry prevHash)

/-- The hash an event should carry. -/
def Event.hash (H : Digest) (e : Event) : String :=
  hashEvent H e.trailId e.sequence e.entry e.prevHash

/-- Whether events go on a chain whose last hash is `before`. -/
def verifyFrom (H : Digest) (before : String) : List Event → Bool
  | [] => true
  | e :: rest => e.prevHash = before && e.hash H = e.thisHash && verifyFrom H e.thisHash rest

/-- Whether events form a chain of their own. -/
def verify (H : Digest) (events : List Event) : Bool := verifyFrom H genesisHash events

theorem length_littleEndian (count n : Nat) : (littleEndian count n).length = count := by
  induction count generalizing n with
  | zero => rfl
  | succ count ih => simp [littleEndian, ih]

end Portcullis.Audit
