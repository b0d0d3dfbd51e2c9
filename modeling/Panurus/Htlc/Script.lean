import Panurus.Lib.Json
import Panurus.Core.Backend
import Panurus.Htlc.ClaimMessage
import Panurus.Identity.Envelopes

namespace Panurus.Htlc

open Lib Outcome Text Core Identity

-- Numbers of hash functions are those of Go's crypto package, numbers of encodings those of the encoding package.
structure HashInfo where
  hash : Bytes
  hashFunc : Nat
  hashEncoding : Nat
deriving DecidableEq, Repr

structure Script where
  sender : Identity
  recipient : Identity
  deadline : Int
  hashInfo : HashInfo
deriving DecidableEq, Repr

structure ClaimSignature where
  recipientSignature : Bytes
  preimage : Bytes
deriving DecidableEq, Repr

-- What a JSON decoder makes of the first value of an input: the value, whether a field was unknown, and what follows.
structure Decoded (α : Type) where
  value : α
  unknownField : Bool
  rest : Bytes

-- The hash functions linked into the binary, the JSON decoder, and how byte strings are printed by their hash.
structure Libraries where
  hashable : Bytes → String
  hash : Nat → Option (Bytes → Bytes)
  decodeScript : Bytes → Outcome (Decoded Script)
  decodeClaim : Bytes → Outcome (Decoded ClaimSignature)

def blank (octet : UInt8) : Bool := octet = 0x20 ∨ octet = 0x09 ∨ octet = 0x0A ∨ octet = 0x0D

-- Unmarshal of the standard library: one value, nothing but blanks after it; unknown fields are skipped.
def unmarshal {α : Type} (decode : Bytes → Outcome (Decoded α)) (raw : Bytes) : Outcome α := do
  let decoded ← decode raw
  ensure (decoded.rest.all blank) "invalid character after top-level value"
  return decoded.value

-- Unmarshal of the repository's package: unknown fields are refused; what follows the value is not looked at.
def unmarshalStrict {α : Type} (decode : Bytes → Outcome (Decoded α)) (raw : Bytes) : Outcome α := do
  let decoded ← decode raw
  ensure (decoded.unknownField = false) "json: unknown field"
  return decoded.value

theorem unmarshal_agree {α : Type} {decode : Bytes → Outcome (Decoded α)} {raw : Bytes} {value other : α}
    (lax : unmarshal decode raw = .ok value) (strict : unmarshalStrict decode raw = .ok other) : value = other := by
  simp only [unmarshal, unmarshalStrict, ok_iff, exists_const] at lax strict
  obtain ⟨decoded, found, _, rfl⟩ := lax
  obtain ⟨decoded', found', _, rfl⟩ := strict
  rw [found, Except.ok.injEq] at found'
  rw [found']

def encodings : Nat → Option (Bytes → Bytes)
  | 0 => some fun octets => octets
  | 1 => some Base64.encode
  | 2 => some hex
  | _ => none

def HashInfo.validate (lib : Libraries) (i : HashInfo) : Outcome ((Bytes → Bytes) × (Bytes → Bytes)) := do
  let hash ← required (lib.hash i.hashFunc) "hash function not available"
  let encoding ← required (encodings i.hashEncoding) "encoding function not available"
  return (hash, encoding)

def HashInfo.image (lib : Libraries) (i : HashInfo) (preImage : Bytes) : Outcome Bytes := do
  let (hash, encoding) ← wrap "hash info not valid" (i.validate lib)
  return encoding (hash preImage)

def Script.validate (lib : Libraries) (s : Script) (timeReference : Int) : Outcome Unit := do
  ensure (s.sender ≠ []) "sender not set"
  ensure (s.recipient ≠ []) "recipient not set"
  ensure (¬ s.deadline < timeReference) "expiration date has already passed"
  let _ ← s.hashInfo.validate lib

def claimPreImage : Bytes := ascii "htlc.cpi"
def lockHash : Bytes := ascii "htlc.lh"

def claimKey (v : Bytes) : Bytes := claimPreImage ++ hex v
def lockKey (v : Bytes) : Bytes := lockHash ++ hex v
def lockValue (v : Bytes) : Bytes := hex v

-- The recipient's and the sender's verifiers are never nil: the deserializer fails instead.
structure Verifier where
  recipient : Core.Verifier
  sender : Core.Verifier
  deadline : Int
  hashInfo : HashInfo

def claimVerify (lib : Libraries) (recipient : Core.Verifier) (hashInfo : HashInfo) (readings : Readings)
    (tokenRequestAndTxID claimSignature : Bytes) : Outcome Unit := do
  let sig ← wrap "failed to unmarshal claim signature" (unmarshal lib.decodeClaim claimSignature)
  let msg := concatTokenRequestTxIDPreimage tokenRequestAndTxID sig.preimage
  wrap "failed to verify recipient signature" (recipient readings msg sig.recipientSignature)
  let image ← wrap "failed to compute hash image of the claim preimage" (hashInfo.image lib sig.preimage)
  ensure (hashInfo.hash = image)
    s!"hash mismatch: SHA({render (hex sig.preimage)}) = {render (hex image)} != {render (hex hashInfo.hash)}"

-- The first look at the clock decides; the verifiers inside look at it later.
def Verifier.verify (lib : Libraries) (v : Verifier) : Core.Verifier := fun readings msg sigma =>
  let later : Readings := fun look => readings (look + 1)
  if readings 0 < v.deadline then
    wrap "failed verifying htlc claim signature" (claimVerify lib v.recipient v.hashInfo later msg sigma)
  else wrap "deadline elapsed, failed verifying htlc reclaim signature" (v.sender later msg sigma)

inductive OperationType where
  | claim
  | reclaim
deriving DecidableEq, Repr

def verifyOwner (lib : Libraries) (senderRawOwner outRawOwner : Bytes) (now : Int) : Outcome (Script × OperationType) := do
  ensure (outRawOwner ≠ []) "the output owner must be set"
  let sender ← unmarshalTypedIdentity senderRawOwner
  ensure (sender.type = htlcScriptIdentityType)
    s!"invalid identity type, expected [{htlcScriptIdentityType}], got [{sender.type}]"
  let script ← unmarshalStrict lib.decodeScript sender.identity
  if now < script.deadline then do
    ensure (script.recipient = outRawOwner) "owner of output token does not correspond to recipient in htlc request"
    return (script, .claim)
  else do
    ensure (script.sender = outRawOwner) "owner of output token does not correspond to sender in htlc request"
    return (script, .reclaim)

theorem verify_owner_ok {lib : Libraries} {senderRawOwner outRawOwner : Bytes} {now : Int} {script : Script} {op : OperationType}
    {si : TypedIdentity} (typed : unmarshalTypedIdentity senderRawOwner = .ok si)
    (done : verifyOwner lib senderRawOwner outRawOwner now = .ok (script, op)) :
    unmarshalStrict lib.decodeScript si.identity = .ok script ∧
    ((op = .claim ∧ now < script.deadline ∧ script.recipient = outRawOwner) ∨
      (op = .reclaim ∧ script.deadline ≤ now ∧ script.sender = outRawOwner)) := by
  simp only [verifyOwner, ok_iff, exists_const] at done
  obtain ⟨_, si', typed', _, script', read, rest⟩ := done
  obtain rfl : si = si' := Except.ok.inj (typed.symm.trans typed')
  by_cases early : now < script'.deadline
  · simp only [if_pos early, ok_iff, Prod.mk.injEq, exists_const] at rest
    obtain ⟨owned, rfl, rfl⟩ := rest
    exact ⟨read, .inl ⟨rfl, early, owned⟩⟩
  · simp only [if_neg early, ok_iff, Prod.mk.injEq, exists_const] at rest
    obtain ⟨owned, rfl, rfl⟩ := rest
    exact ⟨read, .inr ⟨rfl, by omega, owned⟩⟩

def metadataClaimKeyCheck (lib : Libraries) (metadata : Entries) (script : Script) (op : OperationType)
    (sig : Bytes) : Outcome Bytes :=
  if op = .reclaim then .ok [] else do
    let claim ← wrap s!"failed unmarshalling claim signature [{lib.hashable sig}]" (unmarshalStrict lib.decodeClaim sig)
    ensure (¬ (claim.preimage = [] ∨ claim.recipientSignature = [])) "expected a valid claim preImage and recipient signature"
    ensure (metadata ≠ []) "cannot find htlc pre-image, no metadata"
    let image ← wrap s!"failed to compute image of [{render (hex claim.preimage)}]" (script.hashInfo.image lib claim.preimage)
    let key := claimKey image
    let value ← required (metadata.lookup key) "cannot find htlc pre-image, missing metadata entry"
    ensure (value = claim.preimage)
      s!"invalid action, cannot match htlc pre-image with metadata [{render (hex value)}]!=[{render (hex claim.preimage)}]"
    return key

def metadataLockKeyCheck (metadata : Entries) (script : Script) : Outcome Bytes := do
  ensure (metadata ≠ []) "cannot find htlc lock, no metadata"
  let key := lockKey script.hashInfo.hash
  let value ← required (metadata.lookup key) "cannot find htlc lock, missing metadata entry"
  ensure (value = lockValue script.hashInfo.hash)
    s!"invalid action, cannot match htlc lock with metadata [{render (hex value)}]!=[{render (hex script.hashInfo.hash)}]"
  return key

-- Both drivers check the owner of an output like this, each with its own reader of scripts.
def lockOutput {P T A : Type} (lib : Libraries) (read : Bytes → Outcome Script) (metadata : Entries) (ctx : Context P T A)
    (owner : Bytes) : Outcome (Context P T A) := do
  let owner ← unmarshalTypedIdentity owner
  if owner.type = htlcScriptIdentityType then do
    let script ← read owner.identity
    wrap "htlc script invalid" (script.validate lib ctx.now)
    let metadataKey ← wrap "failed to check htlc metadata" (metadataLockKeyCheck metadata script)
    return ctx.countMetadataKey metadataKey
  else return ctx

open Lib.Json

-- How the standard library fills one field from the values that are given for it, one after the other: a byte slice,
-- an unsigned number, an instant. A field that no value is given for has its zero value.
structure Conversions where
  bytes : List Value → Outcome Bytes
  number : List Value → Outcome Nat
  instant : List Value → Outcome Int

def scriptFields : List Bytes := [ascii "Sender", ascii "Recipient", ascii "Deadline", ascii "HashInfo"]

def hashInfoFields : List Bytes := [ascii "Hash", ascii "HashFunc", ascii "HashEncoding"]

def decodeValue (c : Conversions) (disallowUnknownFields : Bool) (value : Value) : Outcome Script := do
  let script ← storeRecord disallowUnknownFields scriptFields [value]
  let hashInfo ← storeRecord disallowUnknownFields hashInfoFields (valuesFor script (ascii "HashInfo"))
  let sender ← c.bytes (valuesFor script (ascii "Sender"))
  let recipient ← c.bytes (valuesFor script (ascii "Recipient"))
  let deadline ← c.instant (valuesFor script (ascii "Deadline"))
  let hash ← c.bytes (valuesFor hashInfo (ascii "Hash"))
  let hashFunc ← c.number (valuesFor hashInfo (ascii "HashFunc"))
  let hashEncoding ← c.number (valuesFor hashInfo (ascii "HashEncoding"))
  return { sender, recipient, deadline, hashInfo := { hash, hashFunc, hashEncoding } }

-- Unmarshal of the standard library: the whole input is scanned first, and is one value.
def Script.fromBytes (c : Conversions) (raw : Bytes) : Outcome Script := do
  let value ← Scanner.start.checkValid raw
  decodeValue c false value

-- Unmarshal of the repository's package: a decoder reads the first value of a stream and knows every field of it.
def Script.fromBytesStrict (c : Conversions) (raw : Bytes) : Outcome Script := do
  let (value, _) ← Scanner.start.readValue raw
  decodeValue c true value

def unknownField (value : Value) : Bool :=
  namesUnknown scriptFields value ||
    (match storeRecord false scriptFields [value] with
      | .ok script => (valuesFor script (ascii "HashInfo")).any (namesUnknown hashInfoFields)
      | .error _ => false)

def decodeScript (c : Conversions) (raw : Bytes) : Outcome (Decoded Script) := do
  let (value, rest) ← Scanner.start.readValue raw
  let script ← decodeValue c false value
  return { value := script, unknownField := unknownField value, rest }

variable {c : Conversions} {script : Script} {raw : Bytes}

theorem decode_value_strict {value : Value} :
    decodeValue c true value = .ok script ↔ decodeValue c false value = .ok script ∧ unknownField value = false := by
  simp only [decodeValue, ok_iff, store_record_strict, List.any_cons, List.any_nil, Bool.or_false]
  constructor
  · intro strict
    obtain ⟨stored, ⟨read, known⟩, inner, ⟨readInner, knownInner⟩, rest⟩ := strict
    refine ⟨⟨stored, read, inner, readInner, rest⟩, ?_⟩
    rw [unknownField, known, read]
    exact knownInner
  · intro lax
    obtain ⟨⟨stored, read, inner, readInner, rest⟩, known⟩ := lax
    rw [unknownField, read, Bool.or_eq_false_iff] at known
    exact ⟨stored, ⟨read, known.1⟩, inner, ⟨readInner, known.2⟩, rest⟩

open Script

theorem unmarshal_from_bytes : unmarshal (decodeScript c) raw = .ok script ↔ fromBytes c raw = .ok script := by
  simp only [unmarshal, decodeScript, fromBytes, ok_iff, exists_const, Scanner.check_valid_iff, Prod.exists]
  constructor
  · intro read
    obtain ⟨decoded, ⟨value, rest, first, found, decodes, rfl⟩, blanks, rfl⟩ := read
    exact ⟨value, ⟨rest, first, blanks⟩, decodes⟩
  · intro read
    obtain ⟨value, ⟨rest, first, blanks⟩, decodes⟩ := read
    exact ⟨_, ⟨value, rest, first, script, decodes, rfl⟩, blanks, rfl⟩

theorem unmarshal_strict_from_bytes : unmarshalStrict (decodeScript c) raw = .ok script ↔ fromBytesStrict c raw = .ok script := by
  simp only [unmarshalStrict, decodeScript, fromBytesStrict, ok_iff, exists_const, Prod.exists, decode_value_strict]
  constructor
  · intro read
    obtain ⟨decoded, ⟨value, rest, first, found, decodes, rfl⟩, known, rfl⟩ := read
    exact ⟨value, rest, first, decodes, known⟩
  · intro read
    obtain ⟨value, rest, first, decodes, known⟩ := read
    exact ⟨_, ⟨value, rest, first, script, decodes, rfl⟩, known, rfl⟩

theorem from_bytes_strict_iff (read : fromBytes c raw = .ok script) :
    ∃ value rest, Scanner.start.readValue raw = .ok (value, rest) ∧
      (∀ other, fromBytesStrict c raw = .ok other ↔ other = script ∧ unknownField value = false) := by
  simp only [fromBytes, bind_ok_iff, Scanner.check_valid_iff] at read
  obtain ⟨value, ⟨rest, first, -⟩, decodes⟩ := read
  refine ⟨value, rest, first, fun other => ?_⟩
  simp only [fromBytesStrict, first, bind_ok_iff, Except.ok.injEq, exists_eq_left', decode_value_strict, decodes]
  exact ⟨fun ⟨same, known⟩ => ⟨same.symm, known⟩, fun ⟨same, known⟩ => ⟨same.symm, known⟩⟩

end Panurus.Htlc
