import Mathlib.Data.List.AList
import Panurus.Evm.EndorsementVerifier
import Panurus.Evm.Translator

namespace Panurus.Evm

open List Lib Outcome Text FixedWidth EndorsementVerifier

def Address.hex (a : Address) : Bytes := ascii "0x" ++ Text.hex (bigEndian 20 a.toNat)

-- Keccak-256, and the recovery of a public key (in its uncompressed form, 65 octets) from a compact signature of a digest.
structure Libraries where
  keccak256 : Hash
  recoverCompact : Bytes → Bytes32 → Outcome Bytes

def pubKeyToAddress (lib : Libraries) (uncompressed : Bytes) : Address := (lib.keccak256 (uncompressed.drop 1)).setWidth 160

-- Texts of 32 octets compare as the numbers they write.
def checkSignatureFormat (sig : Bytes) : Outcome Unit := do
  ensure (sig.length = signatureLength) s!"invalid signature length: expected {signatureLength} bytes, got {sig.length}"
  ensure (signatureV sig = 27 ∨ signatureV sig = 28) s!"invalid signature v: expected 27 or 28, got {signatureV sig}"
  ensure ((signatureS sig).toNat ≤ secp256k1NHalf) "invalid signature: s is in the upper half of the group order (malleable)"

def recoverAddress (lib : Libraries) (digest : Bytes32) (sig : Bytes) : Outcome Address := do
  checkSignatureFormat sig
  let compact := signatureV sig :: sig.take 64
  let pub ← wrap "failed to recover public key" (lib.recoverCompact compact digest)
  return pubKeyToAddress lib pub

structure IdentityTexts where
  text : Bytes → String
  uniqueID : Bytes → String

structure Endorser where
  identity : Bytes
  address : Address

structure Registry where
  byAddress : Address → Option Bytes
  endorsers : List Endorser

namespace Registry

structure Draft where
  byAddress : Address → Option Bytes
  seenIdentity : List String

def add (texts : IdentityTexts) (i : Nat) (draft : Draft) (e : Endorser) : Outcome Draft := do
  ensure (e.identity ≠ []) s!"endorsement registry: endorser {i} has no fsc identity"
  ensure (e.address ≠ 0) s!"endorsement registry: endorser {i} [{texts.text e.identity}] has the zero address"
  ensure (draft.byAddress e.address = none) s!"endorsement registry: duplicate endorser address {render e.address.hex}"
  ensure (texts.uniqueID e.identity ∉ draft.seenIdentity)
    s!"endorsement registry: duplicate endorser identity {texts.text e.identity}"
  return { byAddress := Function.update draft.byAddress e.address (some e.identity)
           seenIdentity := draft.seenIdentity ++ [texts.uniqueID e.identity] }

def new (texts : IdentityTexts) (endorsers : List Endorser) : Outcome Registry := do
  ensure (endorsers ≠ []) "endorsement registry: no endorsers configured"
  let draft ← foldEach (add texts) 0 { byAddress := fun _ => none, seenIdentity := [] } endorsers
  return { byAddress := draft.byAddress, endorsers }

def isEndorser (r : Registry) (address : Address) : Bool := (r.byAddress address).isSome

def identities (r : Registry) : List Bytes := r.endorsers.map Endorser.identity

def addresses (r : Registry) : List Address := r.endorsers.map Endorser.address

end Registry

inductive Sentinel where
  | insufficientEndorsements
  | unknownSigner
  | duplicateSigner
  | deltaMismatch
  | divergentDeltas
deriving DecidableEq, Repr

def Sentinel.text : Sentinel → String
  | .insufficientEndorsements => "insufficient endorsements"
  | .unknownSigner => "signature recovered to an unknown signer"
  | .duplicateSigner => "duplicate endorser signature"
  | .deltaMismatch => "state delta does not match the request"
  | .divergentDeltas => "endorsers disagree on the state delta"

structure Err where
  sentinel : Option Sentinel
  text : String
deriving DecidableEq, Repr

def Sentinel.err (sentinel : Sentinel) : Err := { sentinel, text := sentinel.text }

def Sentinel.wrapf (sentinel : Sentinel) (text : String) : Err := { sentinel, text := text ++ ": " ++ sentinel.text }

open Sentinel

-- The kind is a text of the message: one that is neither of the two is possible.
inductive RequestKind where
  | approval
  | setup
  | unknown (text : Bytes)
deriving DecidableEq, Repr

structure EndorseRequest where
  kind : RequestKind
  publicParamsRaw : Bytes
  anchor : Bytes

structure EndorseResponse where
  delta : Option StateDelta
  signature : Bytes
  err : String

def EndorseResponse.error (r : EndorseResponse) : Outcome Unit := do
  ensure (r.err = "") r.err
  ensure (r.signature ≠ []) "endorse response: neither signature nor error present"
  ensure r.delta.isSome "endorse response: signature without a state delta"

structure Result where
  anchor : Bytes
  delta : StateDelta
  endorsements : List Bytes

structure Agreement where
  delta : StateDelta
  signatures : List Bytes
  signers : List Bytes

structure Initiator where
  registry : Registry
  threshold : Int
  domain : Eip712.Domain
  request : EndorseRequest

structure Decline where
  reason : String
  cause : Option Err

structure Vote where
  digest : Bytes32
  delta : StateDelta
  signer : Bytes
  signature : Bytes

structure Collection where
  agreed : AList fun _ : Bytes32 => Agreement
  declined : List String
  causes : List Err

inductive CollectError where
  | invalidAnchor (text : String)
  | interrupted (text : String)
  | noQuorum (joined : List Err) (text : String)

def maxReportedDeclines : Nat := 5

def because (declined : List String) : String :=
  if declined = [] then "" else
    let more := if declined.length > maxReportedDeclines then s!", and {declined.length - maxReportedDeclines} more" else ""
    " (" ++ "; ".intercalate (declined.take maxReportedDeclines) ++ more ++ ")"

def noQuorum (state : Collection) (threshold : Int) : CollectError :=
  let best := state.agreed.entries.foldl (fun best entry => max best entry.2.signatures.length) 0
  let distinct := state.agreed.entries.length
  if distinct > 1 then
    .noQuorum (insufficientEndorsements.err :: divergentDeltas.err :: state.causes)
      (s!"endorsers signed {distinct} distinct deltas, the largest agreement had {best} of {threshold} required" ++
        because state.declined)
  else
    .noQuorum (insufficientEndorsements.err :: state.causes)
      (s!"collected {best} of {threshold} required" ++ because state.declined)

namespace Initiator

variable (lib : Libraries) (texts : IdentityTexts)

def bind (i : Initiator) (anchor : Bytes32) (delta : StateDelta) : Except Err Unit := do
  ensure (delta.anchor = anchor) (deltaMismatch.wrapf
    s!"delta anchor [{render (Text.hex (bytes32 delta.anchor))}] is not the request anchor [{render (Text.hex (bytes32 anchor))}]")
  delta.validate.mapError fun cause => deltaMismatch.wrapf s!"malformed delta: {cause}"
  if i.request.kind = .setup then do
    ensure (delta.isSetup = true) (deltaMismatch.wrapf "setup request answered with a non-setup delta")
    ensure (delta.setupParameters = i.request.publicParamsRaw)
      (deltaMismatch.wrapf "delta setup parameters differ from the requested ones")
  else ensure (delta.isSetup = false) (deltaMismatch.wrapf "non-setup request answered with a setup delta")

def verify (i : Initiator) (digest : Bytes32) (sig : Bytes) : Except Err Bytes := do
  let address ← (recoverAddress lib digest sig).mapError fun cause =>
    { sentinel := none, text := "failed to recover signer: " ++ cause }
  ensure (i.registry.isEndorser address = true) (unknownSigner.wrapf s!"address [{render address.hex}]")
  return address.hex

-- A reply without an error has a delta, so that the third step does not fail.
def examine (i : Initiator) (anchor : Bytes32) (reply : Outcome EndorseResponse) : Except Decline Vote := do
  let resp ← reply.mapError fun err => { reason := " did not respond: " ++ err, cause := none }
  resp.error.mapError fun err => { reason := " declined: " ++ err, cause := none }
  let delta ← required resp.delta { reason := "panic: nil pointer dereference", cause := none }
  (i.bind anchor delta).mapError fun err => { reason := " returned an unusable delta: " ++ err.text, cause := some err }
  let digest := Eip712.digest lib.keccak256 i.domain delta
  let signer ← (i.verify lib digest resp.signature).mapError fun err =>
    { reason := " returned an unusable signature: " ++ err.text, cause := some err }
  return { digest, delta, signer, signature := resp.signature }

def count (i : Initiator) (state : Collection) (party : Bytes) (vote : Vote) : Result ⊕ Collection :=
  let quorum := (state.agreed.lookup vote.digest).getD { delta := vote.delta, signatures := [], signers := [] }
  if vote.signer ∈ quorum.signers then
    .inr { state with
      declined := state.declined ++ [texts.text party ++ " signed as already-counted endorser " ++ render vote.signer]
      causes := state.causes ++ [duplicateSigner.wrapf s!"signer [{render vote.signer}]"] }
  else
    let quorum := { quorum with signatures := quorum.signatures ++ [vote.signature], signers := quorum.signers ++ [vote.signer] }
    if i.threshold ≤ quorum.signatures.length then
      .inl { anchor := i.request.anchor, delta := quorum.delta, endorsements := quorum.signatures }
    else .inr { state with agreed := state.agreed.insert vote.digest quorum }

def weigh (i : Initiator) (anchor : Bytes32) (state : Collection) (party : Bytes) (reply : Outcome EndorseResponse) :
    Result ⊕ Collection :=
  match i.examine lib anchor reply with
  | .ok vote => i.count texts state party vote
  | .error decline =>
    .inr { state with
      declined := state.declined ++ [texts.text party ++ decline.reason]
      causes := state.causes ++ decline.cause.toList }

-- The context may be done at any turn, and an endorser may answer anything.
variable (done : Nat → Option String) (endorse : Nat → Bytes → Outcome EndorseResponse)

def collectFrom (i : Initiator) (anchor : Bytes32) : Nat → Collection → List Bytes → Except CollectError Result
  | _, state, [] => .error (noQuorum state i.threshold)
  | turn, state, party :: parties =>
    match done turn with
    | some cause => .error (.interrupted ("endorsement collection interrupted: " ++ cause))
    | none =>
      match i.weigh lib texts anchor state party (endorse turn party) with
      | .inl result => .ok result
      | .inr next => collectFrom i anchor (turn + 1) next parties

def collect (i : Initiator) : Except CollectError Result := do
  let anchor ← (wrap s!"invalid anchor [{render i.request.anchor}]" (anchorFromTxID i.request.anchor)).mapError
    CollectError.invalidAnchor
  i.collectFrom lib texts done endorse anchor 0 { agreed := ∅, declined := [], causes := [] }
    i.registry.identities

end Initiator

structure Service (V : Type) where
  registry : Registry
  threshold : Int
  domain : Eip712.Domain
  viewManager : V

def Service.new {V : Type} (registry : Option Registry) (threshold : Int) (domain : Eip712.Domain) (viewManager : Option V) :
    Outcome (Service V) := do
  let registry ← required registry "endorsement service: nil registry"
  ensure (¬ (threshold < 1 ∨ threshold > registry.endorsers.length))
    s!"endorsement service: threshold {threshold} out of range [1,{registry.endorsers.length}]"
  let viewManager ← required viewManager "endorsement service: nil view manager"
  return { registry, threshold, domain, viewManager }

def Service.initiator {V : Type} (s : Service V) (request : EndorseRequest) : Initiator :=
  { registry := s.registry, threshold := s.threshold, domain := s.domain, request }

end Panurus.Evm
