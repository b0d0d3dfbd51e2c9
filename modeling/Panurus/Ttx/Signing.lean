import Panurus.Client.Request
import Panurus.Identity.Deserializers
import Panurus.Identity.Unwrap
import Panurus.Lib.Descent

namespace Panurus.Client.Request

open Core

variable (r : Request)

def issueSigners : List Identity := r.issues.flatMap Issue.signers
def transferSigners : List Identity := r.transfers.flatMap Transfer.signers

end Panurus.Client.Request

namespace Panurus.Ttx

open Lib Outcome Text Descent Core Client Identity

structure SignatureRequest where
  tx : Bytes
  signer : Identity
deriving DecidableEq, Repr

structure Message where
  party : Identity
  request : SignatureRequest
deriving DecidableEq, Repr

abbrev Sigmas := String → Option Bytes

abbrev VerifierGetter := Identity → Outcome (Bytes → Bytes → Outcome Unit)

-- What the initiator works with: the bytes to sign and to send, the policy signers it was given, the external wallets
-- and the keys at hand, what a party answers to a message, and in which order the workers of a fan-out happen to send.
structure Initiator where
  uniqueID : Identity → String
  requestRaw : Outcome Bytes
  txRaw : Outcome Bytes
  policySigners : List Identity
  externalWalletSigner : Identity → Option (Bytes → Outcome Bytes)
  getSigner : Identity → Option (Bytes → Outcome Bytes)
  answer : Message → Outcome Bytes
  issuerVerifier : VerifierGetter
  ownerVerifier : VerifierGetter
  schedule : List Identity → List Identity

structure Collected where
  sigmas : Sigmas
  sent : List Message

abbrev Handled := Option (Bytes × List Message)

section Collecting

variable (i : Initiator)

def policyCollectIDs (componentIDs : List Identity) : List Identity :=
  if i.policySigners = [] then componentIDs
  else componentIDs.filter fun id => i.uniqueID id ∈ i.policySigners.map i.uniqueID

def tryMultiSigSignature (requestSignatures : List Identity → Outcome Collected) (signerIdentity : Identity) :
    Outcome Handled := do
  let unwrapped ← wrap s!"failed unwrapping multi-sig identity [{i.uniqueID signerIdentity}]" (Multisig.unwrap signerIdentity)
  match unwrapped with
  | none => return none
  | some multiSigners => do
    let collected ← wrap "failed requesting signatures" (requestSignatures multiSigners)
    let sigma ← wrap "failed joining multi-sig signatures"
      (Multisig.joinSignatures i.uniqueID multiSigners collected.sigmas)
    return some (sigma, collected.sent)

def tryPolicySignature (requestSignatures : List Identity → Outcome Collected) (signerIdentity : Identity) :
    Outcome Handled := do
  let unwrapped ← wrap s!"failed unwrapping policy identity [{i.uniqueID signerIdentity}]" (Boolpolicy.unwrap signerIdentity)
  match unwrapped with
  | none => return none
  | some pi => do
    let collected ← wrap "failed requesting policy signatures" (requestSignatures (policyCollectIDs i pi.2))
    return some (Boolpolicy.joinSignatures i.uniqueID pi.2 collected.sigmas, collected.sent)

def trySigner (kind : String) (signer : Option (Bytes → Outcome Bytes)) (signerIdentity : Identity) (requestRaw : Bytes) :
    Outcome Handled :=
  match signer with
  | none => .ok none
  | some sign => do
    let sigma ← wrap s!"failed signing {kind} for party [{i.uniqueID signerIdentity}]" (sign requestRaw)
    return some (sigma, [])

def tryExternalWalletSignature (signerIdentity : Identity) (requestRaw : Bytes) : Outcome Handled :=
  trySigner i "external" (i.externalWalletSigner signerIdentity) signerIdentity requestRaw

def tryLocalSignature (signerIdentity : Identity) (requestRaw : Bytes) : Outcome Handled :=
  trySigner i "local" (i.getSigner signerIdentity) signerIdentity requestRaw

def orElse (first second : Outcome Handled) : Outcome Handled := do
  let handled ← first
  match handled with
  | some done => return some done
  | none => second

def tryNonRemoteSignature (requestSignatures : List Identity → Outcome Collected) (requestRaw : Bytes)
    (signerIdentity : Identity) : Outcome Handled :=
  orElse (tryMultiSigSignature i requestSignatures signerIdentity)
    (orElse (tryPolicySignature i requestSignatures signerIdentity)
      (orElse (tryExternalWalletSignature i signerIdentity requestRaw) (tryLocalSignature i signerIdentity requestRaw)))

structure Progress where
  sigmas : Sigmas
  remoteSigners : List Identity
  sent : List Message

def Progress.start : Progress := { sigmas := fun _ => none, remoteSigners := [], sent := [] }

def Progress.handled (p : Progress) (uniqueID : String) (sigma : Bytes) (sent : List Message) : Progress :=
  { p with sigmas := Function.update p.sigmas uniqueID (some sigma), sent := p.sent ++ sent }

def Progress.remote (p : Progress) (uniqueID : Identity → String) (signerIdentity : Identity) : Progress :=
  if uniqueID signerIdentity ∈ p.remoteSigners.map uniqueID then p
  else { p with remoteSigners := p.remoteSigners ++ [signerIdentity] }

def collectSigner (requestSignatures : List Identity → Outcome Collected) (requestRaw : Bytes) (p : Progress)
    (signerIdentity : Identity) : Outcome Progress := do
  let handled ← tryNonRemoteSignature i requestSignatures requestRaw signerIdentity
  return match handled with
    | some (sigma, sent) => p.handled (i.uniqueID signerIdentity) sigma sent
    | none => p.remote i.uniqueID signerIdentity

def signatureRequest (txRaw : Bytes) (party : Identity) : Message := { party, request := { tx := txRaw, signer := party } }

def signRemote (verifierGetter : VerifierGetter) (requestRaw txRaw : Bytes) (party : Identity) : Outcome Bytes := do
  let sigma ← wrap "failed reading message" (i.answer (signatureRequest txRaw party))
  let verifier ← wrap s!"failed getting verifier for [{i.uniqueID party}]" (verifierGetter party)
  wrap s!"failed verifying signature [{render sigma}] from [{i.uniqueID party}]" (verifier requestRaw sigma)
  return sigma

def requestSignaturesStep (verifierGetter : VerifierGetter) (requestSignatures : List Identity → Outcome Collected)
    (signers : List Identity) : Outcome Collected := do
  let requestRaw ← i.requestRaw
  let txRaw ← i.txRaw
  let p ← signers.foldlM (collectSigner i requestSignatures requestRaw) .start
  let remoteSigmas ← p.remoteSigners.mapM fun party =>
    wrap s!"failed signing remote for party [{i.uniqueID party}]" (signRemote i verifierGetter requestRaw txRaw party)
  return { sigmas := (p.remoteSigners.zip remoteSigmas).foldl
             (fun sigmas signed => Function.update sigmas (i.uniqueID signed.1) (some signed.2)) p.sigmas
           sent := p.sent ++ (i.schedule p.remoteSigners).map (signatureRequest txRaw) }

def longest (ids : List Identity) : Nat := ids.foldr (fun id most => max id.length most) 0

-- The components of an identity are shorter than it is, so its length bounds how deep the calls are nested.
def requestSignatures (verifierGetter : VerifierGetter) : List Identity → Outcome Collected :=
  descend (.error "panic: stack overflow") (requestSignaturesStep i verifierGetter) longest

def requestSignaturesOnIssues (r : Request) : Outcome Collected := requestSignatures i i.issuerVerifier r.issueSigners
def requestSignaturesOnTransfers (r : Request) : Outcome Collected := requestSignatures i i.ownerVerifier r.transferSigners

def collectSignatures (r : Request) : Outcome (List Message) := do
  let issueSigmas ← wrap "failed requesting signatures on issues" (requestSignaturesOnIssues i r)
  let transferSigmas ← wrap "failed requesting signatures on transfers" (requestSignaturesOnTransfers i r)
  return issueSigmas.sent ++ transferSigmas.sent

end Collecting

structure Endorser where
  uniqueID : Identity → String
  isMe : Identity → Outcome Bool
  getSigner : Identity → Outcome (Bytes → Outcome Bytes)
  tokenRequestToSign : Outcome Bytes

section Endorsing

variable (e : Endorser)

def appendUnwrapped (res : List Identity) (signer : Identity) : Outcome (Bool × List Identity) :=
  match typeOf signer with
  | none => .ok (false, res)
  | some idType =>
    if idType = multiSigIdentityType then do
      let multiSigners ← wrap s!"failed unwrapping multi-sig identity [{e.uniqueID signer}]" (Multisig.unwrap signer)
      return if multiSigners.getD [] = [] then (false, res) else (true, res ++ multiSigners.getD [])
    else if idType = policyIdentityType then do
      let pi ← wrap s!"failed unwrapping policy identity [{e.uniqueID signer}]" (Boolpolicy.unwrap signer)
      let pi ← required pi "panic: nil policy identity"
      return (true, res ++ pi.2)
    else .ok (false, res)

def appendSigner (res : List Identity) (signer : Identity) : Outcome (List Identity) := do
  let (unwrapped, res) ← appendUnwrapped e res signer
  return if unwrapped then res else res ++ [signer]

def appendIfMe (subset : List Identity) (signer : Identity) : Outcome (List Identity) := do
  let mine ← wrap s!"failed checking if signer [{e.uniqueID signer}] is me" (e.isMe signer)
  return if mine then subset ++ [signer] else subset

def extractRequiredSigners (r : Request) : Outcome (List Identity) := do
  let res ← r.issueSigners.foldlM (appendSigner e) []
  let res ← r.transferSigners.foldlM (appendSigner e) res
  res.foldlM (appendIfMe e) []

-- The first request may have come with the transaction; the others are read from the session, where reading fails if
-- there is none in time.
def receiveSignatureRequest (index : Nat) (fromSignatureRequest : Option SignatureRequest) (session : List SignatureRequest) :
    Outcome (SignatureRequest × List SignatureRequest) :=
  match index, fromSignatureRequest, session with
  | 0, some request, session => .ok (request, session)
  | _, _, request :: rest => .ok (request, rest)
  | _, _, [] => .error "failed reading signature request"

def errSignerIdentityMismatch : String := "signer identity mismatch"

def handleSignatureRequestFor (fromSignatureRequest : Option SignatureRequest) (numRequiredSigners : Nat)
    (tokenRequestToSign : Bytes) (index : Nat) (signerIdentity : Identity) (session : List SignatureRequest) :
    Outcome (Bytes × List SignatureRequest) := do
  let (signatureRequest, session) ← receiveSignatureRequest index fromSignatureRequest session
  wrap (s!"signature request's signer does not match the expected signer, [{e.uniqueID signatureRequest.signer}] != " ++
      s!"[{e.uniqueID signerIdentity}], required signatures [{numRequiredSigners}]")
    (ensure (signatureRequest.signer = signerIdentity) errSignerIdentityMismatch)
  let sign ← wrap s!"cannot find signer for [{e.uniqueID signerIdentity}]" (e.getSigner signerIdentity)
  let sigma ← wrap "failed signing request" (sign tokenRequestToSign)
  return (sigma, session)

def handleEach (handle : Nat → Identity → List SignatureRequest → Outcome (Bytes × List SignatureRequest)) :
    Nat → List Identity → List SignatureRequest → Outcome (List Bytes)
  | _, [], _ => .ok []
  | index, signerIdentity :: signers, session => do
    let (sigma, session) ← handle index signerIdentity session
    let sigmas ← handleEach handle (index + 1) signers session
    return sigma :: sigmas

def handleSignatureRequests (fromSignatureRequest : Option SignatureRequest) (r : Request) (session : List SignatureRequest) :
    Outcome (List Bytes) := do
  let requiredSigners ← wrap "failed collecting requests of signature" (extractRequiredSigners e r)
  let tokenRequestToSign ← wrap "failed to marshal token request to sign" e.tokenRequestToSign
  handleEach (handleSignatureRequestFor e fromSignatureRequest requiredSigners.length tokenRequestToSign) 0 requiredSigners session

end Endorsing

end Panurus.Ttx
