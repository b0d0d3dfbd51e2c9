import Panurus.Lib.Base64
import Panurus.Driver.Request

namespace Panurus.Core

open List Lib Outcome

abbrev Identity := Bytes

def errUnconsumedSignatures : String := "unconsumed signatures"
def errNilSignatureVerifier : String := "signature verifier is nil"

abbrev Readings := Nat → Int

-- Where several verifiers are asked, the looks of each are numbered apart from those of the others.
def componentReadings (readings : Readings) (index : Nat) : Readings := fun look => readings (Nat.pair index look)

-- A verifier checks a signature on a message. Some look at the clock, so what it says is an argument.
abbrev Verifier := Readings → Bytes → Bytes → Outcome Unit

-- What turns identities into verifiers; none is a nil verifier. The text is what the identity library prints.
structure Deserializer where
  uniqueID : Identity → String
  getOwnerVerifier : Identity → Outcome (Option Verifier)
  getIssuerVerifier : Identity → Outcome (Option Verifier)
  getAuditorVerifier : Identity → Outcome (Option Verifier)

structure Backend where
  message : Bytes
  cursor : Nat
  sigs : List Bytes
  clock : Nat → Readings

def Backend.new (message : Bytes) (sigs : List Bytes) (clock : Nat → Readings) : Backend :=
  { message, cursor := 0, sigs, clock }

def Backend.hasBeenSignedBy (b : Backend) (verifier : Option Verifier) : Outcome (Bytes × Backend) := do
  let sigma ← required b.sigs[b.cursor]? "invalid state, insufficient number of signatures"
  let verifier ← required verifier errNilSignatureVerifier
  verifier (b.clock b.cursor) b.message sigma
  return (sigma, { b with cursor := b.cursor + 1 })

def Backend.ensureExhausted (b : Backend) : Outcome Unit :=
  ensure (b.cursor = b.sigs.length) s!"consumed [{b.cursor}] of [{b.sigs.length}]: {errUnconsumedSignatures}"

structure Signed (b : Backend) (verifiers : List Verifier) (next : Backend) : Prop where
  message : next.message = b.message
  sigs : next.sigs = b.sigs
  clock : next.clock = b.clock
  cursor : next.cursor = b.cursor + verifiers.length
  verified : ∀ position verifier, verifiers[position]? = some verifier → ∃ sigma,
    b.sigs[b.cursor + position]? = some sigma ∧
      verifier (b.clock (b.cursor + position)) b.message sigma = .ok ()

theorem signed_nil (b : Backend) : Signed b [] b := ⟨rfl, rfl, rfl, rfl, by simp⟩

open Backend

section Signed

variable {b next : Backend} {verifiers rest : List Verifier}

theorem signed_append {middle : Backend} {more : List Verifier} (first : Signed b verifiers middle)
    (second : Signed middle more next) : Signed b (verifiers ++ more) next := by
  refine ⟨second.message.trans first.message, second.sigs.trans first.sigs, second.clock.trans first.clock, ?_, ?_⟩
  · rw [second.cursor, first.cursor, length_append, Nat.add_assoc]
  · intro position verifier found
    by_cases early : position < verifiers.length
    · rw [getElem?_append_left early] at found
      exact first.verified position verifier found
    · rw [getElem?_append_right (by omega)] at found
      obtain ⟨sigma, taken, checked⟩ := second.verified _ verifier found
      have place : middle.cursor + (position - verifiers.length) = b.cursor + position := by
        rw [first.cursor]
        omega
      rw [place, first.sigs] at taken
      rw [place, first.clock, first.message] at checked
      exact ⟨sigma, taken, checked⟩

theorem has_been_signed_by_ok {verifier : Option Verifier} {sigma : Bytes} (done : b.hasBeenSignedBy verifier = .ok (sigma, next))
    : ∃ found, verifier = some found ∧ Signed b [found] next ∧ b.sigs[b.cursor]? = some sigma := by
  simp only [hasBeenSignedBy, ok_iff, Prod.mk.injEq] at done
  obtain ⟨_, taken, found, rfl, _, checked, rfl, rfl⟩ := done
  refine ⟨found, rfl, ⟨rfl, rfl, rfl, rfl, ?_⟩, taken⟩
  intro position verifier asked
  cases position with
  | zero =>
    obtain rfl := Option.some.inj asked
    exact ⟨_, taken, checked⟩
  | succ position => simp at asked

theorem signed_exhausted (signed : Signed b verifiers next)
    (fresh : b.cursor = 0) (exhausted : next.ensureExhausted = .ok ()) : verifiers.length = b.sigs.length := by
  rw [ensureExhausted, ensure_ok_iff, signed.cursor, signed.sigs, fresh, Nat.zero_add] at exhausted
  exact exhausted

def Backend.advance (b : Backend) (count : Nat) : Backend := { b with cursor := b.cursor + count }

def Ahead (b : Backend) (verifiers : List Verifier) : Prop :=
  ∀ (k : Nat) (verifier : Verifier), verifiers[k]? = some verifier → ∃ sigma, b.sigs[b.cursor + k]? = some sigma ∧
    verifier (b.clock (b.cursor + k)) b.message sigma = .ok ()

theorem ahead_advance (verifiers : List Verifier) (ahead : Ahead b (verifiers ++ rest)) :
    Ahead (b.advance verifiers.length) rest := by
  intro k verifier asked
  have later := ahead (verifiers.length + k) verifier (by rwa [getElem?_append_right (by omega), Nat.add_sub_cancel_left])
  simpa only [advance, Nat.add_assoc] using later

theorem has_been_signed_by_accepts {verifier : Verifier}
    (ahead : Ahead b (verifier :: rest)) : ∃ sigma, b.hasBeenSignedBy (some verifier) = .ok (sigma, b.advance 1) := by
  obtain ⟨sigma, taken, checked⟩ := ahead 0 verifier rfl
  refine ⟨sigma, ?_⟩
  simp only [hasBeenSignedBy, ok_iff]
  exact ⟨sigma, taken, verifier, rfl, (), checked, rfl⟩

end Signed

open Text Driver

def errNoActions : String := "token request has no actions"
def errNilAction : String := "deserialized action is nil"
def errActionSignatureIDOutOfRange : String := "action signature ID is out of range"
def errAuditorSignaturesMissing : String := "auditor signatures missing"
def errAuditorSignaturesPresent : String := "auditor signatures present"

-- The validators of one action share a context; the action is the issue or the transfer under validation, or nothing
-- when the auditing is. The keys counted so far are listed one entry a count, and now is what the clock says when a
-- validator looks at it. The signature provider is never nil here.
structure Context (P T A : Type) where
  pp : P
  tokenRequest : TokenRequest
  deserializer : Deserializer
  signatureProvider : Backend
  signatures : List Bytes
  inputTokens : List T
  action : A
  metadataCounter : List Bytes
  now : Int

def Context.countMetadataKey {P T A : Type} (ctx : Context P T A) (key : Bytes) : Context P T A :=
  { ctx with metadataCounter := ctx.metadataCounter ++ [key] }

abbrev Validate (P T A : Type) := Context P T A → Outcome (Context P T A)

inductive ActionValue (IA TA : Type) where
  | issue (action : IA)
  | transfer (action : TA)
deriving DecidableEq, Repr

structure DeserializedAction (IA TA : Type) where
  index : Nat
  actionID : UInt32
  value : ActionValue IA TA

structure Clock where
  auditorSigning : Nat → Readings
  auditing : Int
  signing : UInt32 → Nat → Readings
  validation : Nat → Int

structure Validator (P T IA TA : Type) where
  publicParams : P
  deserializer : Deserializer
  deserializeActions : TokenRequest → Outcome (List (Option IA) × List (Option TA))
  issueMetadata : IA → Entries
  transferMetadata : TA → Entries
  auditingValidators : List (Validate P T Unit)
  transferValidators : List (Validate P T TA)
  issueValidators : List (Validate P T IA)
  limits : ResourceLimits
  minProtocolVersion : UInt32

structure ValidationAttributes where
  tokenRequestToSign : Bytes
  tokenRequestSignatures : Bytes
deriving DecidableEq, Repr

def actionTypeText : ActionType → String
  | .unspecified => "ACTION_TYPE_UNSPECIFIED"
  | .issue => "ACTION_TYPE_ISSUE"
  | .transfer => "ACTION_TYPE_TRANSFER"
  | .unknown number => s!"{number}"

def marshalSignatures (signatures : List Bytes) : Bytes :=
  ascii "[" ++ (ascii ",").intercalate (signatures.map fun signature => ascii "\"" ++ Base64.encode signature ++ ascii "\"")
    ++ ascii "]"

def runValidators {P T A : Type} (validators : List (Validate P T A)) (ctx : Context P T A) : Outcome (Context P T A) :=
  validators.foldlM (fun ctx validate => validate ctx) ctx

def checkMetadataCounter {P T A : Type} (metadata : Entries) (ctx : Context P T A) : Outcome Unit := do
  checkEach (fun _ key => ensure (ctx.metadataCounter.count key ≤ 1)
    s!"metadata key [{render key}] appeared more than one time") 0 ctx.metadataCounter
  ensure (metadata.length = ctx.metadataCounter.length)
    s!"more metadata than those validated [{metadata.length}]!=[{ctx.metadataCounter.length}]"

namespace Validator

variable {P T IA TA : Type}

def setMinProtocolVersion (v : Validator P T IA TA) (version : UInt32) : Validator P T IA TA :=
  { v with minProtocolVersion := version }

def context {A : Type} (v : Validator P T IA TA) (request : TokenRequest) (action : A) (provider : Backend) (now : Int) :
    Context P T A :=
  { pp := v.publicParams
    tokenRequest := request
    deserializer := v.deserializer
    signatureProvider := provider
    signatures := []
    inputTokens := []
    action
    metadataCounter := []
    now }

def verifyIssue (v : Validator P T IA TA) (request : TokenRequest) (action : IA) (provider : Backend) (now : Int) :
    Outcome Backend := do
  let ctx ← runValidators v.issueValidators (v.context request action provider now)
  checkMetadataCounter (v.issueMetadata action) ctx
  return ctx.signatureProvider

def verifyTransfer (v : Validator P T IA TA) (request : TokenRequest) (action : TA) (provider : Backend) (now : Int) :
    Outcome Backend := do
  let ctx ← runValidators v.transferValidators (v.context request action provider now)
  checkMetadataCounter (v.transferMetadata action) ctx
  return ctx.signatureProvider

def verifyAuditing (v : Validator P T IA TA) (request : TokenRequest) (provider : Backend) (now : Int) :
    Outcome Backend := do
  let ctx ← runValidators v.auditingValidators (v.context request () provider now)
  return ctx.signatureProvider

end Validator

structure Walk (IA TA : Type) where
  issueIndex : Nat
  transferIndex : Nat
  actions : List (DeserializedAction IA TA)

def Walk.next {IA TA : Type} (issues : List (Option IA)) (transfers : List (Option TA)) (index : Nat) (walk : Walk IA TA)
    (typedAction : TypedAction) : Outcome (Walk IA TA) :=
  match typedAction.type with
  | .issue => do
    let issue ← required issues[walk.issueIndex]?.join s!"issue action at request index [{index}]: {errNilAction}"
    return { walk with
      issueIndex := walk.issueIndex + 1
      actions := walk.actions ++ [{ index, actionID := UInt32.ofNat index, value := .issue issue }] }
  | .transfer => do
    let transfer ← required transfers[walk.transferIndex]?.join
      s!"transfer action at request index [{index}]: {errNilAction}"
    return { walk with
      transferIndex := walk.transferIndex + 1
      actions := walk.actions ++ [{ index, actionID := UInt32.ofNat index, value := .transfer transfer }] }
  | type => .error s!"unknown action type [{actionTypeText type}] at request index [{index}]"

def actionSignaturesByID (request : TokenRequest) (actionID : UInt32) : List Bytes :=
  request.signatures.filterMap fun signature =>
    if signature.auditor.isSome then none
    else signature.action.bind fun action => if action.actionID = actionID then some action.signature else none

def auditorSignatures (request : TokenRequest) : List AuditorSignature :=
  request.signatures.filterMap RequestSignature.auditor

def actionSignatures (request : TokenRequest) : List ActionSignature :=
  request.signatures.filterMap fun signature => if signature.auditor.isSome then none else signature.action

def checkActionID (request : TokenRequest) (action : ActionSignature) : Outcome Unit :=
  ensure (action.actionID.toNat < request.actions.length)
    s!"action signature ID [{action.actionID}], number of actions [{request.actions.length}]: {errActionSignatureIDOutOfRange}"

def actionProviders (request : TokenRequest) (signed : Bytes) (clock : Clock) : UInt32 → Option Backend :=
  (List.range request.actions.length).foldl (fun providers i =>
    Function.update providers (UInt32.ofNat i)
      (some (new signed (actionSignaturesByID request (UInt32.ofNat i)) (clock.signing (UInt32.ofNat i)))))
    fun _ => none

namespace Validator

variable {P T IA TA : Type}

def deserializeActionsInRequestOrder (v : Validator P T IA TA) (request : TokenRequest) :
    Outcome (List (DeserializedAction IA TA)) := do
  let (issues, transfers) ← v.deserializeActions request
  let walk ← foldEach (Walk.next issues transfers) 0 { issueIndex := 0, transferIndex := 0, actions := [] } request.actions
  ensure (walk.issueIndex = issues.length ∧ walk.transferIndex = transfers.length)
    s!"deserialized action count mismatch, issues [{walk.issueIndex}]!=[{issues.length}], transfers [{walk.transferIndex}]!=[{transfers.length}]"
  return walk.actions

def verifyDeserializedAction (v : Validator P T IA TA) (clock : Clock) (request : TokenRequest) (provider : Backend)
    (action : DeserializedAction IA TA) : Outcome Backend :=
  match action.value with
  | .issue issue =>
    wrap s!"failed to verify issue action at request index [{action.index}]"
      (v.verifyIssue request issue provider (clock.validation action.index))
  | .transfer transfer =>
    wrap s!"failed to verify transfer action at request index [{action.index}]"
      (v.verifyTransfer request transfer provider (clock.validation action.index))

-- A provider that is not in the map is made on the spot, without a message and without signatures.
def verifyScoped (v : Validator P T IA TA) (clock : Clock) (request : TokenRequest)
    (state : (UInt32 → Option Backend) × List (ActionValue IA TA)) (action : DeserializedAction IA TA) :
    Outcome ((UInt32 → Option Backend) × List (ActionValue IA TA)) := do
  let (providers, res) := state
  let provider := (providers action.actionID).getD (new [] [] (clock.signing action.actionID))
  let consumed ← v.verifyDeserializedAction clock request provider action
  wrap s!"failed to consume signatures for action at request index [{action.index}]" consumed.ensureExhausted
  return (Function.update providers action.actionID ((providers action.actionID).map fun _ => consumed), res ++ [action.value])

def verifyTokenRequestWithScopedSignatures (v : Validator P T IA TA) (clock : Clock) (auditorProvider : Backend)
    (providers : UInt32 → Option Backend) (anchor : Bytes) (request : TokenRequest) (attributes : ValidationAttributes) :
    Outcome (List (ActionValue IA TA) × ValidationAttributes) := do
  let auditorProvider ← wrap s!"failed to verify auditor signatures [{render anchor}]"
    (v.verifyAuditing request auditorProvider clock.auditing)
  wrap "failed to consume auditor signatures" auditorProvider.ensureExhausted
  let actions ← wrap s!"failed to unmarshal actions [{render anchor}]" (v.deserializeActionsInRequestOrder request)
  let (_, res) ← actions.foldlM (v.verifyScoped clock request) (providers, [])
  return (res, attributes)

def verifyTokenRequestFromRaw (unmarshal : Bytes → Outcome Proto.TokenRequest) (v : Validator P T IA TA) (clock : Clock)
    (anchor raw : Bytes) : Outcome (List (ActionValue IA TA) × ValidationAttributes) := do
  ensure (raw ≠ []) "empty token request"
  checkRawRequestSize v.limits raw
  let request ← wrap "failed to unmarshal token request" (TokenRequest.fromBytes unmarshal raw)
  ensure (request.version ≠ 0) errInvalidVersion
  ensure (¬ (0 < v.minProtocolVersion ∧ request.version < v.minProtocolVersion))
    s!"got version {request.version}, minimum required is {v.minProtocolVersion}: {errVersionBelowMinimum}"
  ensure (request.actions ≠ []) errNoActions
  checkRequestLimits v.limits request
  let signed ← wrap "failed to marshal signed token request" (request.marshalToMessageToSign anchor)
  checkEach (fun _ => checkActionID request) 0 (actionSignatures request)
  let auditors := (auditorSignatures request).map AuditorSignature.signature
  let signatures := auditors ++ (actionSignatures request).map ActionSignature.signature
  let attributes := { tokenRequestToSign := signed, tokenRequestSignatures := marshalSignatures signatures }
  v.verifyTokenRequestWithScopedSignatures clock (new signed auditors clock.auditorSigning)
    (actionProviders request signed clock) anchor request attributes

end Validator

end Panurus.Core
