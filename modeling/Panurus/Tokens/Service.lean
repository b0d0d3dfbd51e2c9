import Panurus.Identity.Envelopes
import Panurus.Client.Request

namespace Panurus.Tokens

open Lib Outcome Text Core Driver
open Panurus.Client (Token)
open Panurus.Rws (TokenID)
open Panurus.Token (toQuantity bitLen)

structure Flags where
  mine : Bool
  auditor : Bool
  issuer : Bool
  redeemed : Bool
deriving DecidableEq, Repr

structure TokenToAppend where
  txID : Bytes
  index : UInt64
  tok : Token
  tokenOnLedgerFormat : Bytes
  tokenOnLedger : Bytes
  tokenOnLedgerMetadata : Bytes
  ownerType : String
  ownerIdentity : Identity
  ownerWalletID : Bytes
  owners : List Bytes
  issuer : Identity
  precision : UInt64
  flags : Flags
deriving DecidableEq, Repr

def TokenToAppend.id (tta : TokenToAppend) : TokenID := { txId := tta.txID, index := tta.index }

structure TokenRecord where
  id : TokenID
  issuerRaw : Bytes
  ownerRaw : Bytes
  ownerType : String
  ownerIdentity : Bytes
  ownerWalletID : Bytes
  ledger : Bytes
  ledgerFormat : Bytes
  ledgerMetadata : Bytes
  quantity : Bytes
  type : Bytes
  amount : Nat
  owner : Bool
  auditor : Bool
  issuer : Bool
  redeemed : Bool
deriving DecidableEq, Repr

structure TokenRow where
  record : TokenRecord
  storedAt : Int
  isDeleted : Bool
  spentBy : Bytes
  spentAt : Option Int
deriving DecidableEq, Repr

structure TokenStore where
  tokens : List TokenRow
  ownership : List (TokenID × Bytes)
deriving DecidableEq, Repr

def maxAmountBits : Nat := 255

def validateTokenAmount (amount : Nat) : Outcome Unit :=
  ensure (bitLen amount ≤ maxAmountBits)
    s!"amount [{amount}] does not fit in {maxAmountBits} bits: amount exceeds maximum supported size"

namespace TokenStore

def ids (db : TokenStore) : List TokenID := db.tokens.map fun row => row.record.id

def transactionExists (db : TokenStore) (id : Bytes) : Bool := id ≠ [] ∧ id ∈ db.ids.map TokenID.txId

-- A row whose key is in a table already stays as it is, in either table.
def storeToken (db : TokenStore) (now : Int) (tr : TokenRecord) (owners : List Bytes) : Outcome TokenStore := do
  ensure (¬ (tr.ownerWalletID = [] ∧ owners = [] ∧ tr.owner)) "no owners specified"
  wrap s!"invalid amount for token [{render tr.id.txId}:{tr.id.index}]" (validateTokenAmount tr.amount)
  let row := { record := tr, storedAt := now, isDeleted := false, spentBy := [], spentAt := none }
  return {
    tokens := if tr.id ∈ db.ids then db.tokens else db.tokens ++ [row]
    ownership := owners.foldl
      (fun rows walletID => if (tr.id, walletID) ∈ rows then rows else rows ++ [(tr.id, walletID)]) db.ownership }

-- Only the tokens of this node's wallets are found, the spent ones too. A token without an owner is as good as none.
def getToken (db : TokenStore) (id : TokenID) : Option Token × List Bytes :=
  match db.tokens.find? fun row => row.record.id = id ∧ row.record.owner with
  | none => (none, [])
  | some row =>
    let wallets := (db.ownership.filter fun entry => entry.1 = id).map Prod.snd ++ [row.record.ownerWalletID]
    (if row.record.ownerRaw = [] then none
      else some { owner := row.record.ownerRaw, type := row.record.type, quantity := row.record.quantity },
    wallets.filter (· ≠ []))

def delete (db : TokenStore) (now : Int) (id : TokenID) (deletedBy : Bytes) : TokenStore :=
  { db with
    tokens := db.tokens.map fun row =>
      if row.record.id = id then { row with isDeleted := true, spentBy := deletedBy, spentAt := some now } else row }

end TokenStore

inductive Topic where
  | addToken
  | deleteToken
deriving DecidableEq, Repr

structure TokenProcessorEvent where
  topic : Topic
  walletID : Bytes
  tokenType : Bytes
  tokenID : TokenID
deriving DecidableEq, Repr

structure DBTransaction where
  store : TokenStore
  pending : List TokenProcessorEvent
deriving DecidableEq, Repr

inductive Operation where
  | append (tta : TokenToAppend)
  | delete (id : Option TokenID) (deletedBy : Bytes)
deriving DecidableEq, Repr

def TokenToAppend.record (tta : TokenToAppend) (amount : Nat) : TokenRecord :=
  { id := tta.id
    issuerRaw := tta.issuer
    ownerRaw := tta.tok.owner
    ownerType := tta.ownerType
    ownerIdentity := tta.ownerIdentity
    ownerWalletID := tta.ownerWalletID
    ledger := tta.tokenOnLedger
    ledgerFormat := tta.tokenOnLedgerFormat
    ledgerMetadata := tta.tokenOnLedgerMetadata
    quantity := tta.tok.quantity
    type := tta.tok.type
    amount
    owner := tta.flags.mine
    auditor := tta.flags.auditor
    issuer := tta.flags.issuer
    redeemed := tta.flags.redeemed }

structure Database where
  now : Int
  queryFailure : TokenID → Option String
  failure : Operation → Option String

namespace DBTransaction

def continued (store : TokenStore) : DBTransaction := { store, pending := [] }

def statement (failure : Option String) : Outcome Unit :=
  match failure with
  | none => .ok ()
  | some reason => .error reason

def appendToken (database : Database) (tx : DBTransaction) (tta : TokenToAppend) : Outcome DBTransaction := do
  let q ← wrap s!"cannot covert [{render tta.tok.quantity}] with precision [{tta.precision}]"
    (toQuantity tta.tok.quantity tta.precision)
  let store ← wrap "cannot store token in db" (do
    statement (database.failure (.append tta))
    tx.store.storeToken database.now (tta.record q.toNat) tta.owners)
  let notified := (tta.owners.filter (· ≠ [])).map fun walletID =>
    { topic := .addToken, walletID, tokenType := tta.tok.type, tokenID := tta.id }
  return { store, pending := tx.pending ++ notified }

def deleteToken (database : Database) (tx : DBTransaction) (tokenID : TokenID) (deletedBy : Bytes) :
    Outcome DBTransaction := do
  wrap s!"failed to get token [{tokenID.text}]" (statement (database.queryFailure tokenID))
  let (tok, owners) := tx.store.getToken tokenID
  wrap s!"failed to delete token [{tokenID.text}]" (statement (database.failure (.delete (some tokenID) deletedBy)))
  let notified := match tok with
    | none => []
    | some tok => owners.map fun walletID => { topic := .deleteToken, walletID, tokenType := tok.type, tokenID }
  return { store := tx.store.delete database.now tokenID deletedBy, pending := tx.pending ++ notified }

def execute (database : Database) (tx : DBTransaction) : Operation → Outcome DBTransaction
  | .append tta => appendToken database tx tta
  | .delete none _ => .error "panic: the identifier of a token to delete is nil"
  | .delete (some id) deletedBy => deleteToken database tx id deletedBy

end DBTransaction

open Panurus.Client (Token Request Input Output)

def typeToString (t : Int32) : String :=
  if t = Identity.idemixIdentityType then "idemix"
  else if t = Identity.idemixNymIdentityType then "idemixnym"
  else if t = Identity.x509IdentityType then "x509"
  else if t = Identity.multiSigIdentityType then "multisig"
  else if t = Identity.htlcScriptIdentityType then "htlc"
  else s!"Type ({t})"

structure Ownership where
  walletID : Bytes
  ids : List Bytes
  mine : Bool

structure Authorization where
  amIAnAuditor : Bool
  issued : Identity → Token → Bool
  isMine : Token → Ownership
  ownerType : Identity → Outcome (Int32 × Identity)

-- The management service a call is given; the wallets and the public parameters may differ from call to call.
structure ManagementService where
  graphHiding : Bool
  precision : UInt64
  auth : Authorization
  services : Client.ManagementService

structure Provider where
  tmsID : String
  getManagementService : Outcome ManagementService

structure Actions where
  toSpend : List (Option TokenID)
  toAppend : List TokenToAppend
deriving DecidableEq, Repr

def spentTokenID (md : TokenRequestMetadata) : Outcome (List (Option TokenID)) := do
  let ids ← md.actions.mapM fun action =>
    match action.issueMetadata, action.transferMetadata with
    | some issue, _ => Except.ok (issue.inputs.map IssueInputMetadata.tokenID)
    | none, some transfer => transfer.inputs.mapM fun input => do
      let input ← required input "panic: the metadata of an input is nil"
      return input.tokenID
    | none, none => .ok []
  return ids.flatten

def hiddenInputs (graphHiding : Bool) (md : TokenRequestMetadata) : Outcome (List (Option TokenID)) :=
  if graphHiding then spentTokenID md else .ok []

section Parse

variable (auth : Authorization) (requestAnchor : Bytes) (auditorFlag : Bool) (precision : UInt64)

-- An output without an owner is a redeem. It is stored by the issuer it was redeemed against.
def parseRedeem (output : Output) : Option TokenToAppend :=
  if output.issuer ≠ [] ∧ auth.issued output.issuer output.tok then
    some {
      txID := requestAnchor
      index := output.index
      tok := output.tok
      tokenOnLedger := output.ledgerOutput
      tokenOnLedgerFormat := output.ledgerOutputFormat
      tokenOnLedgerMetadata := output.ledgerOutputMetadata
      ownerType := ""
      ownerIdentity := []
      ownerWalletID := []
      owners := []
      issuer := output.issuer
      precision
      flags := { mine := false, auditor := auditorFlag, issuer := true, redeemed := true } }
  else none

def parseOwned (output : Output) : Outcome (Option TokenToAppend) :=
  let issuerFlag : Bool := output.issuer ≠ [] ∧ auth.issued output.issuer output.tok
  let owned := auth.isMine output.tok
  if ¬ (owned.mine ∨ auditorFlag ∨ issuerFlag) then .ok none else do
    let (ownerType, ownerIdentity) ←
      wrap s!"failed to extract owner type for token [{render requestAnchor}:{output.index}]" (auth.ownerType output.tok.owner)
    return some {
      txID := requestAnchor
      index := output.index
      tok := output.tok
      tokenOnLedger := output.ledgerOutput
      tokenOnLedgerFormat := output.ledgerOutputFormat
      tokenOnLedgerMetadata := output.ledgerOutputMetadata
      ownerType := typeToString ownerType
      ownerIdentity
      ownerWalletID := owned.walletID
      owners := owned.ids
      issuer := output.issuer
      precision
      flags := { mine := owned.mine, auditor := auditorFlag, issuer := issuerFlag, redeemed := false } }

def parseOutput (output : Output) : Outcome (Option TokenToAppend) :=
  if output.tok.owner = [] then .ok (parseRedeem auth requestAnchor auditorFlag precision output)
  else parseOwned auth requestAnchor auditorFlag precision output

def parse (md : TokenRequestMetadata) (inputs : List Input) (outputs : List Output) (graphHiding : Bool) :
    Outcome Actions := do
  let hidden ← hiddenInputs graphHiding md
  let parsed ← outputs.mapM (parseOutput auth requestAnchor auditorFlag precision)
  return { toSpend := hidden ++ (inputs.filterMap Input.id).map some, toAppend := parsed.reduceOption }

end Parse

def extractActions (provider : Provider) (anchor : Bytes) (request : Request) : Outcome Actions := do
  let tms ← wrap s!"failed getting token management service [{provider.tmsID}]" provider.getManagementService
  let walk ← wrap "failed to get request's outputs" (request.inputsAndOutputs tms.services false false true)
  parse tms.auth anchor tms.auth.amIAnAuditor tms.precision request.metadata walk.inputs walk.outputs.outputs tms.graphHiding

structure CacheEntry where
  request : Request
  actions : Actions
  msgToSign : Bytes

abbrev RequestsCache := Bytes → Option CacheEntry

def RequestsCache.add (cache : RequestsCache) (key : Bytes) (entry : CacheEntry) : RequestsCache := fun other =>
  if other = key then some entry else cache other

def RequestsCache.remove (cache : RequestsCache) (key : Bytes) : RequestsCache := fun other =>
  if other = key then none else cache other

def cacheRequest (provider : Provider) (cache : RequestsCache) (request : Request) : Outcome RequestsCache := do
  let actions ← wrap s!"failed to extract actions for request [{render request.anchor}]"
    (extractActions provider request.anchor request)
  let msgToSign ← wrap s!"failed to marshal token request [{render request.anchor}]"
    (request.actions.marshalToMessageToSign request.anchor)
  return cache.add request.anchor { request, actions, msgToSign }

def getActions (provider : Provider) (cache : RequestsCache) (anchor : Bytes) (request : Request) : Outcome Actions :=
  match cache anchor with
  | some entry => .ok entry.actions
  | none => extractActions provider anchor request

def operations (txID : Bytes) (actions : Actions) : List Operation :=
  actions.toAppend.map .append ++ actions.toSpend.map fun id => .delete id txID

structure Environment where
  provider : Provider
  database : Database
  existsFailure : Option String
  continueFailure : Option String

inductive Given where
  | absent
  | withoutMetadata
  | request (request : Request)

def failureText (txID : Bytes) : Operation → String
  | .append _ => s!"transaction [{render txID}], failed to append token"
  | .delete _ _ => s!"transaction [{render txID}], failed to delete tokens"

def applyActions (env : Environment) (txID : Bytes) (store : TokenStore) (actions : Actions) :
    Outcome DBTransaction := do
  wrap s!"transaction [{render txID}], failed to continue db transaction" (DBTransaction.statement env.continueFailure)
  (operations txID actions).foldlM
    (fun tx operation => wrap (failureText txID operation) (DBTransaction.execute env.database tx operation))
    (DBTransaction.continued store)

-- The store is the one the caller's transaction starts from. The entry of the cache goes once the actions are known,
-- whatever comes of them.
def appendValid (env : Environment) (cache : RequestsCache) (store : TokenStore) (txID : Bytes) (given : Given) :
    RequestsCache × Outcome DBTransaction :=
  match given with
  | .absent | .withoutMetadata => (cache, .ok (.continued store))
  | .request request =>
    match env.existsFailure with
    | some reason => (cache, .error s!"transaction [{render txID}], failed to check existence in db: {reason}")
    | none =>
      if store.transactionExists txID then (cache, .ok (.continued store)) else
        match getActions env.provider cache txID request with
        | .error reason => (cache, .error s!"transaction [{render txID}], failed to extract actions: {reason}")
        | .ok actions => (cache.remove txID, applyActions env txID store actions)

end Panurus.Tokens
