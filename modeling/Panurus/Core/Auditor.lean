import Panurus.Client.Request
import Panurus.Core.ScopedSignatures

namespace Panurus.Core

open List Lib Outcome Text Driver Token

-- The tokens an auditor has on record, by the text of their identifiers. A recorded token may be nil.
abbrev AuditTokens := List (String × Option Client.Token)

structure AuditContext (P A : Type) where
  pp : P
  anchor : Bytes
  tokenRequest : TokenRequest
  tokenRequestMetadata : TokenRequestMetadata
  auditTokens : AuditTokens
  action : A
  actionIndex : Nat

structure Auditor (P IA TA : Type) where
  publicParams : P
  deserializeActions : TokenRequest → Outcome (List IA × List TA)
  issueValidators : List (AuditContext P IA → Outcome Unit)
  transferValidators : List (AuditContext P TA → Outcome Unit)

def typeText : ActionType → String
  | .unspecified => "ACTION_TYPE_UNSPECIFIED"
  | .issue => "ACTION_TYPE_ISSUE"
  | .transfer => "ACTION_TYPE_TRANSFER"
  | .unknown number => s!"{number}"

def validateActionStructure (txID : Bytes) (i : Nat) (pair : TypedAction × ActionMetadataEntry) : Outcome Unit := do
  ensure (pair.2.actionID = UInt32.ofNat i)
    s!"metadata at index [{i}] has incorrect ActionID [{pair.2.actionID}] for tx [{render txID}]"
  match pair.1.type with
  | .issue => do
    ensure pair.2.issueMetadata.isSome
      s!"action at index [{i}] is ISSUE but metadata has no IssueMetadata for tx [{render txID}]"
    ensure pair.2.transferMetadata.isNone
      s!"action at index [{i}] is ISSUE but metadata also has TransferMetadata for tx [{render txID}]"
  | .transfer => do
    ensure pair.2.transferMetadata.isSome
      s!"action at index [{i}] is TRANSFER but metadata has no TransferMetadata for tx [{render txID}]"
    ensure pair.2.issueMetadata.isNone
      s!"action at index [{i}] is TRANSFER but metadata also has IssueMetadata for tx [{render txID}]"
  | type => .error s!"action at index [{i}] has unknown type [{typeText type}] for tx [{render txID}]"

def validateStructure (tokenRequest : TokenRequest) (tokenRequestMetadata : TokenRequestMetadata) (txID : Bytes) :
    Outcome Unit := do
  let actions := tokenRequest.actions
  let metadata := tokenRequestMetadata.actions
  ensure (actions.length = metadata.length)
    s!"action count mismatch: request has [{actions.length}] actions but metadata has [{metadata.length}] actions for tx [{render txID}]"
  checkEach (validateActionStructure txID) 0 (actions.zip metadata)

namespace Auditor

variable {P IA TA : Type} (a : Auditor P IA TA)

def checkIssue (context : AuditContext P IA) : Outcome Unit := checkEach (fun _ validate => validate context) 0 a.issueValidators

def checkTransfer (context : AuditContext P TA) : Outcome Unit :=
  checkEach (fun _ validate => validate context) 0 a.transferValidators

def context {A : Type} (anchor : Bytes) (tokenRequest : TokenRequest) (tokenRequestMetadata : TokenRequestMetadata)
    (auditTokens : AuditTokens) (action : A) (actionIndex : Nat) : AuditContext P A :=
  { pp := a.publicParams, anchor, tokenRequest, tokenRequestMetadata, auditTokens, action, actionIndex }

structure Counters where
  issueIndex : Nat
  transferIndex : Nat

def checkAction (txID : Bytes) (tokenRequest : TokenRequest) (metadata : TokenRequestMetadata) (auditTokens : AuditTokens)
    (issueActions : List IA) (transferActions : List TA) (i : Nat) (counters : Counters) (action : TypedAction) :
    Outcome Counters :=
  match action.type with
  | .issue => do
    let issue ← required issueActions[counters.issueIndex]?
      s!"panic: runtime error: index out of range [{counters.issueIndex}] with length {issueActions.length}"
    wrap s!"failed to check issue action at [{i}]"
      (a.checkIssue (a.context txID tokenRequest metadata auditTokens issue i))
    return { counters with issueIndex := counters.issueIndex + 1 }
  | .transfer => do
    let transfer ← required transferActions[counters.transferIndex]?
      s!"panic: runtime error: index out of range [{counters.transferIndex}] with length {transferActions.length}"
    wrap s!"failed to check transfer action at [{i}]"
      (a.checkTransfer (a.context txID tokenRequest metadata auditTokens transfer i))
    return { counters with transferIndex := counters.transferIndex + 1 }
  | type => .error s!"unknown action type [{typeText type}] at index [{i}] for tx [{render txID}]"

def check (tokenRequest : Option TokenRequest) (tokenRequestMetadata : Option TokenRequestMetadata) (txID : Bytes)
    (auditTokens : Option AuditTokens) : Outcome Unit := do
  let tokenRequest ← required tokenRequest s!"tokenRequest cannot be nil for tx [{render txID}]"
  let tokenRequestMetadata ← required tokenRequestMetadata s!"tokenRequestMetadata cannot be nil for tx [{render txID}]"
  let auditTokens ← required auditTokens s!"auditTokens cannot be nil for tx [{render txID}]"
  wrap s!"structural validation failed for [{render txID}]" (validateStructure tokenRequest tokenRequestMetadata txID)
  let (issueActions, transferActions) ← wrap s!"failed to deserialize actions [{render txID}]" (a.deserializeActions tokenRequest)
  let _ ← foldEach (a.checkAction txID tokenRequest tokenRequestMetadata auditTokens issueActions transferActions) 0
    { issueIndex := 0, transferIndex := 0 } tokenRequest.actions
  return ()

end Auditor

section TokenTypes

variable (auditTokens : AuditTokens)

def notFound (id : Rws.TokenID) (i : Nat) : String :=
  s!"input token [{render id.txId}:{id.index}] at index [{i}] not found in audit tokens"

def checkIssueInputTokenType (i : Nat) (actionTokenType : Bytes) (inputMetadata : IssueInputMetadata) : Outcome Bytes :=
  match inputMetadata.tokenID with
  | none => .ok actionTokenType
  | some id => do
    let inputToken ← required (auditTokens.lookup id.text) (notFound id i)
    match inputToken.filter fun token => token.type ≠ [] with
    | none => return actionTokenType
    | some token =>
      if actionTokenType = [] then return token.type else do
        ensure (actionTokenType = token.type)
          s!"token type mismatch in issue action: input [{i}] has type [{render token.type}] but expected [{render actionTokenType}]"
        return actionTokenType

def validateIssueActionTokenTypes (metadata : IssueMetadata) : Outcome Unit := do
  let _ ← foldEach (checkIssueInputTokenType auditTokens) 0 [] metadata.inputs
  return ()

-- The type and the sum of the inputs so far. Where values are not summed, the sum is nil in the code.
structure InputTotal where
  actionTokenType : Bytes
  inputSum : Quantity
deriving DecidableEq, Repr

def checkTransferInputTokenType (validateValueSum : Bool) (precision : UInt64) (i : Nat) (total : InputTotal)
    (inputMetadata : Option TransferInputMetadata) : Outcome InputTotal := do
  let inputMetadata ← required inputMetadata s!"input metadata at index [{i}] is nil"
  let id ← required inputMetadata.tokenID s!"input at index [{i}] has nil TokenID"
  let inputToken ← required (auditTokens.lookup id.text) (notFound id i)
  let inputToken ← required inputToken s!"input token [{render id.txId}:{id.index}] at index [{i}] is nil in audit tokens"
  ensure (total.actionTokenType = [] ∨ total.actionTokenType = inputToken.type)
    s!"token type mismatch in transfer action: input [{i}] has type [{render inputToken.type}] but expected [{render total.actionTokenType}]"
  let inputSum ← if validateValueSum then do
      let inputQty ← wrap s!"failed to convert input quantity at index [{i}]" (toQuantity inputToken.quantity precision)
      wrap s!"failed to add input quantity at index [{i}]" (total.inputSum.add inputQty)
    else .ok total.inputSum
  return { actionTokenType := if total.actionTokenType = [] then inputToken.type else total.actionTokenType, inputSum }

def inputTotal (validateValueSum : Bool) (precision : UInt64) (metadata : TransferMetadata) : Outcome InputTotal :=
  foldEach (checkTransferInputTokenType auditTokens validateValueSum precision) 0
    { actionTokenType := [], inputSum := Quantity.zero precision } metadata.inputs

def validateTransferActionTokenTypes (metadata : TransferMetadata) (validateValueSum : Bool) (precision : UInt64) :
    Outcome Unit := do
  ensure (auditTokens ≠ []) "auditTokens cannot be empty for transfer action validation"
  let _ ← inputTotal auditTokens validateValueSum precision metadata
  return ()

end TokenTypes

variable {i : Nat} {action : TypedAction}

theorem validate_action_structure_ok {txID : Bytes} {entry : ActionMetadataEntry}
    (valid : validateActionStructure txID i (action, entry) = .ok ()) :
    entry.actionID = UInt32.ofNat i ∧ ((action.type = .issue ∧ entry.issueMetadata.isSome ∧ entry.transferMetadata = none) ∨
        (action.type = .transfer ∧ entry.transferMetadata.isSome ∧ entry.issueMetadata = none)) := by
  simp only [validateActionStructure, ok_iff] at valid
  obtain ⟨_, numbered, kind⟩ := valid
  refine ⟨numbered, ?_⟩
  cases type : action.type with
  | issue =>
    simp only [type, ok_iff, Option.isNone_iff_eq_none, exists_const] at kind
    exact .inl ⟨rfl, kind.1, kind.2⟩
  | transfer =>
    simp only [type, ok_iff, Option.isNone_iff_eq_none, exists_const] at kind
    exact .inr ⟨rfl, kind.1, kind.2⟩
  | unspecified | unknown number => simp [type] at kind

open Auditor

section Check

variable {P IA TA : Type} {a : Auditor P IA TA} {txID : Bytes} {request : TokenRequest}
  {metadata : TokenRequestMetadata} {auditTokens : AuditTokens} {issues : List IA} {transfers : List TA}
  {readIssue : Bytes → IA → Prop} {readTransfer : Bytes → TA → Prop}

theorem check_action_ok {counters next : Counters}
    (stepped : a.checkAction txID request metadata auditTokens issues transfers i counters action = .ok next) :
    (∃ issue, action.type = .issue ∧ issues[counters.issueIndex]? = some issue ∧
      a.checkIssue (a.context txID request metadata auditTokens issue i) = .ok () ∧
      next = { counters with issueIndex := counters.issueIndex + 1 }) ∨
    (∃ transfer, action.type = .transfer ∧ transfers[counters.transferIndex]? = some transfer ∧
      a.checkTransfer (a.context txID request metadata auditTokens transfer i) = .ok () ∧
      next = { counters with transferIndex := counters.transferIndex + 1 }) := by
  cases type : action.type with
  | issue =>
    simp only [checkAction, type, ok_iff] at stepped
    obtain ⟨issue, picked, _, checked, rfl⟩ := stepped
    exact .inl ⟨issue, rfl, picked, checked, rfl⟩
  | transfer =>
    simp only [checkAction, type, ok_iff] at stepped
    obtain ⟨transfer, picked, _, checked, rfl⟩ := stepped
    exact .inr ⟨transfer, rfl, picked, checked, rfl⟩
  | unspecified | unknown number => simp [checkAction, type] at stepped

def CheckedAction (a : Auditor P IA TA) (readIssue : Bytes → IA → Prop) (readTransfer : Bytes → TA → Prop) (txID : Bytes)
    (request : TokenRequest) (metadata : TokenRequestMetadata) (auditTokens : AuditTokens) (i : Nat) (action : TypedAction) :
    Prop :=
  (action.type = .issue ∧ ∃ issue, readIssue action.raw issue ∧
    a.checkIssue (a.context txID request metadata auditTokens issue i) = .ok ()) ∨
  (action.type = .transfer ∧ ∃ transfer, readTransfer action.raw transfer ∧
    a.checkTransfer (a.context txID request metadata auditTokens transfer i) = .ok ())

theorem read_at {A : Type} {read : Bytes → A → Prop} {raw : Bytes} {raws : List Bytes} {found : List A} {position : Nat}
    {item : A} (reads : Forall₂ read (raw :: raws) (found.drop position)) (picked : found[position]? = some item) :
    read raw item ∧ Forall₂ read raws (found.drop (position + 1)) := by
  obtain ⟨bound, rfl⟩ := List.getElem?_eq_some_iff.mp picked
  rw [drop_eq_getElem_cons bound, forall₂_cons] at reads
  exact reads

theorem checked_actions (entries : List TypedAction) : ∀ (start : Nat) (counters final : Counters),
    foldEach (a.checkAction txID request metadata auditTokens issues transfers) start counters entries = .ok final →
    Forall₂ readIssue (rawsOf .issue entries) (issues.drop counters.issueIndex) →
    Forall₂ readTransfer (rawsOf .transfer entries) (transfers.drop counters.transferIndex) →
    ∀ i action, entries[i]? = some action →
      CheckedAction a readIssue readTransfer txID request metadata auditTokens (start + i) action := by
  induction entries with
  | nil =>
    intro start counters final run issuesRead transfersRead i action found
    simp at found
  | cons head tail ih =>
    intro start counters final run issuesRead transfersRead i action found
    rw [foldEach, bind_ok_iff] at run
    obtain ⟨next, stepped, rest⟩ := run
    rcases check_action_ok stepped with ⟨issue, kind, picked, checked, rfl⟩ | ⟨transfer, kind, picked, checked, rfl⟩
    · rw [raws_of_cons_same kind] at issuesRead
      rw [raws_of_cons_other (by rw [kind]; decide)] at transfersRead
      obtain ⟨here, others⟩ := read_at issuesRead picked
      cases i with
      | zero =>
        obtain rfl : head = action := by simpa using found
        exact .inl ⟨kind, issue, here, checked⟩
      | succ i =>
        have later := ih (start + 1) _ final rest others transfersRead i action (by simpa using found)
        rwa [Nat.add_assoc, Nat.add_comm 1] at later
    · rw [raws_of_cons_other (by rw [kind]; decide)] at issuesRead
      rw [raws_of_cons_same kind] at transfersRead
      obtain ⟨here, others⟩ := read_at transfersRead picked
      cases i with
      | zero =>
        obtain rfl : head = action := by simpa using found
        exact .inr ⟨kind, transfer, here, checked⟩
      | succ i =>
        have later := ih (start + 1) _ final rest issuesRead others i action (by simpa using found)
        rwa [Nat.add_assoc, Nat.add_comm 1] at later

def Auditor.Reads (a : Auditor P IA TA) (readIssue : Bytes → IA → Prop) (readTransfer : Bytes → TA → Prop) : Prop :=
  ∀ request issues transfers, a.deserializeActions request = .ok (issues, transfers) →
    Forall₂ readIssue request.getIssues issues ∧ Forall₂ readTransfer request.getTransfers transfers

structure AuditChecked (a : Auditor P IA TA) (readIssue : Bytes → IA → Prop) (readTransfer : Bytes → TA → Prop) (txID : Bytes)
    (request : TokenRequest) (metadata : TokenRequestMetadata) (auditTokens : AuditTokens) : Prop where
  count : request.actions.length = metadata.actions.length
  entries : ∀ i action entry, request.actions[i]? = some action → metadata.actions[i]? = some entry →
    validateActionStructure txID i (action, entry) = .ok ()
  actions : ∀ i action, request.actions[i]? = some action →
    CheckedAction a readIssue readTransfer txID request metadata auditTokens i action

theorem check_ok (reads : a.Reads readIssue readTransfer)
    (accepted : a.check (some request) (some metadata) txID (some auditTokens) = .ok ()) :
    AuditChecked a readIssue readTransfer txID request metadata auditTokens := by
  simp only [check, validateStructure, ok_iff, Option.some.injEq, exists_eq_left', Prod.exists] at accepted
  obtain ⟨_, ⟨_, count, structured⟩, issues, transfers, found, final, run, _⟩ := accepted
  obtain ⟨issuesRead, transfersRead⟩ := reads request issues transfers found
  refine ⟨count, fun i action entry at_ at_' => ?_, fun i action at_ => ?_⟩
  · have valid := check_each_ok_iff.mp structured i (action, entry) (getElem?_zip_eq_some.mpr ⟨at_, at_'⟩)
    rwa [Nat.zero_add] at valid
  · have checked := checked_actions request.actions 0 _ final run (by simpa [rawsOf, TokenRequest.getIssues] using issuesRead)
      (by simpa [rawsOf, TokenRequest.getTransfers] using transfersRead) i action at_
    rwa [Nat.zero_add] at checked

-- What the validators accept with the tokens on record they accept with others as well: then so does the check.
theorem check_follows {others : AuditTokens}
    (issue : ∀ action i, a.checkIssue (a.context txID request metadata auditTokens action i) = .ok () →
      a.checkIssue (a.context txID request metadata others action i) = .ok ())
    (transfer : ∀ action i, a.checkTransfer (a.context txID request metadata auditTokens action i) = .ok () →
      a.checkTransfer (a.context txID request metadata others action i) = .ok ())
    (accepted : a.check (some request) (some metadata) txID (some auditTokens) = .ok ()) :
    a.check (some request) (some metadata) txID (some others) = .ok () := by
  simp only [check, ok_iff, Option.some.injEq, exists_eq_left', Prod.exists] at accepted ⊢
  obtain ⟨_, structured, issues, transfers, found, final, run, _⟩ := accepted
  have followed := fold_each_follows (a.checkAction txID request metadata others issues transfers) Eq ?_ 0 _ _ rfl run
  · obtain ⟨_, run, rfl⟩ := followed
    exact ⟨(), structured, issues, transfers, found, final, run, trivial⟩
  · rintro i counters _ action next rfl stepped
    refine ⟨next, ?_, rfl⟩
    rcases check_action_ok stepped with ⟨value, kind, picked, checked, rfl⟩ | ⟨value, kind, picked, checked, rfl⟩
    · simp only [checkAction, kind, ok_iff]
      exact ⟨value, picked, (), issue value i checked, trivial⟩
    · simp only [checkAction, kind, ok_iff]
      exact ⟨value, picked, (), transfer value i checked, trivial⟩

end Check

section Totals

variable {auditTokens : AuditTokens} {precision : UInt64} {total next : InputTotal} {metadata : TransferMetadata}
  {input : Option TransferInputMetadata} {inputs : List (Option TransferInputMetadata)} {tokens : List Client.Token}
  {quantities : List Quantity}

def Recorded (auditTokens : AuditTokens) (input : Option TransferInputMetadata) (token : Client.Token) : Prop :=
  ∃ metadata id, input = some metadata ∧ metadata.tokenID = some id ∧ auditTokens.lookup id.text = some (some token)

structure Totalled (auditTokens : AuditTokens) (precision : UInt64) (inputs : List (Option TransferInputMetadata))
    (tokens : List Client.Token) (quantities : List Quantity) : Prop where
  recorded : Forall₂ (Recorded auditTokens) inputs tokens
  converted : Forall₂ (fun token quantity => toQuantity (Client.Token.quantity token) precision = .ok quantity) tokens
    quantities

theorem totalled_step (before : Totalled auditTokens precision inputs tokens quantities)
    (stepped : checkTransferInputTokenType auditTokens true precision i total input = .ok next) :
    ∃ token quantity, Totalled auditTokens precision (inputs ++ [input]) (tokens ++ [token]) (quantities ++ [quantity]) := by
  simp only [checkTransferInputTokenType, if_true, ok_iff] at stepped
  obtain ⟨metadata, rfl, id, named, _, found, token, rfl, _, _, quantity, converted, _⟩ := stepped
  exact ⟨token, quantity, rel_append before.recorded (.cons ⟨metadata, id, rfl, named, found⟩ .nil),
    rel_append before.converted (.cons converted .nil)⟩

theorem input_total_ok (done : inputTotal auditTokens true precision metadata = .ok total) :
    ∃ tokens quantities, Totalled auditTokens precision metadata.inputs tokens quantities := by
  refine fold_each_invariant (fun inputs _ => ∃ tokens quantities, Totalled auditTokens precision inputs tokens quantities)
    ?_ ⟨[], [], .nil, .nil⟩ done
  rintro inputs total input next ⟨tokens, quantities, before⟩ stepped
  obtain ⟨token, quantity, after⟩ := totalled_step before stepped
  exact ⟨_, _, after⟩

end Totals

section Retyped

variable {auditTokens : AuditTokens} {type : Bytes}

-- The tokens on record, all under one type.
def retyped (type : Bytes) (auditTokens : AuditTokens) : AuditTokens :=
  auditTokens.map fun entry => (entry.1, entry.2.map fun token => { token with type })

theorem lookup_retyped (text : String) :
    (retyped type auditTokens).lookup text = (auditTokens.lookup text).map (Option.map fun token => { token with type }) := by
  induction auditTokens with
  | nil => rfl
  | cons entry rest ih =>
    rw [retyped, map_cons, lookup_cons, lookup_cons, ← retyped, ih]
    cases text == entry.1 <;> rfl

theorem retyped_issue {metadata : IssueMetadata} (typed : type ≠ [])
    (valid : validateIssueActionTokenTypes auditTokens metadata = .ok ()) :
    validateIssueActionTokenTypes (retyped type auditTokens) metadata = .ok () := by
  simp only [validateIssueActionTokenTypes, ok_iff] at valid ⊢
  obtain ⟨_, run, _⟩ := valid
  have followed := fold_each_follows (checkIssueInputTokenType (retyped type auditTokens))
    (fun _ twin => twin = [] ∨ twin = type) ?_ 0 _ [] (.inl rfl) run
  · obtain ⟨last, done, _⟩ := followed
    exact ⟨last, done, trivial⟩
  · intro i state twin input next before stepped
    unfold checkIssueInputTokenType at stepped ⊢
    split at stepped
    · exact ⟨twin, rfl, before⟩
    · simp only [ok_iff] at stepped
      obtain ⟨found, there, _⟩ := stepped
      rw [lookup_retyped, there]
      cases found with
      | none => exact ⟨twin, rfl, before⟩
      | some token =>
        have kept : (Option.some { token with type }).filter (fun token => token.type ≠ []) = Option.some { token with type } := by
          simp [Option.filter, typed]
        simp only [Option.map_some, ok_iff]
        by_cases none : twin = []
        · refine ⟨type, ⟨_, rfl, ?_⟩, .inr rfl⟩
          rw [kept]
          exact if_pos none
        · refine ⟨twin, ⟨_, rfl, ?_⟩, before⟩
          simp only [kept, if_neg none, ok_iff]
          exact ⟨(), before.resolve_left none, trivial⟩

theorem retyped_transfer {metadata : TransferMetadata} {precision : UInt64}
    (valid : validateTransferActionTokenTypes auditTokens metadata true precision = .ok ()) :
    validateTransferActionTokenTypes (retyped type auditTokens) metadata true precision = .ok () := by
  simp only [validateTransferActionTokenTypes, inputTotal, ok_iff] at valid ⊢
  obtain ⟨_, some, _, run, _⟩ := valid
  have followed := fold_each_follows (checkTransferInputTokenType (retyped type auditTokens) true precision)
    (fun total twin => (twin.actionTokenType = [] ∨ twin.actionTokenType = type) ∧ twin.inputSum = total.inputSum)
    ?_ 0 _ _ ⟨.inl rfl, rfl⟩ run
  · obtain ⟨last, done, _⟩ := followed
    exact ⟨(), by simpa [retyped] using some, last, done, trivial⟩
  · rintro i total ⟨actionTokenType, _⟩ input next ⟨before, rfl⟩ stepped
    simp only [checkTransferInputTokenType, if_true, ok_iff] at stepped ⊢
    obtain ⟨metadata, rfl, id, named, _, there, token, rfl, _, _, quantity, converted, sum, added, rfl⟩ := stepped
    have here : (retyped type auditTokens).lookup id.text = Option.some (Option.some { token with type }) := by
      rw [lookup_retyped, there]
      rfl
    refine ⟨_, ⟨metadata, rfl, id, named, _, here, _, rfl, (), before, quantity, converted, sum, added, rfl⟩, ?_, rfl⟩
    dsimp only
    split
    · exact .inr rfl
    · exact before

end Retyped

end Panurus.Core
