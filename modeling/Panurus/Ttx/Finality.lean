import Panurus.Recovery.Invariant

namespace Panurus.Ttx.Finality

open List Lib Outcome Attempts
open Panurus.Recovery (Config RecoveryClaim finishRecovery isNotFoundError)

inductive TxStatus where
  | unknown
  | pending
  | confirmed
  | deleted
  | orphan
  deriving DecidableEq, Repr

inductive NetworkStatus where
  | valid (tokenRequestHash : Bytes)
  | invalid
  | busy
  | unknown
  | unrecognized
  deriving DecidableEq, Repr

-- One transaction at one node: its row, and the hash of its token request, which is not changed.
structure Node where
  config : Config
  claim : RecoveryClaim
  ownerID : Bytes
  requestHash : Bytes

-- What the local calls give, with the texts that their callers put around the errors.
structure Local where
  cached : Bool
  getTokenRequest : Outcome Unit
  processTokenRequest : Outcome Unit
  commit : Outcome Unit
  setStatus : Outcome Unit

def loadTokenRequest (calls : Local) : Outcome Unit :=
  if calls.cached then return () else do
    calls.getTokenRequest
    calls.processTokenRequest

def handleValidStatus (node : Node) (calls : Local) (tokenRequestHash : Bytes) : Outcome TxStatus := do
  loadTokenRequest calls
  if node.requestHash ≠ tokenRequestHash then return .deleted
  else do
    calls.commit
    return .confirmed

def updateStatus (calls : Local) (status : TxStatus) : Outcome Unit :=
  if status ≠ .confirmed then calls.setStatus else return ()

def applyFinalityLogic (node : Node) (calls : Local) : NetworkStatus → Outcome (Option TxStatus)
  | .valid tokenRequestHash => do
    let status ← handleValidStatus node calls tokenRequestHash
    updateStatus calls status
    return some status
  | .invalid => do
    updateStatus calls .deleted
    return some .deleted
  | _ => return none

def runOnStatus (node : Node) (calls : Local) : NetworkStatus → Outcome (Option TxStatus)
  | .unrecognized => .error "unrecognized transaction status"
  | status => applyFinalityLogic node calls status

-- An attempt at recovery claims the row, gets an answer from the network, acts on it and finishes with the error. A
-- notification of the listener is acted on until that succeeds.
inductive Handling where
  | claimed
  | answered (status : NetworkStatus)
  | returned (err : Option String)
  | notified (status : NetworkStatus)
  | ended
  deriving DecidableEq, Repr

-- The last field is for the proofs: a verdict has been lost.
structure State where
  ledger : Option Bytes
  handlings : List Handling
  status : TxStatus
  tokens : Bool
  overwritten : Bool

inductive Action where
  | finalize (tokenRequestHash : Bytes)
  | claim
  | notify (status : NetworkStatus)
  | query (k : Nat) (answer : Outcome NetworkStatus)
  | apply (k : Nat) (calls : Local)
  | finish (k : Nat) (now : Int) (allowOrphanPromotion : Bool) (setStatus : Outcome Unit)

-- A transaction that is valid stays so; before that the network may take it for one that is not.
def NetworkStatus.possible (ledger : Option Bytes) : NetworkStatus → Bool
  | .valid tokenRequestHash => ledger = some tokenRequestHash
  | .invalid => ledger = none
  | _ => true

def TxStatus.losesTo : TxStatus → TxStatus → Bool
  | .confirmed, .deleted | .confirmed, .orphan | .deleted, .orphan => true
  | _, _ => false

def State.new : State := { ledger := none, handlings := [], status := .pending, tokens := false, overwritten := false }

def State.move (s : State) (k : Nat) (h : Handling) : State := { s with handlings := s.handlings.set k h }

def State.setStatus (s : State) : Option TxStatus → State
  | none => s
  | some status =>
    { s with status, tokens := s.tokens || status = .confirmed, overwritten := s.overwritten || s.status.losesTo status }

def disabled : String := "disabled"

def step (node : Node) (s : State) : Action → Outcome State
  | .finalize tokenRequestHash => do
    ensure (s.ledger = none) disabled
    return { s with ledger := some tokenRequestHash }
  | .claim => do
    ensure (s.status = .pending) disabled
    return { s with handlings := s.handlings ++ [.claimed] }
  | .notify status => do
    ensure (status.possible s.ledger) disabled
    return { s with handlings := s.handlings ++ [.notified status] }
  | .query k answer => do
    ensure (s.handlings[k]? = some .claimed) disabled
    match answer with
    | .ok status => do
      ensure (status.possible s.ledger) disabled
      return s.move k (.answered status)
    | .error err => return s.move k (.returned (some err))
  | .apply k calls =>
    match s.handlings[k]? with
    | some (.answered status) =>
      match applyFinalityLogic node calls status with
      | .ok stored => return (s.move k (.returned none)).setStatus stored
      | .error err => return s.move k (.returned (some err))
    | some (.notified status) => do
      let stored ← runOnStatus node calls status
      return (s.move k .ended).setStatus stored
    | _ => .error disabled
  | .finish k now allowOrphanPromotion setStatus =>
    match s.handlings[k]? with
    | some (.returned err) =>
      let calls := finishRecovery node.config now setStatus node.claim node.ownerID err
      let markedOrphan := allowOrphanPromotion ∧ .setStatusOrphan node.claim.txID ∈ calls ∧ setStatus.isOk
      return (s.move k .ended).setStatus (if markedOrphan then some .orphan else none)
    | _ => .error disabled

-- The row is not on the ledger after the grace period.
def Node.GivesUp (node : Node) (now : Int) (err : Option String) : Prop :=
  node.config.notFoundGracePeriod > 0 ∧ isNotFoundError err ∧
    node.claim.storedAt.any fun storedAt => decide (now - storedAt > node.config.notFoundGracePeriod)

instance (node : Node) (now : Int) (err : Option String) : Decidable (node.GivesUp now err) :=
  inferInstanceAs (Decidable (_ ∧ _ ∧ _))

-- The stored statuses that are lost when the action takes the handling on.
def Handling.endangers (node : Node) : Handling → Action → List TxStatus
  | .answered .invalid, .apply _ _ | .notified .invalid, .apply _ _ => [.confirmed]
  | .returned err, .finish _ now true (.ok ()) => if node.GivesUp now err then [.confirmed, .deleted] else []
  | _, _ => []

def State.taken (s : State) : Action → Option Handling
  | .apply k _ | .finish k _ _ _ => s.handlings[k]?
  | _ => none

def Undisturbed (node : Node) (s : State) (action : Action) : Prop := ∀ h ∈ s.taken action, s.status ∉ h.endangers node action

instance (node : Node) (s : State) (action : Action) : Decidable (Undisturbed node s action) :=
  inferInstanceAs (Decidable (∀ h ∈ _, _))

def Handling.told : Handling → Option NetworkStatus
  | .answered status | .notified status => some status
  | _ => none

structure Invariant (node : Node) (s : State) : Prop where
  kept : s.overwritten = false
  valid : s.status = .confirmed → s.ledger = some node.requestHash
  told : ∀ h ∈ s.handlings, ∀ hash, h.told = some (.valid hash) → s.ledger = some hash

variable {node : Node} {s next : State} {k : Nat} {old new : Handling} {calls : Local} {status : NetworkStatus}
  {stored : Option TxStatus}

theorem apply_finality_ok (applied : applyFinalityLogic node calls status = .ok stored) :
    stored = none ∨ status = .invalid ∧ stored = some .deleted ∨
      ∃ hash, status = .valid hash ∧ stored = some (if node.requestHash = hash then .confirmed else .deleted) := by
  cases status with
  | valid hash =>
    refine .inr (.inr ⟨hash, rfl, ?_⟩)
    obtain ⟨result, handled, rest⟩ := bind_ok_iff.mp applied
    obtain ⟨_, _, handled⟩ := bind_ok_iff.mp handled
    obtain ⟨_, _, rest⟩ := bind_ok_iff.mp rest
    rw [← Except.ok.inj rest]
    by_cases same : node.requestHash = hash
    · rw [if_neg (not_not_intro same)] at handled
      obtain ⟨_, _, handled⟩ := bind_ok_iff.mp handled
      rw [if_pos same, Except.ok.inj handled]
    · rw [if_pos same] at handled
      rw [if_neg same, Except.ok.inj handled]
  | invalid =>
    simp only [applyFinalityLogic, ok_iff] at applied
    obtain ⟨_, _, rfl⟩ := applied
    exact .inr (.inl ⟨rfl, rfl⟩)
  | busy | unknown | unrecognized => exact .inl (Except.ok.inj applied).symm

open Handling

section

variable (invariant : Invariant node s)

include invariant

-- What a handling stores, it stores over no verdict that it endangers.
theorem finality_keeps (found : s.handlings[k]? = some old) (undisturbed : Undisturbed node s (.apply k calls))
    (told : old.told = some status) (applied : applyFinalityLogic node calls status = .ok stored) :
    ∀ result, stored = some result →
      s.status.losesTo result = false ∧ (result = .confirmed → s.ledger = some node.requestHash) := by
  rintro result rfl
  have lost : s.status ≠ .confirmed → s.status.losesTo .deleted = false := by
    cases s.status <;> simp [TxStatus.losesTo]
  rcases apply_finality_ok applied with none | ⟨rejected, same⟩ | ⟨hash, accepted, same⟩
  · cases none
  · cases same
    refine ⟨lost fun confirmed => ?_, by simp⟩
    have fresh := undisturbed old found
    cases old <;> simp_all [Handling.told, Handling.endangers]
  · have onLedger := invariant.told old (mem_of_getElem? found) hash (accepted ▸ told)
    by_cases matching : node.requestHash = hash
    · cases same.trans (by rw [if_pos matching])
      exact ⟨by cases s.status <;> rfl, fun _ => matching ▸ onLedger⟩
    · cases same.trans (by rw [if_neg matching])
      refine ⟨lost fun confirmed => ?_, by simp⟩
      rw [invariant.valid confirmed] at onLedger
      exact matching (Option.some.inj onLedger)

-- Handlings begin and move on.
theorem handled_invariant {handlings : List Handling} (new : Handling) (others : ∀ h ∈ handlings, h ∈ s.handlings ∨ h = new)
    (told : ∀ hash, new.told = some (.valid hash) → s.ledger = some hash) : Invariant node { s with handlings } := by
  refine ⟨invariant.kept, invariant.valid, fun h mem => ?_⟩
  rcases others h mem with before | rfl
  · exact invariant.told h before
  · exact told

theorem move_invariant (told : ∀ hash, new.told = some (.valid hash) → s.ledger = some hash) : Invariant node (s.move k new) :=
  handled_invariant invariant new (fun _ => mem_or_eq_of_mem_set) told

theorem set_status_invariant (keeps : ∀ result, stored = some result →
      s.status.losesTo result = false ∧ (result = .confirmed → s.ledger = some node.requestHash)) :
    Invariant node (s.setStatus stored) := by
  cases stored with
  | none => exact invariant
  | some result =>
    obtain ⟨kept, valid⟩ := keeps result rfl
    exact ⟨by simp [State.setStatus, invariant.kept, kept], valid, invariant.told⟩

theorem step_invariant {action : Action} (undisturbed : Undisturbed node s action) (stepped : step node s action = .ok next) :
    Invariant node next := by
  have possible_told {status : NetworkStatus} (possible : status.possible s.ledger) :
      ∀ hash, some status = some (.valid hash) → s.ledger = some hash := by
    rintro hash ⟨⟩
    simpa [NetworkStatus.possible] using possible
  cases action with
  | finalize hash =>
    simp only [step, ok_iff] at stepped
    obtain ⟨_, unseen, rfl⟩ := stepped
    refine ⟨invariant.kept, fun confirmed => ?_, fun h mem other told => ?_⟩
    · cases unseen.symm.trans (invariant.valid confirmed)
    · cases unseen.symm.trans (invariant.told h mem other told)
  | claim =>
    simp only [step, ok_iff] at stepped
    obtain ⟨_, _, rfl⟩ := stepped
    exact handled_invariant invariant .claimed (by simp) (by simp [told])
  | notify status =>
    simp only [step, ok_iff] at stepped
    obtain ⟨_, possible, rfl⟩ := stepped
    exact handled_invariant invariant (.notified status) (by simp) (possible_told possible)
  | query k answer =>
    simp only [step, ok_iff] at stepped
    obtain ⟨_, _, stepped⟩ := stepped
    cases answer with
    | ok status =>
      simp only [ok_iff] at stepped
      obtain ⟨_, possible, rfl⟩ := stepped
      exact move_invariant invariant (possible_told possible)
    | error err =>
      cases stepped
      exact move_invariant invariant (by simp [told])
  | apply k calls =>
    simp only [step] at stepped
    split at stepped
    · rename_i status found
      split at stepped
      · rename_i stored applied
        cases stepped
        have keeps := finality_keeps invariant found undisturbed rfl applied
        exact set_status_invariant (move_invariant invariant (by simp [told])) keeps
      · cases stepped
        exact move_invariant invariant (by simp [told])
    · rename_i status found
      obtain ⟨stored, applied, result⟩ := bind_ok_iff.mp stepped
      cases result
      have recognized : applyFinalityLogic node calls status = .ok stored := by
        cases status with
        | unrecognized => cases applied
        | _ => exact applied
      have keeps := finality_keeps invariant found undisturbed rfl recognized
      exact set_status_invariant (move_invariant invariant (by simp [told])) keeps
    · cases stepped
  | finish k now allowed setStatus =>
    simp only [step] at stepped
    split at stepped
    · rename_i err found
      cases stepped
      have fresh := undisturbed _ found
      refine set_status_invariant (move_invariant invariant (by simp [told])) fun result marked => ?_
      split at marked
      · rename_i marks
        cases marked
        obtain ⟨rfl, given, stored⟩ := marks
        obtain ⟨_, rfl⟩ := is_ok_exists stored
        have givesUp : node.GivesUp now err := by simpa [finishRecovery, Node.GivesUp, and_assoc] using given
        refine ⟨?_, by simp⟩
        revert fresh
        simp only [endangers, if_pos givesUp, State.move]
        cases s.status <;> decide
      · cases marked
    · cases stepped

end

theorem verdict_not_overwritten (node : Node) (actions : List Action)
    (undisturbed : Along (step node) (Undisturbed node) .new actions) : (run (step node) .new actions).overwritten = false := by
  have initial : Invariant node .new := ⟨rfl, by simp [State.new], by simp [State.new]⟩
  have all := throughout_of_along (fun _ _ _ invariant => step_invariant invariant) initial undisturbed
  exact (throughout_run all).kept

namespace OneTransaction

def sender : Node :=
  { config := { instanceID := [7], workerCount := 1, transactionTimeout := 0, notFoundGracePeriod := 10 }
    claim := { txID := [5], storedAt := some 0 }
    ownerID := [7]
    requestHash := [1] }

def working : Local :=
  { cached := true, getTokenRequest := .ok (), processTokenRequest := .ok (), commit := .ok (), setStatus := .ok () }

def listened : List Action := [.finalize [1], .notify (.valid [1]), .apply 1 working]

-- Two attempts have claimed the row; the first finds nothing, within the grace period, and finishes after the listener.
def early : List Action :=
  [.claim, .claim, .query 0 (.error "tx not found"), .finalize [1], .notify (.valid [1]), .apply 2 working,
    .finish 0 5 true (.ok ()), .query 1 (.ok (.valid [1])), .apply 1 working, .finish 1 20 true (.ok ())]

theorem confirmed_stays : (run (step sender) .new early).status = .confirmed ∧
    (run (step sender) .new early).overwritten = false :=
  ⟨by decide, verdict_not_overwritten sender early (by decide)⟩

def overtaken (answer : Outcome NetworkStatus) (last : List Action) : State :=
  run (step sender) .new ([.claim, .query 0 answer] ++ listened ++ last)

-- The listener commits between the answer to the recovery and what is stored for it.
theorem confirmed_then_lost :
    (overtaken (.ok .invalid) []).status = .confirmed ∧ (overtaken (.ok .invalid) []).tokens ∧
      (overtaken (.ok .invalid) [.apply 0 working]).status = .deleted ∧
      (overtaken (.error "tx not found") []).status = .confirmed ∧
      (overtaken (.error "tx not found") [.finish 0 20 true (.ok ())]).status = .orphan := by
  decide

end OneTransaction

end Panurus.Ttx.Finality
