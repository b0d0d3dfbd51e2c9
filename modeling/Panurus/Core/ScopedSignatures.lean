import Panurus.Core.Backend

namespace Panurus.Core

open List Lib Outcome Driver

variable {P T IA TA : Type} {raw : Bytes} {position : Nat} {verifiers : List Verifier} {next : Backend}

def initialProvider (request : TokenRequest) (signed : Bytes) (clock : Clock) (actionID : UInt32) : Backend :=
  Backend.new signed (actionSignaturesByID request actionID) (clock.signing actionID)

theorem action_providers_eq (request : TokenRequest) (signed : Bytes) (clock : Clock) (actionID : UInt32) :
    actionProviders request signed clock actionID =
      if actionID.toNat < request.actions.length then some (initialProvider request signed clock actionID) else none := by
  unfold actionProviders
  induction request.actions.length with
  | zero => simp
  | succ n ih =>
    rw [range_succ, foldl_append, foldl_cons, foldl_nil]
    by_cases same : actionID = UInt32.ofNat n
    · subst same
      have low : (UInt32.ofNat n).toNat < n + 1 := by
        rw [UInt32.toNat_ofNat']
        omega
      rw [Function.update_self, if_pos low, initialProvider]
    · have other : actionID.toNat ≠ n := by
        intro reached
        exact same (by rw [← reached, UInt32.ofNat_toNat])
      have step : actionID.toNat < n + 1 ↔ actionID.toNat < n := by omega
      rw [Function.update_of_ne same, ih]
      simp [step]

def Deserialized (readIssue : Bytes → IA → Prop) (readTransfer : Bytes → TA → Prop) (entry : TypedAction) :
    ActionValue IA TA → Prop
  | .issue action => entry.type = .issue ∧ readIssue entry.raw action
  | .transfer action => entry.type = .transfer ∧ readTransfer entry.raw action

def Reads (v : Validator P T IA TA) (readIssue : Bytes → IA → Prop) (readTransfer : Bytes → TA → Prop) : Prop :=
  ∀ request issues transfers, v.deserializeActions request = .ok (issues, transfers) →
    Forall₂ (fun raw issue => ∃ action, issue = some action ∧ readIssue raw action) request.getIssues issues ∧
    Forall₂ (fun raw transfer => ∃ action, transfer = some action ∧ readTransfer raw action) request.getTransfers transfers

def Placed (readIssue : Bytes → IA → Prop) (readTransfer : Bytes → TA → Prop) (entry : TypedAction × Nat)
    (action : DeserializedAction IA TA) : Prop :=
  action.index = entry.2 ∧ action.actionID = UInt32.ofNat entry.2 ∧ Deserialized readIssue readTransfer entry.1 action.value

def rawsOf (type : ActionType) (entries : List TypedAction) : List Bytes :=
  (entries.filter fun entry => entry.type = type).map TypedAction.raw

section

variable {type : ActionType} {entry : TypedAction} {tail : List TypedAction}

theorem raws_of_cons_same (same : entry.type = type) : rawsOf type (entry :: tail) = entry.raw :: rawsOf type tail := by
  simp [rawsOf, same]

theorem raws_of_cons_other (other : entry.type ≠ type) : rawsOf type (entry :: tail) = rawsOf type tail := by
  simp [rawsOf, other]

end

theorem position_read {A : Type} {read : Bytes → A → Prop} {raws : List Bytes} {found : List (Option A)} {action : A}
    (reads : Forall₂ (fun raw item => ∃ action, item = some action ∧ read raw action) (raw :: raws) (found.drop position))
    (picked : found[position]?.join = some action) :
    read raw action ∧
      Forall₂ (fun raw item => ∃ action, item = some action ∧ read raw action) raws (found.drop (position + 1)) := by
  cases rest : found.drop position with
  | nil =>
    rw [rest] at reads
    cases reads
  | cons item tail =>
    have here : found[position]? = some item := by
      have first := congrArg (fun items => items[0]?) rest
      simpa using first
    have after : found.drop (position + 1) = tail := by
      have later := congrArg List.tail rest
      simpa using later
    rw [rest] at reads
    cases reads with
    | cons head others =>
      obtain ⟨action', rfl, reading⟩ := head
      rw [here] at picked
      obtain rfl : action' = action := by simpa using picked
      exact ⟨reading, after ▸ others⟩

section Walking

variable {readIssue : Bytes → IA → Prop} {readTransfer : Bytes → TA → Prop} {issues : List (Option IA)}
  {transfers : List (Option TA)}
theorem walk_next_ok {index : Nat} {walk next : Walk IA TA} {entry : TypedAction}
    (stepped : Walk.next issues transfers index walk entry = .ok next) :
    (∃ action, entry.type = .issue ∧ issues[walk.issueIndex]?.join = some action ∧
      next.issueIndex = walk.issueIndex + 1 ∧ next.transferIndex = walk.transferIndex ∧
      next.actions = walk.actions ++ [{ index, actionID := UInt32.ofNat index, value := .issue action }]) ∨
    (∃ action, entry.type = .transfer ∧ transfers[walk.transferIndex]?.join = some action ∧
      next.issueIndex = walk.issueIndex ∧ next.transferIndex = walk.transferIndex + 1 ∧
      next.actions = walk.actions ++ [{ index, actionID := UInt32.ofNat index, value := .transfer action }]) := by
  cases kind : entry.type with
  | issue =>
    simp only [Walk.next, kind, ok_iff] at stepped
    obtain ⟨action, picked, rfl⟩ := stepped
    exact .inl ⟨action, rfl, picked, rfl, rfl, rfl⟩
  | transfer =>
    simp only [Walk.next, kind, ok_iff] at stepped
    obtain ⟨action, picked, rfl⟩ := stepped
    exact .inr ⟨action, rfl, picked, rfl, rfl, rfl⟩
  | unspecified | unknown number => simp [Walk.next, kind] at stepped

theorem walk_placed (entries : List TypedAction) : ∀ (start : Nat) (walk final : Walk IA TA),
    foldEach (Walk.next issues transfers) start walk entries = .ok final →
    Forall₂ (fun raw item => ∃ action, item = some action ∧ readIssue raw action)
      (rawsOf .issue entries) (issues.drop walk.issueIndex) →
    Forall₂ (fun raw item => ∃ action, item = some action ∧ readTransfer raw action)
      (rawsOf .transfer entries) (transfers.drop walk.transferIndex) → ∃ added, final.actions = walk.actions ++ added ∧
      Forall₂ (Placed readIssue readTransfer) (entries.zipIdx start) added := by
  induction entries with
  | nil =>
    intro start walk final run _ _
    obtain rfl : walk = final := by simpa [foldEach] using run
    exact ⟨[], by simp, by simp⟩
  | cons entry tail ih =>
    intro start walk final run issuesRead transfersRead
    rw [foldEach, bind_ok_iff] at run
    obtain ⟨next, stepped, remaining⟩ := run
    rcases walk_next_ok stepped with ⟨action, kind, picked, issueMoved, transferKept, appended⟩ |
      ⟨action, kind, picked, issueKept, transferMoved, appended⟩
    · rw [raws_of_cons_same kind] at issuesRead
      rw [raws_of_cons_other (by simp [kind])] at transfersRead
      obtain ⟨reading, others⟩ := position_read issuesRead picked
      obtain ⟨added, total, placed⟩ := ih (start + 1) next final remaining
        (by rwa [issueMoved]) (by rwa [transferKept])
      refine ⟨{ index := start, actionID := UInt32.ofNat start, value := .issue action } :: added, ?_,
        .cons ⟨rfl, rfl, kind, reading⟩ placed⟩
      rw [total, appended, append_assoc, singleton_append]
    · rw [raws_of_cons_other (by simp [kind])] at issuesRead
      rw [raws_of_cons_same kind] at transfersRead
      obtain ⟨reading, others⟩ := position_read transfersRead picked
      obtain ⟨added, total, placed⟩ := ih (start + 1) next final remaining
        (by rwa [issueKept]) (by rwa [transferMoved])
      refine ⟨{ index := start, actionID := UInt32.ofNat start, value := .transfer action } :: added, ?_,
        .cons ⟨rfl, rfl, kind, reading⟩ placed⟩
      rw [total, appended, append_assoc, singleton_append]

end Walking

theorem deserialized_in_request_order {v : Validator P T IA TA} {readIssue : Bytes → IA → Prop}
    {readTransfer : Bytes → TA → Prop} (reads : Reads v readIssue readTransfer) {request : TokenRequest}
    {actions : List (DeserializedAction IA TA)} (done : v.deserializeActionsInRequestOrder request = .ok actions) :
    Forall₂ (Placed readIssue readTransfer) request.actions.zipIdx actions := by
  simp only [Validator.deserializeActionsInRequestOrder, ok_iff, Prod.exists] at done
  obtain ⟨issues, transfers, found, walk, walked, _, _, rfl⟩ := done
  obtain ⟨issuesRead, transfersRead⟩ := reads request issues transfers found
  obtain ⟨added, total, placed⟩ := walk_placed request.actions 0 _ walk walked
    (by simpa [rawsOf, TokenRequest.getIssues] using issuesRead)
    (by simpa [rawsOf, TokenRequest.getTransfers] using transfersRead)
  rw [total]
  exact placed

structure SignedExactly (message : Bytes) (sigs : List Bytes) (clock : Nat → Readings) (verifiers : List Verifier) : Prop where
  count : sigs.length = verifiers.length
  verified : ∀ (k : Nat) (verifier : Verifier), verifiers[k]? = some verifier →
    ∃ sigma, sigs[k]? = some sigma ∧ verifier (clock k) message sigma = .ok ()

theorem signed_exactly {message : Bytes} {sigs : List Bytes} {clock : Nat → Readings}
    (signed : Signed (Backend.new message sigs clock) verifiers next)
    (exhausted : next.ensureExhausted = .ok ()) : SignedExactly message sigs clock verifiers := by
  refine ⟨(signed_exhausted signed rfl exhausted).symm, ?_⟩
  intro k verifier asked
  have checked := signed.verified k verifier asked
  simpa only [Backend.new, Nat.zero_add] using checked

section Scoped

variable {v : Validator P T IA TA} {clock : Clock} {request : TokenRequest}
  {state : (UInt32 → Option Backend) × List (ActionValue IA TA)} {action : DeserializedAction IA TA}
  {required : ActionValue IA TA → List Verifier → Prop} {signed : Bytes} {readIssue : Bytes → IA → Prop}
  {readTransfer : Bytes → TA → Prop}

theorem verify_scoped_ok {next : (UInt32 → Option Backend) × List (ActionValue IA TA)}
    (stepped : v.verifyScoped clock request state action = .ok next) :
    ∃ consumed, v.verifyDeserializedAction clock request
        ((state.1 action.actionID).getD (Backend.new [] [] (clock.signing action.actionID))) action = .ok consumed ∧
      consumed.ensureExhausted = .ok () ∧
      next.1 = Function.update state.1 action.actionID ((state.1 action.actionID).map fun _ => consumed) ∧
      next.2 = state.2 ++ [action.value] := by
  simp only [Validator.verifyScoped, ok_iff] at stepped
  obtain ⟨consumed, verified, _, exhausted, rfl⟩ := stepped
  exact ⟨consumed, verified, exhausted, rfl, rfl⟩

-- The providers before the action at a position is verified: those of earlier positions have nothing left, those of
-- later ones are untouched.
structure Ready (request : TokenRequest) (signed : Bytes) (clock : Clock) (position : Nat)
    (providers : UInt32 → Option Backend) : Prop where
  bound : position ≤ 2 ^ 32
  fresh : ∀ id : UInt32, position ≤ id.toNat → id.toNat < request.actions.length →
    providers id = some (initialProvider request signed clock id)
  exhausted : ∀ id : UInt32, id.toNat < position → ∃ provider, providers id = some provider ∧ provider.ensureExhausted = .ok ()

theorem exhausted_signs_nothing {b : Backend} (signed : Signed b verifiers next)
    (before : b.ensureExhausted = .ok ()) (after : next.ensureExhausted = .ok ()) : verifiers = [] := by
  rw [Backend.ensureExhausted, ensure_ok_iff] at before after
  have moved := signed.cursor
  rw [after, signed.sigs] at moved
  exact eq_nil_of_length_eq_zero (by omega)

section

variable (sound : ∀ action provider consumed, v.verifyDeserializedAction clock request provider action = .ok consumed →
  ∃ verifiers, verifiers ≠ [] ∧ required action.value verifiers ∧ Signed provider verifiers consumed)

include sound

theorem verify_scoped_ready {next : (UInt32 → Option Backend) × List (ActionValue IA TA)}
    (ready : Ready request signed clock position state.1) (inside : position < request.actions.length)
    (placed : action.actionID = UInt32.ofNat position) (stepped : v.verifyScoped clock request state action = .ok next) :
    Ready request signed clock (position + 1) next.1 ∧ ∃ verifiers, required action.value verifiers ∧
      SignedExactly signed (actionSignaturesByID request action.actionID) (clock.signing action.actionID) verifiers := by
  obtain ⟨consumed, verified, exhausted, providers, _⟩ := verify_scoped_ok stepped
  obtain ⟨verifiers, nonempty, needed, signing⟩ := sound action _ consumed verified
  by_cases last : position = 2 ^ 32
  · have first : action.actionID.toNat < position := by rw [placed, last]; decide
    obtain ⟨provider, present, spent⟩ := ready.exhausted _ first
    rw [present] at signing
    exact absurd (exhausted_signs_nothing signing spent exhausted) nonempty
  · have low : position < 2 ^ 32 := by have bound := ready.bound; omega
    have here : action.actionID.toNat = position := by rw [placed, UInt32.toNat_ofNat_of_lt' low]
    have present := ready.fresh action.actionID (by omega) (by omega)
    rw [present] at signing
    refine ⟨⟨by omega, ?_, ?_⟩, verifiers, needed, signed_exactly signing exhausted⟩
    · intro id later known
      have different : id ≠ action.actionID := by
        rintro rfl
        omega
      rw [providers, Function.update_of_ne different]
      exact ready.fresh id (by omega) known
    · intro id earlier
      by_cases same : id = action.actionID
      · subst same
        exact ⟨consumed, by rw [providers, Function.update_self, present, Option.map_some], exhausted⟩
      · have other : id.toNat ≠ position := by
          intro reached
          exact same (UInt32.toNat_inj.mp (reached.trans here.symm))
        rw [providers, Function.update_of_ne same]
        exact ready.exhausted id (by omega)

def Authorised (readIssue : Bytes → IA → Prop) (readTransfer : Bytes → TA → Prop)
    (required : ActionValue IA TA → List Verifier → Prop) (request : TokenRequest) (signed : Bytes) (clock : Clock)
    (entry : TypedAction × Nat) (value : ActionValue IA TA) : Prop :=
  Deserialized readIssue readTransfer entry.1 value ∧ ∃ verifiers, required value verifiers ∧
    SignedExactly signed (actionSignaturesByID request (UInt32.ofNat entry.2)) (clock.signing (UInt32.ofNat entry.2)) verifiers

theorem verify_scoped_run (entries : List TypedAction) : ∀ (start : Nat) (actions : List (DeserializedAction IA TA))
      (state final : (UInt32 → Option Backend) × List (ActionValue IA TA)),
    Forall₂ (Placed readIssue readTransfer) (entries.zipIdx start) actions →
    actions.foldlM (v.verifyScoped clock request) state = .ok final → Ready request signed clock start state.1 →
    start + entries.length ≤ request.actions.length →
    Ready request signed clock (start + entries.length) final.1 ∧ ∃ added, final.2 = state.2 ++ added ∧
      Forall₂ (Authorised readIssue readTransfer required request signed clock) (entries.zipIdx start) added := by
  induction entries with
  | nil =>
    intro start actions state final placed run ready _
    cases placed
    obtain rfl : state = final := by simpa only [foldlM_nil, pure_ok_iff] using run
    exact ⟨ready, [], by simp, by simp⟩
  | cons entry tail ih =>
    intro start actions state final placed run ready inside
    rw [length_cons] at inside ⊢
    cases placed with
    | cons here later =>
      rw [foldlM_cons, bind_ok_iff] at run
      obtain ⟨next, stepped, remaining⟩ := run
      obtain ⟨_, identified, deserialized⟩ := here
      obtain ⟨moved, verifiers, needed, exactly⟩ := verify_scoped_ready sound ready (by omega) identified stepped
      obtain ⟨_, _, _, _, appended⟩ := verify_scoped_ok stepped
      obtain ⟨finished, added, total, authorised⟩ := ih (start + 1) _ next final later remaining moved (by omega)
      refine ⟨by rwa [Nat.add_comm tail.length, ← Nat.add_assoc], _ :: added, ?_,
        .cons ⟨deserialized, verifiers, needed, identified ▸ exactly⟩ authorised⟩
      rw [total, appended, append_assoc, singleton_append]

end

theorem ready_start (signed : Bytes) : Ready request signed clock 0 (actionProviders request signed clock) := by
  refine ⟨by decide, ?_, ?_⟩
  · intro id _ known
    rw [action_providers_eq, if_pos known]
  · intro id impossible
    exact absurd impossible (Nat.not_lt_zero _)

structure Accepted (unmarshal : Bytes → Outcome Proto.TokenRequest) (v : Validator P T IA TA) (clock : Clock)
    (readIssue : Bytes → IA → Prop) (readTransfer : Bytes → TA → Prop) (required : ActionValue IA TA → List Verifier → Prop)
    (anchor raw : Bytes) (values : List (ActionValue IA TA)) (request : TokenRequest) (signed : Bytes) : Prop where
  parsed : TokenRequest.fromBytes unmarshal raw = .ok request
  size : (raw.length : Int) ≤ v.limits.maxRequestBytes.toInt
  marshalled : request.marshalToMessageToSign anchor = .ok signed
  known : ∀ action ∈ actionSignatures request, action.actionID.toNat < request.actions.length
  bound : request.actions.length ≤ 2 ^ 32
  audited : ∃ consumed, v.verifyAuditing request (Backend.new signed ((auditorSignatures request).map AuditorSignature.signature)
    clock.auditorSigning) clock.auditing = .ok consumed ∧ consumed.ensureExhausted = .ok ()
  authorised : Forall₂ (Authorised readIssue readTransfer required request signed clock) request.actions.zipIdx values

theorem verify_token_request_accepted {unmarshal : Bytes → Outcome Proto.TokenRequest} {anchor : Bytes}
    {values : List (ActionValue IA TA)} {attributes : ValidationAttributes} (reads : Reads v readIssue readTransfer)
    (sound : ∀ request action provider consumed, v.verifyDeserializedAction clock request provider action = .ok consumed →
      ∃ verifiers, verifiers ≠ [] ∧ required action.value verifiers ∧ Signed provider verifiers consumed)
    (done : v.verifyTokenRequestFromRaw unmarshal clock anchor raw = .ok (values, attributes)) :
    ∃ request signed, Accepted unmarshal v clock readIssue readTransfer required anchor raw values request signed := by
  simp only [Validator.verifyTokenRequestFromRaw, Validator.verifyTokenRequestWithScopedSignatures, checkRawRequestSize, ok_iff,
    within_ok_iff, Prod.exists, Prod.mk.injEq, exists_const] at done
  obtain ⟨_, size, request, parsed, _, _, _, _, _, signed, marshalled, ⟨⟩, checked, consumed, audited, ⟨⟩, exhausted,
    actions, deserialized, providers, res, run, rfl, _⟩ := done
  have known : ∀ action ∈ actionSignatures request, action.actionID.toNat < request.actions.length := by
    intro action mem
    have inRange := check_each_mem.mp checked action mem
    rwa [checkActionID, ensure_ok_iff] at inRange
  have placed := deserialized_in_request_order reads deserialized
  obtain ⟨ready, added, total, authorised⟩ := verify_scoped_run (sound request) request.actions 0 actions _ _ placed run
    (ready_start signed) (by omega)
  obtain rfl : res = added := by simpa using total
  exact ⟨request, signed, parsed, size, marshalled, known, by simpa using ready.bound, ⟨consumed, audited, exhausted⟩, authorised⟩

end Scoped

end Panurus.Core
