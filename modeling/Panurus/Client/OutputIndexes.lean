import Mathlib.Algebra.Order.BigOperators.Group.List
import Panurus.Client.Request

namespace Panurus.Client

open List Lib Outcome Driver

structure Extracted (kind : ActionType) (i : Nat) (counter : UInt64) (output : Option OutputInterface) (o : Output) : Prop where
  kind : o.actionType = kind
  action : o.actionIndex = i
  index : o.index = counter
  ledger : ∃ out raw, output = some out ∧ out.serialize = .ok raw ∧ (o.ledgerOutput = raw ∨ o.ledgerOutput = [])

variable {i : Nat} {counter : UInt64} {action : ActionInterface} {issueMeta : IssueMetadata}
  {transferMeta : TransferMetadata} {final walk : OutputWalk} {tms : ManagementService}
  {failOnMissing noOutputForRecipient : Bool} {r : Request}

section Bodies

variable {tms : ManagementService} {failOnMissing noOutputForRecipient : Bool} {j : Nat}
  {output : Option OutputInterface} {outputs : List Output}

theorem issue_output_extracted
    (done : issueOutput tms failOnMissing noOutputForRecipient i j counter action issueMeta output = .ok outputs) :
    ∀ o ∈ outputs, Extracted .issue i counter output o := by
  simp only [issueOutput, ok_iff] at done
  obtain ⟨out, present, raw, serialized, rest⟩ := done
  cases found : issueMeta.outputs[j]?.join with
  | none =>
    simp only [found, ok_iff] at rest
    obtain ⟨_, _, rfl⟩ := rest
    simp
  | some metadata =>
    simp only [found, ok_iff] at rest
    obtain ⟨clear, _, _, _, _, _, quantity, _, rest⟩ := rest
    intro o mem
    cases noOutputForRecipient with
    | true =>
      simp only [if_true, pure_ok_iff] at rest
      obtain rfl := mem_singleton.mp (rest ▸ mem)
      exact ⟨rfl, rfl, rfl, out, raw, present, serialized, .inl rfl⟩
    | false =>
      obtain ⟨entry, _, made⟩ := mapM_ok_mem rest mem
      simp only [ok_iff] at made
      obtain ⟨_, _, _, _, rfl⟩ := made
      exact ⟨rfl, rfl, rfl, out, raw, present, serialized, .inl rfl⟩

theorem transfer_output_extracted {recipientCounter : Nat}
    (done : transferOutput tms failOnMissing noOutputForRecipient i j counter recipientCounter action transferMeta output =
      .ok outputs) : ∀ o ∈ outputs, Extracted .transfer i counter output o := by
  simp only [transferOutput, ok_iff] at done
  obtain ⟨out, present, raw, serialized, rest⟩ := done
  cases found : transferMeta.outputs[j]?.join.filter fun metadata => metadata.outputMetadata ≠ [] with
  | none =>
    simp only [found, ok_iff] at rest
    obtain ⟨_, _, rfl⟩ := rest
    simp
  | some metadata =>
    simp only [found, ok_iff] at rest
    obtain ⟨clear, _, quantity, _, rest⟩ := rest
    intro o mem
    cases noOutputForRecipient with
    | true =>
      simp only [if_true, ok_iff] at rest
      obtain ⟨_, _, rfl⟩ := rest
      obtain rfl := mem_singleton.mp mem
      exact ⟨rfl, rfl, rfl, out, raw, present, serialized, .inl rfl⟩
    | false =>
      obtain ⟨entry, _, made⟩ := mapM_ok_mem rest mem
      simp only [bind_ok_iff] at made
      obtain ⟨_, _, made⟩ := made
      by_cases anonymous : clear.tok.owner = []
      · simp only [if_pos anonymous, pure_ok_iff] at made
        subst made
        exact ⟨rfl, rfl, rfl, out, raw, present, serialized, .inr rfl⟩
      · simp only [if_neg anonymous, ok_iff] at made
        obtain ⟨_, _, rfl⟩ := made
        exact ⟨rfl, rfl, rfl, out, raw, present, serialized, .inl rfl⟩

end Bodies

structure Numbered (kind : ActionType) (i : Nat) (start : UInt64) (outputs : List (Option OutputInterface))
    (walk : OutputWalk) : Prop where
  counter : walk.counter = start + UInt64.ofNat outputs.length
  extracted : ∀ o ∈ walk.outputs, ∃ (j : Nat) (output : Option OutputInterface), outputs[j]? = some output ∧
    Extracted kind i (start + UInt64.ofNat j) output o

theorem fold_numbered {kind : ActionType} {outputs : List (Option OutputInterface)}
    {body : Nat → OutputWalk → Option OutputInterface → Outcome (List Output)}
    (each : ∀ j walk output made, body j walk output = .ok made → ∀ o ∈ made, Extracted kind i walk.counter output o)
    (run : foldEach (fun j walk output => do
      let made ← body j walk output
      return walk.append made) 0 { outputs := [], counter } outputs = .ok final) : Numbered kind i counter outputs final := by
  refine fold_each_invariant (fun done state => Numbered kind i counter done state) ?_ ?_ run
  · intro done state output next before stepped
    simp only [ok_iff] at stepped
    obtain ⟨made, extracted, rfl⟩ := stepped
    constructor
    · rw [OutputWalk.append, before.counter, length_append, length_singleton, UInt64.ofNat_add, UInt64.add_assoc]
      rfl
    · intro o mem
      rcases mem_append.mp mem with old | new
      · obtain ⟨j, earlier, found, facts⟩ := before.extracted o old
        have bound := (List.getElem?_eq_some_iff.mp found).1
        exact ⟨j, earlier, by rwa [List.getElem?_append_left bound], facts⟩
      · refine ⟨done.length, output, by simp, ?_⟩
        rw [← before.counter]
        exact each _ _ _ _ extracted o new
  · exact ⟨by simp, by simp⟩

theorem extract_issue_numbered
    (done : extractIssueOutputs tms failOnMissing noOutputForRecipient i counter action issueMeta = .ok walk) :
    Numbered .issue i counter action.outputs walk := by
  simp only [extractIssueOutputs, bind_ok_iff] at done
  obtain ⟨_, _, run⟩ := done
  exact fold_numbered (fun _ _ _ _ made => issue_output_extracted made) run

theorem extract_transfer_numbered
    (done : extractTransferOutputs tms failOnMissing noOutputForRecipient i counter action transferMeta = .ok walk) :
    Numbered .transfer i counter action.outputs walk :=
  fold_numbered (fun _ _ _ _ made => transfer_output_extracted made) done

def outputTotal (actions : List ActionInterface) : Nat := (actions.map fun action => action.outputs.length).sum

structure Walked (deserialize : Bytes → Outcome ActionInterface) (kind : ActionType) (start : OutputWalk) (raws : List Bytes)
    (final : OutputWalk) (actions : List ActionInterface) : Prop where
  deserialized : List.Forall₂ (fun raw action => deserialize raw = .ok action) raws actions
  counter : final.counter = start.counter + UInt64.ofNat (outputTotal actions)
  outputs : ∀ o ∈ final.outputs, o ∈ start.outputs ∨ ∃ (i : Nat) (action : ActionInterface) (j : Nat)
    (output : Option OutputInterface), actions[i]? = some action ∧ action.outputs[j]? = some output ∧
      Extracted kind i (start.counter + UInt64.ofNat (outputTotal (actions.take i) + j)) output o

theorem walk_actions {σ : Type} (deserialize : Bytes → Outcome ActionInterface) (kind : ActionType)
    {step : Nat → σ → Bytes → Outcome σ} (view : σ → OutputWalk)
    (each : ∀ i state raw next, step i state raw = .ok next → ∃ action walk, deserialize raw = .ok action ∧
      Numbered kind i (view state).counter action.outputs walk ∧
      view next = { outputs := (view state).outputs ++ walk.outputs, counter := walk.counter })
    {start final : σ} {raws : List Bytes} (run : foldEach step 0 start raws = .ok final) :
    ∃ actions, Walked deserialize kind (view start) raws (view final) actions := by
  refine fold_each_invariant (fun done state => ∃ actions, Walked deserialize kind (view start) done (view state) actions)
    ?_ ⟨[], .nil, by simp [outputTotal], fun o mem => .inl mem⟩ run
  rintro done state raw next ⟨actions, before⟩ stepped
  obtain ⟨action, walk, read, numbered, viewed⟩ := each _ _ _ _ stepped
  have count : done.length = actions.length := before.deserialized.length_eq
  refine ⟨actions ++ [action], rel_append before.deserialized (.cons read .nil), ?_, ?_⟩
  · rw [viewed, numbered.counter, before.counter, UInt64.add_assoc, ← UInt64.ofNat_add]
    simp [outputTotal]
  · intro o mem
    rw [viewed] at mem
    rcases mem_append.mp mem with old | new
    · rcases before.outputs o old with initial | ⟨i, earlier, j, output, found, at_, facts⟩
      · exact .inl initial
      · have bound := (List.getElem?_eq_some_iff.mp found).1
        refine .inr ⟨i, earlier, j, output, by rwa [List.getElem?_append_left bound], at_, ?_⟩
        rwa [List.take_append_of_le_length (by omega)]
    · obtain ⟨j, output, at_, facts⟩ := numbered.extracted o new
      refine .inr ⟨actions.length, action, j, output, by simp, at_, ?_⟩
      rw [take_left, UInt64.ofNat_add, ← UInt64.add_assoc, ← before.counter, ← count]
      exact facts

structure ClientIndexes (tms : ManagementService) (r : Request) (walk : OutputWalk) (issues transfers : List ActionInterface) :
    Prop where
  issuesRead : List.Forall₂ (fun raw action => tms.deserializeIssueAction raw = .ok action) r.actions.getIssues issues
  transfersRead : List.Forall₂ (fun raw action => tms.deserializeTransferAction raw = .ok action) r.actions.getTransfers
    transfers
  outputs : ∀ o ∈ walk.outputs, ∃ (i : Nat) (action : ActionInterface) (j : Nat) (output : Option OutputInterface),
    action.outputs[j]? = some output ∧
    ((issues[i]? = some action ∧ Extracted .issue i (UInt64.ofNat (outputTotal (issues.take i) + j)) output o) ∨
     (transfers[i]? = some action ∧
      Extracted .transfer i (UInt64.ofNat (outputTotal issues + outputTotal (transfers.take i) + j)) output o))

theorem walked_both {middle : OutputWalk} {issues transfers : List ActionInterface}
    (first : Walked tms.deserializeIssueAction .issue { outputs := [], counter := 0 } r.actions.getIssues middle issues)
    (second : Walked tms.deserializeTransferAction .transfer middle r.actions.getTransfers final transfers) :
    ClientIndexes tms r final issues transfers := by
  refine ⟨first.deserialized, second.deserialized, fun o mem => ?_⟩
  rcases second.outputs o mem with issued | ⟨i, action, j, output, found, at_, facts⟩
  · rcases first.outputs o issued with none | ⟨i, action, j, output, found, at_, facts⟩
    · cases none
    · refine ⟨i, action, j, output, at_, .inl ⟨found, ?_⟩⟩
      simpa using facts
  · refine ⟨i, action, j, output, at_, .inr ⟨found, ?_⟩⟩
    rw [first.counter, UInt64.add_assoc, ← UInt64.ofNat_add, ← Nat.add_assoc] at facts
    simpa using facts

theorem outputs_indexes
    (done : r.outputs tms failOnMissing = .ok walk) : ∃ issues transfers, ClientIndexes tms r walk issues transfers := by
  rw [Request.outputs, bind_ok_iff] at done
  obtain ⟨middle, issueRun, transferRun⟩ := done
  obtain ⟨issues, first⟩ := walk_actions tms.deserializeIssueAction .issue id (by
    intro i state raw next stepped
    simp only [ok_iff] at stepped
    obtain ⟨action, read, _, _, _, _, extracted, made, rfl⟩ := stepped
    exact ⟨action, extracted, read, extract_issue_numbered made, rfl⟩) issueRun
  obtain ⟨transfers, second⟩ := walk_actions tms.deserializeTransferAction .transfer id (by
    intro i state raw next stepped
    simp only [ok_iff] at stepped
    obtain ⟨action, read, _, _, _, _, _, _, extracted, made, rfl⟩ := stepped
    exact ⟨action, extracted, read, extract_transfer_numbered made, rfl⟩) transferRun
  exact ⟨issues, transfers, walked_both first second⟩

theorem inputs_and_outputs_indexes {verifyActions : Bool} {walk : Request.StreamWalk}
    (done : r.inputsAndOutputs tms failOnMissing verifyActions noOutputForRecipient = .ok walk) :
    ∃ issues transfers, ClientIndexes tms r walk.outputs issues transfers := by
  rw [Request.inputsAndOutputs, bind_ok_iff] at done
  obtain ⟨middle, issueRun, transferRun⟩ := done
  obtain ⟨issues, first⟩ := walk_actions tms.deserializeIssueAction .issue
    Request.StreamWalk.outputs (by
    intro i state raw next stepped
    simp only [ok_iff] at stepped
    obtain ⟨action, read, _, _, _, _, _, _, extracted, made, rfl⟩ := stepped
    exact ⟨action, extracted, read, extract_issue_numbered made, rfl⟩) issueRun
  obtain ⟨transfers, second⟩ := walk_actions tms.deserializeTransferAction .transfer
    Request.StreamWalk.outputs (by
    intro i state raw next stepped
    simp only [ok_iff] at stepped
    obtain ⟨action, read, _, _, _, _, _, _, _, _, _, _, extracted, made, rfl⟩ := stepped
    exact ⟨action, extracted, read, extract_transfer_numbered made, rfl⟩) transferRun
  exact ⟨issues, transfers, walked_both first second⟩

abbrev Plan := List (ActionType × Nat)

def outputsOf (kind : ActionType) (plan : Plan) : Nat := ((plan.filter fun entry => entry.1 = kind).map Prod.snd).sum

def clientStart (plan : Plan) (position : Nat) (kind : ActionType) : Nat :=
  (if kind = .issue then 0 else outputsOf .issue plan) + outputsOf kind (plan.take position)

def ledgerStart (plan : Plan) (position : Nat) : Nat := ((plan.take position).map Prod.snd).sum

structure Plan.Known (plan : Plan) : Prop where
  kinds : ∀ entry ∈ plan, entry.1 = .issue ∨ entry.1 = .transfer
  outputs : ∀ entry ∈ plan, 0 < entry.2

def Plan.IssuesFirst (plan : Plan) : Prop := plan.Pairwise fun first later => first.1 = .transfer → later.1 ≠ .issue

variable {plan : Plan}

theorem outputs_of_zero_iff (kind : ActionType) (positive : ∀ entry ∈ plan, 0 < entry.2) :
    outputsOf kind plan = 0 ↔ ∀ entry ∈ plan, entry.1 ≠ kind := by
  rw [outputsOf, sum_eq_zero_iff]
  constructor
  · intro zero entry mem same
    have none := zero entry.2 (mem_map_of_mem (mem_filter.mpr ⟨mem, by simpa using same⟩))
    have some := positive entry mem
    omega
  · intro other count mem
    obtain ⟨entry, kept, rfl⟩ := mem_map.mp mem
    obtain ⟨found, same⟩ := mem_filter.mp kept
    exact absurd (by simpa using same) (other entry found)

theorem outputs_of_append (kind : ActionType) (plan more : Plan) :
    outputsOf kind (plan ++ more) = outputsOf kind plan + outputsOf kind more := by
  rw [outputsOf, filter_append, map_append, sum_append, outputsOf, outputsOf]

theorem total_by_kind (kinds : ∀ entry ∈ plan, entry.1 = .issue ∨ entry.1 = .transfer) :
    (plan.map Prod.snd).sum = outputsOf .issue plan + outputsOf .transfer plan := by
  induction plan with
  | nil => rfl
  | cons entry tail ih =>
    obtain ⟨here, others⟩ := forall_mem_cons.mp kinds
    have rest := ih others
    rcases here with issue | transfer
    · simp only [outputsOf, filter_cons, issue, map_cons, sum_cons] at rest ⊢
      simp only [decide_true, if_true, map_cons, sum_cons, reduceCtorEq, decide_false, Bool.false_eq_true, if_false]
      omega
    · simp only [outputsOf, filter_cons, transfer, map_cons, sum_cons] at rest ⊢
      simp only [decide_true, if_true, map_cons, sum_cons, reduceCtorEq, decide_false, Bool.false_eq_true, if_false]
      omega

theorem plan_split (plan : Plan) (position : Nat) (kind : ActionType) :
    outputsOf kind plan = outputsOf kind (plan.take position) + outputsOf kind (plan.drop position) := by
  rw [← outputs_of_append, take_append_drop]

theorem ledger_start_issue (known : plan.Known) (position : Nat) :
    ledgerStart plan position = clientStart plan position .issue + outputsOf .transfer (plan.take position) := by
  rw [ledgerStart, total_by_kind fun entry mem => known.kinds entry (mem_of_mem_take mem), clientStart, if_pos rfl, Nat.zero_add]

theorem client_start_transfer (known : plan.Known) (position : Nat) :
    clientStart plan position .transfer = ledgerStart plan position + outputsOf .issue (plan.drop position) := by
  have split := plan_split plan position .issue
  rw [ledgerStart, total_by_kind fun entry mem => known.kinds entry (mem_of_mem_take mem), clientStart, if_neg (by decide)]
  omega

theorem starts_small (known : plan.Known) (position : Nat) (kind : ActionType) (listed : kind = .issue ∨ kind = .transfer) :
    clientStart plan position kind ≤ (plan.map Prod.snd).sum ∧ ledgerStart plan position ≤ (plan.map Prod.snd).sum := by
  have total := total_by_kind known.kinds
  have issues := plan_split plan position .issue
  have transfers := plan_split plan position .transfer
  have ledger := ledger_start_issue known position
  have client := client_start_transfer known position
  have first : clientStart plan position .issue = outputsOf .issue (plan.take position) := by
    rw [clientStart, if_pos rfl, Nat.zero_add]
  rcases listed with rfl | rfl <;> omega

theorem indexes_agree_iff (known : plan.Known) (small : (plan.map Prod.snd).sum < 2 ^ 64) :
    (∀ (position : Nat) (kind : ActionType) (count : Nat), plan[position]? = some (kind, count) → ∀ j < count,
      UInt64.ofNat (clientStart plan position kind + j) = UInt64.ofNat (ledgerStart plan position + j)) ↔ plan.IssuesFirst := by
  constructor
  · intro agree
    refine pairwise_iff_getElem.mpr fun p q pBound qBound before transfer issue => ?_
    have bound := starts_small known q .issue (.inl rfl)
    have here : plan[q]? = some (ActionType.issue, plan[q].2) := by rw [getElem?_eq_getElem qBound, ← issue]
    have same := agree q .issue _ here 0 (known.outputs _ (getElem_mem qBound))
    have width : UInt64.size = 2 ^ 64 := rfl
    rw [Nat.add_zero, Nat.add_zero, ← UInt64.toNat_inj, UInt64.toNat_ofNat_of_lt' (by omega),
      UInt64.toNat_ofNat_of_lt' (by omega)] at same
    have none : outputsOf .transfer (plan.take q) = 0 := by
      have apart := ledger_start_issue known q
      omega
    have absent := (outputs_of_zero_iff .transfer fun entry mem => known.outputs entry (mem_of_mem_take mem)).mp none
    exact absent plan[p] (mem_take_iff_getElem.mpr ⟨p, by omega, rfl⟩) transfer
  · intro ordered position kind count found j _
    obtain ⟨bound, same⟩ := List.getElem?_eq_some_iff.mp found
    have pairs := List.pairwise_iff_getElem.mp ordered
    have positive : ∀ entry ∈ plan, 0 < entry.2 := known.outputs
    rcases known.kinds _ (getElem_mem bound) with issue | transfer
    · obtain rfl : kind = .issue := by rw [← issue, same]
      have none : outputsOf .transfer (plan.take position) = 0 := by
        refine (outputs_of_zero_iff .transfer fun entry mem => positive entry (mem_of_mem_take mem)).mpr ?_
        intro entry mem transfer
        obtain ⟨p, inside, rfl⟩ := mem_take_iff_getElem.mp mem
        exact pairs p position (by omega) bound (by omega) transfer issue
      rw [ledger_start_issue known, none, Nat.add_zero]
    · obtain rfl : kind = .transfer := by rw [← transfer, same]
      have none : outputsOf .issue (plan.drop position) = 0 := by
        refine (outputs_of_zero_iff .issue fun entry mem => positive entry (mem_of_mem_drop mem)).mpr ?_
        intro entry mem issue
        obtain ⟨q, inside, rfl⟩ := mem_drop_iff_getElem.mp mem
        by_cases first : q = 0
        · subst first
          have both : plan[position].1 = .issue := by simpa using issue
          rw [transfer] at both
          cases both
        · exact pairs position (position + q) bound (by omega) (by omega) transfer issue
      rw [client_start_transfer known, none, Nat.add_zero]

end Panurus.Client
