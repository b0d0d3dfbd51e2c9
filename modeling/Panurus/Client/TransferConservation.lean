import Panurus.Client.Request

namespace Panurus.Client

open Lib Outcome Text Core Panurus.Token Quantity
open Panurus.Rws (TokenID)

structure PublicParameters where
  precision : UInt64
  maxTokenValue : UInt64
  graphHiding : Bool
deriving DecidableEq, Repr

abbrev Selector := Bytes → Bytes → Outcome (List TokenID × Quantity)

structure RecipientData where
  identity : Identity
deriving DecidableEq, Repr

structure OwnerWallet where
  id : Bytes
  registerRecipient : RecipientData → Outcome Unit
  getRecipientIdentity : Outcome Identity

structure TransferOptions where
  selector : Option Selector
  tokenIDs : List (Option TokenID)
  restRecipientIdentity : Option RecipientData

structure TokenService where
  publicParameters : Option PublicParameters
  getTokens : List TokenID → Outcome (List Token)
  selectorManager : Outcome (Bytes → Outcome Selector)
  certificationClient : Outcome (List TokenID → Outcome Unit)

structure ParsedInputs where
  tokenIDs : List TokenID
  sum : Option Quantity
  type : Bytes
deriving DecidableEq, Repr

-- A type that differs is reported by wrapping the error of the query, which is nil, and a wrapped nil is nil: what the
-- caller sees is no error and no values.
def sumInputs (precision : UInt64) (inputs : List TokenID) : Bytes → Quantity → List Token → Outcome ParsedInputs
  | typ, sum, [] => .ok { tokenIDs := inputs, sum := some sum, type := typ }
  | typ, sum, tok :: rest =>
    let typ := if typ = [] then tok.type else typ
    if typ ≠ tok.type then .ok { tokenIDs := [], sum := none, type := [] } else do
      let q ← wrap s!"failed unmarshalling token quantity [{render tok.quantity}]" (toQuantity tok.quantity precision)
      let sum ← wrap s!"failed adding token quantity [{render tok.quantity}]" (sum.add q)
      sumInputs precision inputs typ sum rest

def parseInputIDs (service : TokenService) (inputs : List TokenID) : Outcome ParsedInputs := do
  let inputTokens ← wrap "failed querying tokens ids" (service.getTokens inputs)
  let pp ← required service.publicParameters "public parameters not set"
  sumInputs pp.precision inputs [] (zero pp.precision) inputTokens

structure Outputs where
  tokens : List Token
  sum : Quantity
deriving DecidableEq, Repr

def genOutput (pp : PublicParameters) (maxTokenValueQ : Quantity) (owners : List Identity) (tokenType : Bytes) (i : Nat)
    (outputs : Outputs) (value : UInt64) : Outcome Outputs := do
  let q ← wrap s!"failed to convert [{value}] to quantity of precision [{pp.precision}]" (uInt64ToQuantity value pp.precision)
  ensure (¬ q.cmp maxTokenValueQ = 1)
    s!"cannot create output with value [{render q.decimal}], max [{render maxTokenValueQ.decimal}]"
  let sum ← wrap s!"failed to add quantity for output {i}" (outputs.sum.add q)
  let owner ← required owners[i]? s!"panic: index out of range [{i}] with length {owners.length}"
  return { tokens := outputs.tokens ++ [{ owner, type := tokenType, quantity := q.hex }], sum }

def genOutputs (service : TokenService) (values : List UInt64) (owners : List Identity) (tokenType : Bytes) : Outcome Outputs := do
  let pp ← required service.publicParameters "panic: invalid memory address or nil pointer dereference"
  let maxTokenValueQ ← wrap s!"failed to convert [{pp.maxTokenValue}] to quantity of precision [{pp.precision}]"
    (uInt64ToQuantity pp.maxTokenValue pp.precision)
  foldEach (genOutput pp maxTokenValueQ owners tokenType) 0 { tokens := [], sum := zero pp.precision } values

def checkOwner (redeem : Bool) (owner : Identity) : Outcome Unit :=
  if redeem then ensure (owner = []) "all recipients must be nil"
  else ensure (owner ≠ []) "all recipients should be defined"

def cleanupInputIDs (ids : List (Option TokenID)) : List TokenID := ids.filterMap id

def defaultSelector (service : TokenService) (anchor : Bytes) : Outcome Selector := do
  let newSelector ← wrap "failed to get selector manager" service.selectorManager
  wrap "failed getting default selector" (newSelector anchor)

def selectInputs (service : TokenService) (anchor : Bytes) (opts : TransferOptions) (amount tokenType : Bytes) :
    Outcome (List TokenID × Quantity) := do
  let selector ← (match opts.selector with
    | some selector => .ok selector
    | none => defaultSelector service anchor)
  wrap "failed selecting tokens" (selector amount tokenType)

def restIdentity (wallet : OwnerWallet) (opts : TransferOptions) : Outcome Identity :=
  match opts.restRecipientIdentity with
  | some data => do
    wrap s!"failed to register recipient identity [{render data.identity}] for the rest, wallet [{render wallet.id}]"
      (wallet.registerRecipient data)
    return data.identity
  | none => wrap s!"failed getting recipient identity for the rest, wallet [{render wallet.id}]" wallet.getRecipientIdentity

def reassignRest (wallet : OwnerWallet) (opts : TransferOptions) (tokenType : Bytes) (inputSum : Quantity) (outputs : Outputs) :
    Outcome (List Token) :=
  if inputSum.cmp outputs.sum = 1 then do
    let diff ← wrap "failed computing rest" (inputSum.sub outputs.sum)
    let owner ← restIdentity wallet opts
    return outputs.tokens ++ [{ owner, type := tokenType, quantity := diff.hex }]
  else if inputSum.cmp outputs.sum = -1 then
    .error s!"the sum of the outputs is larger then the sum of the inputs [{render inputSum.decimal}][{render outputs.sum.decimal}]"
  else .ok outputs.tokens

def requestCertification (service : TokenService) (tokenIDs : List TokenID) : Outcome Unit := do
  let pp ← required service.publicParameters "panic: invalid memory address or nil pointer dereference"
  if pp.graphHiding then do
    let client ← wrap "cannot get certification client" service.certificationClient
    wrap "failed certifiying inputs" (client tokenIDs)
  else .ok ()

def passedInputs (service : TokenService) (inputs : List TokenID) (tokenType : Bytes) : Outcome ParsedInputs :=
  if inputs ≠ [] then wrap "failed parsing passed input tokens" (parseInputIDs service inputs)
  else .ok { tokenIDs := [], sum := none, type := tokenType }

def chosenInputs (service : TokenService) (anchor : Bytes) (opts : TransferOptions) (inputs : List TokenID)
    (parsed : ParsedInputs) (outputs : Outputs) : Outcome (List TokenID × Quantity) :=
  if inputs = [] then selectInputs service anchor opts outputs.sum.decimal parsed.type
  else do
    let sum ← required parsed.sum "panic: invalid memory address or nil pointer dereference"
    return (parsed.tokenIDs, sum)

def Request.prepareTransfer (r : Request) (service : TokenService) (redeem : Bool) (wallet : OwnerWallet) (tokenType : Bytes)
    (values : List UInt64) (owners : List Identity) (opts : TransferOptions) : Outcome (List TokenID × List Token) := do
  checkEach (fun _ => checkOwner redeem) 0 owners
  let inputs := cleanupInputIDs opts.tokenIDs
  let parsed ← passedInputs service inputs tokenType
  ensure (parsed.type ≠ []) "type is empty"
  let outputs ← wrap "failed to generate outputs" (genOutputs service values owners parsed.type)
  let (tokenIDs, inputSum) ← chosenInputs service r.anchor opts inputs parsed outputs
  let outputTokens ← reassignRest wallet opts parsed.type inputSum outputs
  requestCertification service tokenIDs
  return (tokenIDs, outputTokens)

open List

def Reads (tok : Token) (number : Nat) : Prop := setString tok.quantity = some (number : Int)

def total (values : List UInt64) : Nat := (values.map UInt64.toNat).sum

def requestedOutputs (tokenType : Bytes) (values : List UInt64) (owners : List Identity) : List Token :=
  zipWith (fun value owner => { owner, type := tokenType, quantity := ascii "0x" ++ hexadecimal value.toNat }) values owners

inductive InputSum (service : TokenService) (anchor : Bytes) (opts : TransferOptions) (tokenType : Bytes) (values : List UInt64) :
    Nat → Prop
  | passed {tokens : List Token} {numbers : List Nat} (some : cleanupInputIDs opts.tokenIDs ≠ [])
      (found : service.getTokens (cleanupInputIDs opts.tokenIDs) = .ok tokens) (read : List.Forall₂ Reads tokens numbers) :
      InputSum service anchor opts tokenType values numbers.sum
  | selected {ids : List TokenID} {sum : Quantity} (none : cleanupInputIDs opts.tokenIDs = [])
      (chosen : selectInputs service anchor opts (decimal (total values)) tokenType = .ok (ids, sum)) :
      InputSum service anchor opts tokenType values sum.toNat

-- Inputs without a type may stand before those with one, and not after.
def TypesFollow (inputs : List Token) : Prop := inputs.Pairwise fun tok later => tok.type = [] ∨ later.type = tok.type

def InputType (service : TokenService) (opts : TransferOptions) (tokenType typ : Bytes) : Prop :=
  if cleanupInputIDs opts.tokenIDs = [] then typ = tokenType
  else ∃ tokens, service.getTokens (cleanupInputIDs opts.tokenIDs) = .ok tokens ∧ typ ∈ tokens.map Token.type ∧
    (∀ tok ∈ tokens, tok.type = [] ∨ tok.type = typ) ∧ TypesFollow tokens

structure Conserved (pp : PublicParameters) (typ : Bytes) (values : List UInt64) (owners : List Identity) (inputSum : Nat)
    (outputs : List Token) : Prop where
  owned : values.length ≤ owners.length
  change : ∃ change, outputs = requestedOutputs typ values owners ++ change ∧ change.length ≤ 1 ∧
    (change ≠ [] ↔ total values ≠ inputSum) ∧ ∀ rest ∈ change, ∃ number, Reads rest number ∧ 0 < number
  oneType : ∀ tok ∈ outputs, tok.type = typ
  balance : ∃ numbers, List.Forall₂ Reads outputs numbers ∧ numbers.sum = inputSum
  capped : ∀ value ∈ values, value ≤ pp.maxTokenValue

structure Summed (precision : UInt64) (typ : Bytes) (start : Nat) (toks : List Token) (parsed : ParsedInputs)
    (numbers : List Nat) : Prop where
  read : List.Forall₂ Reads toks numbers
  sum : parsed.sum = some (of precision (start + numbers.sum))
  fits : start + numbers.sum < 2 ^ precision.toNat
  types : ∀ tok ∈ toks, tok.type = [] ∨ tok.type = parsed.type
  first : typ = [] ∨ typ = parsed.type
  known : parsed.type = typ ∨ parsed.type ∈ toks.map Token.type
  kept : typ = [] ∨ ∀ tok ∈ toks, tok.type = typ
  follow : TypesFollow toks

section Prepare

variable {inputs ids : List TokenID} {toks tokens : List Token} {typ tokenType anchor : Bytes} {parsed : ParsedInputs}
  {values : List UInt64} {owners : List Identity} {value : UInt64} {pp : PublicParameters} {outputs : Outputs}
  {inputSum : Quantity} {sum : Nat}
  {service : TokenService} {opts : TransferOptions} {wallet : OwnerWallet}

theorem sum_inputs_ok {precision : UInt64} {start : Nat} (fits : start < 2 ^ precision.toNat) (typed : parsed.type ≠ [])
    (done : sumInputs precision inputs typ (of precision start) toks = .ok parsed) :
    ∃ numbers, Summed precision typ start toks parsed numbers := by
  induction toks generalizing typ start with
  | nil =>
    obtain rfl := Except.ok.inj done
    refine ⟨[], .nil, rfl, fits, by simp, .inr rfl, .inl rfl, .inr (by simp), .nil⟩
  | cons tok rest ih =>
    simp only [sumInputs] at done
    by_cases same : (if typ = [] then tok.type else typ) = tok.type
    case neg =>
      rw [if_pos same] at done
      obtain rfl := Except.ok.inj done
      exact absurd rfl typed
    case pos =>
      rw [if_neg (not_not.mpr same)] at done
      simp only [ok_iff, to_quantity_ok_iff] at done
      obtain ⟨_, ⟨precise, number, read, below, rfl⟩, _, added, others⟩ := done
      obtain ⟨bound, rfl⟩ := (add_of precise fits below).mp added
      rw [same] at others
      obtain ⟨numbers, summed⟩ := ih bound others
      have alike : tok.type = [] ∨ tok.type = parsed.type := summed.first
      refine ⟨number :: numbers, ?_⟩
      exact
        { read := .cons read summed.read
          sum := by rw [summed.sum, sum_cons, Nat.add_assoc]
          fits := by rw [sum_cons, ← Nat.add_assoc]; exact summed.fits
          types := by simpa only [forall_mem_cons] using ⟨alike, summed.types⟩
          first := by
            by_cases empty : typ = []
            · exact .inl empty
            · rw [if_neg empty] at same
              exact same ▸ alike
          known := .inr (by
            rcases summed.known with known | known
            · simp [known]
            · simp [known])
          kept := by
            by_cases empty : typ = []
            · exact .inl empty
            · rw [if_neg empty] at same
              rw [same]
              exact .inr (forall_mem_cons.mpr ⟨rfl, summed.kept.resolve_left (same ▸ empty)⟩)
          follow := pairwise_cons.mpr ⟨fun later mem => summed.kept.imp_right fun all => all later mem, summed.follow⟩ }

theorem parse_input_ids_ok (typed : parsed.type ≠ []) (done : parseInputIDs service inputs = .ok parsed) :
    ∃ pp tokens numbers, service.publicParameters = some pp ∧ service.getTokens inputs = .ok tokens ∧
      Summed pp.precision [] 0 tokens parsed numbers := by
  simp only [parseInputIDs, ok_iff, ← of_zero] at done
  obtain ⟨tokens, found, pp, params, summed⟩ := done
  obtain ⟨numbers, summed⟩ := sum_inputs_ok (Nat.two_pow_pos _) typed summed
  exact ⟨pp, tokens, numbers, params, found, summed⟩

structure Generated (pp : PublicParameters) (owners : List Identity) (tokenType : Bytes) (values : List UInt64)
    (outputs : Outputs) : Prop where
  owned : values.length ≤ owners.length
  tokens : outputs.tokens = requestedOutputs tokenType values owners
  sum : outputs.sum = of pp.precision (total values)
  fits : total values < 2 ^ pp.precision.toNat
  capped : ∀ value ∈ values, value ≤ pp.maxTokenValue

theorem requested_append {owner : Identity} (found : owners[values.length]? = some owner) :
    requestedOutputs tokenType (values ++ [value]) owners =
      requestedOutputs tokenType values owners ++
        [{ owner, type := tokenType, quantity := ascii "0x" ++ hexadecimal value.toNat }] := by
  induction values generalizing owners with
  | nil =>
    cases owners with
    | nil => simp at found
    | cons first rest =>
      obtain rfl : first = owner := by simpa using found
      simp [requestedOutputs]
  | cons head tail ih =>
    cases owners with
    | nil => simp at found
    | cons first rest => exact congrArg (cons _) (ih (by simpa using found))

theorem gen_output_ok {maxTokenValueQ : Quantity} {next : Outputs} (cap : maxTokenValueQ.toNat = pp.maxTokenValue.toNat)
    (before : Generated pp owners tokenType values outputs)
    (done : genOutput pp maxTokenValueQ owners tokenType values.length outputs value = .ok next) :
    Generated pp owners tokenType (values ++ [value]) next := by
  simp only [genOutput, ok_iff, exists_const, not_greater_iff] at done
  obtain ⟨q, made, below, sum, added, owner, found, rfl⟩ := done
  have number := converted_to_nat made
  have range := converted_in_range made
  have same : q = of pp.precision value.toNat := by rw [← number]; exact range.same
  rw [before.sum, same] at added
  obtain ⟨bound, rfl⟩ := (add_of range.precise before.fits (number ▸ range.fits)).mp added
  have more : total (values ++ [value]) = total values + value.toNat := by simp [total]
  rw [number, cap] at below
  exact
    { owned := by
        have inside := (List.getElem?_eq_some_iff.mp found).1
        simpa using inside
      tokens := by rw [requested_append found, before.tokens, Quantity.hex, number]
      sum := by rw [more]
      fits := more ▸ bound
      capped := by
        intro other mem
        rcases mem_append.mp mem with mem | mem
        · exact before.capped other mem
        · obtain rfl := mem_singleton.mp mem
          exact UInt64.le_iff_toNat_le.mpr below }

theorem gen_outputs_ok (done : genOutputs service values owners tokenType = .ok outputs) :
    ∃ pp, service.publicParameters = some pp ∧ Generated pp owners tokenType values outputs := by
  simp only [genOutputs, ok_iff] at done
  obtain ⟨pp, params, cap, made, run⟩ := done
  refine ⟨pp, params, fold_each_invariant (Generated pp owners tokenType) ?_ ?_ run⟩
  · intro values outputs value next before stepped
    exact gen_output_ok (converted_to_nat made) before stepped
  · exact ⟨Nat.zero_le _, rfl, rfl, Nat.two_pow_pos _, by simp⟩

theorem reassign_rest_ok (done : reassignRest wallet opts tokenType inputSum outputs = .ok tokens) :
    (tokens = outputs.tokens ∧ outputs.sum.toNat = inputSum.toNat) ∨
      ∃ rest number, tokens = outputs.tokens ++ [rest] ∧ rest.type = tokenType ∧ Reads rest number ∧ 0 < number ∧
        outputs.sum.toNat + number = inputSum.toNat := by
  simp only [reassignRest, cmp_eq_sign] at done
  rcases sign_cases inputSum.toNat outputs.sum.toNat with ⟨_, sign⟩ | ⟨equal, sign⟩ | ⟨more, sign⟩
  · rw [sign] at done
    cases done
  · rw [sign] at done
    exact .inl ⟨(Except.ok.inj done).symm, equal.symm⟩
  · rw [sign, if_pos rfl] at done
    simp only [ok_iff] at done
    obtain ⟨diff, made, owner, _, rfl⟩ := done
    have difference := sub_ok made
    exact .inr ⟨_, diff.toNat, rfl, rfl, scan_hexadecimal _, by omega, by omega⟩

theorem requested_reads (owned : values.length ≤ owners.length) :
    List.Forall₂ Reads (requestedOutputs tokenType values owners) (values.map UInt64.toNat) := by
  induction values generalizing owners with
  | nil => exact .nil
  | cons value rest ih =>
    cases owners with
    | nil => simp at owned
    | cons owner others => exact .cons (scan_hexadecimal _) (ih (by simpa using owned))

theorem requested_type : ∀ tok ∈ requestedOutputs tokenType values owners, tok.type = tokenType := by
  intro tok mem
  obtain ⟨index, bound, rfl⟩ := getElem_of_mem mem
  simp [requestedOutputs]

theorem generated_conserved
    (generated : Generated pp owners typ values outputs) (done : reassignRest wallet opts typ inputSum outputs = .ok tokens) :
    Conserved pp typ values owners inputSum.toNat tokens := by
  have sum : outputs.sum.toNat = total values := by rw [generated.sum, of_to_nat generated.fits]
  have reads := @requested_reads typ values owners generated.owned
  rcases reassign_rest_ok done with ⟨rfl, equal⟩ | ⟨rest, number, rfl, sameType, read, positive, equal⟩
  · rw [sum] at equal
    rw [generated.tokens]
    exact
      { owned := generated.owned
        change := ⟨[], by simp, by simp, by simp [equal], by simp⟩
        oneType := requested_type
        balance := ⟨_, reads, equal⟩
        capped := generated.capped }
  · rw [sum] at equal
    rw [generated.tokens]
    exact
      { owned := generated.owned
        change := ⟨[rest], rfl, Nat.le_refl 1, by simp; omega, by simpa using ⟨number, read, positive⟩⟩
        oneType := by
          intro tok mem
          rcases mem_append.mp mem with mem | mem
          · exact requested_type tok mem
          · exact mem_singleton.mp mem ▸ sameType
        balance := ⟨_, rel_append reads (.cons read .nil), by simpa [total] using equal⟩
        capped := generated.capped }

theorem reads_unique {numbers others : List Nat} (read : List.Forall₂ Reads toks numbers)
    (read' : List.Forall₂ Reads toks others) : numbers = others := by
  have one : ∀ tok number other, Reads tok number → Reads tok other → number = other := by
    intro tok number other reads reads'
    simpa using reads.symm.trans reads'
  exact right_unique_forall₂' one read read'

theorem input_sum_unique {other : Nat} (first : InputSum service anchor opts tokenType values sum)
    (second : InputSum service anchor opts tokenType values other) : sum = other := by
  cases first with
  | passed some found read =>
    cases second with
    | passed _ found' read' =>
      obtain rfl := Except.ok.inj (found.symm.trans found')
      rw [reads_unique read read']
    | selected none _ => exact absurd none some
  | selected none chosen =>
    cases second with
    | passed some _ _ => exact absurd none some
    | selected _ chosen' => cases chosen.symm.trans chosen'; rfl

structure Prepared (r : Request) (service : TokenService) (wallet : OwnerWallet) (tokenType : Bytes) (values : List UInt64)
    (owners : List Identity) (opts : TransferOptions) (tokens : List Token) (pp : PublicParameters) (typ : Bytes) (sum : Nat) :
    Prop where
  params : service.publicParameters = some pp
  inputType : InputType service opts tokenType typ
  typed : typ ≠ []
  inputSum : InputSum service r.anchor opts tokenType values sum
  conserved : Conserved pp typ values owners sum tokens

theorem chosen_inputs_ok
    (passed : passedInputs service (cleanupInputIDs opts.tokenIDs) tokenType = .ok parsed) (typed : parsed.type ≠ [])
    (summed : outputs.sum.toNat = total values)
    (chosen : chosenInputs service anchor opts (cleanupInputIDs opts.tokenIDs) parsed outputs = .ok (ids, inputSum)) :
    InputType service opts tokenType parsed.type ∧ InputSum service anchor opts tokenType values inputSum.toNat := by
  by_cases none : cleanupInputIDs opts.tokenIDs = []
  · rw [passedInputs, if_neg (not_not.mpr none)] at passed
    obtain rfl := Except.ok.inj passed
    rw [chosenInputs, if_pos none, Quantity.decimal, summed] at chosen
    exact ⟨by rw [InputType, if_pos none], .selected none chosen⟩
  · rw [passedInputs, if_pos none, wrap_ok_iff] at passed
    obtain ⟨pp, tokens, numbers, _, found, all⟩ := parse_input_ids_ok typed passed
    rw [chosenInputs, if_neg none] at chosen
    simp only [all.sum, ok_iff, Option.some.injEq, exists_eq_left', Prod.mk.injEq] at chosen
    obtain ⟨_, rfl⟩ := chosen
    have known := all.known.resolve_left typed
    rw [of_to_nat all.fits, Nat.zero_add]
    exact ⟨by rw [InputType, if_neg none]; exact ⟨tokens, found, known, all.types, all.follow⟩, .passed none found all.read⟩

theorem prepare_transfer_ok {r : Request} {redeem : Bool}
    (done : r.prepareTransfer service redeem wallet tokenType values owners opts = .ok (ids, tokens)) :
    ∃ pp typ sum, Prepared r service wallet tokenType values owners opts tokens pp typ sum := by
  simp only [Request.prepareTransfer, ok_iff, exists_const, Prod.exists, Prod.mk.injEq] at done
  obtain ⟨_, _, parsed, passed, typed, outputs, generated, _, inputSum, chosen, _, reassigned, _, _, rfl, rfl⟩ := done
  obtain ⟨pp, params, generated⟩ := gen_outputs_ok generated
  have summed : outputs.sum.toNat = total values := by rw [generated.sum, of_to_nat generated.fits]
  obtain ⟨inputType, inputSum⟩ := chosen_inputs_ok passed typed summed chosen
  exact ⟨pp, parsed.type, _, params, inputType, typed, inputSum, generated_conserved generated reassigned⟩

theorem requested_le (conserved : Conserved pp typ values owners sum tokens) : total values ≤ sum := by
  obtain ⟨change, rfl, _⟩ := conserved.change
  obtain ⟨numbers, read, rfl⟩ := conserved.balance
  have front := (forall₂_take_append _ _ _ read.flip).flip
  rw [total, reads_unique (requested_reads conserved.owned) front, ← sum_take_add_sum_drop numbers _]
  exact Nat.le_add_right _ _

theorem fails_of_not_ok {α : Type} {outcome : Outcome α} (never : ∀ value, outcome ≠ .ok value) :
    ∃ reason, outcome = .error reason := by
  cases outcome with
  | error reason => exact ⟨reason, rfl⟩
  | ok value => exact absurd rfl (never value)

structure TransferConserves (r : Request) (service : TokenService) (redeem : Bool) (wallet : OwnerWallet) (tokenType : Bytes)
    (values : List UInt64) (owners : List Identity) (opts : TransferOptions) : Prop where
  prepared : ∀ ids tokens, r.prepareTransfer service redeem wallet tokenType values owners opts = .ok (ids, tokens) →
    ∃ pp typ sum, Prepared r service wallet tokenType values owners opts tokens pp typ sum
  insufficient : ∀ sum, InputSum service r.anchor opts tokenType values sum → sum < total values →
    ∃ reason, r.prepareTransfer service redeem wallet tokenType values owners opts = .error reason
  mixed : ∀ inputs, cleanupInputIDs opts.tokenIDs ≠ [] → service.getTokens (cleanupInputIDs opts.tokenIDs) = .ok inputs →
    ¬ TypesFollow inputs → ∃ reason, r.prepareTransfer service redeem wallet tokenType values owners opts = .error reason

theorem prepare_transfer_conserves (r : Request) (service : TokenService) (redeem : Bool) (wallet : OwnerWallet)
    (tokenType : Bytes) (values : List UInt64) (owners : List Identity) (opts : TransferOptions) :
    TransferConserves r service redeem wallet tokenType values owners opts where
  prepared _ _ := prepare_transfer_ok
  insufficient sum available short := by
    refine fails_of_not_ok fun ⟨ids, tokens⟩ done => ?_
    obtain ⟨pp, typ, sum', prepared⟩ := prepare_transfer_ok done
    have same := input_sum_unique available prepared.inputSum
    have enough := requested_le prepared.conserved
    omega
  mixed inputs some found unordered := by
    refine fails_of_not_ok fun ⟨ids, tokens⟩ done => ?_
    obtain ⟨pp, typ, sum, prepared⟩ := prepare_transfer_ok done
    have inputType := prepared.inputType
    rw [InputType, if_neg some] at inputType
    obtain ⟨inputs', found', _, _, follow⟩ := inputType
    obtain rfl := Except.ok.inj (found.symm.trans found')
    exact unordered follow

end Prepare

namespace Untyped

def service : TokenService :=
  { publicParameters := some { precision := 64, maxTokenValue := 100, graphHiding := false }
    getTokens := fun _ => .ok
      [{ owner := [1], type := [], quantity := ascii "1" }, { owner := [1], type := ascii "A", quantity := ascii "1" }]
    selectorManager := .error ""
    certificationClient := .error "" }

def wallet : OwnerWallet := { id := [], registerRecipient := fun _ => .ok (), getRecipientIdentity := .ok [1] }

def opts : TransferOptions := { selector := none, tokenIDs := [some ⟨[1], 0⟩, some ⟨[1], 1⟩], restRecipientIdentity := none }

-- Two tokens, the first of the empty type, are taken as two of the type of the second.
theorem untyped_input_taken :
    (∃ tokens, service.getTokens (cleanupInputIDs opts.tokenIDs) = .ok tokens ∧
      ∃ tok ∈ tokens, ∃ other ∈ tokens, tok.type ≠ other.type) ∧
    ((Request.new []).prepareTransfer service false wallet (ascii "A") [2] [[2]] opts) =
      .ok ([⟨[1], 0⟩, ⟨[1], 1⟩], [{ owner := [2], type := ascii "A", quantity := ascii "0x2" }]) :=
  ⟨⟨_, rfl, by decide⟩, by rfl⟩

end Untyped

end Panurus.Client
