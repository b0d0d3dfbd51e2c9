import Panurus.Htlc.MetadataKeys
import Panurus.Identity.Deserializers
import Panurus.Identity.Encoding
import Panurus.Zkatdlog.Actions

namespace Panurus.Htlc

open Lib Outcome Lib.Json

def Libraries.withJson (lib : Libraries) (c : Conversions) : Libraries := { lib with decodeScript := Htlc.decodeScript c }

-- The first value of a text gives a script a field that it does not have.
def namesUnknownField (raw : Bytes) : Bool :=
  match Scanner.start.readValue raw with
  | .ok (value, _) => unknownField value
  | .error _ => false

-- The recipient can take what the script owns before its deadline, the sender from then on, and the deserializer
-- reads the same script.
structure Opens (lib : Libraries) (owner : Bytes) (script : Script) : Prop where
  claim : ∀ later < script.deadline, verifyOwner lib owner script.recipient later = .ok (script, .claim)
  reclaim : ∀ later, script.deadline ≤ later → verifyOwner lib owner script.sender later = .ok (script, .reclaim)
  deserialized : ∃ si, Identity.unmarshalTypedIdentity owner = .ok si ∧ si.type = Identity.htlcScriptIdentityType ∧
    (composite lib).decode si.identity = .ok script

variable {lib : Libraries} {raw : Bytes} {script : Script}

theorem composite_decode_iff : (composite lib).decode raw = .ok script ↔ unmarshalStrict lib.decodeScript raw = .ok script := by
  simp [composite]

theorem opens_iff {owner : Bytes} {si : Identity.TypedIdentity} (typed : Identity.unmarshalTypedIdentity owner = .ok si)
    (scripted : si.type = Identity.htlcScriptIdentityType) (sender : script.sender ≠ []) (recipient : script.recipient ≠ []) :
    Opens lib owner script ↔ unmarshalStrict lib.decodeScript si.identity = .ok script := by
  constructor
  · intro opens
    obtain ⟨si', typed', _, decoded⟩ := opens.deserialized
    obtain rfl : si = si' := Except.ok.inj (typed.symm.trans typed')
    exact composite_decode_iff.mp decoded
  · intro read
    refine ⟨fun later early => ?_, fun later late => ?_, si, typed, scripted, ?_⟩
    · simp only [verifyOwner, bind_ok_iff, ensure_ok_iff, exists_const]
      refine ⟨recipient, si, typed, scripted, script, read, ?_⟩
      simp only [if_pos early, bind_ok_iff, ensure_ok_iff, exists_const, true_and]
      rfl
    · simp only [verifyOwner, bind_ok_iff, ensure_ok_iff, exists_const]
      refine ⟨sender, si, typed, scripted, script, read, ?_⟩
      simp only [if_neg (Int.not_lt.mpr late), bind_ok_iff, ensure_ok_iff, exists_const, true_and]
      rfl
    · exact composite_decode_iff.mpr read

theorem strict_iff_known {c : Conversions} (read : unmarshal (lib.withJson c).decodeScript raw = .ok script) :
    unmarshalStrict (lib.withJson c).decodeScript raw = .ok script ↔ namesUnknownField raw = false := by
  obtain ⟨value, rest, first, strict⟩ := from_bytes_strict_iff (unmarshal_from_bytes.mp read)
  rw [Libraries.withJson, unmarshal_strict_from_bytes, strict, namesUnknownField, first]
  exact ⟨fun both => both.2, fun known => ⟨rfl, known⟩⟩

end Panurus.Htlc

namespace Panurus.Zkatdlog

open Lib Outcome Core Identity

variable {F G : Type} {index : Nat} {ctx next : TransferContext F G} {si : TypedIdentity} {out : Token G}

def ownerOf (tok : Option (Token G)) : Identity := (tok.map Token.owner).getD []

section

variable {lib : Htlc.Libraries}

theorem htlc_input_claims (index : Nat) (ctx next : TransferContext F G) (input : Option (Token G))
    (done : htlcInput lib index ctx input = .ok next) :
    Htlc.ClaimStep lib ctx.action.metadata ctx index (ownerOf input) next := by
  simp only [htlcInput, ok_iff] at done
  obtain ⟨tok, rfl, si, typed, rest⟩ := done
  by_cases scripted : si.type = htlcScriptIdentityType
  · simp only [if_pos scripted, ok_iff, exists_const] at rest
    obtain ⟨⟨single, _⟩, _, _, ⟨script, op⟩, verified, sigma, taken, key, checked, rfl⟩ := rest
    exact Htlc.claim_step_of_checks single (Htlc.script_of_typed typed scripted) (Htlc.verify_owner_ok typed verified) taken checked
  · rw [if_neg scripted, pure_ok_iff] at rest
    exact rest ▸ .plain (Htlc.script_of_other typed scripted)

theorem htlc_output_locks (index : Nat) (ctx next : TransferContext F G) (output : Option (Token G))
    (done : htlcOutput lib index ctx output = .ok next) :
    Htlc.LockStep lib (Htlc.unmarshal lib.decodeScript) ctx.action.metadata ctx (ownerOf output) next := by
  cases output with
  | none =>
    cases done
    exact .plain Htlc.script_of_nil
  | some out =>
    by_cases redeem : out.isRedeem
    · simp only [htlcOutput, if_pos redeem, Except.ok.injEq] at done
      have unowned : ownerOf (some out) = [] := by simpa [Token.isRedeem, ownerOf] using redeem
      exact done ▸ .plain (unowned ▸ Htlc.script_of_nil)
    · simp only [htlcOutput, if_neg redeem] at done
      exact Htlc.lock_output_ok done

theorem htlc_input_counts {input : Option (Token G)} (done : htlcInput lib index ctx input = .ok next) : Counts ctx next :=
  (htlc_input_claims index ctx next input done).counts

theorem locked_output (accepted : transferHTLCValidate lib ctx = .ok next) (mem : some out ∈ ctx.action.outputs)
    (typed : unmarshalTypedIdentity out.owner = .ok si) (scripted : si.type = htlcScriptIdentityType) :
    ∃ script, Htlc.unmarshal lib.decodeScript si.identity = .ok script ∧ script.validate lib ctx.now = .ok () := by
  rw [transferHTLCValidate, bind_ok_iff] at accepted
  obtain ⟨middle, inputs, outputs⟩ := accepted
  obtain ⟨keys, rfl⟩ := fold_counts (fun _ _ _ _ => htlc_input_counts) inputs
  obtain ⟨index, found⟩ := List.mem_iff_getElem?.mp mem
  obtain ⟨before, after, ran, stepped⟩ := fold_each_at outputs found
  obtain ⟨more, rfl⟩ := fold_counts (fun _ _ _ _ done => (htlc_output_locks _ _ _ _ done).counts) ran
  have owned : Htlc.scriptOf (ownerOf (some out)) = some si.identity := Htlc.script_of_typed typed scripted
  cases htlc_output_locks _ _ _ _ stepped with
  | plain unowned => cases owned.symm.trans unowned
  | locked owned' read valid =>
    cases owned.symm.trans owned'
    exact ⟨_, read, valid⟩

theorem validated_parties {script : Htlc.Script} {now : Int} (valid : script.validate lib now = .ok ()) :
    script.sender ≠ [] ∧ script.recipient ≠ [] := by
  simp only [Htlc.Script.validate, ok_iff, exists_const] at valid
  exact ⟨valid.1, valid.2.1⟩

end

theorem lock_opens_iff (lib : Htlc.Libraries) (c : Htlc.Conversions) (ctx next : TransferContext F G)
    (accepted : transferHTLCValidate (lib.withJson c) ctx = .ok next) (out : Token G) (mem : some out ∈ ctx.action.outputs)
    (si : TypedIdentity) (typed : unmarshalTypedIdentity out.owner = .ok si) (scripted : si.type = htlcScriptIdentityType) :
    ∃ script, Htlc.Script.fromBytes c si.identity = .ok script ∧ script.validate (lib.withJson c) ctx.now = .ok () ∧
      (Htlc.Opens (lib.withJson c) out.owner script ↔ Htlc.namesUnknownField si.identity = false) := by
  obtain ⟨script, read, valid⟩ := locked_output accepted mem typed scripted
  obtain ⟨sender, recipient⟩ := validated_parties valid
  refine ⟨script, Htlc.unmarshal_from_bytes.mp read, valid, ?_⟩
  rw [Htlc.opens_iff typed scripted sender recipient, Htlc.strict_iff_known read]

-- A script of sender s and recipient r, over the hash h, that may have a member of another name.
namespace Lock

open Text

def sextet (c : UInt8) : Nat :=
  if 65 ≤ c ∧ c ≤ 90 then (c - 65).toNat
  else if 97 ≤ c ∧ c ≤ 122 then (c - 71).toNat
  else if 48 ≤ c ∧ c ≤ 57 then (c + 4).toNat
  else if c = 43 then 62 else 63

def octet : List Json.Value → Outcome Bytes
  | [] => .ok []
  | [.string [a, b, 61, 61]] => .ok [UInt8.ofNat (sextet a * 4 + sextet b / 16)]
  | _ => .error "illegal base64 data"

def digit : List Json.Value → Outcome Nat
  | [] => .ok 0
  | [.number [c]] => .ok (c - 48).toNat
  | _ => .error "json: cannot unmarshal number"

def instant : List Json.Value → Outcome Int
  | [] => .ok (-62135596800)
  | [.string text] => do
    ensure (text = ascii "2030-01-01T00:00:00Z") "parsing time"
    return 1893456000
  | _ => .error "Time.UnmarshalJSON: input is not a JSON string"

def conversions : Htlc.Conversions := { bytes := octet, number := digit, instant }

def lib : Htlc.Libraries :=
  { hashable := fun _ => ""
    hash := fun hashFunc => if hashFunc = 5 then some fun octets => octets else none
    decodeScript := fun _ => .error ""
    decodeClaim := fun _ => .error "" }

def text (more : Bytes) : Bytes :=
  ascii "\x7b\"Sender\":\"cw==\",\"Recipient\":\"cg==\",\"Deadline\":\"2030-01-01T00:00:00Z\"," ++
    ascii "\"HashInfo\":\x7b\"Hash\":\"aA==\",\"HashFunc\":5,\"HashEncoding\":0\x7d" ++ more ++ ascii "\x7d"

def output (more : Bytes) : Token Unit :=
  { owner := encodeIdentity htlcScriptIdentityType (text more), data := some { curve := 0, value := () } }

def input : Token Unit :=
  { owner := encodeIdentity x509IdentityType (ascii "s"), data := some { curve := 0, value := () } }

def action (more : Bytes) : Action Unit Unit :=
  { inputs := [some { id := some ⟨ascii "tx", 0⟩, token := some input, upgradeWitness := none }]
    outputs := [some (output more)]
    proofType := .rangeProofType
    proof := [1]
    metadata := [(Htlc.lockKey (ascii "h"), Htlc.lockValue (ascii "h"))]
    issuer := none }

def context (more : Bytes) : TransferContext Unit Unit :=
  { pp :=
      { curve := 0
        pedersenGenerators := []
        rangeProofParams := none
        cspRangeProofParams := none
        idemixIssuerPublicKeys := []
        maxToken := 0
        quantityPrecision := 64
        auditorIDs := []
        issuerIDs := [] }
    tokenRequest := { version := 1, actions := [], signatures := [] }
    deserializer :=
      { uniqueID := fun _ => ""
        getOwnerVerifier := fun _ => .ok none
        getIssuerVerifier := fun _ => .ok none
        getAuditorVerifier := fun _ => .ok none }
    signatureProvider := { message := [], cursor := 1, sigs := [[9]], clock := fun _ _ => 0 }
    signatures := [[9]]
    inputTokens := [some input]
    action := action more
    metadataCounter := []
    now := 0 }

def counted (more : Bytes) : TransferContext Unit Unit := (context more).countMetadataKey (Htlc.lockKey (ascii "h"))

def script : Htlc.Script :=
  { sender := ascii "s", recipient := ascii "r", deadline := 1893456000
    hashInfo := { hash := ascii "h", hashFunc := 5, hashEncoding := 0 } }

theorem accepted {more : Bytes}
    (typed : unmarshalTypedIdentity (output more).owner = .ok { type := htlcScriptIdentityType, identity := text more })
    (read : Htlc.Script.fromBytes conversions (text more) = .ok script) :
    transferHTLCValidate (lib.withJson conversions) (context more) = .ok (counted more) := by
  have inputs : foldEach (htlcInput (lib.withJson conversions)) 0 (context more) (context more).inputTokens = .ok (context more) := by
    rfl
  have filled : ¬ (output more).isRedeem := by
    simp only [Token.isRedeem, decide_eq_true_eq]
    intro unowned
    rw [unowned] at typed
    cases typed
  have decoded : Htlc.unmarshal (lib.withJson conversions).decodeScript (text more) = .ok script :=
    Htlc.unmarshal_from_bytes.mpr read
  have step : htlcOutput (lib.withJson conversions) 0 (context more) (some (output more)) = .ok (counted more) := by
    simp only [htlcOutput, Htlc.lockOutput, if_neg filled, ok_iff, typed, Except.ok.injEq, exists_eq_left', if_pos, decoded]
    exact ⟨(), by rfl, Htlc.lockKey (ascii "h"), by rfl, rfl⟩
  simp only [transferHTLCValidate, inputs, bind_ok_iff, Except.ok.injEq, exists_eq_left']
  change foldEach _ 0 _ [some (output more)] = _
  rw [foldEach, step]
  rfl

theorem plain_typed : unmarshalTypedIdentity (output []).owner = .ok { type := htlcScriptIdentityType, identity := text [] } := by
  decide +kernel

theorem plain_read : Htlc.Script.fromBytes conversions (text []) = .ok script := by
  decide +kernel

theorem plain_lock_opens : ∃ script, Htlc.Script.fromBytes conversions (text []) = .ok script ∧
    script.validate (lib.withJson conversions) 0 = .ok () ∧
    (Htlc.Opens (lib.withJson conversions) (output []).owner script ↔ Htlc.namesUnknownField (text []) = false) :=
  lock_opens_iff lib conversions (context []) (counted []) (accepted plain_typed plain_read) (output [])
    (List.mem_singleton.mpr rfl) { type := htlcScriptIdentityType, identity := text [] } plain_typed rfl

def extra : Bytes := ascii ",\"NotAField\":1"

theorem extra_typed :
    unmarshalTypedIdentity (output extra).owner = .ok { type := htlcScriptIdentityType, identity := text extra } := by
  decide +kernel

theorem extra_unread (read : Htlc.Script) :
    Htlc.unmarshalStrict (lib.withJson conversions).decodeScript (text extra) ≠ .ok read := by
  have refused : (Htlc.unmarshalStrict (lib.withJson conversions).decodeScript (text extra)).isOk = false := by
    decide +kernel
  intro same
  rw [same] at refused
  cases refused

-- The lock is accepted, and nobody takes the token out of it again.
theorem unknown_member_never_opens :
    transferHTLCValidate (lib.withJson conversions) (context extra) = .ok (counted extra) ∧
    some (output extra) ∈ (context extra).action.outputs ∧
    unmarshalTypedIdentity (output extra).owner = .ok { type := htlcScriptIdentityType, identity := text extra } ∧
    (∀ owner later result, Htlc.verifyOwner (lib.withJson conversions) (output extra).owner owner later ≠ .ok result) ∧
    ∀ read, (Htlc.composite (lib.withJson conversions)).decode (text extra) ≠ .ok read := by
  have read : Htlc.Script.fromBytes conversions (text extra) = .ok script := by
    decide +kernel
  refine ⟨accepted extra_typed read, List.mem_singleton.mpr rfl, extra_typed, ?_, ?_⟩
  · intro owner later result opened
    exact extra_unread result.1 (Htlc.verify_owner_ok extra_typed opened).1
  · intro read decoded
    exact extra_unread read (Htlc.composite_decode_iff.mp decoded)

end Lock

end Panurus.Zkatdlog
