import Panurus.Lib.Der

namespace Panurus.Driver

open List Lib Codec Der

-- The protobuf enumeration is open: a number outside 0, 1, 2 survives unmarshalling.
inductive ActionType where
  | unspecified
  | issue
  | transfer
  | unknown (number : Int32)
deriving DecidableEq, Repr

structure TypedAction where
  type : ActionType
  raw : Bytes
deriving DecidableEq, Repr

def ActionType.known : ActionType → Bool
  | .issue | .transfer => true
  | _ => false

def encodedLength (length : Nat) : Nat :=
  if length < 128 then 1
  else if length < 256 then 2
  else if length < 65536 then 3
  else if length < 16777216 then 4
  else 5

-- The last branch is PutUint32 of uint32(length): a length of 2^32 or more is cut to its low 32 bits.
def appendLength (buf : Bytes) (length : Nat) : Bytes :=
  if length < 128 then buf ++ [UInt8.ofNat length]
  else if length < 256 then buf ++ [0x81, UInt8.ofNat length]
  else if length < 65536 then buf ++ [0x82, UInt8.ofNat (length / 256), UInt8.ofNat length]
  else if length < 16777216 then
    buf ++ [0x83, UInt8.ofNat (length / 65536), UInt8.ofNat (length / 256), UInt8.ofNat length]
  else
    let word := length % 2 ^ 32
    buf ++ [0x84, UInt8.ofNat (word / 16777216), UInt8.ofNat (word / 65536), UInt8.ofNat (word / 256),
      UInt8.ofNat word]

def messageContentLen (request anchor : Bytes) : Nat :=
  1 + encodedLength request.length + request.length + 1 + encodedLength anchor.length + anchor.length

def fastMarshalSignatureMessageV1 (request anchor : Bytes) : Bytes :=
  let contentLen := messageContentLen request anchor
  let result := [0x30]
  let result := appendLength result contentLen
  let result := result ++ [0x04]
  let result := appendLength result request.length
  let result := result ++ request
  let result := result ++ [0x04]
  let result := appendLength result anchor.length
  result ++ anchor

def actionContentLen (action : TypedAction) : Nat :=
  3 + (1 + encodedLength action.raw.length + action.raw.length)

def actionTotal (action : TypedAction) : Nat :=
  1 + encodedLength (actionContentLen action) + actionContentLen action

def actionsContentLen (actions : List TypedAction) : Nat :=
  actions.foldl (fun len action => len + actionTotal action) 0

def actionsTotal (actions : List TypedAction) : Nat :=
  1 + encodedLength (actionsContentLen actions) + actionsContentLen actions

def actionTypeInt : ActionType → UInt8
  | .issue => 0
  | .transfer => 1
  | _ => 0

def appendAction (result : Bytes) (action : TypedAction) : Bytes :=
  let result := result ++ [0x30]
  let result := appendLength result (actionContentLen action)
  let result := result ++ [0x02] ++ [0x01] ++ [actionTypeInt action.type]
  let result := result ++ [0x04]
  let result := appendLength result action.raw.length
  result ++ action.raw

def fastMarshalTokenRequestForSigning (actions : List TypedAction) : Bytes :=
  let result := [0x30]
  let result := appendLength result (actionsTotal actions)
  let result := result ++ [0x30]
  let result := appendLength result (actionsContentLen actions)
  actions.foldl appendAction result

def signingLengths (actions : List TypedAction) (anchor : Bytes) : List Nat :=
  let request := fastMarshalTokenRequestForSigning actions
  [messageContentLen request anchor, request.length, anchor.length, actionsTotal actions, actionsContentLen actions] ++
    actions.flatMap fun action => [actionContentLen action, action.raw.length]

def LengthsFit (actions : List TypedAction) (anchor : Bytes) : Prop :=
  ∀ length ∈ signingLengths actions anchor, length < 2 ^ 32

instance (actions : List TypedAction) (anchor : Bytes) : Decidable (LengthsFit actions anchor) :=
  inferInstanceAs (Decidable (∀ length ∈ signingLengths actions anchor, length < 2 ^ 32))

def actionDer (action : TypedAction) : Bytes :=
  sequence [integer (actionTypeInt action.type).toNat, octetString action.raw]

def requestDer (actions : List TypedAction) : Bytes :=
  sequence [sequence (actions.map actionDer)]

def messageDer (request anchor : Bytes) : Bytes :=
  sequence [octetString request, octetString anchor]

variable {length : Nat} {actions : List TypedAction} {anchor : Bytes}

theorem append_length_der (bounded : length < 2 ^ 32) (buf : Bytes) : appendLength buf length = buf ++ lengthOctets length := by
  unfold appendLength lengthOctets
  rw [← big_endian_length]
  -- One case per branch of the source; each knows how many base 256 digits the length has.
  split
  · rfl
  · split
    · rw [big_endian_single (by omega) (by omega)]
      rfl
    · split
      · rw [big_endian_step (by omega), big_endian_single (n := length / 256) (by omega) (by omega)]
        rfl
      · split
        · rw [big_endian_step (by omega), big_endian_step (n := length / 256) (by omega),
            Nat.div_div_eq_div_mul, big_endian_single (n := length / (256 * 256)) (by omega) (by omega)]
          rfl
        · rw [big_endian_step (by omega), big_endian_step (n := length / 256) (by omega),
            Nat.div_div_eq_div_mul, big_endian_step (n := length / (256 * 256)) (by omega),
            Nat.div_div_eq_div_mul, big_endian_single (n := length / (256 * 256 * 256)) (by omega) (by omega),
            Nat.mod_eq_of_lt bounded]
          rfl

theorem append_length_append (buf : Bytes) (length : Nat) : appendLength buf length = buf ++ appendLength [] length := by
  simp only [appendLength, nil_append]
  split_ifs <;> rfl

theorem encoded_length_spec (length : Nat) : (appendLength [] length).length = encodedLength length := by
  simp only [appendLength, encodedLength, nil_append]
  split_ifs <;> rfl

def fastTlv (tag : UInt8) (content : Bytes) : Bytes := tag :: (appendLength [] content.length ++ content)

theorem fast_tlv_length (tag : UInt8) (content : Bytes) :
    (fastTlv tag content).length = 1 + encodedLength content.length + content.length := by
  simp only [fastTlv, length_cons, length_append, encoded_length_spec]
  omega

theorem fast_tlv_der {content : Bytes} (tag : UInt8) (bounded : content.length < 2 ^ 32) :
    fastTlv tag content = tlv tag content := by
  rw [fastTlv, append_length_der bounded, nil_append, tlv]

def fastAction (action : TypedAction) : Bytes :=
  fastTlv 0x30 ([0x02, 0x01, actionTypeInt action.type] ++ fastTlv 0x04 action.raw)

theorem action_content_length (action : TypedAction) :
    ([0x02, 0x01, actionTypeInt action.type] ++ fastTlv 0x04 action.raw).length = actionContentLen action := by
  rw [length_append, fast_tlv_length]
  rfl

theorem fast_action_length (action : TypedAction) : (fastAction action).length = actionTotal action := by
  rw [fastAction, fast_tlv_length, action_content_length, actionTotal]

theorem append_action_eq (result : Bytes) (action : TypedAction) : appendAction result action = result ++ fastAction action := by
  rw [fastAction, fastTlv, action_content_length, fastTlv]
  simp only [appendAction]
  rw [append_length_append (result ++ [0x30]), append_length_append (_ ++ [0x04])]
  simp

theorem append_actions_eq (result : Bytes) (actions : List TypedAction) :
    actions.foldl appendAction result = result ++ actions.flatMap fastAction := by
  induction actions generalizing result with
  | nil => simp
  | cons action tail ih => rw [foldl_cons, append_action_eq, ih, flatMap_cons, append_assoc]

theorem actions_content_length (actions : List TypedAction) :
    (actions.flatMap fastAction).length = actionsContentLen actions := by
  have sums : ∀ (tail : List TypedAction) (len : Nat),
      tail.foldl (fun len action => len + actionTotal action) len = len + (tail.flatMap fastAction).length := by
    intro tail
    induction tail with
    | nil => simp
    | cons action tail ih =>
      intro len
      rw [foldl_cons, ih, flatMap_cons, length_append, fast_action_length]
      omega
  rw [actionsContentLen, sums, Nat.zero_add]

theorem actions_total_length (actions : List TypedAction) :
    (fastTlv 0x30 (actions.flatMap fastAction)).length = actionsTotal actions := by
  rw [fast_tlv_length, actions_content_length, actionsTotal]

theorem fast_request_eq (actions : List TypedAction) :
    fastMarshalTokenRequestForSigning actions = fastTlv 0x30 (fastTlv 0x30 (actions.flatMap fastAction)) := by
  rw [fastTlv, actions_total_length, fastTlv, actions_content_length]
  simp only [fastMarshalTokenRequestForSigning]
  rw [append_actions_eq, append_length_append (_ ++ [0x30]), append_length_append [0x30]]
  simp

theorem message_content_length (request anchor : Bytes) :
    (fastTlv 0x04 request ++ fastTlv 0x04 anchor).length = messageContentLen request anchor := by
  rw [length_append, fast_tlv_length, fast_tlv_length, messageContentLen]
  omega

theorem fast_message_eq (request anchor : Bytes) :
    fastMarshalSignatureMessageV1 request anchor = fastTlv 0x30 (fastTlv 0x04 request ++ fastTlv 0x04 anchor) := by
  rw [fastTlv, message_content_length, fastTlv, fastTlv]
  simp only [fastMarshalSignatureMessageV1]
  rw [append_length_append (_ ++ request ++ [0x04]), append_length_append (_ ++ [0x04]), append_length_append [0x30]]
  simp

theorem action_type_der (type : ActionType) : integer (actionTypeInt type).toNat = [0x02, 0x01, actionTypeInt type] := by
  cases type <;> rfl

theorem fast_action_der {action : TypedAction} (content : actionContentLen action < 2 ^ 32)
    (raw : action.raw.length < 2 ^ 32) : fastAction action = actionDer action := by
  rw [fastAction, fast_tlv_der 0x30 (by rw [action_content_length]; exact content), fast_tlv_der 0x04 raw,
    actionDer, action_type_der]
  simp [Der.sequence, Der.octetString]

structure LengthsBounded (actions : List TypedAction) (anchor : Bytes) : Prop where
  message : messageContentLen (fastMarshalTokenRequestForSigning actions) anchor < 2 ^ 32
  request : (fastMarshalTokenRequestForSigning actions).length < 2 ^ 32
  anchor : anchor.length < 2 ^ 32
  total : actionsTotal actions < 2 ^ 32
  content : actionsContentLen actions < 2 ^ 32
  action : ∀ action ∈ actions, actionContentLen action < 2 ^ 32 ∧ action.raw.length < 2 ^ 32

theorem lengths_fit_iff (actions : List TypedAction) (anchor : Bytes) :
    LengthsFit actions anchor ↔ LengthsBounded actions anchor := by
  simp only [LengthsFit, signingLengths, mem_append, mem_cons, not_mem_nil, or_false, mem_flatMap]
  constructor
  · intro fits
    refine ⟨fits _ (by simp), fits _ (by simp), fits _ (by simp), fits _ (by simp), fits _ (by simp), ?_⟩
    intro action mem
    exact ⟨fits _ (.inr ⟨action, mem, .inl rfl⟩), fits _ (.inr ⟨action, mem, .inr rfl⟩)⟩
  · rintro bounds length ((rfl | rfl | rfl | rfl | rfl) | ⟨action, mem, rfl | rfl⟩)
    · exact bounds.message
    · exact bounds.request
    · exact bounds.anchor
    · exact bounds.total
    · exact bounds.content
    · exact (bounds.action action mem).1
    · exact (bounds.action action mem).2

theorem fast_actions_der (bounds : ∀ action ∈ actions, actionContentLen action < 2 ^ 32 ∧ action.raw.length < 2 ^ 32) :
    actions.flatMap fastAction = (actions.map actionDer).flatten := by
  apply flatMap_congr
  intro action mem
  exact fast_action_der (bounds action mem).1 (bounds action mem).2

theorem fast_request_der (fits : LengthsBounded actions anchor) :
    fastMarshalTokenRequestForSigning actions = requestDer actions := by
  have inner : fastTlv 0x30 (actions.flatMap fastAction) = Der.sequence (actions.map actionDer) := by
    rw [fast_tlv_der 0x30 (by rw [actions_content_length]; exact fits.content), fast_actions_der fits.action]
    rfl
  have outer : (Der.sequence (actions.map actionDer)).length < 2 ^ 32 := by
    rw [← inner, fast_tlv_length, actions_content_length]
    exact fits.total
  rw [fast_request_eq, inner, fast_tlv_der 0x30 outer, requestDer, Der.sequence, Der.sequence]
  simp

theorem fast_message_der (fits : LengthsBounded actions anchor) :
    fastMarshalSignatureMessageV1 (fastMarshalTokenRequestForSigning actions) anchor =
      messageDer (requestDer actions) anchor := by
  have content : (fastTlv 0x04 (fastMarshalTokenRequestForSigning actions) ++ fastTlv 0x04 anchor).length < 2 ^ 32 := by
    have message := fits.message
    rw [length_append, fast_tlv_length, fast_tlv_length]
    unfold messageContentLen at message
    omega
  rw [fast_message_eq, fast_tlv_der 0x30 content, fast_tlv_der 0x04 fits.request, fast_tlv_der 0x04 fits.anchor,
    fast_request_der fits]
  simp [messageDer, Der.sequence, Der.octetString]

theorem below_der_bound (bounded : length < 2 ^ 32) : length < lengthBound :=
  bounded.trans (by unfold lengthBound; norm_num)

theorem action_type_injective {a b : ActionType} (knownA : a.known = true) (knownB : b.known = true)
    (same : actionTypeInt a = actionTypeInt b) : a = b := by
  cases a <;> cases b <;> simp_all [ActionType.known, actionTypeInt]

def EncodableAction (action : TypedAction) : Prop :=
  action.type.known = true ∧ actionContentLen action < 2 ^ 32 ∧ action.raw.length < 2 ^ 32

theorem action_der_prefix_free : PrefixFreeOn {action | EncodableAction action} actionDer := by
  apply prefix_free_comp (tlv_prefix_free 0x30)
  · rintro action ⟨_, content, raw⟩
    apply below_der_bound
    beta_reduce
    rw [action_type_der, octetString, ← fast_tlv_der 0x04 raw]
    simpa [← action_content_length] using content
  · rintro a ⟨knownA, _⟩ b ⟨knownB, _⟩ same
    simp only [action_type_der, octetString, flatten_cons, flatten_nil, append_nil,
      cons_append, nil_append, cons.injEq, true_and] at same
    have types := action_type_injective knownA knownB same.1
    have raws := tlv_injective 0x04 same.2
    cases a
    simp_all

theorem request_der_injective {others : List TypedAction}
    (encodable : ∀ action ∈ actions, EncodableAction action) (encodable' : ∀ action ∈ others, EncodableAction action)
    (same : requestDer actions = requestDer others) : actions = others := by
  have inner : (actions.map actionDer).flatten = (others.map actionDer).flatten := by
    have outer := tlv_injective 0x30 same
    simp only [flatten_cons, flatten_nil, append_nil] at outer
    exact tlv_injective 0x30 outer
  exact prefix_free_flatMap action_der_prefix_free (fun _ _ => tlv_ne_nil _ _) encodable encodable' inner

theorem message_der_injective {request other anchor' : Bytes} (boundR : request.length < 2 ^ 32) (boundO : other.length < 2 ^ 32)
    (same : messageDer request anchor = messageDer other anchor') : request = other ∧ anchor = anchor' := by
  have content := tlv_injective 0x30 same
  simp only [flatten_cons, flatten_nil, append_nil] at content
  obtain ⟨requests, anchors⟩ :=
    tlv_prefix_free 0x04 _ (below_der_bound boundR) _ (below_der_bound boundO) _ _ content
  exact ⟨requests, tlv_injective 0x04 anchors⟩

theorem message_to_sign_binding (actions others : List TypedAction) (anchor anchor' : Bytes)
    (typed : ∀ action ∈ actions, action.type = .issue ∨ action.type = .transfer)
    (typed' : ∀ action ∈ others, action.type = .issue ∨ action.type = .transfer)
    (fits : LengthsFit actions anchor) (fits' : LengthsFit others anchor') :
    fastMarshalSignatureMessageV1 (fastMarshalTokenRequestForSigning actions) anchor =
        Der.sequence [Der.octetString (requestDer actions), Der.octetString anchor] ∧
      (fastMarshalSignatureMessageV1 (fastMarshalTokenRequestForSigning actions) anchor =
        fastMarshalSignatureMessageV1 (fastMarshalTokenRequestForSigning others) anchor' →
      actions = others ∧ anchor = anchor') := by
  rw [lengths_fit_iff] at fits fits'
  refine ⟨fast_message_der fits, ?_⟩
  intro same
  have encodable : ∀ action ∈ actions, EncodableAction action := by
    intro action mem
    refine ⟨?_, fits.action action mem⟩
    rcases typed action mem with type | type <;> rw [type] <;> rfl
  have encodable' : ∀ action ∈ others, EncodableAction action := by
    intro action mem
    refine ⟨?_, fits'.action action mem⟩
    rcases typed' action mem with type | type <;> rw [type] <;> rfl
  rw [fast_message_der fits, fast_message_der fits', ← fast_request_der fits, ← fast_request_der fits'] at same
  obtain ⟨requests, anchors⟩ := message_der_injective fits.request fits'.request same
  rw [fast_request_der fits, fast_request_der fits'] at requests
  exact ⟨request_der_injective encodable encodable' requests, anchors⟩

theorem issue_and_transfer_sign_different_messages :
    fastMarshalSignatureMessageV1 (fastMarshalTokenRequestForSigning [⟨.issue, [7]⟩]) [1] ≠
      fastMarshalSignatureMessageV1 (fastMarshalTokenRequestForSigning [⟨.transfer, [7]⟩]) [1] := by
  intro same
  have binding := message_to_sign_binding [⟨.issue, [7]⟩] [⟨.transfer, [7]⟩] [1] [1]
    (by decide) (by decide) (by decide) (by decide)
  exact absurd (binding.2 same).1 (by decide)

end Panurus.Driver
