import Panurus.Driver.Request

namespace Panurus.Htlc

open List Lib Driver TokenRequest

def concatTokenRequestTxIDPreimage (tokenRequestAndTxID preImage : Bytes) : Bytes :=
  let msg : Bytes := []
  let msg := msg ++ tokenRequestAndTxID
  msg ++ preImage

def followingOctets (head : UInt8) : Nat := if head.toNat < 128 then 0 else head.toNat - 128

theorem append_length_head (length : Nat) :
    ∃ head tail, appendLength [] length = head :: tail ∧ tail.length = followingOctets head := by
  simp only [appendLength, nil_append]
  split_ifs with short
  · refine ⟨_, _, rfl, ?_⟩
    have value : (UInt8.ofNat length).toNat = length := UInt8.toNat_ofNat_of_lt' (by show _ < 256; omega)
    simp [followingOctets, value, short]
  · exact ⟨0x81, _, rfl, by simp [followingOctets]⟩
  · exact ⟨0x82, _, rfl, by simp [followingOctets]⟩
  · exact ⟨0x83, _, rfl, by simp [followingOctets]⟩
  · exact ⟨0x84, _, rfl, by simp [followingOctets]⟩

variable {a b length : Nat} {rest more other anchor message : Bytes} {action : TypedAction}
  {actions others : List TypedAction} {request : TokenRequest}

theorem append_length_read (same : appendLength [] a ++ rest = appendLength [] b ++ more) :
    appendLength [] a = appendLength [] b ∧ rest = more := by
  obtain ⟨headA, tailA, eqA, sizeA⟩ := append_length_head a
  obtain ⟨headB, tailB, eqB, sizeB⟩ := append_length_head b
  rw [eqA, eqB, cons_append, cons_append, cons.injEq] at same
  obtain ⟨rfl, tails⟩ := same
  obtain ⟨rfl, rests⟩ := append_inj tails (by rw [sizeA, sizeB])
  exact ⟨by rw [eqA, eqB], rests⟩

theorem append_length_large_head (large : 2 ^ 24 ≤ length) : (appendLength [] length).head? = some 0x84 := by
  have long : ¬ length < 128 ∧ ¬ length < 256 ∧ ¬ length < 65536 ∧ ¬ length < 16777216 := by omega
  simp [appendLength, long]

theorem append_length_small_head (small : length < 2 ^ 24) : (appendLength [] length).head? ≠ some 0x84 := by
  simp only [appendLength, nil_append]
  split_ifs with short
  · intro same
    have value := congrArg UInt8.toNat (Option.some.inj same)
    simp at value
    omega
  · simp
  · simp
  · simp
  · omega

theorem append_length_small_injective (small : a < 2 ^ 24) (same : appendLength [] a = appendLength [] b) : a = b := by
  by_cases large : 2 ^ 24 ≤ b
  · have heads := append_length_large_head large
    rw [← same] at heads
    exact absurd heads (append_length_small_head small)
  · rw [append_length_der (by omega), append_length_der (by omega)] at same
    exact Codec.prefix_free_injective Der.length_octets_prefix_free (below_der_bound (by omega))
      (below_der_bound (by omega)) same

theorem append_length_wraps (large : 2 ^ 24 ≤ length) (turns : Nat) :
    appendLength [] (length + 2 ^ 32 * turns) = appendLength [] length := by
  have long : ¬ length < 128 ∧ ¬ length < 256 ∧ ¬ length < 65536 ∧ ¬ length < 16777216 := by omega
  have longer : ¬ length + 2 ^ 32 * turns < 128 ∧ ¬ length + 2 ^ 32 * turns < 256 ∧
      ¬ length + 2 ^ 32 * turns < 65536 ∧ ¬ length + 2 ^ 32 * turns < 16777216 := by omega
  simp only [appendLength, long, longer, if_false, Nat.add_mul_mod_self_left]

def signedMessage (actions : List TypedAction) (anchor : Bytes) : Bytes :=
  fastMarshalSignatureMessageV1 (fastMarshalTokenRequestForSigning actions) anchor

theorem fast_request_stream (actions : List TypedAction) :
    fastMarshalTokenRequestForSigning actions = 0x30 :: (appendLength [] (actionsTotal actions) ++
      0x30 :: (appendLength [] (actionsContentLen actions) ++ actions.flatMap fastAction)) := by
  rw [fast_request_eq, fastTlv, actions_total_length, fastTlv, actions_content_length]

theorem fast_message_stream (request anchor : Bytes) :
    fastMarshalSignatureMessageV1 request anchor = 0x30 :: (appendLength [] (messageContentLen request anchor) ++
      0x04 :: (appendLength [] request.length ++ (request ++ fastTlv 0x04 anchor))) := by
  rw [fast_message_eq, fastTlv, message_content_length]
  simp [fastTlv]

theorem signed_message_stream (actions : List TypedAction) (anchor : Bytes) :
    signedMessage actions anchor =
      0x30 :: (appendLength [] (messageContentLen (fastMarshalTokenRequestForSigning actions) anchor) ++
      0x04 :: (appendLength [] (fastMarshalTokenRequestForSigning actions).length ++
      0x30 :: (appendLength [] (actionsTotal actions) ++
      0x30 :: (appendLength [] (actionsContentLen actions) ++ (actions.flatMap fastAction ++ fastTlv 0x04 anchor))))) := by
  have tail : fastMarshalTokenRequestForSigning actions ++ fastTlv 0x04 anchor =
      0x30 :: (appendLength [] (actionsTotal actions) ++ 0x30 :: (appendLength [] (actionsContentLen actions) ++
        (actions.flatMap fastAction ++ fastTlv 0x04 anchor))) := by
    rw [fast_request_stream]
    simp
  rw [signedMessage, fast_message_stream, tail]

theorem fast_action_stream (action : TypedAction) :
    fastAction action = 0x30 :: (appendLength [] (actionContentLen action) ++
      0x02 :: 0x01 :: actionTypeInt action.type :: 0x04 :: (appendLength [] action.raw.length ++ action.raw)) := by
  rw [fastAction, fastTlv, action_content_length]
  rfl

theorem small_tlv_read {tag : UInt8} {content : Bytes} (small : content.length < 2 ^ 24)
    (same : fastTlv tag content ++ rest = fastTlv tag other ++ more) : content = other ∧ rest = more := by
  simp only [fastTlv, cons_append, append_assoc, cons.injEq, true_and] at same
  obtain ⟨codes, bodies⟩ := append_length_read same
  exact append_inj bodies (append_length_small_injective small codes)

theorem small_action_read {other : TypedAction} (small : action.raw.length < 2 ^ 24)
    (same : fastAction action ++ rest = fastAction other ++ more) : fastAction action = fastAction other ∧ rest = more := by
  have stream := same
  rw [fast_action_stream, fast_action_stream] at stream
  simp only [cons_append, append_assoc, cons.injEq, true_and] at stream
  obtain ⟨_, contents⟩ := append_length_read stream
  simp only [cons.injEq, true_and] at contents
  obtain ⟨_, raws⟩ := contents
  obtain ⟨codes, bodies⟩ := append_length_read raws
  obtain ⟨_, rests⟩ := append_inj bodies (append_length_small_injective small codes)
  subst rests
  exact ⟨append_cancel_right same, rfl⟩

section

variable (small : ∀ action ∈ actions, action.raw.length < 2 ^ 24) (short : anchor.length < 2 ^ 24)

include small short

-- Actions below 2^24 bytes are read off one by one; the tag after the last one is an OCTET STRING's,
-- so the other list ends there too.
theorem small_actions_read (same : actions.flatMap fastAction ++ (fastTlv 0x04 anchor ++ rest) =
      others.flatMap fastAction ++ (fastTlv 0x04 other ++ more)) :
    actions.flatMap fastAction = others.flatMap fastAction ∧ anchor = other ∧ rest = more := by
  induction actions generalizing others with
  | nil =>
    cases others with
    | nil => exact ⟨rfl, small_tlv_read short same⟩
    | cons head tail => simp [fastTlv, fast_action_stream] at same
  | cons action actions ih =>
    cases others with
    | nil => simp [fastTlv, fast_action_stream] at same
    | cons head tail =>
      simp only [flatMap_cons, append_assoc] at same ⊢
      obtain ⟨heads, tails⟩ := small_action_read (small action mem_cons_self) same
      have smallTail : ∀ action ∈ actions, action.raw.length < 2 ^ 24 :=
        fun action mem => small action (mem_cons_of_mem _ mem)
      obtain ⟨actionsEq, anchors, rests⟩ := ih smallTail tails
      exact ⟨by rw [heads, actionsEq], anchors, rests⟩

theorem small_message_read (same : signedMessage actions anchor ++ rest = signedMessage others other ++ more) :
    signedMessage actions anchor = signedMessage others other ∧ rest = more := by
  have stream := same
  rw [signed_message_stream, signed_message_stream] at stream
  simp only [cons_append, append_assoc, cons.injEq, true_and] at stream
  obtain ⟨_, stream⟩ := append_length_read stream
  simp only [cons.injEq, true_and] at stream
  obtain ⟨_, stream⟩ := append_length_read stream
  simp only [cons.injEq, true_and] at stream
  obtain ⟨_, stream⟩ := append_length_read stream
  simp only [cons.injEq, true_and] at stream
  obtain ⟨_, stream⟩ := append_length_read stream
  obtain ⟨_, _, rests⟩ := small_actions_read small short stream
  subst rests
  exact ⟨append_cancel_right same, rfl⟩

end

theorem encoded_length_large (large : 2 ^ 24 ≤ length) : encodedLength length = 5 := by
  have long : ¬ length < 128 ∧ ¬ length < 256 ∧ ¬ length < 65536 ∧ ¬ length < 16777216 := by omega
  simp [encodedLength, long]

theorem large_action_grows (large : 2 ^ 24 ≤ action.raw.length) (extra : Bytes) (turns : Nat)
    (size : extra.length = 2 ^ 32 * turns) :
    fastAction { action with raw := action.raw ++ extra } = fastAction action ++ extra := by
  have content : actionContentLen { action with raw := action.raw ++ extra } = actionContentLen action + 2 ^ 32 * turns := by
    simp only [actionContentLen, length_append, size]
    rw [encoded_length_large large, encoded_length_large (by omega)]
    omega
  have wide : 2 ^ 24 ≤ actionContentLen action := by
    unfold actionContentLen
    omega
  rw [fast_action_stream, fast_action_stream, content, append_length_wraps wide]
  simp only [length_append, size, append_length_wraps large]
  simp

def enclosed (length : Nat) : Nat := 1 + encodedLength length + length

def messageHeader (content : Nat) (anchor : Bytes) : Bytes :=
  0x30 :: (appendLength [] (enclosed (enclosed (enclosed content)) + enclosed anchor.length) ++
  0x04 :: (appendLength [] (enclosed (enclosed content)) ++
  0x30 :: (appendLength [] (enclosed content) ++ 0x30 :: appendLength [] content)))

theorem signed_message_header (actions : List TypedAction) (anchor : Bytes) :
    signedMessage actions anchor =
      messageHeader (actionsContentLen actions) anchor ++ (actions.flatMap fastAction ++ fastTlv 0x04 anchor) := by
  have request : (fastMarshalTokenRequestForSigning actions).length = enclosed (enclosed (actionsContentLen actions)) := by
    rw [fast_request_eq, fast_tlv_length, fast_tlv_length, actions_content_length]
    rfl
  have message : messageContentLen (fastMarshalTokenRequestForSigning actions) anchor =
      enclosed (enclosed (enclosed (actionsContentLen actions))) + enclosed anchor.length := by
    have unfolded : ∀ length, enclosed length = 1 + encodedLength length + length := fun _ => rfl
    rw [messageContentLen, request, unfolded (enclosed (enclosed (actionsContentLen actions))), unfolded anchor.length]
    omega
  rw [signed_message_stream, message, request, messageHeader]
  simp [enclosed, actionsTotal]

theorem enclosed_grows (large : 2 ^ 24 ≤ length) (turns : Nat) :
    enclosed (length + 2 ^ 32 * turns) = enclosed length + 2 ^ 32 * turns := by
  rw [enclosed, enclosed, encoded_length_large large, encoded_length_large (by omega)]
  omega

theorem le_enclosed (length : Nat) : length ≤ enclosed length := by
  unfold enclosed
  omega

theorem message_header_wraps {content : Nat} (large : 2 ^ 24 ≤ content) (turns : Nat) (anchor : Bytes) :
    messageHeader (content + 2 ^ 32 * turns) anchor = messageHeader content anchor := by
  have total := large.trans (le_enclosed content)
  have request := total.trans (le_enclosed (enclosed content))
  have message := request.trans (le_enclosed (enclosed (enclosed content)))
  simp only [messageHeader, enclosed_grows large, enclosed_grows total, enclosed_grows request,
    Nat.add_right_comm _ (2 ^ 32 * turns), append_length_wraps large, append_length_wraps total,
    append_length_wraps request, append_length_wraps (Nat.le_add_right_of_le message)]

theorem large_message_grows (front back : List TypedAction) (action : TypedAction) (anchor : Bytes)
    (large : 2 ^ 24 ≤ action.raw.length) (filler : Bytes) (turns : Nat)
    (size : (back.flatMap fastAction ++ fastTlv 0x04 anchor ++ filler).length = 2 ^ 32 * turns) :
    signedMessage (front ++ action :: back) anchor ++ (filler ++ (back.flatMap fastAction ++ fastTlv 0x04 anchor)) =
      signedMessage (front ++ { action with
        raw := action.raw ++ (back.flatMap fastAction ++ fastTlv 0x04 anchor ++ filler) } :: back) anchor := by
  have grown := large_action_grows large _ turns size
  have wide : 2 ^ 24 ≤ actionsContentLen (front ++ action :: back) := by
    simp only [← actions_content_length, flatMap_append, flatMap_cons, length_append,
      fast_action_length, actionTotal, actionContentLen]
    omega
  have content : actionsContentLen (front ++ { action with
      raw := action.raw ++ (back.flatMap fastAction ++ fastTlv 0x04 anchor ++ filler) } :: back) =
      actionsContentLen (front ++ action :: back) + 2 ^ 32 * turns := by
    simp only [← actions_content_length, flatMap_append, flatMap_cons, grown, length_append] at size ⊢
    omega
  rw [signed_message_header, signed_message_header, content, message_header_wraps wide]
  simp only [flatMap_append, flatMap_cons, grown]
  simp

theorem large_message_extends (mem : action ∈ actions) (large : 2 ^ 24 ≤ action.raw.length) (anchor : Bytes) :
    ∃ others extra, extra ≠ [] ∧ signedMessage actions anchor ++ extra = signedMessage others anchor := by
  obtain ⟨front, back, rfl⟩ := append_of_mem mem
  let tail := back.flatMap fastAction ++ fastTlv 0x04 anchor
  have size : (tail ++ replicate (2 ^ 32 * tail.length - tail.length) (0 : UInt8)).length = 2 ^ 32 * tail.length := by
    rw [length_append, length_replicate]
    omega
  refine ⟨_, _, ?_, large_message_grows _ _ _ anchor large _ tail.length size⟩
  simp [fastTlv]

theorem concat_eq (message preimage : Bytes) : concatTokenRequestTxIDPreimage message preimage = message ++ preimage := by
  simp [concatTokenRequestTxIDPreimage]

def MessageToSign (message : Bytes) : Prop :=
  ∃ (request : TokenRequest) (anchor : Bytes), request.marshalToMessageToSignV1 anchor = .ok message

-- What a claim signature over this message needs: no other message and preimage give the same bytes,
-- and no preimage turns the message into another message.
def ClaimSeparated (message : Bytes) : Prop :=
  (∀ other, MessageToSign other → ∀ preimage preimage',
    concatTokenRequestTxIDPreimage message preimage = concatTokenRequestTxIDPreimage other preimage' →
      message = other ∧ preimage = preimage') ∧
  ∀ preimage, preimage ≠ [] → ∀ other, MessageToSign other → concatTokenRequestTxIDPreimage message preimage ≠ other

theorem message_to_sign_signed (signed : MessageToSign message) : ∃ actions anchor, message = signedMessage actions anchor := by
  obtain ⟨request, anchor, marshalled⟩ := signed
  exact ⟨request.actions, anchor, ((marshal_to_message_ok_iff _ _ _).mp marshalled).2.2⟩

theorem small_message_separated (marshalled : request.marshalToMessageToSignV1 anchor = .ok message)
    (small : ∀ action ∈ request.actions, action.raw.length < 2 ^ 24) : ClaimSeparated message := by
  obtain ⟨_, bounded, rfl⟩ := (marshal_to_message_ok_iff _ _ _).mp marshalled
  have short : anchor.length < 2 ^ 24 := by
    unfold maxAnchorSize at bounded
    omega
  constructor
  · intro other signed preimage preimage' same
    obtain ⟨others, anchor', rfl⟩ := message_to_sign_signed signed
    exact small_message_read small short same
  · intro preimage nonempty other signed same
    obtain ⟨others, anchor', rfl⟩ := message_to_sign_signed signed
    have both := small_message_read small short (same.trans (append_nil _).symm)
    exact nonempty both.2

theorem large_message_not_separated (marshalled : request.marshalToMessageToSignV1 anchor = .ok message)
    (mem : action ∈ request.actions) (large : 2 ^ 24 ≤ action.raw.length) : ¬ ClaimSeparated message := by
  intro separated
  obtain ⟨nonempty, bounded, rfl⟩ := (marshal_to_message_ok_iff _ _ _).mp marshalled
  obtain ⟨others, extra, more, extended⟩ := large_message_extends mem large anchor
  have signed : MessageToSign (signedMessage others anchor) :=
    ⟨{ request with actions := others }, anchor, (marshal_to_message_ok_iff _ _ _).mpr ⟨nonempty, bounded, rfl⟩⟩
  exact separated.2 extra more _ signed (by rw [concat_eq]; exact extended)

theorem bounded_messages_separated {preimage preimage' : Bytes} (signed : MessageToSign message)
    (signed' : MessageToSign other) (bounded : message.length < 2 ^ 32) (bounded' : other.length < 2 ^ 32)
    (same : concatTokenRequestTxIDPreimage message preimage = concatTokenRequestTxIDPreimage other preimage') :
    message = other ∧ preimage = preimage' := by
  obtain ⟨actions, anchor, rfl⟩ := message_to_sign_signed signed
  obtain ⟨others, anchor', rfl⟩ := message_to_sign_signed signed'
  simp only [signedMessage, fast_message_eq] at same bounded bounded' ⊢
  rw [fast_tlv_length] at bounded bounded'
  rw [fast_tlv_der 0x30 (by omega), fast_tlv_der 0x30 (by omega)] at same ⊢
  obtain ⟨contents, rests⟩ := Der.tlv_prefix_free 0x30 _ (below_der_bound (by omega)) _ (below_der_bound (by omega)) _ _ same
  exact ⟨by rw [contents], rests⟩

theorem claim_signature_separated_iff (request : TokenRequest) (anchor message : Bytes)
    (marshalled : request.marshalToMessageToSignV1 anchor = .ok message) :
    (ClaimSeparated message ↔ ∀ action ∈ request.actions, action.raw.length < 2 ^ 24) ∧
    ∀ other, MessageToSign other → message.length < 2 ^ 32 → other.length < 2 ^ 32 → ∀ preimage preimage',
      concatTokenRequestTxIDPreimage message preimage = concatTokenRequestTxIDPreimage other preimage' →
        message = other ∧ preimage = preimage' := by
  refine ⟨⟨?_, small_message_separated marshalled⟩, ?_⟩
  · intro separated action mem
    by_contra large
    exact large_message_not_separated marshalled mem (by omega) separated
  · intro other signed bounded bounded' preimage preimage'
    exact bounded_messages_separated ⟨request, anchor, marshalled⟩ signed bounded bounded'

theorem claim_signature_separated_one_issue : ClaimSeparated (signedMessage [⟨.issue, [7]⟩] [1]) := by
  have marshalled : marshalToMessageToSignV1 ⟨1, [⟨.issue, [7]⟩], []⟩ [1] =
      .ok (signedMessage [⟨.issue, [7]⟩] [1]) := by rfl
  exact (claim_signature_separated_iff _ [1] _ marshalled).1.mpr (by decide)

theorem grown_request_collides (raw filler : Bytes) (large : 2 ^ 24 ≤ raw.length) (size : 3 + filler.length = 2 ^ 32) :
    ∃ message other preimage, marshalToMessageToSignV1 ⟨1, [⟨.issue, raw⟩], []⟩ [1] = .ok message ∧
      marshalToMessageToSignV1 ⟨1, [⟨.issue, raw ++ ([0x04, 0x01, 0x01] ++ filler)⟩], []⟩ [1] = .ok other ∧
      preimage ≠ [] ∧ concatTokenRequestTxIDPreimage message preimage = other ∧ message ≠ other := by
  have grown := large_message_grows [] [] ⟨.issue, raw⟩ [1] large filler 1
    (by rw [length_append, ← size]; simp [fastTlv, appendLength])
  have anchorOctets : ([] : List TypedAction).flatMap fastAction ++ fastTlv 0x04 [1] = [0x04, 0x01, 0x01] := by rfl
  rw [anchorOctets] at grown
  refine ⟨_, _, _, rfl, rfl, ?_, (concat_eq _ _).trans grown, ?_⟩
  · simp
  · intro same
    have lengths := congrArg length (grown.trans same.symm)
    simp only [length_append, signedMessage] at lengths
    simp at lengths

-- A claim on the 16 MiB request with the right preimage is a plain signature of the 4 GiB request.
theorem claim_message_is_another_request :
    ∃ message other preimage, marshalToMessageToSignV1 ⟨1, [⟨.issue, List.replicate (2 ^ 24) 0⟩], []⟩ [1] = .ok message ∧
      marshalToMessageToSignV1
        ⟨1, [⟨.issue, List.replicate (2 ^ 24) 0 ++ ([0x04, 0x01, 0x01] ++ List.replicate (2 ^ 32 - 3) 0)⟩], []⟩ [1] =
          .ok other ∧ preimage ≠ [] ∧ concatTokenRequestTxIDPreimage message preimage = other ∧ message ≠ other :=
  grown_request_collides _ _ (by rw [length_replicate]) (by rw [length_replicate]; rfl)

end Panurus.Htlc
