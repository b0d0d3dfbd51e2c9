import Panurus.Identity.Encoding

namespace Panurus.Identity

open List Lib Outcome

def unwrapAs {α : Type} (type : Int32) (content : Asn1Type α) (text : String) (raw : Bytes) : Outcome (Option α) := do
  let ti ← wrap "failed unmarshalling typed identity" (unmarshalTypedIdentity raw)
  if ti.type ≠ type then return none
  else do
    let found ← wrap text (unmarshalCanonicalDER content ti.identity)
    return some found

def typeOf (id : Bytes) : Option Int32 := (unmarshalTypedIdentity id).toOption.map TypedIdentity.type

section Unwrapped

variable {α : Type} {type : Int32} {content : Asn1Type α} {text : String} {raw : Bytes}

theorem unwrap_as_ok_iff {answer : Option α} : unwrapAs type content text raw = .ok answer ↔
    ∃ ti, unmarshalTypedIdentity raw = .ok ti ∧ ((ti.type ≠ type ∧ answer = none) ∨
        (ti.type = type ∧ ∃ found, unmarshalCanonicalDER content ti.identity = .ok found ∧ answer = some found)) := by
  simp only [unwrapAs, ok_iff]
  refine exists_congr fun ti => and_congr_right fun _ => ?_
  by_cases same : ti.type = type
  · simp only [same, ne_eq, not_true_eq_false, if_false, ok_iff, false_and, true_and, false_or]
    exact exists_congr fun found => and_congr_right fun _ => eq_comm
  · simp only [same, ne_eq, not_false_eq_true, if_true, pure_ok_iff, true_and, false_and, or_false]
    exact eq_comm

theorem type_of_eq_some {found : Int32} :
    typeOf raw = some found ↔ ∃ ti, unmarshalTypedIdentity raw = .ok ti ∧ ti.type = found := by
  simp [typeOf, to_option_eq_some_iff]

end Unwrapped

theorem typed_data_shorter {raw : Bytes} {ti : TypedIdentity} (typed : unmarshalTypedIdentity raw = .ok ti) :
    ti.identity.length < raw.length := by
  simp only [unmarshalTypedIdentity, ok_iff] at typed
  obtain ⟨res, decoded, labelled⟩ := typed
  obtain ⟨tag, content, label, rfl, -⟩ := decode_identity_ok_iff.mp decoded
  have data : ti.identity = res.data := by
    cases named : res.label with
    | int value =>
      rw [named] at labelled
      cases labelled
      rfl
    | str name =>
      rw [named] at labelled
      cases labelled
  rw [data, fields_eq]
  simp only [appendTLV, nil_append, length_cons, length_append]
  omega

theorem unwrap_as_shorter {α : Type} {type : Int32} {content : Asn1Type α} {text : String} {raw : Bytes} {found : α}
    (done : unwrapAs type content text raw = .ok (some found)) : (content.marshal found).length < raw.length := by
  obtain ⟨ti, typed, ⟨-, none⟩ | ⟨-, _, read, same⟩⟩ := unwrap_as_ok_iff.mp done
  · cases none
  · cases same
    rw [(unmarshal_canonical_ok_iff.mp read).2]
    exact typed_data_shorter typed

end Panurus.Identity

namespace Panurus.Multisig

open Lib Outcome Identity

def unwrap : Bytes → Outcome (Option (List Bytes)) := unwrapAs multiSigIdentityType stringsType "failed unmarshalling multi identity"

theorem unwrapped_shorter {raw component : Bytes} {components : List Bytes} (done : unwrap raw = .ok (some components))
    (mem : component ∈ components) : component.length < raw.length := by
  have whole := unwrap_as_shorter done
  have inner := component_shorter mem
  simp only [stringsType, Der.sequence, Der.tlv, List.flatten_cons, List.flatten_nil, List.append_nil, List.length_cons,
    List.length_append] at whole
  omega

end Panurus.Multisig

namespace Panurus.Boolpolicy

open Lib Outcome Identity

def unwrap : Bytes → Outcome (Option (Bytes × List Bytes)) :=
  unwrapAs policyIdentityType textAndStringsType "failed deserialising policy identity body"

theorem unwrapped_shorter {raw component policy : Bytes} {components : List Bytes}
    (done : unwrap raw = .ok (some (policy, components))) (mem : component ∈ components) : component.length < raw.length := by
  have whole := unwrap_as_shorter done
  have inner := component_shorter mem
  simp only [textAndStringsType, Der.sequence, Der.tlv, List.flatten_cons, List.flatten_nil, List.append_nil, List.length_cons,
    List.length_append] at whole
  omega

end Panurus.Boolpolicy
