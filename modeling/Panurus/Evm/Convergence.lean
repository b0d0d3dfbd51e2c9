import Panurus.Evm.BackendEquivalence
import Panurus.Evm.Eip712

namespace Panurus.Evm

open List Lib Outcome FixedWidth Rws Translator

def Converging (t u : Translator) : Prop := ∃ metadata, t.metadata.Perm metadata ∧ u = { t with metadata }

section Building

variable {keccak256 sha256 : Hash} {t u : Translator} {metadata others : List (Bytes32 × Bytes)}
  {actions : List Action} {d : StateDelta}

theorem extended_converging (same : Converging t u) (outputs : List OutputToken) (refs : List Bytes32)
    (order : metadata.Perm others) (count : Nat) :
    Converging (t.extended outputs refs metadata count) (u.extended outputs refs others count) := by
  obtain ⟨listed, perm, rfl⟩ := same
  exact ⟨listed ++ others, perm.append order, rfl⟩

theorem write_converging {next : Translator} {action other : Action} (same : Converging t u) (reordered : Reordered action other)
    (done : t.write keccak256 action = .ok next) : ∃ after, u.write keccak256 other = .ok after ∧ Converging next after := by
  have whole := same
  obtain ⟨listed, perm, rfl⟩ := same
  cases reordered with
  | issue action metadata orders =>
    obtain ⟨plain, outputs, inputs, rfl⟩ := (write_issue_ok_iff []).mp done
    refine ⟨_, (write_issue_ok_iff []).mpr ⟨plain, outputs, inputs, rfl⟩, ?_⟩
    exact extended_converging whole _ _ (orders.order.map _) _
  | transfer action metadata orders =>
    obtain ⟨plain, outputs, inputs, rfl⟩ := (write_transfer_ok_iff []).mp done
    refine ⟨_, (write_transfer_ok_iff []).mpr ⟨plain, outputs, inputs, rfl⟩, ?_⟩
    exact extended_converging whole _ _ (orders.order.map _) _
  | setup parameters =>
    simp only [Translator.write, Translator.writeSetup, ok_iff, exists_const] at done ⊢
    obtain ⟨plain, ⟨outputs, refs, none⟩, raw, read, nonempty, rfl⟩ := done
    have nothing : listed = [] := by
      rw [none] at perm
      exact perm.symm.eq_nil
    exact ⟨_, ⟨plain, ⟨outputs, refs, nothing⟩, raw, read, nonempty, rfl⟩, listed, perm, rfl⟩
  | unknown type => cases done

theorem write_all_converging {others : List Action} (reordered : List.Forall₂ Reordered actions others) {start : Nat}
    {final : Translator} (same : Converging t u)
    (done : foldEach (fun i t action => wrap s!"failed to translate action {i}" (Translator.write keccak256 t action)) start t
      actions = .ok final) :
    ∃ after, foldEach (fun i t action => wrap s!"failed to translate action {i}" (Translator.write keccak256 t action)) start u
      others = .ok after ∧ Converging final after := by
  induction reordered generalizing start t u with
  | nil =>
    obtain rfl := Except.ok.inj done
    exact ⟨u, rfl, same⟩
  | cons first _ ih =>
    rw [foldEach, bind_ok_iff] at done
    obtain ⟨next, written, rest⟩ := done
    obtain ⟨after, written', near⟩ := write_converging same first (wrap_ok_iff.mp written)
    obtain ⟨last, rest', nearer⟩ := ih near rest
    exact ⟨last, by rw [foldEach, bind_ok_iff]; exact ⟨after, wrap_ok_iff.mpr written', rest'⟩, nearer⟩

theorem valid_keys_ascending (valid : d.validate = .ok ()) :
    d.metadataKeys.Pairwise fun key later => key.toNat < later.toNat := by
  simp only [StateDelta.validate, checkEntries, ok_iff, exists_const, check_fields_ok_iff, check_field_ok_iff, ascending_ok_iff] at valid
  obtain ⟨-, -, -, -, -, -, -, -, ascending, -⟩ := valid
  exact ascending

theorem sort_metadata_order (order : metadata.Perm others)
    (distinct : (metadata.map Prod.fst).Nodup) : sortMetadata metadata = sortMetadata others := by
  have perm : (sortMetadata metadata).Perm (sortMetadata others) :=
    (mergeSort_perm _ _).trans (order.trans (mergeSort_perm _ _).symm)
  refine List.Perm.eq_of_pairwise ?_ (sort_metadata_pairwise metadata) (sort_metadata_pairwise others) perm
  intro entry other mem mem' below above
  have inside := (mergeSort_perm _ _).mem_iff.mp mem
  have inside' := order.mem_iff.mpr ((mergeSort_perm _ _).mem_iff.mp mem')
  exact inj_on_of_nodup_map distinct inside inside' (BitVec.eq_of_toNat_eq (Nat.le_antisymm below above))

theorem state_delta_converging (same : Converging t u) (done : t.stateDelta = .ok d) : u.stateDelta = .ok d := by
  obtain ⟨listed, perm, rfl⟩ := same
  have finished := done
  simp only [stateDelta, ok_iff] at finished
  obtain ⟨paramsHash, _, requestHash, _, ⟨⟩, valid, rfl⟩ := finished
  have sorted := sort_metadata_order perm ((sorted_ascending_iff _).mp (valid_keys_ascending valid))
  rw [← done]
  simp [stateDelta, sorted]

theorem build_delta_converging {txID ppRaw : Bytes} {ppVersion : UInt64} {others : List Action}
    {tokenRequestToSign : Bytes} (reordered : List.Forall₂ Reordered actions others)
    (built : buildDelta keccak256 sha256 txID ppRaw ppVersion actions tokenRequestToSign = .ok d) :
    buildDelta keccak256 sha256 txID ppRaw ppVersion others tokenRequestToSign = .ok d := by
  simp only [buildDelta, ok_iff, addPublicParamsDependency, commitTokenRequest, if_true, exists_const] at built ⊢
  obtain ⟨anchor, decoded, t, written, _, ⟨present, rfl⟩, _, ⟨nonempty, rfl⟩, finished⟩ := built
  obtain ⟨u, written', same⟩ := write_all_converging reordered ⟨[], .refl _, rfl⟩ written
  obtain ⟨listed, perm, rfl⟩ := same
  refine ⟨anchor, decoded, _, written', _, ⟨present, rfl⟩, _, ⟨nonempty, rfl⟩, ?_⟩
  refine state_delta_converging ?_ finished
  exact ⟨listed, perm, rfl⟩

end Building

theorem endorsers_converge (keccak256 sha256 : Hash) (txID ppRaw : Bytes) (ppVersion : UInt64) (actions others : List Action)
    (tokenRequestToSign : Bytes) (reordered : List.Forall₂ Reordered actions others) :
    (∀ d, buildDelta keccak256 sha256 txID ppRaw ppVersion actions tokenRequestToSign = .ok d ↔
      buildDelta keccak256 sha256 txID ppRaw ppVersion others tokenRequestToSign = .ok d) ∧
    (∀ domain, (buildDelta keccak256 sha256 txID ppRaw ppVersion actions tokenRequestToSign).toOption.map
        (Eip712.digest keccak256 domain) =
      (buildDelta keccak256 sha256 txID ppRaw ppVersion others tokenRequestToSign).toOption.map (Eip712.digest keccak256 domain)) ∧
    (∀ state final, commitRequest (octetsOf sha256) state ⟨txID, actions⟩ = .ok final ↔
      commitRequest (octetsOf sha256) state ⟨txID, others⟩ = .ok final) ∧
    (∀ state final, commitRequest (octetsOf sha256) state ⟨txID, actions⟩ = .ok final →
      final = Lib.Mapping.writeAll state (Request.writes (octetsOf sha256) ⟨txID, actions⟩)) ∧
    (Request.writes (octetsOf sha256) ⟨txID, actions⟩).Perm (Request.writes (octetsOf sha256) ⟨txID, others⟩) := by
  have backwards : List.Forall₂ Reordered others actions := (reordered.imp fun _ _ => reordered_symm).flip
  have built : ∀ d, buildDelta keccak256 sha256 txID ppRaw ppVersion actions tokenRequestToSign = .ok d ↔
      buildDelta keccak256 sha256 txID ppRaw ppVersion others tokenRequestToSign = .ok d :=
    fun d => ⟨build_delta_converging reordered, build_delta_converging backwards⟩
  refine ⟨built, fun domain => ?_, fun state final => commit_order reordered, fun state final => commit_writes,
    writes_order reordered⟩
  have same : (buildDelta keccak256 sha256 txID ppRaw ppVersion actions tokenRequestToSign).toOption =
      (buildDelta keccak256 sha256 txID ppRaw ppVersion others tokenRequestToSign).toOption := by
    ext d
    simpa only [to_option_eq_some_iff] using built d
  rw [same]

namespace TwoEntries

open IssueAndRedeem

def forwards : IssueAction := { issue with metadata := [([0x61], [0x01]), ([0x62], [0x02])] }
def turned : IssueAction := { issue with metadata := [([0x62], [0x02]), ([0x61], [0x01])] }

theorem two_entries_converge :
    (∀ d, buildDelta checksum256 checksum256 txID [0x01] 1 [.issue forwards] [0x02] = .ok d ↔
      buildDelta checksum256 checksum256 txID [0x01] 1 [.issue turned] [0x02] = .ok d) ∧
    (commitRequest (octetsOf checksum256) state ⟨txID, [.issue turned]⟩).isOk = true := by
  have orders : MapOrders forwards.metadata turned.metadata := ⟨List.Perm.swap _ _ _, by decide⟩
  have reordered : List.Forall₂ Reordered [.issue forwards] [.issue turned] :=
    .cons (.issue forwards turned.metadata orders) .nil
  obtain ⟨built, -, committed, -⟩ := endorsers_converge checksum256 checksum256 txID [0x01] 1 _ _ [0x02] reordered
  refine ⟨built, ?_⟩
  have succeeds : (commitRequest (octetsOf checksum256) state ⟨txID, [.issue forwards]⟩).isOk = true := by
    decide +kernel
  obtain ⟨final, run⟩ := Lib.Outcome.is_ok_exists succeeds
  rw [(committed state final).mp run]
  rfl

end TwoEntries

end Panurus.Evm
