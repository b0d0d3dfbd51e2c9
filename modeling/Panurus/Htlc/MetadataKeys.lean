import Panurus.Core.Auditing
import Panurus.Identity.Multiplex

namespace Panurus.Core

open List Lib Outcome

variable {P T A : Type}

def publicEntries (metadata : Entries) : Entries :=
  metadata.filter fun entry => publicMetadataPrefix.isPrefixOf entry.1

theorem application_data_keys {metadata : A → Entries} {ctx next : Context P T A}
    (done : applicationDataValidate metadata ctx = .ok next) :
    next = { ctx with metadataCounter := ctx.metadataCounter ++ (publicEntries (metadata ctx.action)).map Prod.fst } := by
  simp only [applicationDataValidate, Except.ok.injEq] at done
  subst done
  induction metadata ctx.action using reverseRecOn with
  | nil => simp [publicEntries]
  | append_singleton front entry ih =>
    rw [foldl_append, foldl_cons, ih]
    by_cases counted : publicMetadataPrefix.isPrefixOf entry.1
    · simp [counted, Context.countMetadataKey, publicEntries]
    · simp [counted, publicEntries]

theorem check_metadata_counter_ok {metadata : Entries} {ctx : Context P T A} (done : checkMetadataCounter metadata ctx = .ok ()) :
    ctx.metadataCounter.Nodup ∧ metadata.length = ctx.metadataCounter.length := by
  simp only [checkMetadataCounter, ok_iff] at done
  obtain ⟨⟨⟩, checked, length⟩ := done
  refine ⟨nodup_iff_count_le_one.mpr fun key => ?_, length⟩
  by_cases counted : key ∈ ctx.metadataCounter
  · have once := check_each_mem.mp checked key counted
    rwa [ensure_ok_iff] at once
  · rw [count_eq_zero_of_not_mem counted]
    exact Nat.zero_le 1

theorem metadata_perm_entries {metadata entries : Entries} (listed : entries ⊆ metadata)
    (once : (entries.map Prod.fst).Nodup) (length : metadata.length = entries.length) : metadata.Perm entries := by
  have sub : entries.Subperm metadata := once.of_map _ |>.subperm listed
  exact (sub.perm_of_length_le length.le).symm

end Panurus.Core

namespace Panurus.Htlc

open Lib Outcome Core Identity Driver

def scriptOf (owner : Bytes) : Option Bytes :=
  match unmarshalTypedIdentity owner with
  | .ok si => if si.type = htlcScriptIdentityType then some si.identity else none
  | .error _ => none

def Script.lockEntry (script : Script) : Bytes × Bytes := (lockKey script.hashInfo.hash, lockValue script.hashInfo.hash)

def Locks (read : Bytes → Outcome Script) (owners : List Bytes) (scripts : List Script) : Prop :=
  List.Forall₂ (fun raw script => read raw = .ok script) (owners.filterMap scriptOf) scripts

-- What the claim of an input puts into the metadata. The first signature is the one for the first input; it was checked
-- when the clock said the first reading.
inductive Claims (lib : Libraries) (provider : Backend) (now : Int) : List Bytes → Entries → Prop
  | unlocked {owners : List Bytes} (plain : ∀ owner ∈ owners, scriptOf owner = none) : Claims lib provider now owners []
  | reclaimed {owner raw : Bytes} {script : Script} (owned : scriptOf owner = some raw)
      (read : unmarshalStrict lib.decodeScript raw = .ok script) (late : script.deadline ≤ now) :
      Claims lib provider now [owner] []
  | claimed {owner raw sigma image : Bytes} {script : Script} {claim : ClaimSignature} (owned : scriptOf owner = some raw)
      (read : unmarshalStrict lib.decodeScript raw = .ok script) (early : now < script.deadline)
      (taken : provider.sigs[provider.cursor]? = some sigma) (claims : unmarshalStrict lib.decodeClaim sigma = .ok claim)
      (imaged : script.hashInfo.image lib claim.preimage = .ok image)
      (same : provider.clock provider.cursor 0 ≤ now → image = script.hashInfo.hash) :
      Claims lib provider now [owner] [(claimKey image, claim.preimage)]

def Accounted (lib : Libraries) (read : Bytes → Outcome Script) (provider : Backend) (now : Int) (inputs outputs : List Bytes)
    (metadata : Entries) : Prop :=
  ∃ claims scripts, Claims lib provider now inputs claims ∧ Locks read outputs scripts ∧
    metadata.Perm (claims ++ scripts.map Script.lockEntry ++ publicEntries metadata) ∧ (metadata.map Prod.fst).Nodup

inductive LockStep {P T A : Type} (lib : Libraries) (read : Bytes → Outcome Script) (metadata : Entries) (ctx : Context P T A)
    (owner : Bytes) : Context P T A → Prop
  | plain (unowned : scriptOf owner = none) : LockStep lib read metadata ctx owner ctx
  | locked {raw : Bytes} {script : Script} (owned : scriptOf owner = some raw) (reads : read raw = .ok script)
      (valid : script.validate lib ctx.now = .ok ()) (present : script.lockEntry ∈ metadata) :
      LockStep lib read metadata ctx owner (ctx.countMetadataKey (lockKey script.hashInfo.hash))

inductive ClaimStep {P T A : Type} (lib : Libraries) (metadata : Entries) (ctx : Context P T A) (index : Nat)
    (owner : Bytes) : Context P T A → Prop
  | plain (unowned : scriptOf owner = none) : ClaimStep lib metadata ctx index owner ctx
  | reclaimed {raw : Bytes} {script : Script} (owned : scriptOf owner = some raw)
      (read : unmarshalStrict lib.decodeScript raw = .ok script) (late : script.deadline ≤ ctx.now)
      (single : ctx.inputTokens.length = 1) : ClaimStep lib metadata ctx index owner ctx
  | claimed {raw sigma image : Bytes} {script : Script} {claim : ClaimSignature} (owned : scriptOf owner = some raw)
      (read : unmarshalStrict lib.decodeScript raw = .ok script) (early : ctx.now < script.deadline)
      (single : ctx.inputTokens.length = 1) (taken : ctx.signatures[index]? = some sigma)
      (claims : unmarshalStrict lib.decodeClaim sigma = .ok claim)
      (imaged : script.hashInfo.image lib claim.preimage = .ok image) (present : (claimKey image, claim.preimage) ∈ metadata) :
      ClaimStep lib metadata ctx index owner (ctx.countMetadataKey (claimKey image))

variable {owner raw key sigma : Bytes} {si : TypedIdentity} {script : Script} {lib : Libraries} {P T A : Type}
  {metadata : Entries} {ctx next : Context P T A} {index : Nat} {read : Bytes → Outcome Script}

theorem LockStep.counts (step : LockStep lib read metadata ctx owner next) : Counts ctx next := by
  cases step with
  | plain _ => exact counts_refl ctx
  | locked => exact counts_key ctx _

theorem ClaimStep.counts (step : ClaimStep lib metadata ctx index owner next) : Counts ctx next := by
  cases step with
  | plain | reclaimed => exact counts_refl ctx
  | claimed => exact counts_key ctx _

theorem script_of_typed (typed : unmarshalTypedIdentity owner = .ok si)
    (scripted : si.type = htlcScriptIdentityType) : scriptOf owner = some si.identity := by
  simp [scriptOf, typed, if_pos scripted]

theorem script_of_other (typed : unmarshalTypedIdentity owner = .ok si)
    (other : si.type ≠ htlcScriptIdentityType) : scriptOf owner = none := by
  simp [scriptOf, typed, if_neg other]

theorem script_of_some (owned : scriptOf owner = some raw) :
    ∃ si, unmarshalTypedIdentity owner = .ok si ∧ si.type = htlcScriptIdentityType ∧ raw = si.identity := by
  cases typed : unmarshalTypedIdentity owner with
  | error _ => simp [scriptOf, typed] at owned
  | ok si =>
    simp only [scriptOf, typed, Option.ite_none_right_eq_some, Option.some.injEq] at owned
    exact ⟨si, rfl, owned.1, owned.2.symm⟩

theorem script_of_nil : scriptOf [] = none := rfl

theorem lookup_mem {value : Bytes} (found : metadata.lookup key = some value) : (key, value) ∈ metadata := by
  obtain ⟨front, back, rfl, _⟩ := List.lookup_eq_some_iff.mp found
  simp

theorem lock_key_check_ok (done : metadataLockKeyCheck metadata script = .ok key) :
    key = lockKey script.hashInfo.hash ∧ script.lockEntry ∈ metadata := by
  simp only [metadataLockKeyCheck, ok_iff, exists_const] at done
  obtain ⟨_, value, found, rfl, rfl⟩ := done
  exact ⟨rfl, lookup_mem found⟩

theorem lock_output_ok (done : lockOutput lib read metadata ctx owner = .ok next) :
    LockStep lib read metadata ctx owner next := by
  simp only [lockOutput, bind_ok_iff] at done
  obtain ⟨si, typed, rest⟩ := done
  by_cases scripted : si.type = htlcScriptIdentityType
  · simp only [if_pos scripted, ok_iff] at rest
    obtain ⟨script, reads, _, valid, key, checked, rfl⟩ := rest
    obtain ⟨rfl, present⟩ := lock_key_check_ok checked
    exact .locked (script_of_typed typed scripted) reads valid present
  · rw [if_neg scripted, pure_ok_iff] at rest
    exact rest ▸ .plain (script_of_other typed scripted)

theorem claim_key_check_ok (done : metadataClaimKeyCheck lib metadata script .claim sigma = .ok key) :
    ∃ claim image, unmarshalStrict lib.decodeClaim sigma = .ok claim ∧ script.hashInfo.image lib claim.preimage = .ok image ∧
      key = claimKey image ∧ (claimKey image, claim.preimage) ∈ metadata := by
  simp only [metadataClaimKeyCheck, reduceCtorEq, if_false, ok_iff, exists_const] at done
  obtain ⟨claim, read, _, _, image, imaged, value, found, rfl, rfl⟩ := done
  exact ⟨claim, image, read, imaged, rfl, lookup_mem found⟩

theorem claim_step_of_checks
    {out : Bytes} {op : OperationType} (single : ctx.inputTokens.length = 1) (owned : scriptOf owner = some raw)
    (verified : unmarshalStrict lib.decodeScript raw = .ok script ∧
      ((op = .claim ∧ ctx.now < script.deadline ∧ script.recipient = out) ∨
        (op = .reclaim ∧ script.deadline ≤ ctx.now ∧ script.sender = out)))
    (taken : ctx.signatures[index]? = some sigma) (checked : metadataClaimKeyCheck lib metadata script op sigma = .ok key) :
    ClaimStep lib metadata ctx index owner (if op = .reclaim then ctx else ctx.countMetadataKey key) := by
  obtain ⟨read, ⟨rfl, early, _⟩ | ⟨rfl, late, _⟩⟩ := verified
  · obtain ⟨claim, image, claims, imaged, rfl, present⟩ := claim_key_check_ok checked
    exact .claimed owned read early single taken claims imaged present
  · rw [if_pos rfl]
    exact .reclaimed owned read late single

section Folds

variable {α : Type} {metadata : A → Entries}

theorem locks_counted {step : Nat → Context P T A → α → Outcome (Context P T A)} {ownerOf : α → Bytes}
    {items : List α}
    (each : ∀ index ctx next item, step index ctx item = .ok next → LockStep lib read (metadata ctx.action) ctx (ownerOf item) next)
    (done : foldEach step 0 ctx items = .ok next) :
    ∃ scripts, Locks read (items.map ownerOf) scripts ∧ scripts.map Script.lockEntry ⊆ metadata ctx.action ∧
      next = { ctx with metadataCounter := ctx.metadataCounter ++ (scripts.map Script.lockEntry).map Prod.fst } := by
  refine fold_each_invariant (fun front state => ∃ scripts, Locks read (front.map ownerOf) scripts ∧
    scripts.map Script.lockEntry ⊆ metadata ctx.action ∧
    state = { ctx with metadataCounter := ctx.metadataCounter ++ (scripts.map Script.lockEntry).map Prod.fst })
    (fun front state item after before stepped => ?_) ⟨[], .nil, by simp, by simp⟩ done
  obtain ⟨scripts, locks, present, rfl⟩ := before
  have turn := each _ _ _ _ stepped
  cases turn with
  | plain unowned =>
    refine ⟨scripts, ?_, present, rfl⟩
    simpa [Locks, unowned] using locks
  | @locked raw script owned reads _ entry =>
    refine ⟨scripts ++ [script], ?_, ?_, ?_⟩
    · rw [Locks, List.map_append, List.filterMap_append]
      refine List.rel_append locks ?_
      simpa [owned] using reads
    · rw [List.map_append]
      exact List.append_subset.mpr ⟨present, List.cons_subset.mpr ⟨entry, List.nil_subset _⟩⟩
    · simp [Context.countMetadataKey, Script.lockEntry]

theorem claims_counted {step : Nat → Context P T A → T → Outcome (Context P T A)} {ownerOf : T → Bytes}
    (each : ∀ index ctx next item, step index ctx item = .ok next →
      ClaimStep lib (metadata ctx.action) ctx index (ownerOf item) next) (done : foldEach step 0 ctx ctx.inputTokens = .ok next) :
    ((∀ tok ∈ ctx.inputTokens, scriptOf (ownerOf tok) = none) ∧ next = ctx) ∨
      ∃ tok, ctx.inputTokens = [tok] ∧ ClaimStep lib (metadata ctx.action) ctx 0 (ownerOf tok) next := by
  by_cases single : ctx.inputTokens.length = 1
  · obtain ⟨tok, only⟩ := List.length_eq_one_iff.mp single
    rw [only, foldEach, bind_ok_iff] at done
    obtain ⟨_, stepped, finished⟩ := done
    cases finished
    exact .inr ⟨tok, only, each _ _ _ _ stepped⟩
  · refine .inl (fold_each_invariant (fun front state => (∀ tok ∈ front, scriptOf (ownerOf tok) = none) ∧ state = ctx)
      (fun front state item after before stepped => ?_) ⟨by simp, rfl⟩ done)
    obtain ⟨plain, rfl⟩ := before
    have turn := each _ _ _ _ stepped
    cases turn with
    | plain unowned =>
      refine ⟨fun tok mem => ?_, rfl⟩
      rcases List.mem_append.mp mem with earlier | last
      · exact plain tok earlier
      · rwa [List.mem_singleton.mp last]
    | reclaimed _ _ _ alone | claimed _ _ _ alone => exact absurd alone single

end Folds

theorem claimed_image {others : Int32 → List TypedDeserializer} {uniqueID : Identity → String} {limits : ResourceLimits}
    {claim : ClaimSignature} {verifier : Core.Verifier} {readings : Readings} {message image : Bytes}
    (owned : scriptOf owner = some raw) (read : unmarshalStrict lib.decodeScript raw = .ok script)
    (found : (newDeserializer lib others uniqueID limits).getOwnerVerifier owner = .ok (some verifier))
    (verified : verifier readings message sigma = .ok ()) (early : readings 0 < script.deadline)
    (claims : unmarshalStrict lib.decodeClaim sigma = .ok claim) (imaged : script.hashInfo.image lib claim.preimage = .ok image) :
    image = script.hashInfo.hash := by
  obtain ⟨si, typed, scripted, rfl⟩ := script_of_some owned
  simp only [newDeserializer, map_ok_iff, Option.some.injEq, exists_eq_right] at found
  obtain ⟨script', sender, recipient, inner, read', _, _, rfl⟩ := script_owner_verifier typed scripted found
  obtain rfl : script = script' := Except.ok.inj (read.symm.trans read')
  simp only [Verifier.verify, if_pos early, ok_iff, claimVerify] at verified
  obtain ⟨claim', lax, _, _, image', imaged', same⟩ := verified
  obtain rfl := unmarshal_agree lax claims
  exact (Except.ok.inj (imaged.symm.trans imaged')).trans same.symm

structure FirstSigned (deserializer : Deserializer) (provider : Backend) (owner sigma : Bytes) (verifier : Core.Verifier) :
    Prop where
  found : deserializer.getOwnerVerifier owner = .ok (some verifier)
  taken : provider.sigs[provider.cursor]? = some sigma
  verified : verifier (provider.clock provider.cursor) provider.message sigma = .ok ()

section Accounting

variable {α : Type} {others : Int32 → List TypedDeserializer} {uniqueID : Identity → String}
  {limits : ResourceLimits} {metadata : A → Entries} {provider : Backend} {ownerOf : T → Bytes}

theorem claims_of_step {tok : T} (only : ctx.inputTokens = [tok])
    (turn : ClaimStep lib (metadata ctx.action) ctx 0 (ownerOf tok) next)
    (signed : ∃ sigma verifier, FirstSigned (newDeserializer lib others uniqueID limits) provider (ownerOf tok) sigma verifier ∧
      ctx.signatures[0]? = some sigma) :
    ∃ claims, Claims lib provider ctx.now (ctx.inputTokens.map ownerOf) claims ∧ claims ⊆ metadata ctx.action ∧
      next = { ctx with metadataCounter := ctx.metadataCounter ++ claims.map Prod.fst } := by
  have owners : ctx.inputTokens.map ownerOf = [ownerOf tok] := by
    rw [only, List.map_singleton]
  rw [owners]
  cases turn with
  | plain unowned =>
    refine ⟨[], .unlocked ?_, List.nil_subset _, by simp⟩
    simpa using unowned
  | reclaimed owned read late => exact ⟨[], .reclaimed owned read late, List.nil_subset _, by simp⟩
  | @claimed raw sigma image script claim owned read early single taken claims imaged present =>
    obtain ⟨sigma', verifier, first, same⟩ := signed
    obtain rfl : sigma = sigma' := Option.some.inj (taken.symm.trans same)
    have hashed : provider.clock provider.cursor 0 ≤ ctx.now → image = script.hashInfo.hash := fun later =>
      claimed_image owned read first.found first.verified (by omega) claims imaged
    exact ⟨_, .claimed owned read early first.taken claims imaged hashed, by simpa using present, rfl⟩

theorem transfer_accounted {inputStep : Nat → Context P T A → T → Outcome (Context P T A)}
    {outputStep : Nat → Context P T A → α → Outcome (Context P T A)} {outputOwner : α → Bytes} {outputs : List α}
    {ctx middle scripted final : Context P T A} (eachInput : ∀ index ctx next item, inputStep index ctx item = .ok next →
      ClaimStep lib (metadata ctx.action) ctx index (ownerOf item) next)
    (eachOutput : ∀ index ctx next item, outputStep index ctx item = .ok next →
      LockStep lib read (metadata ctx.action) ctx (outputOwner item) next)
    (signed : ∀ tok, ctx.inputTokens = [tok] → ∃ sigma verifier,
      FirstSigned (newDeserializer lib others uniqueID limits) provider (ownerOf tok) sigma verifier ∧
      ctx.signatures[0]? = some sigma)
    (fresh : ctx.metadataCounter = []) (inputsRun : foldEach inputStep 0 ctx ctx.inputTokens = .ok middle)
    (outputsRun : foldEach outputStep 0 middle outputs = .ok scripted)
    (data : applicationDataValidate metadata scripted = .ok final)
    (counted : checkMetadataCounter (metadata ctx.action) final = .ok ()) :
    Accounted lib read provider ctx.now (ctx.inputTokens.map ownerOf) (outputs.map outputOwner) (metadata ctx.action) := by
  have claiming : ∃ claims, Claims lib provider ctx.now (ctx.inputTokens.map ownerOf) claims ∧ claims ⊆ metadata ctx.action ∧
      middle = { ctx with metadataCounter := ctx.metadataCounter ++ claims.map Prod.fst } := by
    rcases claims_counted eachInput inputsRun with ⟨plain, rfl⟩ | ⟨tok, only, turn⟩
    · exact ⟨[], .unlocked (by simpa using plain), List.nil_subset _, by simp⟩
    · exact claims_of_step only turn (signed tok only)
  obtain ⟨claims, claimed, claimsPresent, rfl⟩ := claiming
  obtain ⟨scripts, locks, locksPresent, rfl⟩ := locks_counted eachOutput outputsRun
  obtain rfl := application_data_keys data
  obtain ⟨once, length⟩ := check_metadata_counter_ok counted
  simp only [fresh, List.nil_append, ← List.map_append] at once length
  have publicPresent : publicEntries (metadata ctx.action) ⊆ metadata ctx.action := List.filter_sublist.subset
  have listed : claims ++ scripts.map Script.lockEntry ++ publicEntries (metadata ctx.action) ⊆ metadata ctx.action :=
    List.append_subset.mpr ⟨List.append_subset.mpr ⟨claimsPresent, locksPresent⟩, publicPresent⟩
  have perm := metadata_perm_entries listed once (by simpa only [List.length_map] using length)
  exact ⟨claims, scripts, claimed, locks, perm, (perm.map Prod.fst).nodup_iff.mpr once⟩

end Accounting

end Panurus.Htlc
