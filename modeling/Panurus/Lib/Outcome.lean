import Mathlib.Data.List.Forall2

namespace Lib

abbrev Outcome (α : Type) := Except String α

end Lib

namespace Lib.Outcome

def ensure {ε : Type} (condition : Prop) [Decidable condition] (reason : ε) : Except ε Unit :=
  if condition then .ok () else .error reason

def required {ε α : Type} (value : Option α) (reason : ε) : Except ε α :=
  match value with
  | some found => .ok found
  | none => .error reason

def wrap {α : Type} (text : String) (outcome : Outcome α) : Outcome α :=
  match outcome with
  | .ok value => .ok value
  | .error cause => .error (text ++ ": " ++ cause)

def join {α : Type} (outcome : Outcome α) (texts : List String) : Outcome α :=
  match outcome with
  | .ok value => .ok value
  | .error cause => .error ("\n".intercalate (cause :: texts))

def checkEach {ε α : Type} (check : Nat → α → Except ε Unit) : Nat → List α → Except ε Unit
  | _, [] => .ok ()
  | index, item :: tail => do
    check index item
    checkEach check (index + 1) tail

def foldEach {ε α σ : Type} (step : Nat → σ → α → Except ε σ) : Nat → σ → List α → Except ε σ
  | _, state, [] => .ok state
  | index, state, item :: tail => do
    let next ← step index state item
    foldEach step (index + 1) next tail

open List

section Inversion

variable {ε α β σ : Type} {outcome : Except ε α} {next : α → Except ε β} {result : β} {reason given : ε}
  {condition : Prop} {value : α} {start : Nat} {items : List α} {step : Nat → σ → α → Except ε σ} {final : σ} {results : List β}

theorem bind_ok_iff : (outcome >>= next) = .ok result ↔ ∃ value, outcome = .ok value ∧ next value = .ok result := by
  cases outcome <;> simp [bind, Except.bind]

theorem bind_error_iff :
    (outcome >>= next) = .error reason ↔ outcome = .error reason ∨ ∃ value, outcome = .ok value ∧ next value = .error reason := by
  cases outcome <;> simp [bind, Except.bind]

theorem ensure_error [Decidable condition] (failed : ensure condition reason = .error given) : given = reason := by
  unfold ensure at failed
  split at failed
  · cases failed
  · exact (Except.error.inj failed).symm

theorem required_error {value : Option α} (failed : required value reason = .error given) : given = reason := by
  cases value with
  | some found => cases failed
  | none => exact (Except.error.inj failed).symm

@[simp] theorem ensure_ok_iff [Decidable condition] {done : Unit} : ensure condition reason = .ok done ↔ condition := by
  unfold ensure
  split <;> simp_all

@[simp] theorem required_ok_iff {value : Option α} {found : α} : required value reason = .ok found ↔ value = some found := by
  cases value <;> simp [required]

@[simp] theorem wrap_ok_iff {outcome : Outcome α} {text : String} : wrap text outcome = .ok value ↔ outcome = .ok value := by
  cases outcome <;> simp [wrap]

@[simp] theorem join_ok_iff {outcome : Outcome α} {texts : List String} :
    join outcome texts = .ok value ↔ outcome = .ok value := by
  cases outcome <;> simp [join]

@[simp] theorem map_error_ok_iff {ε' : Type} {change : ε → ε'} : outcome.mapError change = .ok value ↔ outcome = .ok value := by
  cases outcome <;> simp [Except.mapError]

theorem is_ok_exists (succeeds : outcome.isOk) : ∃ value, outcome = .ok value := by
  cases outcome with
  | error cause => simp [Except.isOk, Except.toBool] at succeeds
  | ok value => exact ⟨value, rfl⟩

theorem map_ok_iff {change : α → β} : outcome.map change = .ok result ↔ ∃ value, outcome = .ok value ∧ change value = result := by
  cases outcome <;> simp [Except.map]

@[simp] theorem pure_ok_iff {result : α} : (pure value : Except ε α) = .ok result ↔ value = result := by
  simp [pure, Except.pure]

-- What a chain of steps did that ended well: one lemma for simp.
theorem ok_iff :
    (∀ {ε α β : Type} {outcome : Except ε α} {next : α → Except ε β} {result : β},
      (outcome >>= next) = .ok result ↔ ∃ value, outcome = .ok value ∧ next value = .ok result) ∧
    (∀ {ε : Type} {condition : Prop} [Decidable condition] {reason : ε} {done : Unit},
      ensure condition reason = .ok done ↔ condition) ∧
    (∀ {ε α : Type} {value : Option α} {reason : ε} {found : α}, required value reason = .ok found ↔ value = some found) ∧
    (∀ {ε α : Type} {value result : α}, (pure value : Except ε α) = .ok result ↔ value = result) ∧
    ∀ {α : Type} {text : String} {outcome : Outcome α} {value : α}, wrap text outcome = .ok value ↔ outcome = .ok value :=
  ⟨bind_ok_iff, ensure_ok_iff, required_ok_iff, pure_ok_iff, wrap_ok_iff⟩

theorem to_option_eq_some_iff : outcome.toOption = some value ↔ outcome = .ok value := by
  cases outcome <;> simp [Except.toOption]

theorem check_each_ok_iff {check : Nat → α → Except ε Unit} :
    checkEach check start items = .ok () ↔ ∀ index item, items[index]? = some item → check (start + index) item = .ok () := by
  induction items generalizing start with
  | nil => simp [checkEach]
  | cons head tail ih =>
    rw [checkEach, bind_ok_iff]
    constructor
    · rintro ⟨⟨⟩, first, rest⟩ index item found
      cases index with
      | zero =>
        obtain rfl : head = item := by simpa using found
        exact first
      | succ index =>
        have later := ih.mp rest index item (by simpa using found)
        simpa only [Nat.add_assoc, Nat.add_comm 1] using later
    · intro all
      refine ⟨(), by simpa using all 0 head (by simp), ih.mpr ?_⟩
      intro index item found
      have later := all (index + 1) item (by simpa using found)
      simpa only [Nat.add_assoc, Nat.add_comm 1] using later

theorem check_each_mem {check : α → Except ε Unit} :
    checkEach (fun _ => check) start items = .ok () ↔ ∀ item ∈ items, check item = .ok () := by
  rw [check_each_ok_iff]
  constructor
  · intro all item mem
    obtain ⟨index, found⟩ := mem_iff_getElem?.mp mem
    exact all index item found
  · intro all index item found
    exact all item (mem_of_getElem? found)

theorem fold_each_append (start : Nat) (state : σ) (front back : List α) :
    foldEach step start state (front ++ back) =
      (foldEach step start state front >>= fun middle => foldEach step (start + front.length) middle back) := by
  induction front generalizing start state with
  | nil => rfl
  | cons head tail ih =>
    simp only [cons_append, foldEach, length_cons, bind_assoc]
    congr 1
    funext next
    rw [ih, Nat.add_assoc, Nat.add_comm 1]

theorem fold_each_at {index : Nat} {state : σ} {item : α}
    (run : foldEach step start state items = .ok final) (found : items[index]? = some item) :
    ∃ before after, foldEach step start state (items.take index) = .ok before ∧ step (start + index) before item = .ok after := by
  obtain ⟨bound, rfl⟩ := List.getElem?_eq_some_iff.mp found
  have parts : items.take index ++ items[index] :: items.drop (index + 1) = items := by
    rw [← drop_eq_getElem_cons bound, take_append_drop]
  rw [← parts, fold_each_append, bind_ok_iff] at run
  obtain ⟨before, front, back⟩ := run
  rw [foldEach, bind_ok_iff, length_take_of_le (Nat.le_of_lt bound)] at back
  obtain ⟨after, stepped, _⟩ := back
  exact ⟨before, after, front, stepped⟩

theorem fold_each_invariant (invariant : List α → σ → Prop)
    (preserved : ∀ done state item next, invariant done state → step done.length state item = .ok next →
      invariant (done ++ [item]) next) {start : σ} (initial : invariant [] start)
    (run : foldEach step 0 start items = .ok final) : invariant items final := by
  have general : ∀ (rest done : List α) (state : σ), invariant done state →
      foldEach step done.length state rest = .ok final → invariant (done ++ rest) final := by
    intro rest
    induction rest with
    | nil =>
      intro done state holds finished
      simp only [foldEach, Except.ok.injEq] at finished
      simpa [← finished] using holds
    | cons head tail ih =>
      intro done state holds finished
      rw [foldEach, bind_ok_iff] at finished
      obtain ⟨next, stepped, remaining⟩ := finished
      have moved := preserved done state head next holds stepped
      have later := ih (done ++ [head]) next moved (by simpa using remaining)
      simpa using later
  simpa using general items [] start initial run

-- A second loop over the same items goes as far as the first when each of its steps does.
theorem fold_each_follows {τ : Type} (other : Nat → τ → α → Except ε τ) (related : σ → τ → Prop)
    (follows : ∀ index state twin item next, related state twin → step index state item = .ok next →
      ∃ later, other index twin item = .ok later ∧ related next later) :
    ∀ (start : Nat) (state : σ) (twin : τ), related state twin → foldEach step start state items = .ok final →
      ∃ later, foldEach other start twin items = .ok later ∧ related final later := by
  induction items with
  | nil =>
    intro start state twin before run
    cases run
    exact ⟨twin, rfl, before⟩
  | cons item rest ih =>
    intro start state twin before run
    rw [foldEach, bind_ok_iff] at run
    obtain ⟨next, stepped, run⟩ := run
    obtain ⟨later, moved, after⟩ := follows start state twin item next before stepped
    obtain ⟨last, done, holds⟩ := ih (start + 1) next later after run
    exact ⟨last, bind_ok_iff.mpr ⟨later, moved, done⟩, holds⟩

theorem fold_each_ok (invariant : List α → σ → Prop)
    (progress : ∀ done item rest state, items = done ++ item :: rest → invariant done state →
      ∃ next, step done.length state item = .ok next ∧ invariant (done ++ [item]) next) {start : σ} (initial : invariant [] start) :
    ∃ final, foldEach step 0 start items = .ok final := by
  have general : ∀ (rest done : List α) (state : σ), items = done ++ rest → invariant done state →
      ∃ final, foldEach step done.length state rest = .ok final := by
    intro rest
    induction rest with
    | nil => exact fun done state _ _ => ⟨state, rfl⟩
    | cons item rest ih =>
      intro done state split holds
      obtain ⟨next, stepped, moved⟩ := progress done item rest state split holds
      obtain ⟨final, run⟩ := ih (done ++ [item]) next (by simp [split]) moved
      rw [length_append] at run
      exact ⟨final, bind_ok_iff.mpr ⟨next, stepped, run⟩⟩
  exact general items [] start rfl initial

theorem fold_each_map {step : Nat → σ → β → Except ε σ} (change : α → β) (start : Nat) (state : σ) (items : List α) :
    foldEach step start state (items.map change) =
      foldEach (fun index current item => step index current (change item)) start state items := by
  induction items generalizing start state with
  | nil => rfl
  | cons head tail ih =>
    rw [map_cons, foldEach]
    congr 1
    funext next
    exact ih (start + 1) next

theorem fold_each_eq_foldlM (start : Nat) (state : σ) (items : List α) :
    foldEach step start state items = (items.zipIdx start).foldlM (fun current entry => step entry.2 current entry.1) state := by
  induction items generalizing start state with
  | nil => rfl
  | cons head tail ih =>
    rw [foldEach]
    congr 1
    funext next
    exact ih (start + 1) next

theorem foldlM_eq_fold_each (step : σ → α → Except ε σ) (index : Nat) (start : σ) (items : List α) :
    items.foldlM step start = foldEach (fun _ => step) index start items := by
  induction items generalizing index start with
  | nil => rfl
  | cons head tail ih => simp only [foldlM_cons, foldEach, ih (index + 1)]

theorem foldlM_invariant {step : σ → α → Except ε σ} (invariant : List α → σ → Prop)
    (preserved : ∀ done state item next, invariant done state → step state item = .ok next →
      invariant (done ++ [item]) next) {start : σ} (initial : invariant [] start)
    (run : items.foldlM step start = .ok final) : invariant items final :=
  fold_each_invariant invariant preserved initial ((foldlM_eq_fold_each step 0 start items).symm.trans run)

theorem foldlM_perm {step : σ → α → Except ε σ} {apart : α → α → Prop} (symmetric : ∀ {a b}, apart a b → apart b a)
    (commute : ∀ {a b}, apart a b → ∀ {state final},
      (step state a >>= fun next => step next b) = .ok final ↔ (step state b >>= fun next => step next a) = .ok final)
    {others : List α} (order : items.Perm others) (distinct : items.Pairwise apart) {start : σ} :
    items.foldlM step start = .ok final ↔ others.foldlM step start = .ok final := by
  induction order generalizing start with
  | nil => exact Iff.rfl
  | cons item _ ih =>
    simp only [foldlM_cons, bind_ok_iff, ih (pairwise_cons.mp distinct).2]
  | swap a b rest =>
    have first := @commute b a ((pairwise_cons.mp distinct).1 a mem_cons_self)
    simp only [foldlM_cons, ← bind_assoc]
    rw [bind_ok_iff, bind_ok_iff]
    exact exists_congr fun next => and_congr_left fun _ => first
  | trans front _ first second =>
    exact (first distinct).trans (second ((front.pairwise_iff symmetric).mp distinct))

theorem foldlM_wrap_ok_iff {step : σ → α → Outcome σ} (text : α → String) {start : σ} :
    items.foldlM (fun state item => wrap (text item) (step state item)) start = .ok final ↔
      items.foldlM step start = .ok final := by
  induction items generalizing start with
  | nil => exact Iff.rfl
  | cons head tail ih => simp only [foldlM_cons, bind_ok_iff, wrap_ok_iff, ih]

-- Where steps only add, a run that ends where it started changed nothing on the way.
theorem foldlM_unchanged_iff {step : σ → α → Except ε σ} {idle : σ → α → Prop} (size : σ → Nat)
    (grows : ∀ item ∈ items, ∀ {state next}, step state item = .ok next →
      size state ≤ size next ∧ (size next ≤ size state → next = state))
    (unchanged : ∀ item ∈ items, ∀ {state next}, step state item = .ok next → (next = state ↔ idle state item)) {start : σ}
    (run : items.foldlM step start = .ok final) :
    size start ≤ size final ∧ (final = start ↔ ∀ item ∈ items, idle start item) := by
  induction items generalizing start with
  | nil =>
    cases run
    simp
  | cons head tail ih =>
    obtain ⟨next, first, rest⟩ := bind_ok_iff.mp run
    obtain ⟨more, back⟩ := grows head mem_cons_self first
    obtain ⟨later, same⟩ := ih (fun item mem => grows item (mem_cons_of_mem _ mem))
      (fun item mem => unchanged item (mem_cons_of_mem _ mem)) rest
    refine ⟨Nat.le_trans more later, ?_⟩
    rw [forall_mem_cons, ← unchanged head mem_cons_self first]
    constructor
    · rintro rfl
      cases back later
      exact ⟨rfl, same.mp rfl⟩
    · rintro ⟨rfl, idle⟩
      exact same.mpr idle

theorem mapM_ok_iff {step : α → Except ε β} :
    items.mapM step = .ok results ↔ Forall₂ (fun item result => step item = .ok result) items results := by
  induction items generalizing results with
  | nil => cases results <;> simp
  | cons head tail ih =>
    simp only [mapM_cons, bind_ok_iff, pure_ok_iff]
    constructor
    · rintro ⟨first, stepped, rest, others, rfl⟩
      exact .cons stepped (ih.mp others)
    · intro all
      cases all with
      | cons stepped others => exact ⟨_, stepped, _, ih.mpr others, rfl⟩

theorem mapM_ok_mem {step : α → Except ε β} (run : items.mapM step = .ok results)
    (mem : result ∈ results) : ∃ item ∈ items, step item = .ok result := by
  have pairs := mapM_ok_iff.mp run
  obtain ⟨index, bound, rfl⟩ := getElem_of_mem mem
  have other : index < items.length := pairs.length_eq ▸ bound
  exact ⟨items[index], getElem_mem other, pairs.get other bound⟩

end Inversion

end Lib.Outcome
