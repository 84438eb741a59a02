import CodeIndex.Proofs.Maps
import CodeIndex.Server.Registry
import Mathlib.Data.List.DropRight
import Mathlib.Data.List.Induction

/-!
# What becomes of a token

A registry is asked to register, to call off and to finish requests, in any order and with any ids.
The text of an id is *open* from its first registration until it is finished; the calls in between
are an *epoch* of the text (`openEpoch`, `epoch`).

**Theorem (`tokens_follow_epochs`).** A token is cancelled just when its text was called off in its
epoch. Calling off tells whether the text is open. Two registrations share a token just when they
are of one text that was not finished in between, so one epoch has one token, and no token serves
two.

Up to a registration the token is told by the open epoch (`current_run_eq_none`, `isCancelled_run`).
From then on the token is *live* until the text is finished (`isCancelled_of_live`). After that it
is *retired*: no text has it, it is not given out again, and it stays as it is (`Retired.after`).
-/

namespace CodeIndex

open Std (TreeMap)

namespace CancelRegistry

variable {r : CancelRegistry} {k : String} {t : CancelToken} {id : Json}

/-! ## What one call does -/

/-- The tokens of the texts were given out, and no two texts have the same. -/
structure Valid (r : CancelRegistry) : Prop where
  issued : ∀ (k : String) (t : CancelToken), r.current[k]? = some t → t < r.cancelled.size
  distinct : ∀ (k k' : String) (t : CancelToken),
    r.current[k]? = some t → r.current[k']? = some t → k = k'

/-- The token was given out, and no text has it any more. -/
structure Retired (r : CancelRegistry) (t : CancelToken) : Prop where
  issued : t < r.cancelled.size
  unused : ∀ k : String, r.current[k]? ≠ some t

theorem valid_empty : Valid {} := ⟨by simp, by simp⟩

theorem register_of_open (h : r.current[key id]? = some t) : r.register id = (t, r) := by
  simp [register, h]

theorem register_of_closed (h : r.current[key id]? = none) :
    r.register id = (r.cancelled.size,
      ⟨r.cancelled.push false, r.current.insert (key id) r.cancelled.size⟩) := by
  simp [register, h]

theorem current_register (r : CancelRegistry) (id : Json) (k : String) :
    (r.register id).2.current[k]? =
      if k = key id then some (r.register id).1 else r.current[k]? := by
  cases h : r.current[key id]? with
  | some t =>
    rw [register_of_open h]
    by_cases hk : k = key id <;> simp [hk, h]
  | none =>
    rw [register_of_closed h]
    exact lookup_insert _ _ _ _

theorem current_cancel (r : CancelRegistry) (id : Json) : (r.cancel id).2.current = r.current := by
  unfold cancel
  split <;> rfl

theorem current_finish (r : CancelRegistry) (id : Json) (k : String) :
    (r.finish id).current[k]? = if k = key id then none else r.current[k]? :=
  lookup_erase _ _ _

theorem mem_current_register : k ∈ (r.register id).2.current ↔ k = key id ∨ k ∈ r.current := by
  rw [TreeMap.mem_iff_isSome_getElem?, current_register, TreeMap.mem_iff_isSome_getElem?]
  by_cases hk : k = key id <;> simp [hk]

theorem mem_current_finish : k ∈ (r.finish id).current ↔ k ≠ key id ∧ k ∈ r.current := by
  rw [TreeMap.mem_iff_isSome_getElem?, current_finish, TreeMap.mem_iff_isSome_getElem?]
  by_cases hk : k = key id <;> simp [hk]

theorem size_le_register (r : CancelRegistry) (id : Json) :
    r.cancelled.size ≤ (r.register id).2.cancelled.size := by
  unfold register
  split <;> simp

theorem size_cancel (r : CancelRegistry) (id : Json) :
    (r.cancel id).2.cancelled.size = r.cancelled.size := by
  unfold cancel
  split <;> simp

theorem isCancelled_register (r : CancelRegistry) (id : Json) (t : CancelToken) :
    (r.register id).2.isCancelled t = r.isCancelled t := by
  cases h : r.current[key id]? with
  | some t => rw [register_of_open h]
  | none =>
    rw [register_of_closed h]
    unfold isCancelled
    rw [Array.getElem?_push]
    split
    · rename_i new
      simp [new]
    · rfl

theorem Valid.isCancelled_cancel (valid : r.Valid) (id : Json) (t : CancelToken) :
    (r.cancel id).2.isCancelled t = true ↔
      r.isCancelled t = true ∨ r.current[key id]? = some t := by
  unfold cancel
  cases h : r.current[key id]? with
  | none => simp
  | some t' =>
    have bound := valid.issued _ _ h
    by_cases same : t' = t
    · subst same
      simp [isCancelled, bound]
    · simp [isCancelled, same]

theorem Valid.register (valid : r.Valid) (id : Json) : (r.register id).2.Valid := by
  cases h : r.current[key id]? with
  | some t => rwa [register_of_open h]
  | none =>
    have fresh : ∀ k : String, r.current[k]? ≠ some r.cancelled.size :=
      fun k hk => Nat.lt_irrefl _ (valid.issued k _ hk)
    rw [register_of_closed h]
    constructor
    · intro k t hk
      rw [lookup_insert] at hk
      rw [Array.size_push]
      split at hk
      · cases hk
        exact Nat.lt_succ_self _
      · exact Nat.lt_succ_of_lt (valid.issued k t hk)
    · intro k k' t hk hk'
      rw [lookup_insert] at hk hk'
      split at hk <;> split at hk'
      · rename_i first second
        rw [first, second]
      · cases hk
        exact absurd hk' (fresh k')
      · cases hk'
        exact absurd hk (fresh k)
      · exact valid.distinct k k' t hk hk'

theorem Valid.cancel (valid : r.Valid) (id : Json) : (r.cancel id).2.Valid := by
  refine ⟨fun k t hk => ?_, fun k k' t hk hk' => ?_⟩
  · rw [current_cancel] at hk
    rw [size_cancel]
    exact valid.issued k t hk
  · rw [current_cancel] at hk hk'
    exact valid.distinct k k' t hk hk'

theorem Valid.finish (valid : r.Valid) (id : Json) : (r.finish id).Valid := by
  have kept : ∀ (k : String) (t : CancelToken), (r.finish id).current[k]? = some t →
      r.current[k]? = some t := fun k t hk => by
    rw [current_finish] at hk
    split at hk
    · cases hk
    · exact hk
  exact ⟨fun k t hk => valid.issued k t (kept k t hk),
    fun k k' t hk hk' => valid.distinct k k' t (kept k t hk) (kept k' t hk')⟩

theorem Valid.register_ne (valid : r.Valid) (live : r.current[k]? = some t) (other : k ≠ key id) :
    (r.register id).1 ≠ t := by
  cases h : r.current[key id]? with
  | some t' =>
    rw [register_of_open h]
    rintro rfl
    exact other (valid.distinct _ _ _ live h)
  | none =>
    rw [register_of_closed h]
    exact Nat.ne_of_gt (valid.issued k t live)

theorem Retired.register_ne (retired : r.Retired t) (id : Json) : (r.register id).1 ≠ t := by
  cases h : r.current[key id]? with
  | some t' =>
    rw [register_of_open h]
    rintro rfl
    exact retired.unused _ h
  | none =>
    rw [register_of_closed h]
    exact Nat.ne_of_gt retired.issued

/-! ## Calls -/

/-- What is asked of a registry. -/
inductive Call where
  | register (id : Json)
  | cancel (id : Json)
  | finish (id : Json)

namespace Call

/-- A request with this text for its id is registered. -/
def registers (k : String) : Call → Bool
  | register id => key id = k
  | _ => false

/-- A request with this text for its id is called off. -/
def cancels (k : String) : Call → Bool
  | cancel id => key id = k
  | _ => false

/-- A request with this text for its id is finished. -/
def finishes (k : String) : Call → Bool
  | finish id => key id = k
  | _ => false

variable {k : String} {c : Call}

theorem cancels_of_finishes (h : c.finishes k = true) : c.cancels k = false := by
  cases c <;> first | rfl | cases h

theorem cancels_of_registers (h : c.registers k = true) : c.cancels k = false := by
  cases c <;> first | rfl | cases h

theorem finishes_of_registers (h : c.registers k = true) : c.finishes k = false := by
  cases c <;> first | rfl | cases h

end Call

def step (r : CancelRegistry) : Call → CancelRegistry
  | .register id => (r.register id).2
  | .cancel id => (r.cancel id).2
  | .finish id => r.finish id

/-- The registry after some calls. -/
def after (r : CancelRegistry) (calls : List Call) : CancelRegistry := calls.foldl step r

theorem after_cons (r : CancelRegistry) (c : Call) (calls : List Call) :
    r.after (c :: calls) = (r.step c).after calls := rfl

theorem after_append (r : CancelRegistry) (calls calls' : List Call) :
    r.after (calls ++ calls') = (r.after calls).after calls' := List.foldl_append

theorem after_concat (r : CancelRegistry) (calls : List Call) (c : Call) :
    r.after (calls ++ [c]) = (r.after calls).step c := after_append r calls [c]

/-- A registry that was new before some calls. -/
def run (calls : List Call) : CancelRegistry := after {} calls

theorem Valid.step (valid : r.Valid) (c : Call) : (r.step c).Valid := by
  cases c with
  | register id => exact valid.register id
  | cancel id => exact valid.cancel id
  | finish id => exact valid.finish id

theorem Valid.after (valid : r.Valid) (calls : List Call) : (r.after calls).Valid := by
  induction calls generalizing r with
  | nil => exact valid
  | cons c calls ih => exact ih (valid.step c)

theorem valid_run (calls : List Call) : (run calls).Valid := valid_empty.after calls

/-! ## After a registration -/

theorem Retired.step (valid : r.Valid) (retired : r.Retired t) (c : Call) :
    (r.step c).Retired t ∧ ((r.step c).isCancelled t = true ↔ r.isCancelled t = true) := by
  cases c with
  | register id =>
    refine ⟨⟨retired.issued.trans_le (size_le_register r id), fun k hk => ?_⟩, ?_⟩
    · rw [CancelRegistry.step, current_register] at hk
      split at hk
      · exact retired.register_ne id (Option.some.inj hk)
      · exact retired.unused k hk
    · rw [CancelRegistry.step, isCancelled_register]
  | cancel id =>
    refine ⟨⟨?_, fun k hk => ?_⟩, ?_⟩
    · rw [CancelRegistry.step, size_cancel]
      exact retired.issued
    · rw [CancelRegistry.step, current_cancel] at hk
      exact retired.unused k hk
    · rw [CancelRegistry.step, valid.isCancelled_cancel, or_iff_left (retired.unused _)]
  | finish id =>
    refine ⟨⟨retired.issued, fun k hk => ?_⟩, Iff.rfl⟩
    rw [CancelRegistry.step, current_finish] at hk
    split at hk
    · cases hk
    · exact retired.unused k hk

theorem Retired.after (valid : r.Valid) (retired : r.Retired t) (calls : List Call) :
    (r.after calls).Retired t ∧
      ((r.after calls).isCancelled t = true ↔ r.isCancelled t = true) := by
  induction calls generalizing r with
  | nil => exact ⟨retired, Iff.rfl⟩
  | cons c calls ih =>
    obtain ⟨first, same⟩ := retired.step valid c
    obtain ⟨last, same'⟩ := ih (valid.step c) first
    exact ⟨last, same'.trans same⟩

theorem current_step_of_live (live : r.current[k]? = some t) {c : Call}
    (going : c.finishes k = false) : (r.step c).current[k]? = some t := by
  cases c with
  | register id =>
    rw [step, current_register]
    split
    · rename_i same
      rw [register_of_open (same ▸ live)]
    · exact live
  | cancel id => rwa [step, current_cancel]
  | finish id =>
    have other : k ≠ key id := fun same => by simp [Call.finishes, same] at going
    rwa [step, current_finish, if_neg other]

/-- Calling off its text cancels the token, and nothing else does. -/
theorem Valid.isCancelled_step (valid : r.Valid) (live : r.current[k]? = some t) (c : Call) :
    (r.step c).isCancelled t = true ↔ r.isCancelled t = true ∨ c.cancels k = true := by
  cases c with
  | register id => simp [CancelRegistry.step, isCancelled_register, Call.cancels]
  | cancel id =>
    rw [CancelRegistry.step, valid.isCancelled_cancel, Call.cancels, decide_eq_true_eq]
    refine or_congr_right ⟨fun h => valid.distinct _ _ _ h live, fun same => ?_⟩
    rw [same]
    exact live
  | finish id => simp [CancelRegistry.step, Call.cancels, CancelRegistry.finish, isCancelled]

theorem current_step_of_finishes {c : Call} (ends : c.finishes k = true) :
    (r.step c).current[k]? = none := by
  cases c with
  | register id | cancel id => cases ends
  | finish id =>
    rw [Call.finishes, decide_eq_true_eq] at ends
    rw [step, current_finish, if_pos ends.symm]

theorem Valid.retired_step (valid : r.Valid) (live : r.current[k]? = some t) {c : Call}
    (ends : c.finishes k = true) : (r.step c).Retired t := by
  cases c with
  | register id | cancel id => cases ends
  | finish id =>
    refine ⟨valid.issued k t live, fun k' hk' => ?_⟩
    rw [CancelRegistry.step, current_finish] at hk'
    split at hk'
    · cases hk'
    · rename_i other
      rw [Call.finishes, decide_eq_true_eq] at ends
      exact other ((valid.distinct _ _ _ hk' live).trans ends.symm)

theorem current_of_live (live : r.current[k]? = some t) (calls : List Call)
    (going : ∀ c ∈ calls, c.finishes k = false) : (r.after calls).current[k]? = some t := by
  induction calls generalizing r with
  | nil => exact live
  | cons c calls ih =>
    obtain ⟨first, rest⟩ := List.forall_mem_cons.1 going
    exact ih (current_step_of_live live first) rest

theorem Valid.retired_of_live (valid : r.Valid) (live : r.current[k]? = some t) (calls : List Call)
    (ends : ∃ c ∈ calls, c.finishes k = true) : (r.after calls).Retired t := by
  induction calls generalizing r with
  | nil => simp at ends
  | cons c calls ih =>
    cases now : c.finishes k with
    | true => exact ((valid.retired_step live now).after (valid.step c) calls).1
    | false =>
      have later : ∃ c ∈ calls, c.finishes k = true := by simpa [now] using ends
      exact ih (valid.step c) (current_step_of_live live now) later

/-- **From its registration on, a token is cancelled when its text is called off before it is
finished.** -/
theorem Valid.isCancelled_of_live (valid : r.Valid) (live : r.current[k]? = some t)
    (calls : List Call) :
    (r.after calls).isCancelled t = true ↔
      r.isCancelled t = true ∨ ∃ c ∈ calls.takeWhile (!·.finishes k), c.cancels k = true := by
  induction calls generalizing r with
  | nil => simp [CancelRegistry.after]
  | cons c calls ih =>
    have first := valid.isCancelled_step live c
    cases now : c.finishes k with
    | true =>
      have other := Call.cancels_of_finishes now
      have retired := valid.retired_step live now
      rw [after_cons, (retired.after (valid.step c) calls).2, first,
        List.takeWhile_cons_of_neg (by simp [now])]
      simp [other]
    | false =>
      rw [after_cons, ih (valid.step c) (current_step_of_live live now), first,
        List.takeWhile_cons_of_pos (by simp [now]), or_assoc]
      simp

/-! ## Up to a registration -/

/-- The calls of the epoch that a text is in: those from the first that registers it after the last
that finishes it. There are none if it is not open. -/
def openEpoch (k : String) (calls : List Call) : List Call :=
  (calls.rtakeWhile (!·.finishes k)).dropWhile (!·.registers k)

theorem openEpoch_concat (k : String) (calls : List Call) (c : Call) :
    openEpoch k (calls ++ [c]) =
      if c.finishes k then []
      else if openEpoch k calls = [] ∧ c.registers k = false then []
      else openEpoch k calls ++ [c] := by
  unfold openEpoch
  rw [List.rtakeWhile_concat]
  cases c.finishes k with
  | true => rfl
  | false =>
    simp only [Bool.not_false, if_true, Bool.false_eq_true, if_false]
    rw [List.dropWhile_append]
    generalize List.dropWhile (!·.registers k) (calls.rtakeWhile (!·.finishes k)) = epoch
    cases epoch <;> cases h : c.registers k <;> simp [h]

/-- A text has a token just when it is open. -/
theorem current_run_eq_none (k : String) (calls : List Call) :
    (run calls).current[k]? = none ↔ openEpoch k calls = [] := by
  induction calls using List.reverseRecOn with
  | nil => simp [run, after, openEpoch]
  | append_singleton calls c ih =>
    rw [run, after_concat, ← run, openEpoch_concat]
    cases c with
    | register id =>
      rw [step, current_register]
      by_cases same : k = key id
      · simp [Call.finishes, Call.registers, same]
      · simp [Call.finishes, Call.registers, same, Ne.symm same, ih]
    | cancel id => rw [step, current_cancel, ih]; simp [Call.finishes, Call.registers]
    | finish id =>
      rw [step, current_finish]
      by_cases same : k = key id
      · simp [Call.finishes, same]
      · simp [Call.finishes, Call.registers, same, Ne.symm same, ih]

/-- A call after which a text has a token registers it, or the text had a token before. -/
theorem registers_of_current_step (fresh : r.current[k]? = none) {c : Call}
    (live : (r.step c).current[k]? = some t) :
    c.registers k = true ∧ t = r.cancelled.size ∧ (r.step c).isCancelled t = r.isCancelled t := by
  cases c with
  | register id =>
    rw [step, current_register] at live
    split at live
    · rename_i same
      cases live
      rw [same] at fresh
      refine ⟨by simp [Call.registers, same], ?_, isCancelled_register r id _⟩
      rw [register_of_closed fresh]
    · rw [fresh] at live
      cases live
  | cancel id =>
    rw [step, current_cancel, fresh] at live
    cases live
  | finish id =>
    rw [step, current_finish, fresh, ite_self] at live
    cases live

/-- **The token of an open text is cancelled when the text was called off in its epoch.** -/
theorem isCancelled_run (calls : List Call) (live : (run calls).current[k]? = some t) :
    (run calls).isCancelled t = true ↔ ∃ c ∈ openEpoch k calls, c.cancels k = true := by
  induction calls using List.reverseRecOn generalizing t with
  | nil => simp [run, after] at live
  | append_singleton calls c ih =>
    have valid := valid_run calls
    rw [run, after_concat, ← run] at live ⊢
    rw [openEpoch_concat]
    cases before : (run calls).current[k]? with
    | none =>
      -- the epoch begins here, with a new token
      obtain ⟨registers, rfl, same⟩ := registers_of_current_step before live
      rw [same, (current_run_eq_none k calls).1 before]
      simp [isCancelled, registers, Call.cancels_of_registers, Call.finishes_of_registers]
    | some t' =>
      have going : c.finishes k = false := by
        by_contra ends
        rw [current_step_of_finishes (by simpa using ends)] at live
        cases live
      obtain rfl : t' = t := Option.some.inj ((current_step_of_live before going).symm.trans live)
      have isOpen : openEpoch k calls ≠ [] := fun closed => by
        rw [(current_run_eq_none k calls).2 closed] at before
        cases before
      rw [valid.isCancelled_step before, ih before]
      simp [going, isOpen, or_and_right, exists_or]

/-! ## Epochs -/

/-- The epoch of a text that the last of some calls belongs to, up to the end of the calls that
follow: from the first registration after the last time that the text was finished up to the next
time. -/
def epoch (k : String) (calls following : List Call) : List Call :=
  openEpoch k calls ++ following.takeWhile (!·.finishes k)

/-- The token that a request gets when it is registered after some calls. -/
def tokenOf (calls : List Call) (id : Json) : CancelToken := ((run calls).register id).1

theorem current_registered (calls : List Call) (id : Json) :
    (run (calls ++ [.register id])).current[key id]? = some (tokenOf calls id) := by
  rw [run, after_concat, ← run, step, current_register, if_pos rfl, tokenOf]

/-- **Tokens follow the epochs of their texts.** A token that a registration gave is cancelled at
some later time if and only if its text was called off by then in the epoch of the registration.
Calling off succeeds if and only if an epoch of the text is open. Two registrations get one token if
and only if they are of one text that is not finished in between, which makes them of one epoch. -/
theorem tokens_follow_epochs :
    (∀ calls id following,
      (run (calls ++ .register id :: following)).isCancelled (tokenOf calls id) = true ↔
        ∃ c ∈ epoch (key id) (calls ++ [.register id]) following, c.cancels (key id) = true) ∧
    (∀ calls id, ((run calls).cancel id).1 = true ↔ openEpoch (key id) calls ≠ []) ∧
    ∀ calls id between id',
      tokenOf calls id = tokenOf (calls ++ .register id :: between) id' ↔
        key id = key id' ∧ ∀ c ∈ between, c.finishes (key id) = false := by
  have split : ∀ calls id following, run (calls ++ .register id :: following) =
      (run (calls ++ [.register id])).after following := fun calls id following => by
    rw [run, run, ← after_append, List.append_assoc, List.singleton_append]
  refine ⟨fun calls id following => ?_, fun calls id => ?_, fun calls id between id' => ?_⟩
  · have live := current_registered calls id
    rw [split, (valid_run _).isCancelled_of_live live, isCancelled_run _ live, epoch]
    simp only [List.mem_append, or_and_right, exists_or]
  · rw [ne_eq, ← current_run_eq_none, cancel]
    cases (run calls).current[key id]? <;> simp
  · have live := current_registered calls id
    have valid := valid_run (calls ++ [.register id])
    rw [tokenOf.eq_def (calls ++ _), split]
    by_cases going : ∀ c ∈ between, c.finishes (key id) = false
    · have still := current_of_live live between going
      by_cases same : key id = key id'
      · rw [register_of_open (same ▸ still)]
        exact iff_of_true rfl ⟨same, going⟩
      · exact iff_of_false ((valid.after between).register_ne still same).symm fun h => same h.1
    · have retired := valid.retired_of_live live between (by simpa using going)
      exact iff_of_false (retired.register_ne id').symm fun h => going h.2

end CancelRegistry

end CodeIndex
