import CodeIndex.Proofs.Search.Batches

/-!
# Cancelled searches

A search can be cancelled at any moment, and ends with what it has found by then.

**At a report** (`sweep_some`). Of the moments at which a search looks for its cancellation, those
before batches are enough if the cancellation comes with a report. A search that is cancelled at the
report of a batch goes on as if there were no other batches. None of their files is loaded.

**At any moment** (`search_prefix`). Whenever the search is cancelled, what it has found is the
beginning of what it would find. A batch that is broken off counts as far as it was searched.

Main result: `run_cancelled`.
-/

namespace CodeIndex

variable {read : Reader} {c : FileCache}

theorem Cancellation.by_zero {k : Nat} (hk : 1 ≤ k) : Cancellation.by (some k) 0 = false :=
  decide_eq_false (by omega)

namespace SearchSpace

/-! ## Texts -/

section

variable (found : OpenText → List NamedSymbol) (cancelled : Nat → Bool) (place : Nat)
  (ts : List OpenText)

theorem collect_prefix : (collect found cancelled place ts).1 <+: ts.flatMap found := by
  induction ts generalizing place with
  | nil => exact List.prefix_refl []
  | cons t ts ih =>
    rw [collect]
    split
    · exact List.nil_prefix
    · exact (List.prefix_append_right_inj _).2 (ih (place + 1))

variable {found cancelled place ts} in
theorem collect_of_not_stopped (h : (collect found cancelled place ts).2 = false) :
    (collect found cancelled place ts).1 = ts.flatMap found := by
  induction ts generalizing place with
  | nil => rfl
  | cons t ts ih =>
    rw [collect] at h ⊢
    split at h
    · cases h
    · rename_i going
      rw [if_neg going, List.flatMap_cons]
      exact congrArg (found t ++ ·) (ih h)

end

/-! ## Cancellation at a report -/

section

variable (found : OpenText → List NamedSymbol) (cancel : Cancellation) (total : Nat)

theorem sweep_of_by {done : Nat} (h : cancel.by done = true) (st : SearchState)
    (batches : List (List String)) :
    sweep read found (fun m => cancel.by m.done) total done st batches = st := by
  cases batches with
  | nil => rfl
  | cons batch batches => rw [sweep_cons, Moment.done, if_pos h]

theorem sweep_cons_by {done : Nat} (h : cancel.by done = false) (st : SearchState)
    (batch : List String) (batches : List (List String)) :
    sweep read found (fun m => cancel.by m.done) total done st (batch :: batches) =
      let loaded := loadAll read st.cache batch
      sweep read found (fun m => cancel.by m.done) total (done + 1)
        ⟨st.symbols ++ loaded.1.flatMap found, st.progress ++ [(done + 1, total)], loaded.2⟩
        batches := by
  simp only [sweep_cons, Moment.done, h, collect_never, if_neg Bool.false_ne_true]

end

section

variable {query : String} {total : Nat}

/-- Cancelled at the report of a batch, a search goes through the batches up to this one. -/
theorem sweep_some (found : OpenText → List NamedSymbol) (k done : Nat) (st : SearchState)
    (batches : List (List String)) :
    sweep read found (fun m => Cancellation.by (some k) m.done) total done st batches =
      sweep read found (fun _ => false) total done st (batches.take (k - done)) := by
  induction batches generalizing done st with
  | nil => rw [List.take_nil]; rfl
  | cons batch batches ih =>
    by_cases ended : k ≤ done
    · have now : Cancellation.by (some k) done = true := decide_eq_true ended
      rw [sweep_of_by _ _ _ now, Nat.sub_eq_zero_of_le ended, List.take_zero]
      rfl
    · have going : Cancellation.by (some k) done = false := decide_eq_false ended
      have more : k - done = k - (done + 1) + 1 := by omega
      rw [sweep_cons_by _ _ _ going, ih, more, List.take_succ_cons]
      simp only [sweep_cons, collect_never, if_neg Bool.false_ne_true]

variable [Trees] (s : SearchSpace)

section

variable [Prefilter.Builder]

theorem run_some (c : FileCache) (query : String) {k : Nat} (hk : 1 ≤ k) :
    s.run read c query .workspace (some k) =
      sweep read (inText (Prefilter.passes query) query) (fun _ => false) s.batches.length 0
        ⟨s.openSymbols query, [], c⟩ (s.batches.take k) := by
  have started : (fun place => Cancellation.by (some k) (Moment.document place).done) =
      fun _ => false := funext fun _ => Cancellation.by_zero hk
  simp only [run, search, started, collect_never, if_neg Bool.false_ne_true, sweep_some,
    Nat.sub_zero, ← openSymbols_eq]

theorem through_run_some (read : Reader) (query : String) (valid : c.Valid) {k : Nat} (hk : 1 ≤ k) :
    Through (inFile read c (Prefilter.passes query) query) s.batches.length 0
      (s.batches.take k) ⟨s.openSymbols query, [], c⟩
      (s.run read c query .workspace (some k)) := by
  rw [s.run_some c query hk]
  exact through_sweep (Prefilter.passes query) 0 ⟨_, _, c⟩ valid (s.batches.take k)

/-- A search that is cancelled at the last report or later has found everything. -/
theorem run_some_of_le {k : Nat} (hk : 1 ≤ k) (all : s.batches.length ≤ k) :
    s.run read c query .workspace (some k) = s.run read c query .workspace none := by
  rw [s.run_some c query hk, List.take_of_length_le all, run_none, search_never]

theorem run_some_zero (c : FileCache) (mode : SearchMode) :
    s.run read c query mode (some 0) = ⟨[], [], c⟩ := by
  have now : (fun place => Cancellation.by (some 0) (Moment.document place).done) =
      fun _ => true := rfl
  have nothing : (collect (inText (fun _ => true) query) (fun _ => true) 0 s.openTexts).1 = [] := by
    cases s.openTexts <;> rfl
  cases mode with
  | off => rfl
  | documents => simp only [run, search, now, nothing]
  | workspace =>
    simp only [run, search, now, nothing, sweep_of_by _ (some 0) _ rfl, ite_self]

end

/-! ## Cancellation at any moment -/

variable (test : String → Bool) (cancelled : Moment → Bool)

theorem sweep_prefix (done : Nat) (st : SearchState) (valid : st.cache.Valid)
    (batches : List (List String)) :
    (sweep read (inText test query) cancelled total done st batches).symbols <+:
      st.symbols ++ batches.flatten.flatMap (inFile read st.cache test query) := by
  induction batches generalizing done st with
  | nil => exact List.prefix_append _ _
  | cons batch batches ih =>
    have loaded := loaded_loadAll valid read batch
    rw [sweep_cons, ← loaded.flatMap_append test query, ← List.append_assoc]
    have texts := collect_prefix (inText test query) (fun place => cancelled (.file done place)) 0
      (loadAll read st.cache batch).1
    split
    · exact (List.prefix_append _ _).trans (List.prefix_append _ _)
    · dsimp only
      split
      · exact ((List.prefix_append_right_inj _).2 texts).trans (List.prefix_append _ _)
      · rename_i through
        rw [collect_of_not_stopped (Bool.eq_false_iff.2 through)]
        exact ih (done + 1) ⟨_, _, (loadAll read st.cache batch).2⟩ loaded.loads.valid

/-- Whenever a search is cancelled, it has found the beginning of what it would find. -/
theorem search_prefix (valid : c.Valid) (mode : SearchMode) :
    (s.search read c query mode test cancelled).symbols <+:
      (s.search read c query mode test fun _ => false).symbols := by
  have texts := collect_prefix (inText (fun _ => true) query)
    (fun place => cancelled (.document place)) 0 s.openTexts
  rw [← openSymbols_eq] at texts
  cases mode with
  | off => exact List.prefix_refl []
  | documents =>
    simp only [search, collect_never]
    exact texts
  | workspace =>
    rw [symbols_search s valid, ← flatten_batches, search]
    dsimp only
    split
    · exact texts.trans (List.prefix_append _ _)
    · rename_i through
      rw [collect_of_not_stopped (Bool.eq_false_iff.2 through)]
      exact sweep_prefix test cancelled 0 ⟨_, _, c⟩ valid s.batches

end

/-- **A search that is cancelled at the report of `k` batches has gone through these batches and has
loaded no other files; one that is cancelled before its start does nothing; and whenever a search is
cancelled, it has found the beginning of what it would find.** -/
theorem run_cancelled [Trees] [Prefilter.Builder] (s : SearchSpace) (valid : c.Valid)
    (query : String) :
    (∀ k, 1 ≤ k →
      (s.run read c query .workspace (some k)).symbols = s.openSymbols query ++
          (s.unopened.take (k * max 1 s.batchSize)).flatMap
            (inFile read c (Prefilter.passes query) query) ∧
        (s.run read c query .workspace (some k)).progress =
          (List.range' 1 (min k (s.unopened.length ⌈/⌉ max 1 s.batchSize))).map
            (·, s.unopened.length ⌈/⌉ max 1 s.batchSize) ∧
        (∀ uri ∉ s.unopened.take (k * max 1 s.batchSize),
          (s.run read c query .workspace (some k)).cache.get? uri = c.get? uri) ∧
        (s.unopened.length ⌈/⌉ max 1 s.batchSize ≤ k →
          s.run read c query .workspace (some k) = s.run read c query .workspace none)) ∧
      (∀ mode, s.run read c query mode (some 0) = ⟨[], [], c⟩) ∧
      (∀ mode cancel, (s.run read c query mode cancel).symbols <+:
        (s.run read c query mode none).symbols) ∧
      ∀ mode cancelled, (s.search read c query mode (Prefilter.passes query) cancelled).symbols <+:
        (s.run read c query mode none).symbols := by
  refine ⟨fun k hk => ?_, s.run_some_zero c, fun mode cancel => ?_, fun mode cancelled => ?_⟩
  · have through := s.through_run_some read query valid hk
    rw [← flatten_take_batches, ← length_batches]
    refine ⟨through.symbols, ?_, through.untouched, s.run_some_of_le hk⟩
    rw [through.progress, List.length_take]
    rfl
  · exact s.search_prefix _ _ valid mode
  · exact s.search_prefix _ cancelled valid mode

/-- Two batches of files that are not open, and a cancellation at the report of the first. -/
theorem run_cancelled_fooBar :
    let _ := Example.classes
    let s : SearchSpace := ⟨[], ["file:///m.py", "file:///m.py", "file:///n.py"], 2⟩
    let r := s.run Example.everywhere {} "foo" .workspace (some 1)
    FileCache.Valid {} ∧ 1 ≤ 1 ∧
      r.symbols = [Example.fooBarIn "file:///m.py", Example.fooBarIn "file:///m.py"] ∧
      r.progress = [(1, 2)] ∧ r.cache.get? "file:///n.py" = none := by
  intro _ s r
  have known := (@run_cancelled Example.everywhere {} Example.classes .own s
    FileCache.valid_empty "foo").1 1 (Nat.le_refl 1)
  have unopened : s.unopened = ["file:///m.py", "file:///m.py", "file:///n.py"] := by decide
  refine ⟨FileCache.valid_empty, Nat.le_refl 1, ?_, ?_, ?_⟩
  · rw [known.1, unopened]
    show [] ++ (inFile _ _ _ _ "file:///m.py" ++ (inFile _ _ _ _ "file:///m.py" ++ [])) = _
    rw [Example.inFile_fooBar Example.fileAt_m, Example.passes_fooBar]
    rfl
  · rw [known.2.1, unopened]
    decide
  · rw [known.2.2.1 "file:///n.py" (by rw [unopened]; decide)]
    decide

end SearchSpace

end CodeIndex
