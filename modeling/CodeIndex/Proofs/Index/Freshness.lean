import CodeIndex.Proofs.Index.History
import Mathlib.Data.Set.Insert

/-!
# What is on record after an update

An update takes up a text unless the record of its file has the digest of the text. The language
does not count: a text that is the same as before keeps the entries that were found in it, whatever
language it was read in.

**Theorem (`run_stores_iff`).** After any history in which no two texts have the same digest, an
update leaves a queued file with just the entries of its new text in its new language if and only if
the text was not on record before under a language in which it contributes something else.

**Failure (`reopened_keeps_entries`).** A buffer that is opened again in another language with the
same text keeps the entries of the first language.

A file that is only known in one language (`SpokenIn`) has the record of what was wanted for it
last.
-/

namespace CodeIndex

/-- On these texts, equal digests mean equal texts. -/
def Faithful [Digest] (T : Set String) : Prop :=
  ∀ text ∈ T, ∀ text' ∈ T, Digest.ofText text = Digest.ofText text' → text = text'

/-! ## A small example -/

namespace Example

/-- The tree of the text `x` in Python. -/
def tree : Syntax.Node :=
  let node (kind : String) (index : Nat) (children : List Syntax.Node) : Syntax.Node :=
    .mk { kind, named := true, field := none, moreInField := false, startByte := 0, stopByte := 1,
          span := ⟨⟨0, 0⟩, ⟨0, 1⟩⟩, index } children
  node "module" 0 [node "expression_statement" 1 [node "identifier" 2 []]]

/-- A parser that knows this tree. -/
@[reducible]
def trees : Trees :=
  ⟨fun language text => if language = .python ∧ text = "x" then tree else default⟩

/-- The digests of the text `x` and of the empty text. -/
@[reducible]
def digests : Digest := ⟨fun text => if text = "x" then 0xeaf06c6480b2cd11 else 0x2d06800538d394c2⟩

theorem faithful : @Faithful digests {"x"} := by
  rintro _ rfl _ rfl -
  rfl

theorem fileAt_m : fileAt "file:///m.py" = .ok ("/m.py", .python) := by
  have path : Uri.path? "file:///m.py" = some "/m.py" := by decide +kernel
  have language : Language.ofPath? "/m.py" = some .python := by decide +kernel
  simp only [fileAt, path, language]

/-- A disk with nothing on it. -/
def noFiles : Reader := fun _ => .error .notFound

theorem readsIn_noFiles (T : Set String) : ReadsIn noFiles T := by
  intro path text h
  cases h

end Example

namespace SymbolIndex

/-! ## Records -/

section

variable [Trees] [Digest] {T : Set String} {i : SymbolIndex} {read : Reader}
  {uri languageId text : String} {change : Change}

theorem Sound.eq_of_digest (sound : i.Sound T) (faithful : Faithful T) (mem : text ∈ T)
    {slice : Slice} (known : i.snapshot.files[uri]? = some slice)
    (same : slice.digest = Digest.ofText text) :
    ∃ languageId, slice = Slice.ofText uri languageId text := by
  obtain ⟨languageId, text', mem', rfl⟩ := sound.stored uri slice known
  obtain rfl : text' = text := faithful text' mem' text mem same
  exact ⟨languageId, rfl⟩

theorem files_update_of_known (valid : i.cache.Valid) (queued : i.queue[uri]? = some change)
    (found : wanted read i.cache uri change = some (languageId, text)) {languageId' : String}
    (known : i.snapshot.files[uri]? = some (Slice.ofText uri languageId' text)) :
    (i.update read).2.snapshot.files[uri]? = some (Slice.ofText uri languageId' text) := by
  rw [files_update valid read queued, found, settle_outcome, known, if_pos]
  simp [Slice.ofText]

/-- What is only ever on record in one language is on record with any text that is to be taken up in
this language. -/
theorem settle_outcome_of_language (faithful : Faithful T) (mem : text ∈ T) {s : Snapshot}
    (stored : ∀ slice, s.files[uri]? = some slice →
      ∃ text ∈ T, slice = Slice.ofText uri languageId text) :
    (outcome s uri (some (languageId, text))).settle s.files[uri]? =
      some (Slice.ofText uri languageId text) := by
  rw [settle_outcome]
  split
  · rename_i same
    cases known : s.files[uri]? with
    | none => simp [known] at same
    | some slice =>
      obtain ⟨text', mem', rfl⟩ := stored slice known
      have digest : Digest.ofText text' = Digest.ofText text := by
        simpa [known, Slice.ofText] using same
      rw [faithful text' mem' text mem digest]
  · rfl

theorem Sound.files_update_of_unknown (sound : i.Sound T) (faithful : Faithful T)
    (reads : ReadsIn read T) (queued : i.queue[uri]? = some change)
    (found : wanted read i.cache uri change = some (languageId, text))
    (unknown : ∀ l, i.snapshot.files[uri]? ≠ some (Slice.ofText uri l text)) :
    (i.update read).2.snapshot.files[uri]? = some (Slice.ofText uri languageId text) := by
  have mem := sound.wanted_mem reads queued found
  rw [files_update sound.valid read queued, found, settle_outcome, if_neg]
  intro same
  cases known : i.snapshot.files[uri]? with
  | none => simp [known] at same
  | some slice =>
    have digest : slice.digest = Digest.ofText text := by simpa [known] using same
    obtain ⟨l, rfl⟩ := sound.eq_of_digest faithful mem known digest
    exact unknown l known

theorem Sound.stores_update_iff (sound : i.Sound T) (faithful : Faithful T)
    (reads : ReadsIn read T) (queued : i.queue[uri]? = some change)
    (found : wanted read i.cache uri change = some (languageId, text)) :
    (i.update read).2.snapshot.Stores uri (contributionOf uri languageId text) ↔
      ∀ languageId', i.snapshot.files[uri]? = some (Slice.ofText uri languageId' text) →
        contributionOf uri languageId' text = contributionOf uri languageId text := by
  obtain ⟨order, laid⟩ := (sound.update reads).laid
  rw [laid.stores_iff]
  constructor
  · intro stored languageId' known
    rw [files_update_of_known sound.valid queued found known] at stored
    exact Option.some.inj stored
  · intro agree
    by_cases unknown : ∀ l, i.snapshot.files[uri]? ≠ some (Slice.ofText uri l text)
    · rw [sound.files_update_of_unknown faithful reads queued found unknown]
      rfl
    · simp only [not_forall, not_not] at unknown
      obtain ⟨languageId', known⟩ := unknown
      rw [files_update_of_known sound.valid queued found known, ← agree languageId' known]
      rfl

/-! ## Files in one language -/

/-- A file waits and is on record in one language only. -/
structure SpokenIn (languageId : String) (T : Set String) (uri : String)
    (i : SymbolIndex) : Prop where
  queued : ∀ languageId' text : String,
    i.queue[uri]? = some (Change.text languageId' text) → languageId' = languageId
  stored : ∀ slice, i.snapshot.files[uri]? = some slice →
    ∃ text ∈ T, slice = Slice.ofText uri languageId text

theorem spokenIn_empty : SpokenIn languageId T uri {} := ⟨by simp, by simp⟩

theorem SpokenIn.withCache (spoken : i.SpokenIn languageId T uri) (c : FileCache) :
    SpokenIn languageId T uri { i with cache := c } := ⟨spoken.queued, spoken.stored⟩

theorem SpokenIn.enqueue (spoken : i.SpokenIn languageId T uri) (v : String)
    (news : v = uri → ∀ languageId' text, change = .text languageId' text →
      languageId' = languageId) : (i.enqueue v change).SpokenIn languageId T uri := by
  refine ⟨fun languageId' text hq => ?_, spoken.stored⟩
  rcases queued_enqueue hq with ⟨rfl, same⟩ | ⟨-, old⟩
  · exact news rfl languageId' text same.symm
  · exact spoken.queued languageId' text old

/-- What is wanted for the file is in its language, if this is that of its path. -/
theorem SpokenIn.wanted_language (spoken : i.SpokenIn languageId T uri)
    (paths : ∀ path language, fileAt uri = .ok (path, language) → languageId = language.id)
    (queued : i.queue[uri]? = some change) {languageId' : String}
    (found : wanted read i.cache uri change = some (languageId', text)) :
    languageId' = languageId := by
  cases change with
  | remove => cases found
  | text languageId' text =>
    cases found
    exact spoken.queued languageId' text queued
  | reload =>
    obtain ⟨⟨language, text'⟩, seen, he⟩ := Option.map_eq_some_iff.1 found
    cases he
    obtain ⟨path, hf, -⟩ := FileCache.view_eq_some seen
    exact (paths path language hf).symm

theorem SpokenIn.update (spoken : i.SpokenIn languageId T uri)
    (paths : ∀ path language, fileAt uri = .ok (path, language) → languageId = language.id)
    (sound : i.Sound T) (reads : ReadsIn read T) :
    (i.update read).2.SpokenIn languageId T uri := by
  refine ⟨by simp [queue_update], fun slice hs => ?_⟩
  rcases slice_of_update sound.valid hs with old | ⟨change, languageId', text, hq, hw, rfl⟩
  · exact spoken.stored slice old
  · rw [spoken.wanted_language paths hq hw]
    exact ⟨text, sound.wanted_mem reads hq hw, rfl⟩

theorem SpokenIn.files_update (spoken : i.SpokenIn languageId T uri)
    (paths : ∀ path language, fileAt uri = .ok (path, language) → languageId = language.id)
    (sound : i.Sound T) (faithful : Faithful T) (reads : ReadsIn read T)
    (queued : i.queue[uri]? = some change) :
    (i.update read).2.snapshot.files[uri]? =
      (wanted read i.cache uri change).map fun (languageId, text) =>
        Slice.ofText uri languageId text := by
  rw [SymbolIndex.files_update sound.valid read queued]
  cases found : wanted read i.cache uri change with
  | none => rfl
  | some source =>
    obtain ⟨languageId', text⟩ := source
    obtain rfl := spoken.wanted_language paths queued found
    exact settle_outcome_of_language faithful (sound.wanted_mem reads queued found) spoken.stored

/-! ## Histories -/

/-- **After any history, an update leaves a queued file with just the entries of its new text if and
only if the text was not on record under a language in which it contributes something else.** The
digests of different texts in the history must differ. -/
theorem run_stores_iff (events : List Event) (read : Reader) (faithful : Faithful T)
    (within : ∀ e ∈ events, e.Within T) (reads : ReadsIn read T)
    (queued : (run events).queue[uri]? = some change)
    (found : (changeSource read (run events).cache uri change).1 = some (languageId, text)) :
    ((run events).update read).2.snapshot.Stores uri (contributionOf uri languageId text) ↔
      ∀ languageId',
        (run events).snapshot.files[uri]? = some (Slice.ofText uri languageId' text) →
        contributionOf uri languageId' text = contributionOf uri languageId text := by
  have sound := sound_run events within
  rw [(changeSource_eq sound.valid read uri change).1] at found
  exact sound.stores_update_iff faithful reads queued found

end

theorem run_stores_iff_again :
    let _ := Example.trees
    let _ := Example.digests
    let i := run [.textGiven "file:///m.py" "python" "x", .update Example.noFiles,
      .textGiven "file:///m.py" "python" "x"]
    i.queue["file:///m.py"]? = some (.text "python" "x") ∧
      (i.update Example.noFiles).2.snapshot.Stores "file:///m.py"
        (contributionOf "file:///m.py" "python" "x") := by
  intro _ _ i
  have queued : i.queue["file:///m.py"]? = some (.text "python" "x") := by decide +kernel
  have known : i.snapshot.files["file:///m.py"]? =
      some (Slice.ofText "file:///m.py" "python" "x") := by decide +kernel
  refine ⟨queued, (run_stores_iff (T := {"x"}) _ _ Example.faithful ?_
    (Example.readsIn_noFiles _) queued rfl).2 ?_⟩
  · simp [Event.Within, Example.readsIn_noFiles]
  · intro languageId' same
    exact congrArg Slice.contribution (Option.some.inj (same.symm.trans known))

/-- **A buffer that is opened again in another language keeps the entries of the first one.** -/
theorem reopened_keeps_entries :
    let _ := Example.trees
    let _ := Example.digests
    let i := run [.textGiven "file:///m.py" "plaintext" "x", .update Example.noFiles,
      .textGiven "file:///m.py" "python" "x"]
    i.queue["file:///m.py"]? = some (.text "python" "x") ∧
      ¬ (i.update Example.noFiles).2.snapshot.Stores "file:///m.py"
        (contributionOf "file:///m.py" "python" "x") := by
  intro _ _ i
  refine ⟨by decide +kernel, fun stored => ?_⟩
  have usages := stored.usages "x"
  revert usages
  decide +kernel

end SymbolIndex

end CodeIndex
