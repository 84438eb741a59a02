import CodeIndex.Proofs.Workspace.Buffers
import Mathlib.Data.List.Induction

/-!
# Edits in any order

The edits of an open document carry versions, and an edit that is older than the buffer is refused.
So the order in which edits arrive does not matter: in the end the buffer is that of the latest one.

**Theorem (`run_latest`).** Open a document and let anything happen that does not open it again or
close it, with edits of different versions. The buffer ends up with the text and the version of the
latest among the opening and the edits, and this text is the last that was told to the index. An
edit is accepted if and only if its version exceeds that of the opening and those of all edits
accepted before it, and an edit that is refused leaves the workspace as it is.

**One step** (`step_of_open`). What happens either is an edit that is not older than the buffer,
which is then opened anew with the text of the edit, or it leaves the buffer and the news of its
file alone. Only an update takes the news away.

**A run** (`Holds`). So at each point of a run the buffer is that of the latest edit so far. Its
version is that of the opening or of an edit that was accepted, which is what the next edit is
compared with.
-/

namespace CodeIndex.Workspace

variable {w w' : Workspace} {uri v languageId text : String} {version : Int} {d : Buffer}

/-! ## Edits -/

/-- A text with its version. -/
abbrev TextEdit := String × Int

/-- The edit of the document at `uri` that an event asks for. -/
def Event.edit? (uri : String) : Event → Option TextEdit
  | changeDocument v text version => if v = uri then some (text, version) else none
  | _ => none

/-- The edits of a document, in the order in which they arrive. -/
def edits (uri : String) (events : List Event) : List TextEdit := events.filterMap (·.edit? uri)

theorem edits_concat (uri : String) (events : List Event) (e : Event) :
    edits uri (events ++ [e]) = edits uri events ++ (e.edit? uri).toList := by
  rw [edits, List.filterMap_append, ← edits]
  cases h : e.edit? uri <;> simp [h]

/-- The event neither opens the document at `uri` nor closes it. -/
def Event.Retains (uri : String) : Event → Prop
  | openDocument v _ _ _ | closeDocument v => v ≠ uri
  | _ => True

/-- The event may bring the index up to date. -/
def Event.Updates : Event → Prop
  | update _ | references _ _ _ _ => True
  | _ => False

/-- None of the edits has a greater version than this one, which is among them. -/
structure Latest (e : TextEdit) (es : List TextEdit) : Prop where
  mem : e ∈ es
  greatest : ∀ e' ∈ es, e'.2 ≤ e.2

variable {e e' : TextEdit} {es es' : List TextEdit}

theorem latest_singleton (e : TextEdit) : Latest e [e] := by
  constructor <;> simp

theorem Latest.accept (h : Latest e es) (newer : e.2 ≤ e'.2) : Latest e' (es ++ [e']) := by
  constructor
  · simp
  · intro x hx
    rcases List.mem_append.1 hx with hx | hx
    · exact le_trans (h.greatest x hx) newer
    · rw [List.mem_singleton.1 hx]

theorem Latest.refuse (h : Latest e es) (older : ∀ x ∈ es', x.2 ≤ e.2) : Latest e (es ++ es') := by
  constructor
  · exact List.mem_append_left _ h.mem
  · intro x hx
    rcases List.mem_append.1 hx with hx | hx
    · exact h.greatest x hx
    · exact older x hx

/-- Edits of different versions have one latest, whatever their order. -/
theorem Latest.unique (h : Latest e es) (h' : Latest e' es') (same : ∀ x, x ∈ es ↔ x ∈ es')
    (distinct : (es.map (·.2)).Nodup) : e = e' := by
  have mem : e' ∈ es := (same e').2 h'.mem
  apply List.inj_on_of_nodup_map distinct h.mem mem
  exact le_antisymm (h'.greatest e ((same e).1 h.mem)) (h.greatest e' mem)

/-! ## One step -/

/-- The document and the news of a file are the same in both workspaces. -/
structure SameAt (uri : String) (w w' : Workspace) : Prop where
  document : w'.documents[uri]? = w.documents[uri]?
  queued : w'.index.queue[uri]? = w.index.queue[uri]?

theorem SameAt.refl (uri : String) (w : Workspace) : SameAt uri w w := ⟨rfl, rfl⟩

theorem sameAt_enqueue (other : v ≠ uri) (c : FileCache) (change : Change)
    (documents : w'.documents[uri]? = w.documents[uri]?)
    (index : w'.index = SymbolIndex.enqueue { w.index with cache := c } v change) :
    SameAt uri w w' := by
  refine ⟨documents, ?_⟩
  rw [index, SymbolIndex.queue_enqueue, if_neg other.symm]

theorem sameAt_openDocument (other : v ≠ uri) (w : Workspace) (languageId text : String)
    (version : Int) : SameAt uri w (w.openDocument v languageId text version) := by
  refine sameAt_enqueue other w.index.cache _ ?_ rfl
  rw [openDocument, lookup_insert, if_neg other.symm]

theorem sameAt_changeDocument (other : v ≠ uri) (w : Workspace) (text : String) (version : Int) :
    SameAt uri w (w.changeDocument v text version).2 := by
  unfold changeDocument
  split
  · exact .refl uri w
  · split
    · exact .refl uri w
    · exact sameAt_openDocument other w _ text version

theorem sameAt_closeDocument (other : v ≠ uri) (w : Workspace) :
    SameAt uri w (w.closeDocument v) := by
  have documents : (w.documents.erase v)[uri]? = w.documents[uri]? := by
    rw [lookup_erase, if_neg other.symm]
  unfold closeDocument
  split
  · split
    · exact sameAt_enqueue other _ _ documents rfl
    · exact sameAt_enqueue other _ _ documents rfl
  · exact .refl uri w

theorem sameAt_news (opened : w.documents[uri]? = some d) (v : String) (c : FileCache)
    (change : Change) :
    SameAt uri w (if w.isOpen v then { w with index := { w.index with cache := c } }
      else { w with index := SymbolIndex.enqueue { w.index with cache := c } v change }) := by
  by_cases hv : w.isOpen v
  · rw [if_pos hv]
    exact ⟨rfl, rfl⟩
  · rw [if_neg hv]
    refine sameAt_enqueue ?_ c change rfl rfl
    rintro rfl
    rw [documents_of_closed hv] at opened
    cases opened

theorem changeDocument_of_open (opened : w.documents[uri]? = some d) (text : String)
    (version : Int) :
    w.changeDocument uri text version =
      if version < d.version then (false, w)
      else (true, w.openDocument uri d.languageId text version) := by
  unfold changeDocument
  rw [opened]

theorem changeDocument_of_refused (w : Workspace) (uri text : String) (version : Int)
    (refused : (w.changeDocument uri text version).1 = false) :
    (w.changeDocument uri text version).2 = w := by
  unfold changeDocument at refused ⊢
  split at refused
  · rfl
  · split at refused
    · rename_i older
      rw [if_pos older]
    · cases refused

section

variable [Trees]

theorem sameAt_document (read : Reader) (w : Workspace) (v : String) :
    SameAt uri w (w.document read v).2 := by
  obtain ⟨c, loaded⟩ := w.exists_document_eq read v
  rw [loaded]
  exact ⟨rfl, rfl⟩

theorem sameAt_answer (read : Reader) (w : Workspace) (v : String) {α : Type} (none? : α)
    (answer : Document → Workspace → α) :
    SameAt uri w (match w.document read v with
      | (none, w) => (none?, w)
      | (some d, w) => (answer d w, w) : α × Workspace).2 := by
  have asked : SameAt uri w (w.document read v).2 := sameAt_document read w v
  split <;> rename_i hd <;> rwa [hd] at asked

variable [Digest]

theorem sameAt_references (read : Reader) (w : Workspace) (uri v : String) (p : Position)
    (includeDeclaration : Bool) :
    SameAt uri w (w.references read v p includeDeclaration).2 ∨
      (w.references read v p includeDeclaration).2.documents[uri]? = w.documents[uri]? ∧
        (w.references read v p includeDeclaration).2.index.queue[uri]? = none := by
  have parsed : SameAt uri w (w.document read v).2 := sameAt_document read w v
  unfold references
  split
  · rename_i hd
    rw [hd] at parsed
    exact Or.inl parsed
  · rename_i hd
    rw [hd] at parsed
    simp only [SymbolIndex.references]
    split
    · exact Or.inl parsed
    · exact Or.inr ⟨parsed.document, by simp [SymbolIndex.queue_update]⟩

variable [Prefilter.Builder]

/-- **What can happen to an open document.** An edit that is not older than the buffer takes its
place. Anything else leaves the buffer alone, and the news of its file, unless these are taken
up. -/
theorem step_of_open (opened : w.documents[uri]? = some d) (e : Event) (stays : e.Retains uri) :
    (∃ text version, e = .changeDocument uri text version ∧ d.version ≤ version ∧
      w.step e = w.openDocument uri d.languageId text version) ∨
    ((∀ x ∈ e.edit? uri, x.2 < d.version) ∧ (w.step e).documents[uri]? = some d ∧
      ((w.step e).index.queue[uri]? = w.index.queue[uri]? ∨
        e.Updates ∧ (w.step e).index.queue[uri]? = none)) := by
  have same : SameAt uri w (w.step e) → (∀ x ∈ e.edit? uri, x.2 < d.version) →
      (∀ x ∈ e.edit? uri, x.2 < d.version) ∧ (w.step e).documents[uri]? = some d ∧
        ((w.step e).index.queue[uri]? = w.index.queue[uri]? ∨
          e.Updates ∧ (w.step e).index.queue[uri]? = none) :=
    fun same older => ⟨older, same.document.trans opened, Or.inl same.queued⟩
  cases e with
  | changeDocument v text version =>
    by_cases hv : v = uri
    · subst hv
      have changed := changeDocument_of_open opened text version
      by_cases older : version < d.version
      · rw [if_pos older] at changed
        refine Or.inr (same ?_ ?_)
        · rw [step, changed]
          exact .refl v w
        · simpa [Event.edit?] using older
      · rw [if_neg older] at changed
        exact Or.inl ⟨text, version, rfl, not_lt.1 older, by rw [step, changed]⟩
    · exact Or.inr (same (sameAt_changeDocument hv w text version) (by simp [Event.edit?, hv]))
  | openDocument v languageId text version =>
    exact Or.inr (same (sameAt_openDocument stays w languageId text version) nofun)
  | closeDocument v => exact Or.inr (same (sameAt_closeDocument stays w) nofun)
  | fileAdded v => exact Or.inr (same (sameAt_news opened v w.index.cache .reload) nofun)
  | fileUpdated v => exact Or.inr (same (sameAt_news opened v _ .reload) nofun)
  | fileRemoved v => exact Or.inr (same (sameAt_news opened v _ .remove) nofun)
  | update read =>
    have taken : (w.update read).2.index.queue[uri]? = none := by
      simp [Workspace.update, SymbolIndex.queue_update]
    exact Or.inr ⟨nofun, opened, Or.inr ⟨trivial, taken⟩⟩
  | outline read v => exact Or.inr (same (sameAt_document read w v) nofun)
  | references read v p includeDeclaration =>
    rcases sameAt_references read w uri v p includeDeclaration with asked | ⟨kept, taken⟩
    · exact Or.inr (same asked nofun)
    · exact Or.inr ⟨nofun, kept.trans opened, Or.inr ⟨trivial, taken⟩⟩
  | definitions read v p =>
    exact Or.inr (same (sameAt_answer read w v [] fun d w => w.index.definitions d v p) nofun)
  | highlights read v p =>
    exact Or.inr (same (sameAt_answer read w v [] fun d _ => d.highlights p) nofun)
  | completions read v p =>
    exact Or.inr (same (sameAt_answer read w v {} fun d w => w.index.completions d p) nofun)
  | search read query mode cancelled => exact Or.inr (same ⟨rfl, rfl⟩ nofun)

/-! ## Runs -/

/-- An edit of the document with this version is accepted in the course of a run. -/
def Accepts (w : Workspace) (uri : String) (version : Int) (events : List Event) : Prop :=
  ∃ before text after, events = before ++ .changeDocument uri text version :: after ∧
    ((w.run before).changeDocument uri text version).1 = true

/-- The last news of a file that wait at the beginning of a run or after one of its events. -/
def lastNews (uri : String) : Workspace → List Event → Option Change
  | w, [] => w.index.queue[uri]?
  | w, e :: events => (lastNews uri (w.step e) events).or w.index.queue[uri]?

theorem run_concat (w : Workspace) (events : List Event) (e : Event) :
    w.run (events ++ [e]) = (w.run events).step e := by
  simp [run]

theorem lastNews_concat (w : Workspace) (events : List Event) (e : Event) :
    lastNews uri w (events ++ [e]) =
      ((w.run (events ++ [e])).index.queue[uri]?).or (lastNews uri w events) := by
  induction events generalizing w with
  | nil => rfl
  | cons first events ih =>
    show (lastNews uri (w.step first) (events ++ [e])).or _ = _
    rw [ih, Option.or_assoc]
    rfl

theorem lastNews_of_queued {change : Change} (w : Workspace) (events : List Event)
    (queued : (w.run events).index.queue[uri]? = some change) :
    lastNews uri w events = some change := by
  induction events using List.reverseRecOn with
  | nil => exact queued
  | append_singleton events e => rw [lastNews_concat, queued, Option.some_or]

theorem Accepts.concat {events : List Event} (h : w.Accepts uri version events) (e : Event) :
    w.Accepts uri version (events ++ [e]) := by
  obtain ⟨before, text, after, rfl, accepted⟩ := h
  exact ⟨before, text, after ++ [e], by simp, accepted⟩

theorem Accepts.mem_edits {events : List Event} (h : w.Accepts uri version events) :
    ∃ text, (text, version) ∈ edits uri events := by
  obtain ⟨before, text, after, rfl, -⟩ := h
  exact ⟨text, by simp [edits, Event.edit?]⟩

/-- At the end of a run from the opening of a document, its buffer is that of this edit, which is
the latest, and the text of the edit is the last news of the file. -/
structure Holds (w : Workspace) (uri languageId : String) (opening : TextEdit) (events : List Event)
    (e : TextEdit) : Prop where
  latest : Latest e (opening :: edits uri events)
  buffer : (w.run events).documents[uri]? = some ⟨languageId, e.1, e.2⟩
  accepted : e.2 = opening.2 ∨ w.Accepts uri e.2 events
  news : lastNews uri w events = some (.text languageId e.1)
  waits : (∀ x ∈ events, ¬ x.Updates) →
    (w.run events).index.queue[uri]? = some (.text languageId e.1)

variable {opening : TextEdit} {events : List Event}

theorem holds_openDocument (w : Workspace) (uri languageId : String) (opening : TextEdit) :
    Holds (w.openDocument uri languageId opening.1 opening.2) uri languageId opening []
      opening := by
  have queued : (w.openDocument uri languageId opening.1 opening.2).index.queue[uri]? =
      some (.text languageId opening.1) := by
    rw [openDocument, SymbolIndex.textGiven, SymbolIndex.queue_enqueue, if_pos rfl]
  refine ⟨latest_singleton opening, ?_, Or.inl rfl, queued, fun _ => queued⟩
  show (w.openDocument uri languageId opening.1 opening.2).documents[uri]? = _
  rw [openDocument, lookup_insert, if_pos rfl]

theorem Holds.step (h : Holds w uri languageId opening events e) (x : Event)
    (stays : x.Retains uri) : ∃ e', Holds w uri languageId opening (events ++ [x]) e' := by
  rcases step_of_open h.buffer x stays with ⟨text, version, rfl, newer, changed⟩ |
    ⟨older, kept, queued⟩
  · -- the edit is accepted, and its text waits for the next update
    have buffer : (w.run (events ++ [.changeDocument uri text version])).documents[uri]? =
        some ⟨languageId, text, version⟩ := by
      rw [run_concat, changed, openDocument, lookup_insert, if_pos rfl]
    have waits : (w.run (events ++ [.changeDocument uri text version])).index.queue[uri]? =
        some (.text languageId text) := by
      rw [run_concat, changed, openDocument, SymbolIndex.textGiven, SymbolIndex.queue_enqueue,
        if_pos rfl]
    refine ⟨(text, version), ?_, buffer, Or.inr ?_, lastNews_of_queued w _ waits, fun _ => waits⟩
    · rw [edits_concat, ← List.cons_append]
      simpa [Event.edit?] using h.latest.accept newer
    · refine ⟨events, text, [], rfl, ?_⟩
      rw [changeDocument_of_open h.buffer, if_neg (not_lt.2 newer)]
  · -- the buffer stays as it is, and so do the news, unless an update takes them away
    refine ⟨e, ?_, ?_, h.accepted.imp id fun a => a.concat x, ?_, fun idle => ?_⟩
    · rw [edits_concat, ← List.cons_append]
      apply h.latest.refuse
      intro y hy
      exact le_of_lt (older y (Option.mem_toList.1 hy))
    · rw [run_concat, kept]
    · rw [lastNews_concat, run_concat]
      rcases queued with same | ⟨-, taken⟩
      · rw [same]
        cases hq : (w.run events).index.queue[uri]? with
        | none => rw [Option.none_or, h.news]
        | some change => rw [← h.news, lastNews_of_queued w events hq, Option.some_or]
      · rw [taken, Option.none_or, h.news]
    · rw [run_concat]
      rcases queued with same | ⟨updates, -⟩
      · rw [same]
        apply h.waits
        intro y hy
        exact idle y (List.mem_append_left _ hy)
      · exact absurd updates (idle x (by simp))

/-- At each point of a run there is an edit whose buffer the document has. -/
theorem exists_holds (w : Workspace) (uri languageId : String) (opening : TextEdit)
    (events : List Event) (stays : ∀ x ∈ events, x.Retains uri) :
    ∃ e, Holds (w.openDocument uri languageId opening.1 opening.2) uri languageId opening events
      e := by
  induction events using List.reverseRecOn with
  | nil => exact ⟨opening, holds_openDocument w uri languageId opening⟩
  | append_singleton events x ih =>
    obtain ⟨e, h⟩ := ih fun y hy => stays y (List.mem_append_left _ hy)
    exact h.step x (stays x (by simp))

/-- An edit whose version is new is accepted if and only if it exceeds all that were accepted. -/
theorem Holds.accepts_iff (h : Holds w uri languageId opening events e) {text : String}
    {version : Int} (fresh : version ∉ (opening :: edits uri events).map (·.2)) :
    ((w.run events).changeDocument uri text version).1 = true ↔
      opening.2 < version ∧ ∀ v, w.Accepts uri v events → v < version := by
  have apart : e.2 ≠ version := by
    rintro rfl
    exact fresh (List.mem_map_of_mem h.latest.mem)
  have accepted : ((w.run events).changeDocument uri text version).1 = true ↔ e.2 < version := by
    rw [changeDocument_of_open h.buffer]
    by_cases older : version < e.2
    · simp [older, le_of_lt older]
    · simp [older, lt_of_le_of_ne (not_lt.1 older) apart]
  rw [accepted]
  constructor
  · intro newer
    refine ⟨lt_of_le_of_lt (h.latest.greatest opening (by simp)) newer, fun v hv => ?_⟩
    obtain ⟨text, mem⟩ := hv.mem_edits
    exact lt_of_le_of_lt (h.latest.greatest _ (List.mem_cons_of_mem _ mem)) newer
  · rintro ⟨exceeds, all⟩
    rcases h.accepted with first | later
    · rw [first]
      exact exceeds
    · exact all _ later

/-- **The order in which edits arrive does not matter.** Open a document and let anything happen
that does not open it again or close it, where the versions of the opening and of all edits differ.
Then the buffer has the text and the version of the latest of them, in its language, and so after
any other events with the same edits in another order. The text of the latest is the last that was
told to the index, where it waits unless an update took it up. An edit on the way is accepted if and
only if its version exceeds that of the opening and those of all edits accepted before it; an edit
that is refused changes nothing. -/
theorem run_latest (w : Workspace) (uri languageId text : String) (version : Int)
    (events : List Event) (stays : ∀ x ∈ events, x.Retains uri)
    (distinct : (version :: (edits uri events).map (·.2)).Nodup) :
    let opened := w.openDocument uri languageId text version
    (∃ e, Latest e ((text, version) :: edits uri events) ∧
      (opened.run events).documents[uri]? = some ⟨languageId, e.1, e.2⟩ ∧
      lastNews uri opened events = some (.text languageId e.1) ∧
      ((∀ x ∈ events, ¬ x.Updates) →
        (opened.run events).index.queue[uri]? = some (.text languageId e.1))) ∧
    (∀ events', (∀ x ∈ events', x.Retains uri) → (edits uri events').Perm (edits uri events) →
      (opened.run events').documents[uri]? = (opened.run events).documents[uri]? ∧
        lastNews uri opened events' = lastNews uri opened events) ∧
    ∀ before text' version' after, events = before ++ .changeDocument uri text' version' :: after →
      let call := (opened.run before).changeDocument uri text' version'
      (call.1 = true ↔
        version < version' ∧ ∀ v, opened.Accepts uri v before → v < version') ∧
      (call.1 = false → call.2 = opened.run before) := by
  intro opened
  obtain ⟨e, h⟩ := exists_holds w uri languageId (text, version) events stays
  refine ⟨⟨e, h.latest, h.buffer, h.news, h.waits⟩, ?_, ?_⟩
  · intro events' stays' perm
    obtain ⟨e', h'⟩ := exists_holds w uri languageId (text, version) events' stays'
    have same : e = e' := h.latest.unique h'.latest
      (fun x => (perm.symm.cons (text, version)).mem_iff) distinct
    subst same
    exact ⟨h'.buffer.trans h.buffer.symm, h'.news.trans h.news.symm⟩
  · rintro before text' version' after rfl
    obtain ⟨e', h'⟩ := exists_holds w uri languageId (text, version) before
      fun x hx => stays x (List.mem_append_left _ hx)
    refine ⟨h'.accepts_iff ?_, changeDocument_of_refused _ uri text' version'⟩
    -- the versions before this edit and its own are different
    have split : version :: (edits uri (before ++ .changeDocument uri text' version' :: after)).map
        (·.2) = ((text, version) :: edits uri before).map (·.2) ++
          version' :: (edits uri after).map (·.2) := by
      simp [edits, Event.edit?]
    rw [split] at distinct
    intro mem
    exact (List.nodup_append.1 distinct).2.2 version' mem version' List.mem_cons_self rfl

end

/-- An older edit arrives after a newer one. In between there is an update and an edit of a document
that is not open. -/
theorem run_latest_overtaken :
    let _ := Example.trees
    let _ := Example.digests
    let opened := (new {}).openDocument "file:///m.py" "python" "x" 2
    let before : List Event := [.changeDocument "file:///m.py" "z" 5, .update Example.noFiles,
      .changeDocument "file:///a.py" "w" 9]
    let events := before ++ [.changeDocument "file:///m.py" "y" 3]
    (opened.run events).documents["file:///m.py"]? = some ⟨"python", "z", 5⟩ ∧
      lastNews "file:///m.py" opened events = some (.text "python" "z") ∧
      ((opened.run before).changeDocument "file:///m.py" "y" 3).1 = false := by
  intro _ _ opened before events
  obtain ⟨⟨e, latest, buffer, news, -⟩, -, calls⟩ := run_latest (new {}) "file:///m.py" "python" "x"
    2 events (by simp [events, before, Event.Retains]) (by decide)
  have same : e = ("z", 5) :=
    latest.unique ⟨by decide, by decide⟩ (fun _ => Iff.rfl) (by decide)
  subst same
  refine ⟨buffer, news, ?_⟩
  -- the edit is older than one that was accepted before it
  have accepts : opened.Accepts "file:///m.py" 5 before := by
    refine ⟨[], "z", _, rfl, ?_⟩
    have known : (opened.run []).documents["file:///m.py"]? = some ⟨"python", "x", 2⟩ :=
      (lookup_insert ..).trans (if_pos rfl)
    rw [changeDocument_of_open known]
    rfl
  apply Bool.eq_false_of_not_eq_true
  intro accepted
  have exceeds := ((calls before "y" 3 [] rfl).1.1 accepted).2 5 accepts
  omega

end CodeIndex.Workspace
