import CodeIndex.Proofs.Server.Registry
import CodeIndex.Proofs.Server.Replies

/-!
# Requests that are outstanding

A request is *outstanding* from the moment the reader takes it up until the main loop has finished
it. It may be held by the reader, wait in the queue or be in the main loop's hand
(`Parties.outstanding`); of the requests that were read, all others are finished (`run_accounts`).

**Theorem (`registry_holds_outstanding`).** Whichever steps the parties take, the registry holds
texts of outstanding requests only, so it is empty once all requests that were read are finished. If
at no time two outstanding requests have one text, it holds just their texts, and a cancellation
that names one of them reaches the token that its search goes by, and no other's.

The registry is touched in four ways (`Touches`): by the reader that takes up a request or a
cancellation, and by the main loop that asks for a token or finishes a request. With equal ids a
request can lose its text to another that is finished first; nothing is ever held too long.
-/

namespace CodeIndex

open CancelRegistry (key)

/-! ## What is outstanding -/

/-- The id of a request. -/
def Message.requestId? : Message → Option Json
  | .request id _ _ => some id
  | .notify _ | .cancel _ => none

/-- The ids of the requests in lines. -/
def requestIds (lines : List (List UInt8)) : List Json :=
  (lines.filterMap Message.ofLine?).filterMap (·.requestId?)

namespace Work

/-- The id of the request in hand, until it is finished. -/
def unfinished : Work → Option Json
  | .taken id _ _ | .searching id _ _ _ | .answered id _ => some id
  | .idle | .finished _ _ | .ended => none

/-- The reply to the request in hand, once it is finished. -/
def reply? : Work → Option Json
  | .finished id result => some (Session.reply id result)
  | .idle | .taken _ _ _ | .searching _ _ _ _ | .answered _ _ | .ended => none

/-- The id and the token that the main loop searches by. -/
def token? : Work → Option (Json × CancelToken)
  | .searching id _ _ t => some (id, t)
  | .idle | .taken _ _ _ | .answered _ _ | .finished _ _ | .ended => none

end Work

theorem requestIds_append (lines lines' : List (List UInt8)) :
    requestIds (lines ++ lines') = requestIds lines ++ requestIds lines' := by
  simp [requestIds]

theorem Message.requestId?_forwarded (m : Message) :
    m.forwarded?.toList.filterMap (·.requestId?) = m.requestId?.toList := by
  cases m <;> rfl

/-- The id that a cancellation names. -/
def Message.cancelledId? : Message → Option Json
  | .cancel id => id
  | .request _ _ _ | .notify _ => none

/-- The message is a request, and `such` holds of its id, its method and its parameters. -/
def Message.requests (such : Json → String → Json → Bool) : Message → Bool
  | .request id method params => such id method params
  | .notify _ | .cancel _ => false

theorem Message.exists_request (line : List UInt8) (such : Json → String → Json → Bool)
    (h : (Message.ofLine? line).any (·.requests such) = true) :
    ∃ id method params, Message.ofLine? line = some (.request id method params) ∧
      such id method params = true := by
  obtain ⟨m, read, requests⟩ := (Option.any_eq_true _ _).1 h
  cases m with
  | request id method params => exact ⟨id, method, params, read, requests⟩
  | notify | cancel => cases requests

theorem Message.exists_cancel (line : List UInt8) (text : String)
    (h : ((Message.ofLine? line).bind (·.cancelledId?)).map key = some text) :
    ∃ id, Message.ofLine? line = some (.cancel (some id)) ∧ key id = text := by
  obtain ⟨id, names, text⟩ := Option.map_eq_some_iff.1 h
  obtain ⟨m, read, names⟩ := Option.bind_eq_some_iff.1 names
  cases m with
  | cancel id' =>
    obtain rfl : id' = some id := names
    exact ⟨id, read, text⟩
  | request | notify => cases names

theorem Session.cancels_respond [Trees] [Digest] [FolderWalk] [Prefilter.Builder] {s : Session}
    {method : String} {params : Json} (other : s.searchAsked? method params = none) (disk : Disk)
    (id : Json) :
    (s.respond disk id method params).2.cancels = s.cancels := by
  unfold searchAsked? at other
  unfold respond
  split
  · rfl
  · rename_i served
    rw [if_neg served] at other
    cases parsed : Request.parse method params with
    | error e => rfl
    | ok request =>
      cases request with
      | search query mode => simp [parsed] at other
      | _ => rfl

namespace Parties

variable {p p' p'' : Parties} {k : String} {t : CancelToken}

/-- The ids of the requests that were read and are not finished, oldest first. -/
def outstanding (p : Parties) : List Json :=
  p.work.unfinished.toList ++ (p.queue ++ p.held.toList).filterMap (·.requestId?)

/-- The texts of their ids. -/
def keys (p : Parties) : List String := p.outstanding.map key

theorem mem_keys_of_token {id : Json} (used : p.work.token? = some (id, t)) : key id ∈ p.keys := by
  cases work : p.work with
  | searching id' query mode t' =>
    rw [work] at used
    cases used
    simp [keys, outstanding, work, Work.unfinished]
  | _ =>
    rw [work] at used
    cases used

/-- The replies to the requests that are finished. -/
def answers (p : Parties) : List Json := p.sent ++ p.work.reply?.toList

/-- On the way from one state to another, the reader has read some lines, and the main loop has
finished the first requests among those that were outstanding and those in the lines. -/
def Accounts (p p' : Parties) : Prop :=
  ∃ lines done replies, p.unread = lines ++ p'.unread ∧
    p.outstanding ++ requestIds lines = done ++ p'.outstanding ∧
    List.Forall₂ Answers done replies ∧ p'.answers = p.answers ++ replies

theorem Accounts.nothing (unread : p'.unread = p.unread)
    (outstanding : p'.outstanding = p.outstanding) (answers : p'.answers = p.answers) :
    Accounts p p' :=
  ⟨[], [], [], unread.symm, by simp [requestIds, outstanding], .nil, by simp [answers]⟩

theorem Accounts.trans (h : Accounts p p') (h' : Accounts p' p'') : Accounts p p'' := by
  obtain ⟨lines, done, replies, unread, accounted, answered, answers⟩ := h
  obtain ⟨lines', done', replies', unread', accounted', answered', answers'⟩ := h'
  refine ⟨lines ++ lines', done ++ done', replies ++ replies', ?_, ?_,
    List.rel_append answered answered', ?_⟩
  · rw [unread, unread', List.append_assoc]
  · rw [requestIds_append, ← List.append_assoc, accounted, List.append_assoc, accounted',
      List.append_assoc]
  · rw [answers', answers, List.append_assoc]

/-! ## What the registry holds -/

/-- The registry holds texts of outstanding requests only. -/
def Tracked (p : Parties) : Prop := ∀ k ∈ p.session.cancels.current, k ∈ p.keys

theorem tracked_start (lines : List (List UInt8)) : Tracked { unread := lines } := by simp [Tracked]

/-- No two outstanding requests have ids of one text. -/
def Distinct (p : Parties) : Prop := p.keys.Nodup

/-- The registry holds a token for each outstanding request, and a search goes by that of its
request. -/
structure Exact (p : Parties) : Prop where
  valid : p.session.cancels.Valid
  distinct : p.Distinct
  held : ∀ k ∈ p.keys, ∃ t, p.session.cancels.current[k]? = some t
  token : ∀ id t, p.work.token? = some (id, t) → p.session.cancels.current[key id]? = some t

theorem exact_start (lines : List (List UInt8)) : Exact { unread := lines } :=
  ⟨CancelRegistry.valid_empty, List.nodup_nil, by simp [keys, outstanding, Work.unfinished],
    by simp [Work.token?]⟩

/-! ## Reading a message -/

/-- The reader takes up a message. -/
def Reads (p : Parties) (m : Message) (p' : Parties) : Prop :=
  ∃ line rest, p.held = none ∧ p.unread = line :: rest ∧ Message.ofLine? line = some m ∧
    p' = { p with
      unread := rest
      held := m.forwarded?
      session := { p.session with cancels := Session.route p.session.cancels m } }

/-- A cancellation cancels the token that the registry holds under the text that it names. -/
theorem Reads.isCancelled {id : Json} (h : Reads p (.cancel (some id)) p')
    (valid : p.session.cancels.Valid) (t : CancelToken) :
    p'.session.cancels.isCancelled t = true ↔
      p.session.cancels.isCancelled t = true ∨ p.session.cancels.current[key id]? = some t := by
  obtain ⟨line, rest, -, -, -, rfl⟩ := h
  exact valid.isCancelled_cancel id t

/-! ## Each step -/

section

variable [Trees] [Digest] [FolderWalk] [Prefilter.Builder]

theorem step_accounts (h : Step p p') : Accounts p p' := by
  cases h with
  | skip free next nothing =>
    exact ⟨[_], [], [], next, by simp [requestIds, nothing, outstanding], .nil, by simp [answers]⟩
  | @route line rest m free next read =>
    refine ⟨[line], [], [], next, ?_, .nil, by simp [answers]⟩
    have ids : requestIds [line] = m.requestId?.toList := by
      cases m <;> simp [requestIds, read, Message.requestId?]
    simp only [ids, outstanding, free, List.filterMap_append, Message.requestId?_forwarded,
      List.append_assoc]
    rfl
  | forward held => exact .nothing rfl (by simp [outstanding, held]) rfl
  | note _ idle next | exit idle next | take idle next =>
    refine .nothing rfl ?_ (by simp [answers, idle, Work.reply?])
    simp [outstanding, idle, next, Work.unfinished, Message.requestId?]
  | answer _ work | register work | search _ _ work =>
    exact .nothing rfl (by simp [outstanding, work, Work.unfinished])
      (by simp [answers, work, Work.reply?])
  | @finish id result work =>
    refine ⟨[], [id], [_], rfl, ?_, .cons (answers_reply id result) .nil, ?_⟩
    · simp [outstanding, work, Work.unfinished, requestIds]
    · simp [answers, work, Work.reply?]
  | reply work =>
    exact .nothing rfl (by simp [outstanding, work, Work.unfinished])
      (by simp [answers, work, Work.reply?])

theorem run_accounts (h : Run p p') : Accounts p p' := by
  induction h with
  | refl => exact .nothing rfl rfl rfl
  | tail _ step ih => exact ih.trans (step_accounts step)

/-! ## How the registry is touched -/

/-- What a step does to the registry, and what it does to the outstanding requests and the token in
use by then. -/
inductive Touches (p p' : Parties) : Prop
  /-- The reader takes up a request. -/
  | reads (id : Json) (cancels : p'.session.cancels = (p.session.cancels.register id).2)
      (outstanding : p'.outstanding = p.outstanding ++ [id])
      (token : p'.work.token? = p.work.token?)
  /-- The reader takes up a cancellation. -/
  | callsOff (id : Json) (cancels : p'.session.cancels = (p.session.cancels.cancel id).2)
      (outstanding : p'.outstanding = p.outstanding) (token : p'.work.token? = p.work.token?)
  /-- The main loop asks for the token of the request in hand. -/
  | asks (id : Json) (mem : id ∈ p.outstanding)
      (cancels : p'.session.cancels = (p.session.cancels.register id).2)
      (outstanding : p'.outstanding = p.outstanding)
      (token : p'.work.token? = some (id, (p.session.cancels.register id).1))
  /-- The main loop finishes the request in hand. -/
  | finishes (id : Json) (cancels : p'.session.cancels = p.session.cancels.finish id)
      (outstanding : p.outstanding = id :: p'.outstanding) (token : p'.work.token? = none)
  | leaves (cancels : p'.session.cancels = p.session.cancels)
      (outstanding : p'.outstanding = p.outstanding)
      (token : p'.work.token? = p.work.token? ∨ p'.work.token? = none)

theorem step_touches (h : Step p p') : Touches p p' := by
  cases h with
  | skip => exact .leaves rfl rfl (.inl rfl)
  | @route line rest m free next read =>
    cases m with
    | request id method params =>
      refine .reads id rfl ?_ rfl
      simp [outstanding, free, Message.forwarded?, Message.requestId?]
    | notify n =>
      refine .leaves rfl ?_ (.inl rfl)
      simp [outstanding, free, Message.forwarded?, Message.requestId?]
    | cancel id =>
      cases id with
      | some id => exact .callsOff id rfl (by simp [outstanding, free, Message.forwarded?]) rfl
      | none => exact .leaves rfl (by simp [outstanding, free, Message.forwarded?]) (.inl rfl)
  | forward held => exact .leaves rfl (by simp [outstanding, held]) (.inl rfl)
  | note _ idle next | exit idle next | take idle next =>
    refine .leaves rfl ?_ (by simp [idle, Work.token?])
    simp [outstanding, idle, next, Work.unfinished, Message.requestId?]
  | answer disk work other =>
    refine .leaves (Session.cancels_respond other disk _) ?_ (.inr rfl)
    simp [outstanding, work, Work.unfinished]
  | @register id method params query mode work asked =>
    refine .asks id ?_ rfl ?_ rfl
    · simp [outstanding, work, Work.unfinished]
    · simp [outstanding, work, Work.unfinished]
  | search _ _ work =>
    exact .leaves rfl (by simp [outstanding, work, Work.unfinished]) (.inr rfl)
  | @finish id result work =>
    exact .finishes id rfl (by simp [outstanding, work, Work.unfinished]) rfl
  | reply work => exact .leaves rfl (by simp [outstanding, work, Work.unfinished]) (.inr rfl)

theorem valid_step (valid : p.session.cancels.Valid) (h : Step p p') :
    p'.session.cancels.Valid := by
  cases step_touches h with
  | reads id cancels | asks id _ cancels => exact cancels ▸ valid.register id
  | callsOff id cancels => exact cancels ▸ valid.cancel id
  | finishes id cancels => exact cancels ▸ valid.finish id
  | leaves cancels => exact cancels ▸ valid

theorem isCancelled_step (valid : p.session.cancels.Valid) (h : Step p p')
    (cancelled : p.session.cancels.isCancelled t = true) :
    p'.session.cancels.isCancelled t = true := by
  cases step_touches h with
  | reads id cancels | asks id _ cancels =>
    rwa [cancels, CancelRegistry.isCancelled_register]
  | callsOff id cancels =>
    rw [cancels, valid.isCancelled_cancel]
    exact Or.inl cancelled
  | finishes id cancels | leaves cancels => rwa [cancels]

theorem isCancelled_run (valid : p.session.cancels.Valid) (h : Run p p')
    (cancelled : p.session.cancels.isCancelled t = true) :
    p'.session.cancels.isCancelled t = true := by
  suffices p'.session.cancels.Valid ∧ p'.session.cancels.isCancelled t = true from this.2
  induction h with
  | refl => exact ⟨valid, cancelled⟩
  | tail _ step ih => exact ⟨valid_step ih.1 step, isCancelled_step ih.1 step ih.2⟩

/-! ## Any ids -/

theorem tracked_step (tracked : p.Tracked) (h : Step p p') : p'.Tracked := by
  intro k held
  cases step_touches h with
  | reads id cancels outstanding =>
    rw [cancels, CancelRegistry.mem_current_register] at held
    rw [keys, outstanding, List.map_append, List.mem_append, List.map_singleton, List.mem_singleton]
    exact held.symm.imp_left (tracked k)
  | callsOff id cancels outstanding =>
    rw [cancels, CancelRegistry.current_cancel] at held
    rw [keys, outstanding]
    exact tracked k held
  | asks id mem cancels outstanding =>
    rw [cancels, CancelRegistry.mem_current_register] at held
    rw [keys, outstanding]
    rcases held with rfl | held
    · exact List.mem_map_of_mem mem
    · exact tracked k held
  | finishes id cancels outstanding =>
    rw [cancels, CancelRegistry.mem_current_finish] at held
    have before := tracked k held.2
    rw [keys, outstanding, List.map_cons, List.mem_cons] at before
    exact before.resolve_left held.1
  | leaves cancels outstanding =>
    rw [cancels] at held
    rw [keys, outstanding]
    exact tracked k held

theorem tracked_run (tracked : p.Tracked) (h : Run p p') : p'.Tracked := by
  induction h with
  | refl => exact tracked
  | tail _ step ih => exact tracked_step ih step

/-! ## Different ids -/

/-- Any number of steps, with different ids outstanding all the time. -/
abbrev DistinctRun : Parties → Parties → Prop :=
  Relation.ReflTransGen fun p p' => Step p p' ∧ p'.Distinct

theorem DistinctRun.run (h : DistinctRun p p') : Run p p' := by
  induction h with
  | refl => exact .refl
  | tail _ step ih => exact ih.tail step.1

theorem DistinctRun.forward {p₀ : Parties} {line : List UInt8} {rest : List (List UInt8)}
    {id : Json} {method : String} {params : Json} (run : DistinctRun p₀ p) (free : p.held = none)
    (next : p.unread = line :: rest)
    (read : Message.ofLine? line = some (.request id method params))
    (distinct : (p.keys ++ [key id]).Nodup) :
    DistinctRun p₀ { p with
      unread := rest
      queue := p.queue ++ [.request id method params]
      session := { p.session with cancels := (p.session.cancels.register id).2 } } := by
  rcases p with ⟨unread, held, queue, work, session, sent⟩
  cases free
  refine (run.tail ⟨.route rfl next read, ?_⟩).tail ⟨.forward rfl, ?_⟩
  all_goals
    simpa [Distinct, keys, outstanding, Message.forwarded?, Message.requestId?] using distinct

/-- As long as a request is outstanding, the registry holds one token for it. -/
theorem Exact.current_step (exact : p.Exact) (h : Step p p')
    (held : p.session.cancels.current[k]? = some t) (still : k ∈ p'.keys) :
    p'.session.cancels.current[k]? = some t := by
  cases step_touches h with
  | reads id cancels | asks id _ cancels =>
    exact cancels ▸ CancelRegistry.current_step_of_live (c := .register id) held rfl
  | callsOff id cancels => rwa [cancels, CancelRegistry.current_cancel]
  | finishes id cancels outstanding =>
    have distinct := exact.distinct
    rw [Distinct, keys, outstanding, List.map_cons, List.nodup_cons] at distinct
    have other := ne_of_mem_of_not_mem still distinct.1
    rw [cancels, CancelRegistry.current_finish, if_neg other, held]
  | leaves cancels => rwa [cancels]

theorem held_of_new (h : Step p p') (fresh : k ∉ p.keys) (outstanding : k ∈ p'.keys) :
    ∃ t, p'.session.cancels.current[k]? = some t := by
  cases step_touches h with
  | reads id cancels same =>
    rw [keys, same, List.map_append, List.mem_append, List.map_singleton,
      List.mem_singleton] at outstanding
    rw [cancels, outstanding.resolve_left fresh, CancelRegistry.current_register, if_pos rfl]
    exact ⟨_, rfl⟩
  | callsOff id _ same | asks id _ _ same | leaves _ same =>
    rw [keys, same] at outstanding
    exact absurd outstanding fresh
  | finishes id _ first =>
    rw [keys, first, List.map_cons] at fresh
    exact absurd (List.mem_cons_of_mem _ outstanding) fresh

theorem Exact.step (exact : p.Exact) (h : Step p p') (distinct : p'.Distinct) : p'.Exact := by
  refine ⟨valid_step exact.valid h, distinct, fun k outstanding => ?_, fun id t used => ?_⟩
  · by_cases before : k ∈ p.keys
    · exact (exact.held k before).imp fun t held => exact.current_step h held outstanding
    · exact held_of_new h before outstanding
  · have kept (same : p'.work.token? = p.work.token?) :
        p'.session.cancels.current[key id]? = some t :=
      exact.current_step h (exact.token id t (same ▸ used)) (mem_keys_of_token used)
    cases step_touches h with
    | reads _ _ _ same | callsOff _ _ _ same => exact kept same
    | asks id' _ cancels _ token =>
      rw [token] at used
      cases used
      rw [cancels, CancelRegistry.current_register, if_pos rfl]
    | finishes _ _ _ none =>
      rw [none] at used
      cases used
    | leaves _ _ token =>
      rcases token with same | none
      · exact kept same
      · rw [none] at used
        cases used

theorem Exact.run (exact : p.Exact) (h : DistinctRun p p') : p'.Exact := by
  induction h with
  | refl => exact exact
  | tail _ step ih => exact ih.step step.1 step.2

/-! ## The token of a request -/

/-- Any number of steps, with different ids outstanding and a request with the given text among
them. -/
abbrev Stays (k : String) : Parties → Parties → Prop :=
  Relation.ReflTransGen fun p p' => Step p p' ∧ p'.Distinct ∧ k ∈ p'.keys

/-- The main loop searches by the token for the outstanding request with the given text, now or
later. -/
def Uses (p : Parties) (k : String) (t : CancelToken) : Prop :=
  ∃ p' id, Stays k p p' ∧ p'.work.token? = some (id, t) ∧ key id = k

/-- A search that is next in the queue goes by the token that is registered for it. -/
theorem uses_of_next {rest : List Message} {id : Json} {method : String} {params : Json}
    {query : String} {mode : Option SearchMode} (idle : p.work = .idle)
    (next : p.queue = .request id method params :: rest)
    (asked : p.session.searchAsked? method params = some (query, mode)) (distinct : p.Distinct) :
    p.Uses (key id) (p.session.cancels.register id).1 := by
  rcases p with ⟨unread, held, queue, work, session, sent⟩
  cases idle
  cases next
  have stays : Stays (key id)
      ⟨unread, held, .request id method params :: rest, .idle, session, sent⟩
      ⟨unread, held, rest, .taken id method params, session, sent⟩ :=
    .single ⟨.take rfl rfl, distinct, by simp [keys, outstanding, Work.unfinished]⟩
  refine ⟨_, id, stays.tail ⟨.register rfl asked, distinct, ?_⟩, rfl, rfl⟩
  simp [keys, outstanding, Work.unfinished]

/-- The token of an outstanding request: the registry holds it, and the main loop searches by no
other. -/
structure TokenOf (p : Parties) (k : String) (t : CancelToken) : Prop where
  held : p.session.cancels.current[k]? = some t
  used : ∀ t', p.Uses k t' → t' = t

theorem Exact.uses_eq (exact : p.Exact) (held : p.session.cancels.current[k]? = some t)
    {t' : CancelToken} (uses : p.Uses k t') : t' = t := by
  obtain ⟨p', id, stays, token, rfl⟩ := uses
  suffices p'.Exact ∧ p'.session.cancels.current[key id]? = some t from
    Option.some.inj ((this.1.token id t' token).symm.trans this.2)
  clear token
  induction stays with
  | refl => exact ⟨exact, held⟩
  | tail _ step ih => exact ⟨ih.1.step step.1 step.2.1, ih.1.current_step step.1 ih.2 step.2.2⟩

theorem Exact.exists_tokenOf (exact : p.Exact) (outstanding : k ∈ p.keys) : ∃ t, p.TokenOf k t := by
  obtain ⟨t, held⟩ := exact.held k outstanding
  exact ⟨t, held, fun t' uses => exact.uses_eq held uses⟩

theorem Reads.step {m : Message} (h : Reads p m p') : Step p p' := by
  obtain ⟨line, rest, free, next, read, rfl⟩ := h
  exact .route free next read

/-- **The registry holds outstanding requests only.** Whichever steps the parties take: each text in
the registry is that of an outstanding request; of the requests that were read, the first ones are
finished, in order, and the others are outstanding; so when none is outstanding, the registry is
empty.

If all the time different ids are outstanding, the registry holds just the texts of the outstanding
requests, each with its token. A cancellation that names an outstanding request cancels the token of
this request for good, and leaves the tokens of the other outstanding requests, which are different
ones, as they are. -/
theorem registry_holds_outstanding :
    (∀ lines p, Run { unread := lines } p →
      (∀ k ∈ p.session.cancels.current, k ∈ p.keys) ∧
      (∃ read done, lines = read ++ p.unread ∧ requestIds read = done ++ p.outstanding ∧
        List.Forall₂ Answers done p.answers) ∧
      (p.outstanding = [] → p.session.cancels.current.isEmpty = true)) ∧
    ∀ lines p, DistinctRun { unread := lines } p →
      (∀ k, k ∈ p.session.cancels.current ↔ k ∈ p.keys) ∧
      (∀ k ∈ p.keys, ∃ t, p.TokenOf k t) ∧
      ∀ id p', Reads p (.cancel (some id)) p' → ∀ t, p.TokenOf (key id) t →
        (∀ p'', Run p' p'' → p''.session.cancels.isCancelled t = true) ∧
        ∀ k ∈ p.keys, k ≠ key id → ∀ t', p.TokenOf k t' →
          t' ≠ t ∧ p'.session.cancels.isCancelled t' = p.session.cancels.isCancelled t' := by
  refine ⟨fun lines p run => ?_, fun lines p run => ?_⟩
  · have tracked := tracked_run (tracked_start lines) run
    obtain ⟨read, done, replies, unread, accounted, answered, answers⟩ := run_accounts run
    refine ⟨tracked, ⟨read, done, unread, accounted, answers ▸ answered⟩, fun none => ?_⟩
    rw [Std.TreeMap.isEmpty_iff_forall_not_mem]
    intro k held
    simpa [keys, none] using tracked k held
  · have exact := (exact_start lines).run run
    have tracked := tracked_run (tracked_start lines) (DistinctRun.run run)
    have held : ∀ k ∈ p.keys, k ∈ p.session.cancels.current := fun k outstanding => by
      rw [Std.TreeMap.mem_iff_isSome_getElem?, Option.isSome_iff_exists]
      exact exact.held k outstanding
    refine ⟨fun k => ⟨tracked k, held k⟩, fun k outstanding => exact.exists_tokenOf outstanding, ?_⟩
    intro id p' reads t own
    have now : p'.session.cancels.isCancelled t = true :=
      (reads.isCancelled exact.valid t).2 (Or.inr own.held)
    refine ⟨fun p'' run' => isCancelled_run (valid_step exact.valid reads.step) run' now, ?_⟩
    intro k outstanding other t' token
    have apart : t' ≠ t := fun same =>
      other (exact.valid.distinct _ _ _ (same ▸ token.held) own.held)
    refine ⟨apart, Bool.eq_iff_iff.2 ((reads.isCancelled exact.valid t').trans ?_)⟩
    rw [or_iff_left_iff_imp, own.held]
    exact fun same => absurd (Option.some.inj same).symm apart

end

/-- A search and a question wait when the reader takes up a cancellation of the search. -/
theorem registry_holds_outstanding_search :
    let lines := ["\x7b\"id\":1,\"method\":\"workspace/symbol\"\x7d",
      "\x7b\"id\":2,\"method\":\"ping\"\x7d",
      "\x7b\"method\":\"$/cancelRequest\",\"params\":\x7b\"id\":1\x7d\x7d"].map (·.toUTF8.toList)
    ∃ p p' id t t', DistinctRun { unread := lines } p ∧ p.keys = ["1", "2"] ∧
      Reads p (.cancel (some id)) p' ∧ p.Uses (key id) t ∧
      p'.session.cancels.isCancelled t = true ∧ p.TokenOf "2" t' ∧ t' ≠ t := by
  intro lines
  obtain ⟨id₁, method₁, params₁, line₁, search⟩ := Message.exists_request lines[0]
    (fun id method params => key id = "1" && (({} : Session).searchAsked? method params).isSome)
    (by decide +kernel)
  obtain ⟨id₂, method₂, params₂, line₂, text₂⟩ := Message.exists_request lines[1]
    (fun id _ _ => key id = "2") (by decide +kernel)
  obtain ⟨id, line₃, text⟩ := Message.exists_cancel lines[2] "1" (by decide +kernel)
  obtain ⟨text₁, search⟩ := Bool.and_eq_true_iff.1 search
  obtain ⟨asked, search⟩ := Option.isSome_iff_exists.1 search
  have text₁ := of_decide_eq_true text₁
  have text₂ := of_decide_eq_true text₂
  let p : Parties := {
    unread := [lines[2]]
    queue := [.request id₁ method₁ params₁, .request id₂ method₂ params₂]
    session := { cancels := ((({} : CancelRegistry).register id₁).2.register id₂).2 } }
  have outstanding : p.keys = ["1", "2"] := by
    simp [p, keys, Parties.outstanding, Work.unfinished, Message.requestId?, text₁, text₂]
  have run : DistinctRun { unread := lines } p := by
    refine (DistinctRun.forward .refl rfl rfl line₁ ?_).forward rfl rfl line₂ ?_
    · simp [keys, Parties.outstanding, Work.unfinished]
    · simp [keys, Parties.outstanding, Work.unfinished, Message.requestId?, text₁, text₂]
  obtain ⟨-, tokens, calledOff⟩ := registry_holds_outstanding.2 lines p run
  obtain ⟨t, own⟩ := tokens (key id) (by simp [outstanding, text])
  obtain ⟨t', other⟩ := tokens "2" (by simp [outstanding])
  have reads : Reads p (.cancel (some id)) _ := ⟨_, _, rfl, rfl, line₃, rfl⟩
  obtain ⟨cancelled, untouched⟩ := calledOff id _ reads t own
  have uses : p.Uses (key id) (p.session.cancels.register id₁).1 :=
    text.trans text₁.symm ▸ uses_of_next rfl rfl search (by simp [Distinct, outstanding])
  exact ⟨p, _, id, t, t', run, outstanding, reads, own.used _ uses ▸ uses, cancelled _ .refl, other,
    (untouched "2" (by simp [outstanding]) (by simp [text]) t' other).1⟩

end Parties

end CodeIndex
