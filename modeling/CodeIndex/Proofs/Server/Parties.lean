import CodeIndex.Proofs.Search.Batches
import CodeIndex.Server.Session
import Mathlib.Logic.Relation
import Mathlib.Order.OrderIsoNat

/-!
# The reader and the main loop

Two parties serve an editor. The *reader* takes in lines. It puts each request down as under way
before it passes the message on, so a cancellation reaches a request that waits or is being
answered. The *main loop* takes one message after the other from the queue between the two.

A step of either party may come at any time, and the disk may be another at each. A search hears of
its cancellation at any moment or never, and what it has found by then is its result.

**Progress (`over_or_step`).** As long as anything is left to do, a step is possible.

**Termination (`step_left_lt`).** Each step brings the parties nearer to the end.

**In turn (`exists_run_replies`).** If each message is dealt with before the next line is read, the
parties send what `Session.replies` gives.
-/

namespace CodeIndex

open SearchSpace (Moment)

/-! ## Searches that hear of a cancellation -/

/-- Search, and look at each moment whether the search is called off. -/
def Workspace.searchUntil [Trees] [Prefilter.Builder] (read : Reader) (w : Workspace)
    (query : String) (mode : Option SearchMode) (cancelled : Moment → Bool) :
    List NamedSymbol × Workspace :=
  let st := w.searchSpace.search read w.index.cache query (mode.getD w.config.search.mode)
    (Prefilter.passes query) cancelled
  (st.symbols, { w with index := { w.index with cache := st.cache } })

theorem Workspace.search_eq_searchUntil [Trees] [Prefilter.Builder] (read : Reader) (w : Workspace)
    (query : String) (mode : Option SearchMode) (cancelled : Bool) :
    w.search read query mode cancelled = w.searchUntil read query mode fun _ => cancelled := by
  have heard : (fun m : Moment => Cancellation.by (if cancelled then some 0 else none) m.done) =
      fun _ => cancelled := by
    funext m
    cases cancelled <;> simp [Cancellation.by]
  unfold search searchUntil
  simp only [SearchSpace.run, heard]

/-- The search that a request asks for, if it is a search and is not refused. -/
def Session.searchAsked? (s : Session) (method : String) (params : Json) :
    Option (String × Option SearchMode) :=
  if s.shuttingDown && !isAlwaysServed method then none
  else match Request.parse method params with
    | .ok (.search query mode) => some (query, mode)
    | _ => none

/-- The result of a search. -/
def Session.foundResult (found : List NamedSymbol) : Except Refusal Json :=
  .ok (.ofList Encoding.wire.namedSymbol found)

theorem Session.respond_of_searchAsked [Trees] [Digest] [FolderWalk] [Prefilter.Builder]
    {s : Session} {method : String} {params : Json} {query : String} {mode : Option SearchMode}
    (asked : s.searchAsked? method params = some (query, mode)) (disk : Disk) (id : Json) :
    let (token, cancels) := s.cancels.register id
    let (found, w) :=
      s.workspace.searchUntil disk.read query mode fun _ => cancels.isCancelled token
    s.respond disk id method params = (foundResult found, ⟨w, cancels, s.shuttingDown⟩) := by
  unfold searchAsked? at asked
  split at asked
  · cases asked
  · rename_i served
    split at asked
    · rename_i parsed
      cases asked
      simp [respond, served, parsed, answer, Workspace.search_eq_searchUntil, foundResult]
    · cases asked

theorem Session.step_notify [Trees] [Digest] [FolderWalk] [Prefilter.Builder] {n : Notification}
    (stays : n ≠ .exit) (s : Session) (disk : Disk) :
    s.step disk (.notify n) = ({}, { s with workspace := note disk s.workspace n }) := by
  cases n <;> first | exact absurd rfl stays | rfl

/-! ## The parties -/

/-- What the main loop has in hand. -/
inductive Work where
  | idle
  | taken (id : Json) (method : String) (params : Json)
  /-- A search that has its token. -/
  | searching (id : Json) (query : String) (mode : Option SearchMode) (token : CancelToken)
  | answered (id : Json) (result : Except Refusal Json)
  /-- The request is no longer under way, and its reply is not sent yet. -/
  | finished (id : Json) (result : Except Refusal Json)
  | ended

/-- The two parties and what is between them. -/
structure Parties where
  unread : List (List UInt8)
  /-- The message that the reader is about to pass on. -/
  held : Option Message := none
  queue : List Message := []
  work : Work := .idle
  session : Session := {}
  sent : List Json := []

/-- The message for the main loop, unless it is for the reader alone. -/
def Message.forwarded? : Message → Option Message
  | .cancel _ => none
  | m => some m

theorem Message.forwarded?_forwarded {m m' : Message} (h : m.forwarded? = some m') :
    m'.forwarded? = some m' := by
  cases m <;> simp only [forwarded?, Option.some.injEq, reduceCtorEq] at h <;> subst h <;> rfl

namespace Parties

/-- No cancellation is passed on to the main loop. -/
def Sorted (p : Parties) : Prop := ∀ m ∈ p.queue ++ p.held.toList, m.forwarded? = some m

theorem sorted_start (lines : List (List UInt8)) (s : Session) :
    Sorted { unread := lines, session := s } := by simp [Sorted]

variable [Trees] [Digest] [FolderWalk] [Prefilter.Builder]

/-- A step of one of the parties. -/
inductive Step : Parties → Parties → Prop
  /-- The reader skips a line that holds no message. -/
  | skip {p : Parties} {line : List UInt8} {rest : List (List UInt8)} (free : p.held = none)
      (next : p.unread = line :: rest) (nothing : Message.ofLine? line = none) :
      Step p { p with unread := rest }
  /-- The reader puts a request down as under way, or calls one off. -/
  | route {p : Parties} {line : List UInt8} {rest : List (List UInt8)} {m : Message}
      (free : p.held = none) (next : p.unread = line :: rest)
      (read : Message.ofLine? line = some m) :
      Step p { p with
        unread := rest
        held := m.forwarded?
        session := { p.session with cancels := Session.route p.session.cancels m } }
  /-- The reader passes a message on. -/
  | forward {p : Parties} {m : Message} (held : p.held = some m) :
      Step p { p with held := none, queue := p.queue ++ [m] }
  /-- The main loop takes note of a notification. -/
  | note {p : Parties} {n : Notification} {rest : List Message} (disk : Disk)
      (idle : p.work = .idle) (next : p.queue = .notify n :: rest) (stays : n ≠ .exit) :
      Step p { p with
        queue := rest
        session := { p.session with workspace := Session.note disk p.session.workspace n } }
  | exit {p : Parties} {rest : List Message} (idle : p.work = .idle)
      (next : p.queue = .notify .exit :: rest) :
      Step p { p with queue := rest, work := .ended }
  | take {p : Parties} {id : Json} {method : String} {params : Json} {rest : List Message}
      (idle : p.work = .idle) (next : p.queue = .request id method params :: rest) :
      Step p { p with queue := rest, work := .taken id method params }
  /-- The main loop answers a request that is no search. -/
  | answer {p : Parties} {id : Json} {method : String} {params : Json} (disk : Disk)
      (taken : p.work = .taken id method params)
      (other : p.session.searchAsked? method params = none) :
      Step p { p with
        work := .answered id (p.session.respond disk id method params).1
        session := (p.session.respond disk id method params).2 }
  /-- The main loop asks for the token of a search. -/
  | register {p : Parties} {id : Json} {method : String} {params : Json} {query : String}
      {mode : Option SearchMode} (taken : p.work = .taken id method params)
      (asked : p.session.searchAsked? method params = some (query, mode)) :
      Step p { p with
        work := .searching id query mode (p.session.cancels.register id).1
        session := { p.session with cancels := (p.session.cancels.register id).2 } }
  /-- The main loop searches. No moment is cancelled unless the token is by the end of the
  search. -/
  | search {p : Parties} {id : Json} {query : String} {mode : Option SearchMode}
      {token : CancelToken} (disk : Disk) (cancelled : Moment → Bool)
      (searching : p.work = .searching id query mode token)
      (heard : ∀ m, cancelled m = true → p.session.cancels.isCancelled token = true) :
      Step p { p with
        work := .answered id (Session.foundResult
          (p.session.workspace.searchUntil disk.read query mode cancelled).1)
        session := { p.session with workspace :=
          (p.session.workspace.searchUntil disk.read query mode cancelled).2 } }
  | finish {p : Parties} {id : Json} {result : Except Refusal Json}
      (answered : p.work = .answered id result) :
      Step p { p with
        work := .finished id result
        session := { p.session with cancels := p.session.cancels.finish id } }
  | reply {p : Parties} {id : Json} {result : Except Refusal Json}
      (finished : p.work = .finished id result) :
      Step p { p with work := .idle, sent := p.sent ++ [Session.reply id result] }

/-- Any number of steps. -/
abbrev Run : Parties → Parties → Prop := Relation.ReflTransGen Step

/-- The main loop has ended, or nothing is left to read, to pass on or to do. -/
def Over (p : Parties) : Prop :=
  p.work = .ended ∨ p.unread = [] ∧ p.held = none ∧ p.queue = [] ∧ p.work = .idle

variable {p p' : Parties}

/-! ## Progress -/

theorem sorted_step (sorted : p.Sorted) (h : Step p p') : p'.Sorted := by
  cases h with
  | skip | answer | register | search | finish | reply => exact sorted
  | route free =>
    intro m hm
    rcases List.mem_append.1 hm with hm | hm
    · exact sorted m (List.mem_append_left _ hm)
    · exact Message.forwarded?_forwarded (Option.mem_toList.1 hm)
  | forward held => simpa [Sorted, held] using sorted
  | note _ _ next | exit _ next | take _ next =>
    exact fun m hm => sorted m (by rw [next]; exact List.mem_cons_of_mem _ hm)

theorem sorted_run (sorted : p.Sorted) (h : Run p p') : p'.Sorted := by
  induction h with
  | refl => exact sorted
  | tail _ step ih => exact sorted_step ih step

/-- As long as the parties are not through, one of them can take a step. -/
theorem over_or_step (sorted : p.Sorted) : p.Over ∨ ∃ p', Step p p' := by
  cases work : p.work with
  | ended => exact Or.inl (Or.inl work)
  | taken id method params =>
    cases asked : p.session.searchAsked? method params with
    | none => exact Or.inr ⟨_, .answer default work asked⟩
    | some search => exact Or.inr ⟨_, .register work asked⟩
  | searching => exact Or.inr ⟨_, .search default (fun _ => false) work (by simp)⟩
  | answered => exact Or.inr ⟨_, .finish work⟩
  | finished => exact Or.inr ⟨_, .reply work⟩
  | idle =>
    cases queue : p.queue with
    | cons m rest =>
      cases m with
      | request => exact Or.inr ⟨_, .take work queue⟩
      | notify n =>
        by_cases exit : n = .exit
        · subst exit
          exact Or.inr ⟨_, .exit work queue⟩
        · exact Or.inr ⟨_, .note default work queue exit⟩
      | cancel id =>
        exact absurd (sorted (.cancel id) (by simp [queue])) (by simp [Message.forwarded?])
    | nil =>
      cases held : p.held with
      | some => exact Or.inr ⟨_, .forward held⟩
      | none =>
        cases unread : p.unread with
        | nil => exact Or.inl (Or.inr ⟨unread, held, queue, work⟩)
        | cons line =>
          cases read : Message.ofLine? line with
          | none => exact Or.inr ⟨_, .skip held unread read⟩
          | some => exact Or.inr ⟨_, .route held unread read⟩

/-! ## Termination -/

/-- How many steps what the main loop has in hand can take. -/
def Work.left : Work → Nat
  | .idle | .ended => 0
  | .finished _ _ => 1
  | .answered _ _ => 2
  | .searching _ _ _ _ => 3
  | .taken _ _ _ => 4

/-- How many steps can follow. -/
def left (p : Parties) : Nat :=
  7 * p.unread.length + 6 * p.held.toList.length + 5 * p.queue.length + Work.left p.work

theorem step_left_lt (h : Step p p') : p'.left < p.left := by
  cases h with
  | skip free next => simp only [left, next, List.length_cons]; omega
  | @route _ _ m free next =>
    have : m.forwarded?.toList.length ≤ 1 := by cases m.forwarded? <;> simp
    simp only [left, free, next, List.length_cons, Option.toList_none, List.length_nil]
    omega
  | forward held =>
    simp only [left, held, List.length_append, List.length_cons, List.length_nil,
      Option.toList_some, Option.toList_none]
    omega
  | note _ idle next => simp only [left, next, List.length_cons]; omega
  | exit idle next | take idle next =>
    simp only [left, idle, next, Work.left, List.length_cons]
    omega
  | answer _ work | register work | search _ _ work | finish work | reply work =>
    simp only [left, work, Work.left]
    omega

theorem exists_not_step (run : Nat → Parties) : ∃ n, ¬ Step (run n) (run (n + 1)) := by
  by_contra endless
  simp only [not_exists, not_not] at endless
  exact not_strictAnti_of_wellFoundedLT (fun n => (run n).left)
    (strictAnti_nat_of_succ_lt fun n => step_left_lt (endless n))

/-! ## One message after the other -/

/-- The parties when all lines so far are dealt with. -/
def between (unread : List (List UInt8)) (ends : Bool) (s : Session) (sent : List Json) : Parties :=
  { unread, work := if ends then .ended else .idle, session := s, sent }

theorem run_respond (disk : Disk) {id : Json} {method : String} {params : Json}
    (taken : p.work = .taken id method params) :
    Run p { p with
      work := .answered id (p.session.respond disk id method params).1
      session := (p.session.respond disk id method params).2 } := by
  cases asked : p.session.searchAsked? method params with
  | none => exact .single (.answer disk taken asked)
  | some search =>
    rw [Session.respond_of_searchAsked asked]
    exact .tail (.single (.register taken asked)) (.search disk _ rfl fun _ h => h)

theorem run_step (disk : Disk) {line : List UInt8} {m : Message}
    (read : Message.ofLine? line = some m) (rest : List (List UInt8)) (s : Session)
    (sent : List Json) :
    Run (between (line :: rest) false s sent)
      (between rest (s.step disk m).1.ends (s.step disk m).2
        (sent ++ (s.step disk m).1.reply.toList)) := by
  have routed := Relation.ReflTransGen.single (Step.route (p := between (line :: rest) false s sent)
    rfl rfl read)
  cases m with
  | cancel id =>
    rw [show (s.step disk (.cancel id)).1.reply.toList = [] from rfl, List.append_nil]
    exact routed
  | notify n =>
    have queued := routed.tail (.forward rfl)
    by_cases exit : n = .exit
    · subst exit
      rw [show (s.step disk (.notify .exit)).1.reply.toList = [] from rfl, List.append_nil]
      exact queued.tail (.exit rfl rfl)
    · rw [Session.step_notify exit, show (none : Option Json).toList = [] from rfl, List.append_nil]
      exact queued.tail (.note disk rfl rfl exit)
  | request id method params =>
    have taken := (routed.tail (.forward rfl)).tail (.take rfl rfl)
    have answered := taken.trans (run_respond disk rfl)
    exact (answered.tail (.finish rfl)).tail (.reply rfl)

/-- The parties that deal with each message before they read the next line send the session's
replies. -/
theorem exists_run_replies (disk : Disk) (lines : List (List UInt8)) (s : Session)
    (sent : List Json) :
    ∃ p, Run (between lines false s sent) p ∧ p.Over ∧
      p.sent = sent ++ Session.replies disk s (lines.filterMap Message.ofLine?) := by
  induction lines generalizing s sent with
  | nil => exact ⟨_, .refl, Or.inr ⟨rfl, rfl, rfl, rfl⟩, (List.append_nil _).symm⟩
  | cons line lines ih =>
    cases read : Message.ofLine? line with
    | none =>
      obtain ⟨p, run, through, replies⟩ := ih s sent
      rw [List.filterMap_cons_none read]
      exact ⟨p, .head (.skip rfl rfl read) run, through, replies⟩
    | some m =>
      have stepped := run_step disk read lines s sent
      rw [List.filterMap_cons_some read, Session.replies]
      cases ends : (s.step disk m).1.ends with
      | true =>
        rw [ends] at stepped
        exact ⟨_, stepped, Or.inl rfl, by simp [between, ends]⟩
      | false =>
        rw [ends] at stepped
        obtain ⟨p, run, through, replies⟩ :=
          ih (s.step disk m).2 (sent ++ (s.step disk m).1.reply.toList)
        exact ⟨p, stepped.trans run, through, by simpa [ends, List.append_assoc] using replies⟩

end Parties

end CodeIndex
