import CodeIndex.Proofs.Server.Parties
import CodeIndex.Scan.Walk

/-!
# One reply for each request

A reply is *due* to each message with an id that the reader finds in a line, up to the message that
ends the session. Cancellations get none.

**Theorem (`replies_are_due`).** Whichever steps the reader and the main loop take, what is sent
answers the first of the due requests in order: each reply has its request's id and either a result
or an error. The parties come to an end, and then all due requests are answered. A session that
takes one message after the other answers just these.

What is still to be sent is told by the state: the request in hand, then those in the queue, then
those in lines that are not read. A step leaves this list as it is, or sends the reply to its first
request (`step_sends`).
-/

namespace CodeIndex

/-! ## The messages in lines -/

/-- The value in a line, if the line is text and the JSON reader takes it up. -/
def valueOf? (line : List UInt8) : Option Json := do
  let text ← String.fromUTF8? ⟨line.toArray⟩
  let j ← Json.read? text
  if j.isAcceptable then some j.normal else none

def methodOf (j : Json) : String := (textAt? ["method"] j).getD ""

/-- The message ends the session: an `exit` without an id. -/
def EndsSession (j : Json) : Prop := j.get? "id" = none ∧ methodOf j = "exit"

instance (j : Json) : Decidable (EndsSession j) :=
  decidable_of_iff ((j.get? "id").isNone = true ∧ methodOf j = "exit") (by simp [EndsSession])

/-- The messages for the main loop, up to the end of the session. -/
def messagesIn (lines : List (List UInt8)) : List Json :=
  ((lines.filterMap valueOf?).filter (methodOf · ≠ "$/cancelRequest")).takeWhile (¬ EndsSession ·)

/-- The ids of the requests that a reply is due to. -/
def dueIds (lines : List (List UInt8)) : List Json := (messagesIn lines).filterMap (·.get? "id")

/-- The reply has this id, and either a result or an error. -/
def Answers (id reply : Json) : Prop :=
  reply.get? "id" = some id ∧
    Xor (∃ r, reply.get? "result" = some r) (∃ e, reply.get? "error" = some e)

/-! ## Blank lines -/

theorem Json.readNumber_of_blank {cs : List Char} (blank : ∀ c ∈ cs, Unicode.isBlank c = true) :
    readNumber cs = none := by
  cases cs with
  | nil => rfl
  | cons c cs =>
    have blank := blank c List.mem_cons_self
    have other {d : Char} (h : Unicode.isBlank d = false) : c ≠ d := fun same => by
      rw [← same, blank] at h
      cases h
    have digit : isDigit c = false := by
      by_contra digit
      simp only [isDigit, Bool.not_eq_false, Bool.and_eq_true, decide_eq_true_eq, Char.le_def,
        UInt32.le_iff_toNat_le] at digit
      have low : 48 ≤ c.toNat := digit.1
      have high : c.toNat ≤ 57 := digit.2
      obtain ⟨r, listed, first, last⟩ := Unicode.inRanges_iff.1 blank
      simp only [Unicode.blanks, List.mem_cons, List.not_mem_nil, or_false] at listed
      rcases listed with rfl | rfl | rfl | rfl | rfl | rfl | rfl | rfl | rfl | rfl <;> omega
    have minus : c ≠ '-' := other (by decide)
    have zero : c ≠ '0' := other (by decide)
    simp [readNumber, readWhole, readDigits, digitsOf, minus, zero, digit]

theorem Json.readValue_of_blank (n : Nat) {cs : List Char}
    (blank : ∀ c ∈ cs, Unicode.isBlank c = true) : readValue n cs = none := by
  cases n with
  | zero => rfl
  | succ n =>
    have blank : ∀ c ∈ skipSpace cs, Unicode.isBlank c = true :=
      fun c h => blank c ((List.dropWhile_suffix _).subset h)
    unfold readValue
    split
    case h_7 => exact readNumber_of_blank blank
    -- Each other case begins with a character that is no white space.
    all_goals
      rename_i begins
      rw [begins] at blank
      exact absurd (blank _ List.mem_cons_self) (by decide)

theorem Json.read?_of_isBlankText {text : String} (blank : Unicode.isBlankText text = true) :
    Json.read? text = none := by
  simp only [read?, readValue_of_blank _ (List.all_eq_true.1 blank)]

theorem Message.ofLine?_eq (line : List UInt8) : ofLine? line = (valueOf? line).map ofJson := by
  unfold ofLine? valueOf?
  cases String.fromUTF8? ⟨line.toArray⟩ with
  | none => rfl
  | some text =>
    simp only [Option.bind_eq_bind, Option.bind_some]
    split
    · rename_i blank
      rw [Json.read?_of_isBlankText blank]
      rfl
    · cases Json.read? text with
      | none => rfl
      | some j => simp only [Option.bind_some, apply_ite (Option.map ofJson), Option.map_some,
          Option.map_none]

/-! ## Due replies -/

/-- The ids of the requests among messages, up to the end of the session. -/
def Message.due : List Message → List Json
  | [] => []
  | .request id _ _ :: rest => id :: due rest
  | .notify .exit :: _ => []
  | .notify _ :: rest | .cancel _ :: rest => due rest

theorem Notification.openedOf?_ne (params : Json) : openedOf? params ≠ some .exit := by
  simp [openedOf?, Option.bind_eq_some_iff]

theorem Notification.editedOf?_ne (params : Json) : editedOf? params ≠ some .exit := by
  simp [editedOf?, Option.bind_eq_some_iff]

/-- Only this method ends a session. -/
theorem Notification.parse_eq_exit_iff {method : String} {params : Json} :
    parse method params = .exit ↔ method = "exit" := by
  refine ⟨fun h => ?_, fun h => by rw [h]; rfl⟩
  have some_exit {n : Option Notification} (h : n.getD .other = .exit) : n = some .exit := by
    cases n with
    | none => cases h
    | some n => exact congrArg some h
  unfold parse at h
  split at h
  case h_1 => rfl
  case h_2 => exact absurd (some_exit h) (openedOf?_ne params)
  case h_3 => exact absurd (some_exit h) (editedOf?_ne params)
  case h_4 =>
    have closed := some_exit h
    simp at closed
  case h_5 | h_6 => cases h

theorem Message.due_notify {n : Notification} (stays : n ≠ .exit) (ms : List Message) :
    due (.notify n :: ms) = due ms := by
  cases n <;> first | exact absurd rfl stays | rfl

theorem Message.due_append_cancel (ms rest : List Message) (id : Option Json) :
    due (ms ++ .cancel id :: rest) = due (ms ++ rest) := by
  induction ms with
  | nil => rfl
  | cons m ms ih =>
    cases m with
    | request => exact congrArg (_ :: ·) ih
    | cancel => exact ih
    | notify n => cases n <;> first | rfl | exact ih

theorem Message.ofJson_eq (j : Json) : ofJson j =
    if methodOf j = "$/cancelRequest" then .cancel (j.path? ["params", "id"])
    else match j.get? "id" with
      | some id => .request id (methodOf j) ((j.get? "params").getD (.obj []))
      | none => .notify (.parse (methodOf j) ((j.get? "params").getD (.obj []))) := rfl

theorem Message.due_map_ofJson (values : List Json) :
    due (values.map ofJson) =
      (((values.filter (methodOf · ≠ "$/cancelRequest")).takeWhile (¬ EndsSession ·)).filterMap
        (·.get? "id")) := by
  induction values with
  | nil => rfl
  | cons j values ih =>
    rw [List.map_cons, ofJson_eq]
    by_cases cancel : methodOf j = "$/cancelRequest"
    · rw [if_pos cancel, due, ih, List.filter_cons_of_neg (by simpa using cancel)]
    · rw [if_neg cancel, List.filter_cons_of_pos (by simpa using cancel)]
      cases id : j.get? "id" with
      | some id' =>
        have stays : ¬ EndsSession j := fun h => by simp [h.1] at id
        rw [due, ih, List.takeWhile_cons_of_pos (by simpa using stays), List.filterMap_cons_some id]
      | none =>
        by_cases exit : methodOf j = "exit"
        · have ends : EndsSession j := ⟨id, exit⟩
          rw [Notification.parse_eq_exit_iff.2 exit, due,
            List.takeWhile_cons_of_neg (by simpa using ends)]
          rfl
        · have stays : ¬ EndsSession j := fun h => exit h.2
          rw [due_notify (mt Notification.parse_eq_exit_iff.1 exit), ih,
            List.takeWhile_cons_of_pos (by simpa using stays), List.filterMap_cons_none id]

theorem due_ofLine? (lines : List (List UInt8)) :
    Message.due (lines.filterMap Message.ofLine?) = dueIds lines := by
  rw [funext Message.ofLine?_eq, ← List.map_filterMap]
  exact Message.due_map_ofJson _

theorem answers_reply (id : Json) (result : Except Refusal Json) :
    Answers id (Session.reply id result) := by
  cases result <;> simp [Answers, Session.reply, Json.get?, List.lookup_cons, Xor]

/-! ## What is still to be sent -/

/-- The ids of the requests to be answered, when requests with the given ids follow what is in
hand. -/
def Work.pending : Work → List Json → List Json
  | .ended, _ => []
  | .idle, ids => ids
  | .taken id _ _, ids | .searching id _ _ _, ids | .answered id _, ids | .finished id _, ids =>
    id :: ids

namespace Parties

variable {p p' p'' : Parties}

/-- All messages that the main loop has not taken yet, read or not. -/
def ahead (p : Parties) : List Message :=
  p.queue ++ (p.held.toList ++ p.unread.filterMap Message.ofLine?)

/-- The ids of the requests that are still to be answered. -/
def pending (p : Parties) : List Json := p.work.pending (Message.due p.ahead)

theorem pending_start (lines : List (List UInt8)) :
    pending { unread := lines } = dueIds lines := due_ofLine? lines

theorem pending_of_over (through : p.Over) : p.pending = [] := by
  rcases through with ended | ⟨unread, held, queue, idle⟩
  · rw [pending, ended, Work.pending]
  · rw [pending, idle, Work.pending, ahead, unread, held, queue]
    rfl

/-- On the way from one state to another, the replies to the first requests were sent. -/
def Sends (p p' : Parties) : Prop :=
  ∃ ids replies, List.Forall₂ Answers ids replies ∧ p'.sent = p.sent ++ replies ∧
    p.pending = ids ++ p'.pending

/-- Nothing was sent, and as much remains to be. -/
theorem Sends.nothing (sent : p'.sent = p.sent) (pending : p.pending = p'.pending) : Sends p p' :=
  ⟨[], [], .nil, by rw [sent, List.append_nil], pending⟩

theorem Sends.trans (h : Sends p p') (h' : Sends p' p'') : Sends p p'' := by
  obtain ⟨ids, replies, answers, sent, pending⟩ := h
  obtain ⟨ids', replies', answers', sent', pending'⟩ := h'
  refine ⟨ids ++ ids', replies ++ replies', List.rel_append answers answers', ?_, ?_⟩
  · rw [sent', sent, List.append_assoc]
  · rw [pending, pending', List.append_assoc]

/-- A message that is read is still due what it was due in its line. -/
theorem due_forwarded? (before after : List Message) (m : Message) :
    Message.due (before ++ m :: after) =
      Message.due (before ++ (m.forwarded?.toList ++ after)) := by
  cases m with
  | cancel id => exact Message.due_append_cancel before after id
  | request | notify => rfl

section

variable [Trees] [Digest] [FolderWalk] [Prefilter.Builder]

/-- **A step leaves what is still to be sent as it is, or sends the first of it.** -/
theorem step_sends (h : Step p p') : Sends p p' := by
  cases h with
  | skip free next nothing =>
    refine .nothing rfl (congrArg (p.work.pending <| Message.due ·) ?_)
    rw [ahead, next, List.filterMap_cons_none nothing]
    rfl
  | route free next read =>
    refine .nothing rfl (congrArg p.work.pending ?_)
    rw [ahead, free, next, List.filterMap_cons_some read]
    exact due_forwarded? _ _ _
  | forward held =>
    refine .nothing rfl (congrArg (p.work.pending <| Message.due ·) ?_)
    simp [ahead, held]
  | note _ idle next stays =>
    refine .nothing rfl ?_
    simp only [pending, idle, Work.pending, ahead, next, List.cons_append, Message.due_notify stays]
  | exit idle next | take idle next =>
    refine .nothing rfl ?_
    simp only [pending, idle, Work.pending, ahead, next, List.cons_append, Message.due]
  | answer _ work | register work | search _ _ work | finish work =>
    refine .nothing rfl ?_
    simp only [pending, work, Work.pending, ahead]
  | @reply id result work =>
    refine ⟨[id], _, .cons (answers_reply id result) .nil, rfl, ?_⟩
    simp only [pending, work, Work.pending, ahead, List.singleton_append]

theorem run_sends (h : Run p p') : Sends p p' := by
  induction h with
  | refl => exact .nothing rfl rfl
  | tail _ step ih => exact ih.trans (step_sends step)

/-- What is sent are replies to the first requests, and to all once the parties are through. -/
theorem sent_of_run {lines : List (List UInt8)} (h : Run { unread := lines } p) :
    (∃ ids, ids <+: dueIds lines ∧ List.Forall₂ Answers ids p.sent) ∧
      (p.Over → List.Forall₂ Answers (dueIds lines) p.sent) := by
  obtain ⟨ids, replies, answers, sent, pending⟩ := run_sends h
  rw [List.nil_append] at sent
  rw [pending_start] at pending
  refine ⟨⟨ids, ⟨p.pending, pending.symm⟩, sent ▸ answers⟩, fun through => ?_⟩
  rw [pending_of_over through, List.append_nil] at pending
  rw [pending, sent]
  exact answers

end

end Parties

open Parties

/-- **Each request that is due a reply gets exactly one, in order, and nothing else is sent.** At
any time what was sent answers the first of the due requests; the parties can go on until they are
through, they do not go on forever, and then all due requests are answered. So are they by a session
that takes one message after the other. -/
theorem replies_are_due [Trees] [Digest] [FolderWalk] [Prefilter.Builder] :
    (∀ lines p, Run { unread := lines } p →
      (∃ ids, ids <+: dueIds lines ∧ List.Forall₂ Answers ids p.sent) ∧
        (p.Over ∨ ∃ p', Step p p') ∧ (p.Over → List.Forall₂ Answers (dueIds lines) p.sent)) ∧
      (∀ run : Nat → Parties, ∃ n, ¬ Step (run n) (run (n + 1))) ∧
      ∀ disk input,
        List.Forall₂ Answers (dueIds (Utf8.lines input)) (Session.serve disk input) := by
  refine ⟨fun lines p h => ?_, exists_not_step, fun disk input => ?_⟩
  · have sorted : p.Sorted := sorted_run (sorted_start lines {}) h
    exact ⟨(sent_of_run h).1, over_or_step sorted, (sent_of_run h).2⟩
  · obtain ⟨p, run, through, sent⟩ := exists_run_replies disk (Utf8.lines input) {} []
    have answered := (sent_of_run run).2 through
    rwa [sent, List.nil_append] at answered

/-- A blank line, a broken one, a question, the end, and a question after it. -/
theorem replies_are_due_ping :
    let lines := ["", "[", "\x7b\"id\":1,\"method\":\"ping\"\x7d", "\x7b\"method\":\"exit\"\x7d",
      "\x7b\"id\":2\x7d"]
    let input := ("\n".intercalate lines).toUTF8.toList
    (dueIds (Utf8.lines input)).map Json.compact = ["1"] ∧
      (∃ p, Run { unread := Utf8.lines input } p ∧ p.Over ∧ p.sent.length = 1) ∧
      (Session.serve {} input).length = 1 := by
  intro lines input
  have ids : (dueIds (Utf8.lines input)).map Json.compact = ["1"] := by decide +kernel
  have one : (dueIds (Utf8.lines input)).length = 1 := by simpa using congrArg List.length ids
  obtain ⟨p, run, through, -⟩ := exists_run_replies {} (Utf8.lines input) {} []
  have answered := (replies_are_due.1 _ p run).2.2 through
  exact ⟨ids, ⟨p, run, through, answered.length_eq.symm.trans one⟩,
    (replies_are_due.2.2 {} input).length_eq.symm.trans one⟩

end CodeIndex
