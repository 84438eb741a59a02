import CodeIndex.Scan.Walk
import CodeIndex.Server.Session

/-!
# After a shutdown

A session that was told to shut down refuses what it is asked, with one exception.

**Theorem (`step_refuses_iff`).** After any sequence of messages that holds a request to shut down,
a request other than another shutdown is refused as invalid and leaves the workspace as it is if and
only if it is no request to start. In either case the session remains shut down.

**Failure (`start_after_shutdown`).** A request to start is greeted, and its root becomes the
workspace.

The session is shut down exactly when some request before asked for it (`shuttingDown_after`): no
message takes the mark back. What is left is to look at one request.
-/

namespace CodeIndex

/-- The message is a request to shut down. -/
def Message.AsksShutdown : Message → Prop
  | .request _ method _ => method = "shutdown"
  | .notify _ | .cancel _ => False

/-- Only this method asks for a shutdown. -/
theorem Request.parse_eq_shutdown_iff {method : String} (params : Json) :
    parse method params = .ok .shutdown ↔ method = "shutdown" := by
  refine ⟨fun h => ?_, fun h => by rw [h]; rfl⟩
  unfold parse at h
  split at h
  case h_3 => rfl
  all_goals first
    | cases h
    | (unfold atPosition at h; split at h <;> cases h)
    | (unfold searchOf at h; (repeat' split at h) <;> cases h)
    | (split at h <;> cases h)

namespace Session

/-- The request with this id is refused as invalid. -/
def Effect.Refuses (e : Effect) (id : Json) : Prop :=
  ∃ r, e.reply = some r ∧ r.get? "id" = some id ∧ r.path? ["error", "code"] = some (.int (-32600))

theorem refuses_error (id : Json) (e : Refusal) :
    Effect.Refuses { reply := some (reply id (.error e)) } id ↔ e.code = -32600 := by
  simp [Effect.Refuses, reply, Json.path?, Json.get?, List.lookup_cons]

theorem not_refuses_ok (id r : Json) :
    ¬ Effect.Refuses { reply := some (reply id (.ok r)) } id := by
  simp [Effect.Refuses, reply, Json.path?, Json.get?, List.lookup_cons]

section

variable [Trees] [Digest] [FolderWalk] [Prefilter.Builder]
  {s : Session} {disk : Disk} {id params : Json} {method : String}

/-- The session after a sequence of messages, each with the disk that it finds. -/
def after (history : List (Disk × Message)) : Session :=
  history.foldl (fun s (disk, m) => (s.step disk m).2) {}

/-! ## The mark of a shutdown -/

theorem shuttingDown_respond :
    (s.respond disk id method params).2.shuttingDown = true ↔
      s.shuttingDown = true ∨ method = "shutdown" := by
  unfold respond
  split
  · rename_i refused
    simp only [Bool.and_eq_true] at refused
    simp [refused.1]
  · cases hp : Request.parse method params with
    | error e =>
      have : method ≠ "shutdown" := fun h => by
        simp [(Request.parse_eq_shutdown_iff params).2 h] at hp
      simp [this]
    | ok request =>
      have : request = .shutdown ↔ method = "shutdown" := by
        rw [← Request.parse_eq_shutdown_iff params, hp, Except.ok.injEq]
      simp [this]

theorem shuttingDown_step (s : Session) (disk : Disk) (m : Message) :
    (s.step disk m).2.shuttingDown = true ↔ s.shuttingDown = true ∨ m.AsksShutdown := by
  cases m with
  | request id method params => exact shuttingDown_respond
  | notify n => cases n <;> simp [step, handle, Message.AsksShutdown]
  | cancel id => simp [step, handle, Message.AsksShutdown]

theorem shuttingDown_after (history : List (Disk × Message)) :
    (after history).shuttingDown = true ↔ ∃ e ∈ history, e.2.AsksShutdown := by
  suffices ∀ s : Session, (history.foldl (fun s (disk, m) => (s.step disk m).2) s).shuttingDown =
      true ↔ s.shuttingDown = true ∨ ∃ e ∈ history, e.2.AsksShutdown from
    (this {}).trans (or_iff_right (by simp))
  induction history with
  | nil => simp
  | cons e history ih =>
    intro s
    rw [List.foldl_cons, ih, shuttingDown_step, or_assoc]
    simp

/-! ## Refusals -/

/-- The session that has put a request down as under way. -/
def registered (s : Session) (id : Json) : Session :=
  { s with cancels := (s.cancels.register id).2 }

theorem step_request (s : Session) (disk : Disk) (id : Json) (method : String) (params : Json) :
    s.step disk (.request id method params) =
      ({ reply := some (reply id ((s.registered id).respond disk id method params).1) },
        { ((s.registered id).respond disk id method params).2 with
          cancels := ((s.registered id).respond disk id method params).2.cancels.finish id }) := rfl

theorem respond_of_shuttingDown (down : s.shuttingDown = true)
    (served : isAlwaysServed method = false) :
    s.respond disk id method params = (.error .shuttingDown, s) := by
  simp [respond, down, served]

/-- A request to start is answered, shut down or not. -/
theorem respond_start (s : Session) (disk : Disk) (id params : Json) :
    let (result, w) := answer disk s.workspace false (.start (Request.root? params))
    s.respond disk id "initialize" params = (result, { s with workspace := w }) := by
  have served : isAlwaysServed "initialize" = true := rfl
  have parsed : Request.parse "initialize" params = .ok (.start (Request.root? params)) := rfl
  simp [respond, served, parsed]

theorem answer_start (disk : Disk) (w : Workspace) (cancelled : Bool) (root : Option String) :
    (answer disk w cancelled (.start root)).1 = .ok greeting ∨
      ∃ e, (answer disk w cancelled (.start root)).1 = .error (.cannotOpen e) := by
  cases root with
  | none => exact Or.inl rfl
  | some root =>
    cases h : Workspace.open disk root with
    | ok w => exact Or.inl (by simp [answer, h])
    | error e => exact Or.inr ⟨e, by simp [answer, h]⟩

theorem step_refuses (down : s.shuttingDown = true) (served : isAlwaysServed method = false) :
    (s.step disk (.request id method params)).1.Refuses id ∧
      (s.step disk (.request id method params)).2.workspace = s.workspace := by
  have refused : (s.registered id).respond disk id method params =
      (.error .shuttingDown, s.registered id) := respond_of_shuttingDown down served
  rw [step_request, refused]
  exact ⟨(refuses_error id _).2 rfl, rfl⟩

theorem not_step_refuses_start :
    ¬ (s.step disk (.request id "initialize" params)).1.Refuses id := by
  rw [step_request, respond_start]
  intro h
  rcases answer_start disk s.workspace false (Request.root? params) with ok | ⟨e, error⟩
  · exact not_refuses_ok id greeting (ok ▸ h)
  · have code : (Refusal.cannotOpen e).code = -32600 := (refuses_error id _).1 (error ▸ h)
    exact absurd code (show (-32602 : Int) ≠ -32600 by decide)

/-- **After a shutdown, a request other than another shutdown is refused and leaves the workspace as
it is if and only if it is no request to start.** The session remains shut down. -/
theorem step_refuses_iff {history : List (Disk × Message)} {before : Disk × Message}
    (answered : before ∈ history) (down : before.2.AsksShutdown) (disk : Disk) (id : Json)
    (other : method ≠ "shutdown") (params : Json) :
    let s := after history
    let request := Message.request id method params
    s.shuttingDown = true ∧ (s.step disk request).2.shuttingDown = true ∧
      (((s.step disk request).1.Refuses id ∧ (s.step disk request).2.workspace = s.workspace) ↔
        method ≠ "initialize") := by
  intro s request
  have marked : s.shuttingDown = true := (shuttingDown_after history).2 ⟨before, answered, down⟩
  refine ⟨marked, (shuttingDown_step s disk request).2 (Or.inl marked), ?_⟩
  by_cases start : method = "initialize"
  · subst start
    exact iff_of_false (fun h => not_step_refuses_start h.1) (fun h => h rfl)
  · exact iff_of_true (step_refuses marked (by simp [isAlwaysServed, other, start])) start

end

/-- A question after a shutdown. -/
theorem step_refuses_iff_ping :
    let history : List (Disk × Message) := [({}, .request (.int 1) "shutdown" .null)]
    (∃ before ∈ history, before.2.AsksShutdown) ∧ "ping" ≠ "shutdown" ∧
      ((after history).step {} (.request (.int 2) "ping" .null)).1.Refuses (.int 2) := by
  intro history
  have down : (history.head (by decide)).2.AsksShutdown := rfl
  obtain ⟨-, -, refused⟩ :=
    step_refuses_iff (List.head_mem _) down {} (.int 2) (show "ping" ≠ "shutdown" by decide) .null
  exact ⟨⟨_, List.head_mem _, down⟩, by decide, (refused.2 (by decide)).1⟩

/-- **A request to start is greeted after a shutdown, and its root becomes the workspace.** -/
theorem start_after_shutdown :
    let disk : Disk := {}
    let history : List (Disk × Message) := [(disk, .request (.int 1) "shutdown" .null)]
    let request : Message := .request (.int 2) "initialize" (.obj [("rootPath", .str "/")])
    ¬ ((after history).step disk request).1.Refuses (.int 2) ∧
      ((after history).step disk request).1.reply = some (reply (.int 2) (.ok greeting)) ∧
      (after history).workspace.root = none ∧
      ((after history).step disk request).2.workspace.root = some "/" := by
  intro disk history request
  have rooted : (Workspace.open disk "/").toOption.bind (·.root) = some "/" := by decide +kernel
  obtain ⟨w, opened, root⟩ : ∃ w, Workspace.open disk "/" = .ok w ∧ w.root = some "/" := by
    cases h : Workspace.open disk "/" with
    | ok w => exact ⟨w, rfl, by simpa [h, Except.toOption] using rooted⟩
    | error e => simp [h, Except.toOption] at rooted
  have answered : answer disk (after history).workspace false
      (.start (Request.root? (.obj [("rootPath", .str "/")]))) = (.ok greeting, w) := by
    rw [show Request.root? (.obj [("rootPath", .str "/")]) = some "/" from rfl]
    simp [answer, opened]
  refine ⟨not_step_refuses_start, ?_, rfl, ?_⟩
  · rw [step_request, respond_start]
    exact congrArg (fun a => some (reply (.int 2) a.1)) answered
  · rw [step_request, respond_start]
    exact (congrArg (·.2.root) answered).trans root

end Session

end CodeIndex
