import PqBleHandshake.Foundation.Transition

/-!
# The Windows pairing ceremony

`_Ceremony` and `_run_custom_pairing` of `winrt_pairing.py`.  Every section under `self.lock` is one step, on
whatever thread it runs, so that the steps of the event handler, of the decision task and of `stop` may come in any
order that the task itself allows.  The operations of an event object do not call the handler back from inside such
a section; each of them may raise, and an event object is told by which of its operations do.

`seen`, `taken`, `completed` and `accepts` are the history that the invariant speaks about.
-/

namespace PqBleHandshake.Python.Winrt

open Foundation

/-- The operations on an event object, on its deferral and on the loop that may raise. -/
inductive Point
  | log
  | ceremony
  | kind
  | pin
  | deferral
  | schedule
  | accept
  | complete
deriving DecidableEq

/-- The event object of one pairing request. -/
structure PairingArgs where
  id : ℕ
  pairingKind : ℕ
  pin : List Char
  raises : List Point
deriving DecidableEq

/-- `re.fullmatch(r"[0-9]{6}", pin)` -/
def SixDigits (pin : List Char) : Prop := pin.length = 6 ∧ pin.all Char.isDigit = true

instance (pin : List Char) : Decidable (SixDigits pin) := inferInstanceAs (Decidable (_ ∧ _))

/-- Where the decision task stands: created, in the callback, about to note an exception, in its `finally`, done. -/
inductive Phase
  | created
  | confirming
  | failing
  | finishing
  | done
deriving DecidableEq

/-- The task of `_decide`. -/
structure Task where
  args : PairingArgs
  phase : Phase
deriving DecidableEq

/-- One call of `accept`: its object and what held when it was made. -/
structure Acceptance where
  args : PairingArgs
  active : Bool
  error : Bool
  confirmed : Bool
  shown : Option (List Char)
  seen : List PairingArgs
deriving DecidableEq

/-- `_Ceremony`; `confirms` says that `confirm` is a callback, and `scheduled` are the calls of `_start_decision`
that the loop has yet to make. -/
structure Ceremony where
  kind : ℕ
  confirms : Bool
  active : Bool
  received : Bool
  pin : Option (List Char)
  ceremony : Option ℕ
  decision : Option Bool
  acceptInvoked : Bool
  deferral : Option PairingArgs
  task : Option Task
  error : Bool
  scheduled : List PairingArgs
  seen : List PairingArgs
  taken : List PairingArgs
  completed : List PairingArgs
  accepts : List Acceptance
deriving DecidableEq

/-- How the confirmation ends; only `True` itself is `returned true`. -/
inductive Confirmation
  | returned (granted : Bool)
  | raised
  | cancelled
deriving DecidableEq

namespace Ceremony

/-- `__init__` -/
def init (kind : ℕ) (confirms : Bool) : Ceremony where
  kind := kind
  confirms := confirms
  active := true
  received := false
  pin := none
  ceremony := none
  decision := none
  acceptInvoked := false
  deferral := none
  task := none
  error := false
  scheduled := []
  seen := []
  taken := []
  completed := []
  accepts := []

/-- `_complete` -/
def complete (c : Ceremony) : Ceremony :=
  match c.deferral with
  | none => c
  | some args =>
    { c with
      deferral := none
      completed := c.completed ++ [args]
      error := c.error || .complete ∈ args.raises }

/-- The `except` branch of `handler`. -/
def refuse (c : Ceremony) : Ceremony := { c with error := true }.complete

/-- `args.accept()` -/
def accept (c : Ceremony) (args : PairingArgs) (confirmed : Bool) : Ceremony :=
  { c with accepts := c.accepts ++ [⟨args, c.active, c.error, confirmed, c.pin, c.seen⟩] }

/-- `handler` from the PIN on. -/
def handlePin (c : Ceremony) (args : PairingArgs) : Ceremony :=
  if .pin ∈ args.raises then c.refuse
  else
    let c := { c with pin := some args.pin }
    if ¬SixDigits args.pin ∨ .deferral ∈ args.raises then c.refuse
    else
      let c := { c with deferral := some args, taken := c.taken ++ [args] }
      if .schedule ∈ args.raises then c.refuse else { c with scheduled := c.scheduled ++ [args] }

/-- `handler` once the event is the first one. -/
def handleKind (c : Ceremony) (args : PairingArgs) : Ceremony :=
  let c := { c with received := true }
  if .ceremony ∈ args.raises then c.refuse
  else
    let c := { c with ceremony := some args.pairingKind }
    if .kind ∈ args.raises ∨ args.pairingKind ≠ c.kind then c.refuse
    else if c.confirms then c.handlePin args
    else
      let c := c.accept args false
      if .accept ∈ args.raises then c.refuse else { c with acceptInvoked := true }

/-- `handler` -/
def handler (c : Ceremony) (args : PairingArgs) : Ceremony :=
  if c.active then
    let c := { c with seen := c.seen ++ [args] }
    if .log ∈ args.raises ∨ c.received then c.refuse else c.handleKind args
  else c

/-- `_start_decision` -/
def startDecision (c : Ceremony) (args : PairingArgs) : Ceremony :=
  if c.active ∧ c.error = false then { c with task := some ⟨args, .created⟩ } else c

/-- The task goes on to a phase. -/
def goTo (c : Ceremony) (task : Task) (phase : Phase) : Ceremony := { c with task := some { task with phase } }

/-- `_decide` from the end of the confirmation to the end of the section under the lock. -/
def decide (c : Ceremony) (task : Task) : Confirmation → Ceremony
  | .cancelled => c.goTo task .finishing
  | .raised => c.goTo task .failing
  | .returned granted =>
    if c.active = false ∨ c.error then c.goTo task .finishing
    else
      let c := { c with decision := some granted }
      if granted then
        let c := c.accept task.args granted
        if .accept ∈ task.args.raises then c.goTo task .failing
        else { c with acceptInvoked := true }.goTo task .finishing
      else c.goTo task .finishing

/-- The section of `stop`. -/
def stop (c : Ceremony) : Ceremony := { c with active := false }.complete

/-- `stop` waits for the task. -/
def taskDone (c : Ceremony) : Bool := c.task.all fun task ↦ task.phase = .done

end Ceremony

/-! ## The run of a pairing -/

/-- The status of a pairing operation. -/
inductive Status
  | paired
  | alreadyPaired
  | other (name : ℕ)
deriving DecidableEq

/-- `PairingOutcome` -/
structure PairingOutcome where
  status : Status
  paired : Bool
  protectionLevel : ℕ
  pinShown : Option (List Char)
  ceremony : Option ℕ
  decision : Option Bool
  acceptInvoked : Bool
deriving DecidableEq

/-- `reported_success` -/
def Status.reportedSuccess (status : Status) : Prop := status = .paired ∨ status = .alreadyPaired

instance (status : Status) : Decidable status.reportedSuccess := inferInstanceAs (Decidable (_ ∨ _))

/-- The end of `_run_custom_pairing`; `none` is a `PairingError`. -/
def Ceremony.outcome (c : Ceremony) (status : Status) (paired : Bool) (protectionLevel : ℕ) :
    Option PairingOutcome :=
  if status.reportedSuccess ∧ paired = false then none
  else if c.confirms ∧ status.reportedSuccess ∧
      ¬(status = .paired ∧ c.decision = some true ∧ c.acceptInvoked) then none
  else some { status
              paired := paired || Decidable.decide status.reportedSuccess
              protectionLevel
              pinShown := c.pin
              ceremony := c.ceremony
              decision := c.decision
              acceptInvoked := c.acceptInvoked }

/-- How far `_run_custom_pairing` is: `pair_async` runs, has returned or raised, `stop` waits, the handler is removed,
and the end with or without an outcome. -/
inductive Progress
  | pairing
  | ended (status : Option Status)
  | stopping (status : Option Status)
  | stopped (status : Status)
  | returned (outcome : PairingOutcome)
  | raised
deriving DecidableEq

/-- A pairing with its ceremony. -/
structure PairingRun where
  ceremony : Ceremony
  progress : Progress
deriving DecidableEq

/-- One step on some thread. -/
inductive PairingAction
  | event (args : PairingArgs)
  | startDecision
  | beginTask
  | confirmationEnds (confirmation : Confirmation)
  | noteError
  | finishTask
  | dropTask
  | operationEnds (status : Option Status)
  | stop
  | stopReturns
  | conclude (refreshed : Option (Bool × ℕ))

namespace PairingRun

/-- `_run_custom_pairing` when the handler is registered: the timeout is positive and the device can be paired and is
not. -/
def start (kind : ℕ) (confirms : Bool) : PairingRun := ⟨.init kind confirms, .pairing⟩

/-- One step. -/
def step (pairing : PairingRun) : PairingAction → Option PairingRun
  | .event args => some { pairing with ceremony := pairing.ceremony.handler args }
  | .startDecision =>
    match pairing.ceremony.scheduled with
    | args :: rest =>
      some { pairing with ceremony := { pairing.ceremony with scheduled := rest }.startDecision args }
    | [] => none
  | .beginTask => do
    let task ← pairing.ceremony.task
    guard (task.phase = .created)
    return { pairing with ceremony := pairing.ceremony.goTo task .confirming }
  | .confirmationEnds confirmation => do
    let task ← pairing.ceremony.task
    guard (task.phase = .confirming)
    return { pairing with ceremony := pairing.ceremony.decide task confirmation }
  | .noteError => do
    let task ← pairing.ceremony.task
    guard (task.phase = .failing)
    return { pairing with ceremony := { pairing.ceremony with error := true }.goTo task .finishing }
  | .finishTask => do
    let task ← pairing.ceremony.task
    guard (task.phase = .finishing)
    return { pairing with ceremony := pairing.ceremony.complete.goTo task .done }
  | .dropTask => do
    let task ← pairing.ceremony.task
    guard (task.phase = .created)
    return { pairing with ceremony := pairing.ceremony.goTo task .done }
  | .operationEnds status => do
    guard (pairing.progress = .pairing)
    return { pairing with progress := .ended status }
  | .stop =>
    match pairing.progress with
    | .ended status => some ⟨pairing.ceremony.stop, .stopping status⟩
    | _ => none
  | .stopReturns =>
    match pairing.progress with
    | .stopping status =>
      if pairing.ceremony.taskDone then
        match status with
        | some status =>
          some { pairing with progress := if pairing.ceremony.error then .raised else .stopped status }
        | none => some { pairing with progress := .raised }
      else none
    | _ => none
  | .conclude refreshed =>
    match pairing.progress with
    | .stopped status =>
      match refreshed.bind fun state ↦ pairing.ceremony.outcome status state.1 state.2 with
      | some outcome => some { pairing with progress := .returned outcome }
      | none => some { pairing with progress := .raised }
    | _ => none

end PairingRun

/-! ## The ceremony owns its requests, its deferral and its decision -/

/-- The confirmation has not ended yet. -/
def Phase.undecided : Phase → Bool
  | .created | .confirming => true
  | .failing | .finishing | .done => false

/-- The request that a task may still accept. -/
def Task.pending (task : Task) : List PairingArgs := if task.phase.undecided then [task.args] else []

/-- The acceptance was made in time, for the one request seen, as expected and confirmed. -/
structure Acceptance.Proper (kind : ℕ) (acceptance : Acceptance) : Prop where
  active : acceptance.active = true
  error : acceptance.error = false
  confirmed : acceptance.confirmed = true
  seen : acceptance.seen = [acceptance.args]
  pairingKind : acceptance.args.pairingKind = kind
  pin : SixDigits acceptance.args.pin
  shown : acceptance.shown = some acceptance.args.pin

namespace Ceremony

/-- The requests that may still be accepted: scheduled ones and the one of the task. -/
def pending (c : Ceremony) : List PairingArgs := c.scheduled ++ (c.task.map Task.pending).getD []

/-- A request that passed the checks of `handler`. -/
structure Expected (c : Ceremony) (args : PairingArgs) : Prop where
  seen : c.error = false → c.seen = [args]
  pairingKind : args.pairingKind = c.kind
  pin : SixDigits args.pin
  shown : c.pin = some args.pin

/-- Nothing has been received. -/
structure Fresh (c : Ceremony) : Prop where
  seen : c.error = false → c.seen = []
  scheduled : c.scheduled = []
  task : c.task = none
  accepts : c.accepts = []
  taken : c.taken = []

/-- What every section keeps. -/
structure Owned (c : Ceremony) : Prop where
  fresh : c.received = false → c.Fresh
  expected : ∀ args ∈ c.pending, c.Expected args
  once : c.accepts.length + c.pending.length ≤ 1
  proper : c.confirms = true → ∀ acceptance ∈ c.accepts, acceptance.Proper c.kind
  deferrals : c.taken = c.completed ++ c.deferral.toList
  taken_length : c.taken.length ≤ 1
  invoked : c.acceptInvoked = true → c.accepts ≠ []

theorem owned_init (kind : ℕ) (confirms : Bool) : (init kind confirms).Owned where
  fresh _ := ⟨fun _ ↦ rfl, rfl, rfl, rfl, rfl⟩
  expected _ hmem := by simp [pending, init] at hmem
  once := by simp [pending, init]
  proper _ _ hmem := by simp [init] at hmem
  deferrals := rfl
  taken_length := by simp [init]
  invoked h := by simp [init] at h

@[simp]
theorem complete_deferral (c : Ceremony) : c.complete.deferral = none := by
  unfold complete
  split
  · assumption
  · rfl

theorem Owned.complete {c : Ceremony} (h : c.Owned) : c.complete.Owned := by
  unfold Ceremony.complete
  split
  · exact h
  · next args hdeferral =>
    have hclear {raised : Bool} (herror : (c.error || raised) = false) : c.error = false :=
      (Bool.or_eq_false_iff.mp herror).1
    exact {
      fresh := fun hnew ↦ ⟨fun herror ↦ (h.fresh hnew).seen (hclear herror), (h.fresh hnew).scheduled,
        (h.fresh hnew).task, (h.fresh hnew).accepts, (h.fresh hnew).taken⟩
      expected := fun args hmem ↦
        have hargs := h.expected args hmem
        ⟨fun herror ↦ hargs.seen (hclear herror), hargs.pairingKind, hargs.pin, hargs.shown⟩
      once := h.once
      proper := h.proper
      deferrals := by simpa [hdeferral] using h.deferrals
      taken_length := h.taken_length
      invoked := h.invoked }

/-- What was decided, whether the ceremony is active, and an error with whatever was seen. -/
theorem Owned.adjust {c : Ceremony} (h : c.Owned) (decision : Option Bool) (active : Bool) {error : Bool}
    {seen : List PairingArgs} (herror : error = false → c.error = false ∧ seen = c.seen) :
    { c with decision, active, error, seen }.Owned where
  fresh hnew := ⟨fun hclear ↦ (herror hclear).2.trans ((h.fresh hnew).seen (herror hclear).1),
    (h.fresh hnew).scheduled, (h.fresh hnew).task, (h.fresh hnew).accepts, (h.fresh hnew).taken⟩
  expected args hmem :=
    have hargs := h.expected args hmem
    ⟨fun hclear ↦ (herror hclear).2.trans (hargs.seen (herror hclear).1), hargs.pairingKind, hargs.pin,
      hargs.shown⟩
  once := h.once
  proper := h.proper
  deferrals := h.deferrals
  taken_length := h.taken_length
  invoked := h.invoked

/-- An error is noted, whatever was seen. -/
theorem Owned.fail {c : Ceremony} (h : c.Owned) (seen : List PairingArgs) :
    { c with seen, error := true }.Owned :=
  h.adjust c.decision c.active fun hclear ↦ by cases hclear

/-- Fewer requests are pending. -/
theorem Owned.shrink {c : Ceremony} (h : c.Owned) {scheduled : List PairingArgs} {task : Option Task}
    (hpending : (scheduled ++ (task.map Task.pending).getD []).Sublist c.pending)
    (hfresh : c.received = false → scheduled = [] ∧ task = none) :
    { c with scheduled, task }.Owned where
  fresh hnew := ⟨(h.fresh hnew).seen, (hfresh hnew).1, (hfresh hnew).2, (h.fresh hnew).accepts,
    (h.fresh hnew).taken⟩
  expected args hmem :=
    have hargs := h.expected args (hpending.subset hmem)
    ⟨hargs.seen, hargs.pairingKind, hargs.pin, hargs.shown⟩
  once := le_trans (Nat.add_le_add_left hpending.length_le _) h.once
  proper := h.proper
  deferrals := h.deferrals
  taken_length := h.taken_length
  invoked := h.invoked

/-- The task goes on, and a decision that is over does not come back. -/
theorem Owned.goTo {c : Ceremony} (h : c.Owned) {task : Task} (htask : c.task = some task) {phase : Phase}
    (hphase : phase.undecided = true → task.phase.undecided = true) : (c.goTo task phase).Owned := by
  refine h.shrink ?_ fun hnew ↦ ?_
  · refine List.Sublist.append_left ?_ _
    rw [htask, Option.map_some, Option.map_some, Option.getD_some, Option.getD_some, Task.pending, Task.pending]
    by_cases hund : phase.undecided = true
    · simp [hund, hphase hund]
    · simp [hund]
  · rw [(h.fresh hnew).task] at htask
    cases htask

/-- The first request is refused, before or after its deferral was taken. -/
theorem Owned.refused {c : Ceremony} (h : c.Owned) (hnew : c.received = false) (seen : List PairingArgs)
    (ceremony : Option ℕ) (pin : Option (List Char)) :
    { c with seen, received := true, ceremony, pin, error := true }.Owned := by
  obtain ⟨-, hscheduled, htask, haccepts, htaken⟩ := h.fresh hnew
  exact {
    fresh := fun hold ↦ by simp at hold
    expected := fun args hmem ↦ by simp [pending, hscheduled, htask] at hmem
    once := h.once
    proper := h.proper
    deferrals := h.deferrals
    taken_length := h.taken_length
    invoked := h.invoked }

theorem Owned.handlePin {c : Ceremony} (h : c.Owned) (hnew : c.received = false) {args : PairingArgs}
    (hkind : args.pairingKind = c.kind) (ceremony : Option ℕ) :
    ({ c with seen := c.seen ++ [args], received := true, ceremony }.handlePin args).Owned := by
  obtain ⟨hseen, hscheduled, htask, haccepts, htaken⟩ := h.fresh hnew
  have hnone : c.completed = [] ∧ c.deferral = none := by
    have hdeferrals := h.deferrals
    rw [htaken] at hdeferrals
    obtain ⟨hcompleted, hdeferral⟩ := List.append_eq_nil_iff.mp hdeferrals.symm
    exact ⟨hcompleted, Option.toList_eq_nil_iff.mp hdeferral⟩
  have hinvoked : c.acceptInvoked = false := by
    by_contra hne
    exact h.invoked (Bool.eq_true_of_not_eq_false hne) haccepts
  unfold Ceremony.handlePin
  by_cases hpin : Point.pin ∈ args.raises
  · rw [if_pos hpin]
    exact (h.refused hnew _ _ _).complete
  rw [if_neg hpin]
  by_cases hdigits : ¬SixDigits args.pin ∨ Point.deferral ∈ args.raises
  · dsimp only
    rw [if_pos hdigits]
    exact (h.refused hnew _ _ _).complete
  dsimp only
  rw [if_neg hdigits]
  push Not at hdigits
  by_cases hschedule : Point.schedule ∈ args.raises
  · rw [if_pos hschedule]
    refine Owned.complete ?_
    exact {
      fresh := fun hold ↦ by simp at hold
      expected := fun args hmem ↦ by simp [pending, hscheduled, htask] at hmem
      once := by simp [pending, haccepts, hscheduled, htask]
      proper := fun _ acceptance hmem ↦ by simp [haccepts] at hmem
      deferrals := by simp [htaken, hnone]
      taken_length := by simp [htaken]
      invoked := fun hcalled ↦ by simp [hinvoked] at hcalled }
  · rw [if_neg hschedule]
    exact {
      fresh := fun hold ↦ by simp at hold
      expected := fun other hmem ↦ by
        have hother : other = args := by simpa [pending, hscheduled, htask] using hmem
        subst hother
        exact ⟨fun herror ↦ by simp [hseen herror], hkind, hdigits.1, rfl⟩
      once := by simp [pending, haccepts, hscheduled, htask]
      proper := fun _ acceptance hmem ↦ by simp [haccepts] at hmem
      deferrals := by simp [htaken, hnone]
      taken_length := by simp [htaken]
      invoked := fun hcalled ↦ by simp [hinvoked] at hcalled }

theorem Owned.handleKind {c : Ceremony} (h : c.Owned) (hnew : c.received = false) (args : PairingArgs) :
    ({ c with seen := c.seen ++ [args] }.handleKind args).Owned := by
  obtain ⟨-, hscheduled, htask, haccepts, -⟩ := h.fresh hnew
  unfold Ceremony.handleKind
  dsimp only
  by_cases hceremony : Point.ceremony ∈ args.raises
  · rw [if_pos hceremony]
    exact (h.refused hnew _ _ _).complete
  rw [if_neg hceremony]
  by_cases hkind : Point.kind ∈ args.raises ∨ args.pairingKind ≠ c.kind
  · rw [if_pos hkind]
    exact (h.refused hnew _ _ _).complete
  rw [if_neg hkind]
  push Not at hkind
  by_cases hconfirms : c.confirms = true
  · rw [if_pos hconfirms]
    exact h.handlePin hnew hkind.2 _
  rw [if_neg hconfirms]
  -- Without a callback the first request is accepted on the spot, and nothing is left pending.
  have haccepted (error acceptInvoked : Bool) (acceptance : Acceptance) :
      { c with
        seen := c.seen ++ [args]
        received := true
        ceremony := some args.pairingKind
        accepts := c.accepts ++ [acceptance]
        error, acceptInvoked }.Owned := {
    fresh := fun hold ↦ by simp at hold
    expected := fun other hmem ↦ by simp [pending, hscheduled, htask] at hmem
    once := by simp [pending, haccepts, hscheduled, htask]
    proper := fun hcallback ↦ absurd hcallback hconfirms
    deferrals := h.deferrals
    taken_length := h.taken_length
    invoked := fun _ ↦ by simp }
  by_cases haccept : Point.accept ∈ args.raises
  · rw [if_pos haccept]
    exact (haccepted true c.acceptInvoked _).complete
  · rw [if_neg haccept]
    exact haccepted c.error true _

theorem Owned.handler {c : Ceremony} (h : c.Owned) (args : PairingArgs) : (c.handler args).Owned := by
  unfold Ceremony.handler
  split
  · dsimp only
    split
    · exact (h.fail _).complete
    · next hfirst =>
      push Not at hfirst
      exact h.handleKind (Bool.eq_false_of_not_eq_true hfirst.2) args
  · exact h

/-- The loop makes a scheduled call of `_start_decision`. -/
theorem Owned.startDecision {c : Ceremony} (h : c.Owned) {args : PairingArgs} {rest : List PairingArgs}
    (hscheduled : c.scheduled = args :: rest) : ({ c with scheduled := rest }.startDecision args).Owned := by
  have hreceived : c.received = false → False := fun hnew ↦ by
    rw [(h.fresh hnew).scheduled] at hscheduled
    cases hscheduled
  have hpending : c.pending = args :: (rest ++ (c.task.map Task.pending).getD []) := by
    rw [pending, hscheduled, List.cons_append]
  unfold Ceremony.startDecision
  split
  · refine h.shrink ?_ fun hnew ↦ (hreceived hnew).elim
    -- The request of the new task is the one that was scheduled, and it was the only one.
    have honce := h.once
    rw [hpending, List.length_cons] at honce
    have hrest : rest = [] := List.eq_nil_of_length_eq_zero (by rw [List.length_append] at honce; omega)
    rw [hpending, hrest, List.nil_append, Option.map_some, Option.getD_some]
    exact (List.nil_sublist _).cons_cons args
  · refine h.shrink ?_ fun hnew ↦ (hreceived hnew).elim
    rw [hpending]
    exact List.sublist_cons_self _ _

/-- The confirmation ends. -/
theorem Owned.decide {c : Ceremony} (h : c.Owned) {task : Task} (htask : c.task = some task)
    (hphase : task.phase.undecided = true) (confirmation : Confirmation) :
    (c.decide task confirmation).Owned := by
  have hover {phase : Phase} (hdone : phase.undecided = false) : (c.goTo task phase).Owned :=
    h.goTo htask fun hund ↦ by simp [hdone] at hund
  have hmem : task.args ∈ c.pending := by simp [pending, htask, Task.pending, hphase]
  have hargs := h.expected _ hmem
  have honce := h.once
  have hnone : c.accepts = [] ∧ c.scheduled = [] := by
    rw [pending, htask, Option.map_some, Option.getD_some, Task.pending, if_pos hphase, List.length_append,
      List.length_singleton] at honce
    exact ⟨List.eq_nil_of_length_eq_zero (by omega), List.eq_nil_of_length_eq_zero (by omega)⟩
  have hreceived : c.received = false → False := fun hnew ↦ by
    rw [(h.fresh hnew).task] at htask
    cases htask
  cases confirmation with
  | cancelled => exact hover rfl
  | raised => exact hover rfl
  | returned granted =>
    unfold Ceremony.decide
    dsimp only
    split
    · exact hover rfl
    · next hlive =>
      push Not at hlive
      have hactive : c.active = true := Bool.eq_true_of_not_eq_false hlive.1
      have herror : c.error = false := Bool.eq_false_of_not_eq_true hlive.2
      have haccepted (acceptInvoked : Bool) {phase : Phase} (hdone : phase.undecided = false) :
          { c with
            decision := some true
            accepts := c.accepts ++ [(⟨task.args, c.active, c.error, true, c.pin, c.seen⟩ : Acceptance)]
            task := some { task with phase }
            acceptInvoked }.Owned := {
        fresh := fun hnew ↦ (hreceived hnew).elim
        expected := fun other hother ↦ by simp [pending, hnone, Task.pending, hdone] at hother
        once := by simp [pending, hnone, Task.pending, hdone]
        proper := fun _ acceptance hacceptance ↦ by
          obtain rfl : acceptance = (⟨task.args, c.active, c.error, true, c.pin, c.seen⟩ : Acceptance) := by
            simpa [hnone] using hacceptance
          exact ⟨hactive, herror, rfl, hargs.seen herror, hargs.pairingKind, hargs.pin, hargs.shown⟩
        deferrals := h.deferrals
        taken_length := h.taken_length
        invoked := fun _ ↦ by simp }
      cases granted with
      | false =>
        rw [if_neg Bool.false_ne_true]
        have hrejected := h.adjust (some false) c.active fun hclear ↦ ⟨hclear, rfl⟩
        exact hrejected.goTo htask fun hund ↦ by cases hund
      | true =>
        rw [if_pos rfl]
        split
        · exact haccepted c.acceptInvoked rfl
        · exact haccepted true rfl

/-! ## What a section leaves alone -/

/-- A section of a thread other than `stop` keeps the settings, does not stop the ceremony, does not forget an
acceptance, and takes no deferral once the ceremony is stopped. -/
structure Moves (c next : Ceremony) : Prop where
  kind : next.kind = c.kind
  confirms : next.confirms = c.confirms
  active : next.active = c.active
  invoked : c.acceptInvoked = true → next.acceptInvoked = true
  late : c.active = false → c.deferral = none → next.deferral = none

theorem Moves.trans {c middle next : Ceremony} (h : c.Moves middle) (h' : middle.Moves next) : c.Moves next where
  kind := h'.kind.trans h.kind
  confirms := h'.confirms.trans h.confirms
  active := h'.active.trans h.active
  invoked hinvoked := h'.invoked (h.invoked hinvoked)
  late hstopped hdeferral := h'.late (h.active.trans hstopped) (h.late hstopped hdeferral)

theorem moves_complete (c : Ceremony) : c.Moves c.complete := by
  unfold complete
  split
  · exact ⟨rfl, rfl, rfl, id, fun _ ↦ id⟩
  · exact ⟨rfl, rfl, rfl, id, fun _ _ ↦ rfl⟩

/-- Every branch of `handler` works on an active ceremony. -/
theorem moves_refuse {c next : Ceremony} (hactive : c.active = true) (hkind : next.kind = c.kind)
    (hconfirms : next.confirms = c.confirms) (hnext : next.active = c.active)
    (hinvoked : next.acceptInvoked = c.acceptInvoked) : c.Moves next.refuse := by
  have hlate : c.Moves { next with error := true } :=
    ⟨hkind, hconfirms, hnext, hinvoked.trans, fun hstopped ↦ by simp [hactive] at hstopped⟩
  exact hlate.trans (moves_complete _)

theorem moves_handler (c : Ceremony) (args : PairingArgs) : c.Moves (c.handler args) := by
  unfold handler
  split
  · next hactive =>
    have hlate {next : Ceremony} : c.active = false → c.deferral = none → next.deferral = none :=
      fun hstopped ↦ by simp [hactive] at hstopped
    unfold handleKind handlePin
    dsimp only
    split_ifs
    all_goals first
      | exact moves_refuse hactive rfl rfl rfl rfl
      | exact ⟨rfl, rfl, rfl, id, hlate⟩
      | exact ⟨rfl, rfl, rfl, fun _ ↦ rfl, hlate⟩
  · exact ⟨rfl, rfl, rfl, id, fun _ ↦ id⟩

theorem moves_startDecision (c : Ceremony) (args : PairingArgs) (rest : List PairingArgs) :
    c.Moves ({ c with scheduled := rest }.startDecision args) := by
  unfold startDecision
  split <;> exact ⟨rfl, rfl, rfl, id, fun _ ↦ id⟩

theorem moves_goTo (c : Ceremony) (task : Task) (phase : Phase) : c.Moves (c.goTo task phase) :=
  ⟨rfl, rfl, rfl, id, fun _ ↦ id⟩

theorem moves_decide (c : Ceremony) (task : Task) (confirmation : Confirmation) :
    c.Moves (c.decide task confirmation) := by
  cases confirmation with
  | cancelled => exact moves_goTo _ _ _
  | raised => exact moves_goTo _ _ _
  | returned granted =>
    unfold decide
    dsimp only
    split_ifs
    all_goals first
      | exact ⟨rfl, rfl, rfl, id, fun _ ↦ id⟩
      | exact ⟨rfl, rfl, rfl, fun _ ↦ rfl, fun _ ↦ id⟩

/-- An outcome that reports success with a callback names an accepted request. -/
theorem accepted_of_outcome {c : Ceremony} {status : Status} {paired : Bool} {protectionLevel : ℕ}
    {outcome : PairingOutcome} (h : c.outcome status paired protectionLevel = some outcome)
    (hconfirms : c.confirms = true) (hsuccess : outcome.status.reportedSuccess) :
    outcome.status = .paired ∧ c.acceptInvoked = true ∧ outcome.decision = some true ∧
      outcome.acceptInvoked = true := by
  unfold Ceremony.outcome at h
  split_ifs at h with hdisagree hexplicit
  obtain rfl := Option.some.inj h
  have haccepted : status = .paired ∧ c.decision = some true ∧ c.acceptInvoked = true := by
    by_contra hne
    exact hexplicit ⟨hconfirms, hsuccess, hne⟩
  exact ⟨haccepted.1, haccepted.2.2, haccepted.2⟩

end Ceremony

/-! ## Runs -/

/-- The section of `stop` is over. -/
def Progress.afterStop : Progress → Bool
  | .pairing | .ended _ => false
  | .stopping _ | .stopped _ | .returned _ | .raised => true

namespace PairingRun

variable {kind : ℕ} {confirms : Bool}

/-- What holds in every run of a pairing. -/
structure Sound (kind : ℕ) (confirms : Bool) (pairing : PairingRun) : Prop where
  owned : pairing.ceremony.Owned
  inactive : pairing.ceremony.active = false → pairing.ceremony.deferral = none
  stopped : pairing.progress.afterStop = true → pairing.ceremony.active = false
  accepted : confirms = true → ∀ outcome, pairing.progress = .returned outcome →
    outcome.status.reportedSuccess → outcome.status = .paired ∧ pairing.ceremony.acceptInvoked = true ∧
      outcome.decision = some true ∧ outcome.acceptInvoked = true
  kind : pairing.ceremony.kind = kind
  confirms : pairing.ceremony.confirms = confirms

/-- A section of another thread. -/
theorem Sound.move {pairing : PairingRun} (h : pairing.Sound kind confirms) {next : Ceremony}
    (hnext : next.Owned) (hmoves : pairing.ceremony.Moves next) :
    ({ pairing with ceremony := next } : PairingRun).Sound kind confirms where
  owned := hnext
  kind := hmoves.kind.trans h.kind
  confirms := hmoves.confirms.trans h.confirms
  inactive hstopped :=
    have hbefore := hmoves.active.symm.trans hstopped
    hmoves.late hbefore (h.inactive hbefore)
  stopped hafter := hmoves.active.trans (h.stopped hafter)
  accepted hcallback outcome hreturned hsuccess :=
    have haccepted := h.accepted hcallback outcome hreturned hsuccess
    ⟨haccepted.1, hmoves.invoked haccepted.2.1, haccepted.2.2⟩

/-- The ceremony stays, and no outcome is returned. -/
theorem Sound.progress {pairing : PairingRun} (h : pairing.Sound kind confirms) {progress : Progress}
    (hafter : progress.afterStop = true → pairing.progress.afterStop = true)
    (hreturned : ∀ outcome, progress ≠ .returned outcome) :
    ({ pairing with progress } : PairingRun).Sound kind confirms where
  owned := h.owned
  kind := h.kind
  confirms := h.confirms
  inactive := h.inactive
  stopped hstop := h.stopped (hafter hstop)
  accepted _ outcome houtcome := absurd houtcome (hreturned outcome)

theorem Sound.stop {pairing : PairingRun} (h : pairing.Sound kind confirms) (status : Option Status) :
    (⟨pairing.ceremony.stop, .stopping status⟩ : PairingRun).Sound kind confirms := by
  have hmoves := Ceremony.moves_complete { pairing.ceremony with active := false }
  have howned := h.owned.adjust pairing.ceremony.decision false fun hclear ↦ ⟨hclear, rfl⟩
  exact {
    owned := howned.complete
    kind := hmoves.kind.trans h.kind
    confirms := hmoves.confirms.trans h.confirms
    inactive := fun _ ↦ Ceremony.complete_deferral _
    stopped := fun _ ↦ hmoves.active
    accepted := fun _ _ hreturned ↦ by cases hreturned }

/-- The task is there and in the phase that the step asks for. -/
theorem task_step {pairing next : PairingRun} {phase : Phase} {f : Task → PairingRun}
    (h : (do
      let task ← pairing.ceremony.task
      guard (task.phase = phase)
      return f task) = some next) :
    ∃ task, pairing.ceremony.task = some task ∧ task.phase = phase ∧ next = f task := by
  obtain ⟨task, htask, hrest⟩ := Option.bind_eq_some_iff.mp h
  obtain ⟨_, hphase, hnext⟩ := Option.bind_eq_some_iff.mp hrest
  exact ⟨task, htask, by simpa [guard] using hphase, (Option.some.inj hnext).symm⟩

theorem Sound.step {pairing next : PairingRun} (h : pairing.Sound kind confirms) (action : PairingAction)
    (hstep : pairing.step action = some next) : next.Sound kind confirms := by
  cases action with
  | event args =>
    cases hstep
    exact h.move (h.owned.handler args) (Ceremony.moves_handler _ _)
  | startDecision =>
    simp only [PairingRun.step] at hstep
    split at hstep
    · next args rest hscheduled =>
      cases hstep
      exact h.move (h.owned.startDecision hscheduled) (Ceremony.moves_startDecision _ _ _)
    · cases hstep
  | beginTask =>
    obtain ⟨task, htask, hphase, rfl⟩ := task_step hstep
    exact h.move (h.owned.goTo htask fun _ ↦ by rw [hphase]; rfl) (Ceremony.moves_goTo _ _ _)
  | confirmationEnds confirmation =>
    obtain ⟨task, htask, hphase, rfl⟩ := task_step hstep
    exact h.move (h.owned.decide htask (by rw [hphase]; rfl) confirmation) (Ceremony.moves_decide _ _ _)
  | noteError =>
    obtain ⟨task, htask, -, rfl⟩ := task_step hstep
    have hfail := h.owned.fail pairing.ceremony.seen
    exact h.move (hfail.goTo htask fun hund ↦ by cases hund) ⟨rfl, rfl, rfl, id, fun _ ↦ id⟩
  | finishTask =>
    obtain ⟨task, htask, -, rfl⟩ := task_step hstep
    have hkept : pairing.ceremony.complete.task = some task := by
      rw [← htask, Ceremony.complete]
      split <;> rfl
    exact h.move (h.owned.complete.goTo hkept fun hund ↦ by cases hund)
      ((Ceremony.moves_complete _).trans (Ceremony.moves_goTo _ _ _))
  | dropTask =>
    obtain ⟨task, htask, -, rfl⟩ := task_step hstep
    exact h.move (h.owned.goTo htask fun hund ↦ by cases hund) (Ceremony.moves_goTo _ _ _)
  | operationEnds status =>
    obtain ⟨-, -, hnext⟩ := Option.bind_eq_some_iff.mp hstep
    cases hnext
    exact h.progress (fun hafter ↦ by cases hafter) fun _ hreturned ↦ by cases hreturned
  | stop =>
    simp only [PairingRun.step] at hstep
    split at hstep
    · cases hstep
      exact h.stop _
    · cases hstep
  | stopReturns =>
    simp only [PairingRun.step] at hstep
    split at hstep
    · next status hprogress =>
      have hbefore : pairing.progress.afterStop = true := by rw [hprogress]; rfl
      cases hdone : pairing.ceremony.taskDone with
      | false => simp [hdone] at hstep
      | true =>
        cases status with
        | some status =>
          simp only [hdone, if_true, Option.some.injEq] at hstep
          subst hstep
          refine h.progress (fun _ ↦ hbefore) fun outcome ↦ ?_
          split <;> simp
        | none =>
          simp only [hdone, if_true, Option.some.injEq] at hstep
          subst hstep
          exact h.progress (fun _ ↦ hbefore) fun _ hreturned ↦ by cases hreturned
    · cases hstep
  | conclude refreshed =>
    simp only [PairingRun.step] at hstep
    split at hstep
    · next status hprogress =>
      have hbefore : pairing.progress.afterStop = true := by rw [hprogress]; rfl
      split at hstep
      · next outcome houtcome =>
        cases hstep
        obtain ⟨state, -, hstate⟩ := Option.bind_eq_some_iff.mp houtcome
        exact {
          owned := h.owned
          kind := h.kind
          confirms := h.confirms
          inactive := h.inactive
          stopped := fun _ ↦ h.stopped hbefore
          accepted := fun hcallback other hreturned hsuccess ↦ by
            cases hreturned
            exact Ceremony.accepted_of_outcome hstate (h.confirms.trans hcallback) hsuccess }
      · cases hstep
        exact h.progress (fun _ ↦ hbefore) fun _ hreturned ↦ by cases hreturned
    · cases hstep

theorem sound_start (kind : ℕ) (confirms : Bool) : (start kind confirms).Sound kind confirms where
  owned := Ceremony.owned_init kind confirms
  kind := rfl
  confirms := rfl
  inactive _ := rfl
  stopped h := by cases h
  accepted _ _ h := by cases h

end PairingRun

/-- **The pairing ceremony accepts at most once and only what was confirmed.** -/
theorem pairing_ceremony (kind : ℕ) (confirms : Bool) {actions : List PairingAction} {pairing : PairingRun}
    (hrun : run PairingRun.step (.start kind confirms) actions = some pairing) :
    (confirms = true → pairing.ceremony.accepts.length ≤ 1 ∧
      ∀ acceptance ∈ pairing.ceremony.accepts, acceptance.Proper kind) ∧
    (pairing.ceremony.taken.length ≤ 1 ∧
      pairing.ceremony.taken = pairing.ceremony.completed ++ pairing.ceremony.deferral.toList ∧
      (pairing.progress.afterStop = true →
        pairing.ceremony.deferral = none ∧ pairing.ceremony.completed = pairing.ceremony.taken)) ∧
    (confirms = true → ∀ outcome, pairing.progress = .returned outcome → outcome.status.reportedSuccess →
      outcome.status = .paired ∧ outcome.decision = some true ∧ outcome.acceptInvoked = true ∧
        pairing.ceremony.accepts.length = 1) := by
  have h : pairing.Sound kind confirms :=
    run_invariant (fun _ action _ hs hstep ↦ hs.step action hstep) (PairingRun.sound_start kind confirms) hrun
  have hlength : pairing.ceremony.accepts.length ≤ 1 := by
    have honce := h.owned.once
    omega
  refine ⟨fun hcallback ↦ ⟨hlength, fun acceptance hmem ↦ ?_⟩,
    ⟨h.owned.taken_length, h.owned.deferrals, fun hafter ↦ ?_⟩, fun hcallback outcome hreturned hsuccess ↦ ?_⟩
  · have hproper := h.owned.proper (h.confirms.trans hcallback) acceptance hmem
    rwa [h.kind] at hproper
  · have hnone := h.inactive (h.stopped hafter)
    have hdeferrals := h.owned.deferrals
    rw [hnone, Option.toList_none, List.append_nil] at hdeferrals
    exact ⟨hnone, hdeferrals.symm⟩
  · obtain ⟨hpaired, hinvoked, hdecision⟩ := h.accepted hcallback outcome hreturned hsuccess
    have hsome := List.length_pos_of_ne_nil (h.owned.invoked hinvoked)
    exact ⟨hpaired, hdecision.1, hdecision.2, by omega⟩

/-- The request of kind 4 with the digits 123456. -/
def requestArgs : PairingArgs := ⟨1, 4, ['1', '2', '3', '4', '5', '6'], []⟩

/-- The operator confirms and Windows pairs. -/
def confirmedActions : List PairingAction :=
  [.event requestArgs, .startDecision, .beginTask, .confirmationEnds (.returned true), .finishTask,
    .operationEnds (some .paired), .stop, .stopReturns, .conclude (some (true, 2))]

/-- A confirmed run reports success after the one acceptance. -/
theorem pairing_ceremony_confirmed : ∃ pairing,
    run PairingRun.step (.start 4 true) confirmedActions = some pairing ∧
    pairing.ceremony.accepts.length = 1 ∧ pairing.ceremony.completed = [requestArgs] := by
  refine ⟨_, rfl, ?_, rfl⟩
  have h := @pairing_ceremony 4 true confirmedActions _ rfl
  exact (h.2.2 rfl _ rfl (.inl rfl)).2.2.2

end PqBleHandshake.Python.Winrt
