import PqBleHandshake.Driver.Session

/-!
# The policy of the runner

What the trace of a run may look like.  `Lawful` says of every event which past allows it; `Punctual` says
that a timeout or resumption error that escapes the first attempt arose in a resumption that had begun and was
not decided; `Justified` says it of the fallbacks.  A computation keeps an assertion about the trace and the result through every
wait, and ends in `Failed` when it raises.
-/

namespace PqBleHandshake.Python

open Foundation Resumption.Python Effect
open Resumption hiding Ticket

/-! ## Reading a trace -/

/-- An INIT. -/
def isInit (wire : Bytes) : Bool := wire.take 4 = magic ∧ wire.getD 5 0 = subtypeInit

/-- A frame that proves possession of the ticket: INIT or FINISH_C. -/
def isProof (wire : Bytes) : Bool :=
  wire.take 4 = magic ∧ (wire.getD 5 0 = subtypeInit ∨ wire.getD 5 0 = subtypeFinishC)

/-- The number of INITs of the run. -/
def inits : List Event → ℕ
  | [] => 0
  | .sent wire :: past => inits past + if isInit wire then 1 else 0
  | _ :: past => inits past

/-- No ticket was loaded at some point of the run. -/
def unavailable : List Event → Bool
  | [] => false
  | .unavailable :: _ => true
  | _ :: past => unavailable past

/-- In this attempt, SEC_INFO was accepted. -/
def attested : List Event → Bool
  | [] | .attempt _ :: _ => false
  | .attested _ :: _ => true
  | _ :: past => attested past

/-- The peer was paired in this run. -/
def cold : List Event → Bool
  | [] => false
  | .cold :: _ => true
  | _ :: past => cold past

/-- In this attempt, the operator accepted the SAS. -/
def sasAccepted : List Event → Bool
  | [] | .attempt _ :: _ => false
  | .sas accepted :: past => accepted || sasAccepted past
  | _ :: past => sasAccepted past

/-- In this attempt, what was verified last: FINISH_P of a resumption, or FINISHED_P of a full handshake. -/
def verified : List Event → Option Path
  | [] | .attempt _ :: _ => none
  | .finishPVerified .. :: _ => some .resume
  | .finishedPVerified .. :: _ => some .full
  | _ :: past => verified past

/-- The authenticated round trips since then. -/
def pongs : List Event → ℕ
  | [] | .attempt _ :: _ | .finishPVerified .. :: _ | .finishedPVerified .. :: _ => 0
  | .pong :: past => pongs past + 1
  | _ :: past => pongs past

/-- In this attempt, an INIT was sent and is not decided: no FINISH_P was verified and no REJECT came. -/
def resuming : List Event → Bool
  | [] | .attempt _ :: _ | .finishPVerified .. :: _ | .finishedPVerified .. :: _ | .rejected :: _ => false
  | .sent wire :: past => isInit wire || resuming past
  | _ :: past => resuming past

/-- The timeout or resumption error that arose last, arose in an undecided resumption. -/
def inWindow : List Event → Bool
  | [] => false
  | .failed :: past => resuming past
  | _ :: past => inWindow past

section Predicates

variable (crypto : Crypto) (onCurve : Bytes → Bool) (profile : UInt8)

/-- What the past must contain when an event happens. -/
def Allowed (past : List Event) : Event → Prop
  | .sent wire =>
    (isInit wire = true → inits past = 0) ∧
      (isProof wire = true → profile = pqResumeV11 → attested past = true ∧ cold past = false)
  | .attested sec => sec = strictSec pqResumeV11
  | .finishPVerified central ticket raw => (central.finish crypto ticket raw).1 = .ok ()
  | .finishedPVerified handshake raw peer now =>
    (handshake.finishP crypto onCurve raw peer now).isSome ∧
      (profile = pqResumeV08 → sasAccepted past = true)
  | .saved ticket =>
    (∃ central old raw rest, past = .finishPVerified central old raw :: rest ∧ ticket = old.used) ∨
      ∃ handshake raw peer now next rest,
        past = .finishedPVerified handshake raw peer now :: rest ∧
          handshake.finishP crypto onCurve raw peer now = some next ∧ next.ticket = some ticket
  | _ => True

/-- Every event of a trace was allowed. -/
def Lawful : List Event → Prop
  | [] => True
  | event :: past => Allowed crypto onCurve profile past event ∧ Lawful past

/-- The timeout or resumption error that a fallback answers arose in an undecided resumption.  Errors that are
caught inside the first attempt or replaced by another exception on the way out of it are free, and so are those
of the second attempt, which nothing catches. -/
def Punctual : List Event → Prop
  | [] => True
  | .fallback :: past => inWindow past = true ∧ Punctual past
  | _ :: past => Punctual past

/-- Fallbacks follow only an undecided resumption. -/
def Justified : List Event → Prop
  | [] => True
  | .fallback :: past => resuming past = true ∧ Justified past
  | _ :: past => Justified past

end Predicates

instance decidablePunctual : (trace : List Event) → Decidable (Punctual trace)
  | [] => inferInstanceAs (Decidable True)
  | .fallback :: past =>
    have := decidablePunctual past
    inferInstanceAs (Decidable (_ ∧ _))
  | .attempt _ :: past | .cold :: past | .attested _ :: past | .unavailable :: past | .sent _ :: past
  | .rejected :: past | .finishPVerified _ _ _ :: past | .sas _ :: past
  | .finishedPVerified _ _ _ _ :: past | .saved _ :: past | .deleted :: past | .pong :: past
  | .failed :: past => decidablePunctual past

instance decidableJustified : (trace : List Event) → Decidable (Justified trace)
  | [] => inferInstanceAs (Decidable True)
  | .fallback :: past =>
    have := decidableJustified past
    inferInstanceAs (Decidable (_ ∧ _))
  | .attempt _ :: past | .cold :: past | .attested _ :: past | .unavailable :: past | .sent _ :: past
  | .rejected :: past | .finishPVerified _ _ _ :: past | .sas _ :: past
  | .finishedPVerified _ _ _ _ :: past | .saved _ :: past | .deleted :: past | .pong :: past
  | .failed :: past => decidableJustified past

theorem Punctual.tail {event : Event} {past : List Event} (h : Punctual (event :: past)) :
    Punctual past := by
  cases event <;> first | exact h | exact h.2

theorem inits_ne_zero_of_resuming : ∀ {trace : List Event}, resuming trace = true → inits trace ≠ 0
  | .sent wire :: past, h => by
    by_cases hwire : isInit wire = true
    · simp [inits, hwire]
    · have hpast : resuming past = true := by simpa [resuming, hwire] using h
      have ih := inits_ne_zero_of_resuming hpast
      simp [inits, hwire, ih]
  | .cold :: past, h | .attested _ :: past, h | .unavailable :: past, h | .sas _ :: past, h
  | .saved _ :: past, h | .deleted :: past, h | .pong :: past, h | .failed :: past, h
  | .fallback :: past, h => @inits_ne_zero_of_resuming past h

/-- The ticket file after the events of a trace. -/
def fileAfter (origin : TicketFile) : List Event → TicketFile
  | [] => origin
  | .saved ticket :: _ => .ticket ticket
  | .deleted :: _ => .absent
  | _ :: past => fileAfter origin past

/-! ## Assertions -/

/-- The parameters of a run, and the ticket file before it. -/
structure Setting where
  crypto : Crypto
  onCurve : Bytes → Bool
  profile : UInt8
  peer : Block 7
  origin : TicketFile

section Assertions

variable (run : Setting)

/-- What holds throughout a run. -/
structure Core (trace : List Event) (file : TicketFile) (result : Result) : Prop where
  lawful : Lawful run.crypto run.onCurve run.profile trace
  stored : file = fileAfter run.origin trace
  justified : Punctual trace ↔ Justified trace
  pristine : Punctual trace → resuming trace = true → result.path = .full ∧ result.rounds = 0

/-- The result before a session is established. -/
structure Pending (trace : List Event) (result : Result) : Prop where
  path : result.path = .full
  rounds : result.rounds = 0
  reason : result.fallbackReason ≠ none → inits trace ≠ 0 ∨ unavailable trace = true

/-- The result describes the session that was established last. -/
structure Accounted (trace : List Event) (result : Result) : Prop where
  path : verified trace = some result.path
  rounds : result.rounds = pongs trace
  reason : result.fallbackReason ≠ none →
    (inits trace ≠ 0 ∨ unavailable trace = true) ∧ result.path = .full

/-- Nothing is verified in this attempt yet. -/
structure Ready (trace : List Event) (file : TicketFile) (result : Result) : Prop extends
    Core run trace file result where
  unverified : verified trace = none
  pending : Punctual trace → Pending trace result

/-- A session is established. -/
structure Secure (trace : List Event) (file : TicketFile) (result : Result) : Prop extends
    Core run trace file result where
  established : verified trace ≠ none
  decided : resuming trace = false
  accounted : Punctual trace → Accounted trace result

/-- The run raises.  Nothing since an error that is retried arose decided or began a resumption. -/
structure Failed (e : Exn) (w : World) : Prop extends Core run w.trace w.file w.result where
  window : e.retried = true ∨ (∃ cause, e = .v1 (some cause) ∧ cause.retried = true) →
    inWindow w.trace = resuming w.trace

variable {run} {past : List Event} {file file' : TicketFile} {result : Result}

/-- An event that only adds a fact to the past. -/
def Event.quiet : Event → Bool
  | .sent wire => !isProof wire
  | .attested _ | .unavailable | .sas _ | .saved _ | .deleted | .failed | .cold => true
  | _ => false

theorem isInit_of_isProof_eq_false {wire : Bytes} (h : isProof wire = false) : isInit wire = false := by
  simp only [isProof, isInit, decide_eq_false_iff_not, not_and, not_or] at h ⊢
  exact fun hmagic ↦ (h hmagic).1

/-- The facts about a trace that a quiet event keeps. -/
structure Extends (event : Event) (past : List Event) : Prop where
  verified : verified (event :: past) = verified past
  pongs : pongs (event :: past) = pongs past
  resuming : resuming (event :: past) = resuming past
  inits : inits (event :: past) = inits past
  unavailable : Python.unavailable past = true → Python.unavailable (event :: past) = true
  punctual : Punctual (event :: past) ↔ Punctual past
  justified : Justified (event :: past) ↔ Justified past

theorem Event.extends_of_quiet {event : Event} (h : event.quiet = true) (past : List Event) :
    Extends event past := by
  cases event with
  | sent wire =>
    have hinit := isInit_of_isProof_eq_false (by simpa [Event.quiet] using h)
    exact ⟨rfl, rfl, by simp [resuming, hinit], by simp [inits, hinit], id, .rfl, .rfl⟩
  | unavailable => exact ⟨rfl, rfl, rfl, rfl, fun _ ↦ rfl, .rfl, .rfl⟩
  | attested _ | sas _ | saved _ | deleted | failed | cold => exact ⟨rfl, rfl, rfl, rfl, id, .rfl, .rfl⟩
  | _ => cases h

theorem Core.quiet {event : Event} (h : Core run past file result) (hquiet : event.quiet = true)
    (hallowed : Allowed run.crypto run.onCurve run.profile past event)
    (hfile : file' = fileAfter run.origin (event :: past)) : Core run (event :: past) file' result := by
  have hextends := Event.extends_of_quiet hquiet past
  exact ⟨⟨hallowed, h.lawful⟩, hfile, hextends.punctual.trans (h.justified.trans hextends.justified.symm),
    fun hpunctual hresuming ↦ h.pristine hpunctual.tail (hextends.resuming ▸ hresuming)⟩

theorem Pending.extend {event : Event} (h : Pending past result) (hextends : Extends event past) :
    Pending (event :: past) result := by
  refine ⟨h.path, h.rounds, fun hreason ↦ ?_⟩
  rw [hextends.inits]
  exact (h.reason hreason).imp id hextends.unavailable

theorem Accounted.extend {event : Event} (h : Accounted past result) (hextends : Extends event past) :
    Accounted (event :: past) result := by
  refine ⟨hextends.verified.trans h.path, h.rounds.trans hextends.pongs.symm, fun hreason ↦ ?_⟩
  rw [hextends.inits]
  exact (h.reason hreason).imp_left fun hpast ↦ hpast.imp id hextends.unavailable

theorem Ready.quiet {event : Event} (h : Ready run past file result) (hquiet : event.quiet = true)
    (hallowed : Allowed run.crypto run.onCurve run.profile past event)
    (hfile : file' = fileAfter run.origin (event :: past)) : Ready run (event :: past) file' result := by
  have hextends := Event.extends_of_quiet hquiet past
  exact ⟨h.toCore.quiet hquiet hallowed hfile, hextends.verified.trans h.unverified,
    fun hpunctual ↦ (h.pending hpunctual.tail).extend hextends⟩

theorem Secure.quiet {event : Event} (h : Secure run past file result) (hquiet : event.quiet = true)
    (hallowed : Allowed run.crypto run.onCurve run.profile past event)
    (hfile : file' = fileAfter run.origin (event :: past)) : Secure run (event :: past) file' result := by
  have hextends := Event.extends_of_quiet hquiet past
  exact ⟨h.toCore.quiet hquiet hallowed hfile, hextends.verified ▸ h.established,
    hextends.resuming.trans h.decided, fun hpunctual ↦ (h.accounted hpunctual.tail).extend hextends⟩

end Assertions

/-! ## Computations keep assertions -/

/-- An assertion about all variables but the position and the session, which the outside may change at
every wait. -/
abbrev Assertion := List Event → TicketFile → Result → Bool → Option Ticket → Prop

/-- The assertion at a state. -/
def Assertion.At (T : Assertion) (w : World) : Prop := T w.trace w.file w.result w.app w.ticket

/-- A computation keeps an assertion, or raises in order. -/
def Keeps (run : Setting) {α : Type} (T : Assertion) (x : Run α) (U : α → Assertion) : Prop :=
  ∀ w, T.At w → Wp x (fun a w' ↦ (U a).At w') (Failed run) w

section Keeps

variable {run : Setting} {α β : Type} {T S : Assertion} {env : ℕ → Answer}

/-- Every state that satisfies the assertion is in order. -/
def Sound (run : Setting) (T : Assertion) : Prop :=
  ∀ trace file result app ticket, T trace file result app ticket → Core run trace file result

theorem Keeps.bind {x : Run α} {f : α → Run β} {U : α → Assertion} {V : β → Assertion}
    (hx : Keeps run T x U) (hf : ∀ a, Keeps run (U a) (f a) V) : Keeps run T (x >>= f) V :=
  fun w h ↦ wp_seq (hx w h) fun a ↦ hf a

theorem Keeps.pure {a : α} : Keeps run T (pure a : Run α) fun _ ↦ T := fun _ h ↦ h

theorem Keeps.conseq {x : Run α} {U V : α → Assertion} (hx : Keeps run S x U)
    (hT : ∀ trace file result app ticket, T trace file result app ticket →
      S trace file result app ticket)
    (hU : ∀ a trace file result app ticket, U a trace file result app ticket →
      V a trace file result app ticket) : Keeps run T x V :=
  fun w h ↦ wp_mono (hx w (hT _ _ _ _ _ h)) (fun a _ h' ↦ hU a _ _ _ _ _ h') fun _ _ h ↦ h

theorem keeps_onlyIf {condition : Prop} [Decidable condition] {x : Run Unit}
    (hx : condition → Keeps run T x fun _ ↦ T) : Keeps run T (onlyIf condition x) fun _ ↦ T := by
  unfold onlyIf
  split
  · exact hx ‹_›
  · exact Keeps.pure

theorem keeps_raise (hT : Sound run T) {e : Exn} {U : α → Assertion}
    (he : ∀ cause, e ≠ .v1 (some cause)) : Keeps run T (raise e : Run α) U := by
  intro w h
  have hcore := hT _ _ _ _ _ h
  unfold raise onlyIf
  by_cases hretried : e.retried = true
  · rw [if_pos hretried]
    exact ⟨hcore.quiet rfl trivial hcore.stored, fun _ ↦ rfl⟩
  · rw [if_neg hretried]
    refine ⟨hcore, fun hcause ↦ ?_⟩
    rcases hcause with hcause | ⟨cause, hcause, -⟩
    · exact absurd hcause hretried
    · exact absurd hcause (he cause)

theorem keeps_ask : Keeps run T (ask env) fun _ ↦ T := fun _ h ↦ h

theorem keeps_look {f : World → α} : Keeps run T (look f) fun _ ↦ T := fun _ h ↦ h

theorem keeps_setSession {session : Option Session} : Keeps run T (setSession session) fun _ ↦ T :=
  fun _ h ↦ h

theorem keeps_await (hT : Sound run T) : Keeps run T (await env) fun _ ↦ T := by
  refine Keeps.bind keeps_ask fun answer ↦ Keeps.bind (keeps_onlyIf fun _ _ h ↦ h) fun _ ↦ ?_
  split
  · exact keeps_raise hT fun cause ↦ by cases ‹Fault› <;> exact nofun
  · exact Keeps.pure

theorem keeps_requireLink (hT : Sound run T) : Keeps run T (requireLink env) fun _ ↦ T :=
  Keeps.bind keeps_ask fun _ ↦ Keeps.bind keeps_look fun _ ↦
    keeps_onlyIf fun _ ↦ keeps_raise hT nofun

theorem keeps_receive (hT : Sound run T) : Keeps run T (receive env) fun _ ↦ T :=
  Keeps.bind (keeps_await hT) fun _ ↦ Keeps.bind (keeps_requireLink hT) fun _ ↦ Keeps.pure

/-- The assertion together with a fact that does not depend on the state. -/
def Assertion.With (p : Prop) (T : Assertion) : Assertion := fun trace file result app ticket ↦
  p ∧ T trace file result app ticket

theorem Keeps.fact {p : Prop} {x : Run α} {U : α → Assertion} (h : p → Keeps run T x U) :
    Keeps run (T.With p) x U := fun w hw ↦ h hw.1 w hw.2

theorem keeps_emit {event : Event} (h : ∀ trace file result app ticket,
    T trace file result app ticket → S (event :: trace) file result app ticket) :
    Keeps run T (emit event) fun _ ↦ S := fun _ hw ↦ h _ _ _ _ _ hw

theorem keeps_setResult {f : Result → Result} (h : ∀ trace file result app ticket,
    T trace file result app ticket → S trace file (f result) app ticket) :
    Keeps run T (setResult f) fun _ ↦ S := fun _ hw ↦ h _ _ _ _ _ hw

theorem keeps_setTicket {ticket : Option Ticket} (h : ∀ trace file result app ticket',
    T trace file result app ticket' → S trace file result app ticket) :
    Keeps run T (setTicket ticket) fun _ ↦ S := fun _ hw ↦ h _ _ _ _ _ hw

theorem keeps_orRaise (hT : Sound run T) {value : Option α} :
    Keeps run T (orRaise .other value) fun a ↦ T.With (value = some a) := by
  cases value with
  | some a => exact fun _ h ↦ ⟨rfl, h⟩
  | none => exact keeps_raise hT nofun

theorem keeps_orResume (hT : Sound run T) {value : Except Reason α} :
    Keeps run T (orResume value) fun a ↦ T.With (value = .ok a) := by
  cases value with
  | ok a => exact fun _ h ↦ ⟨rfl, h⟩
  | error reason => exact keeps_raise hT nofun

theorem keeps_onResume (hT : Sound run T) {method : CentralResume → Except Reason α × CentralResume} :
    Keeps run T (onResume method) fun a ↦ T.With (∃ central next, method central = (.ok a, next)) := by
  refine Keeps.bind keeps_look fun session ↦ ?_
  split
  · next central =>
    refine Keeps.bind keeps_setSession fun _ ↦ Keeps.conseq (keeps_orResume hT)
      (fun _ _ _ _ _ h ↦ h) fun a _ _ _ _ _ h ↦ ⟨⟨central, (method central).2, ?_⟩, h.2⟩
    exact Prod.ext h.1 rfl
  · exact keeps_raise hT nofun

theorem keeps_onFull (hT : Sound run T) {method : FullHandshake → Option (α × FullHandshake)} :
    Keeps run T (onFull method) fun a ↦ T.With (∃ handshake next, method handshake = some (a, next)) := by
  refine Keeps.bind keeps_look fun session ↦ ?_
  split
  · next handshake =>
    split
    · next value next hmethod =>
      exact Keeps.bind keeps_setSession fun _ _ h ↦ ⟨⟨handshake, next, hmethod⟩, h⟩
    · exact Keeps.bind keeps_setSession fun _ ↦ keeps_raise hT nofun
  · exact keeps_raise hT nofun

theorem keeps_readFull (hT : Sound run T) {method : FullHandshake → Option α} :
    Keeps run T (readFull method) fun _ ↦ T := by
  refine Keeps.bind keeps_look fun session ↦ ?_
  split
  · exact Keeps.conseq (keeps_orRaise hT) (fun _ _ _ _ _ h ↦ h)
      fun _ _ _ _ _ _ h ↦ h.2
  · exact keeps_raise hT nofun

theorem keeps_sendControl {wire : Bytes} (hS : Sound run S) (h : ∀ trace file result app ticket,
    T trace file result app ticket → S (.sent wire :: trace) file result app ticket) :
    Keeps run T (sendControl env wire) fun _ ↦ S :=
  Keeps.bind (keeps_emit h) fun _ ↦ Keeps.bind (keeps_await hS) fun _ ↦ Keeps.pure

theorem keeps_storeDelete (hT : Sound run T) (h : ∀ trace file result app ticket,
    T trace file result app ticket → S (.deleted :: trace) .absent result app ticket) :
    Keeps run T (storeDelete env) fun _ ↦ S :=
  Keeps.bind (keeps_await hT) fun _ _ hw ↦ h _ _ _ _ _ hw

theorem keeps_storeLoad (hT : Sound run T) {profile : UInt8} {peer : Block 7}
    (hdelete : ∀ trace file result app ticket,
      T trace file result app ticket → T (.deleted :: trace) .absent result app ticket) :
    Keeps run T (storeLoad env profile peer) fun _ ↦ T := by
  refine Keeps.bind keeps_ask fun answer ↦ Keeps.bind keeps_look fun file ↦ ?_
  have hmissing : ∀ reason : Reason,
      Keeps run T (update fun w : World ↦ { w with lastReason := reason }) fun _ ↦ T :=
    fun _ _ h ↦ h
  split
  · exact Keeps.bind (hmissing _) fun _ ↦ Keeps.pure
  · split
    · exact Keeps.bind (hmissing _) fun _ ↦ Keeps.pure
    · exact Keeps.bind (hmissing _) fun _ ↦ Keeps.bind
        (keeps_onlyIf fun _ ↦ keeps_storeDelete hT hdelete) fun _ ↦ Keeps.pure
    · dsimp only
      split
      · exact Keeps.pure
      · exact Keeps.bind (hmissing _) fun _ ↦ Keeps.bind (keeps_storeDelete hT hdelete) fun _ ↦ Keeps.pure

theorem keeps_storeSave (hT : Sound run T) (hS : Sound run S) {ticket : Ticket}
    (hsame : ∀ trace file result app held,
      T trace file result app held → S trace file result app held)
    (hdelete : ∀ trace file result app held,
      T trace file result app held → S (.deleted :: trace) .absent result app held)
    (hsave : ∀ trace file result app held,
      T trace file result app held → S (.saved ticket :: trace) (.ticket ticket) result app held) :
    Keeps run T (storeSave env ticket) fun _ ↦ S := by
  unfold storeSave
  split
  · exact keeps_storeDelete hT hdelete
  · refine Keeps.bind keeps_ask fun answer ↦ ?_
    split
    · refine Keeps.bind (keeps_setTicket (S := fun trace file result _ _ ↦ Core run trace file result)
        fun _ _ _ _ _ h ↦ hT _ _ _ _ _ h) fun _ ↦ keeps_raise (fun _ _ _ _ _ h ↦ h) nofun
    · refine Keeps.bind (U := fun _ ↦ S) ?_ fun _ ↦ ?_
      · unfold onlyIf
        split
        · exact fun _ hw ↦ hsave _ _ _ _ _ hw
        · exact fun _ hw ↦ hsame _ _ _ _ _ hw
      · split
        · exact keeps_raise hS fun cause ↦ by cases ‹Fault› <;> exact nofun
        · exact Keeps.pure

end Keeps

/-! ## The stages of an exchange -/

section Stages

variable (run : Setting)

/-- Before the resumption: no INIT was sent when a ticket may be used. -/
structure Opening (allowResume forceFull asked : Bool) (trace : List Event) (file : TicketFile)
    (result : Result) : Prop extends Ready run trace file result where
  fresh : forceFull = false → inits trace = 0 ∧ result.fallbackReason = none
  warm : allowResume = true → forceFull = false → run.profile = pqResumeV11 → cold trace = false
  attested : asked = true → run.profile = pqResumeV11 → attested trace = true

/-- Between INIT and FINISH_P. -/
structure Resuming (trace : List Event) (file : TicketFile) (result : Result) : Prop extends
    Ready run trace file result where
  begun : inits trace ≠ 0
  fresh : result.fallbackReason = none
  warm : run.profile = pqResumeV11 → attested trace = true ∧ cold trace = false

/-- FINISH_P is verified, and the result does not say so yet. -/
structure Resumed (trace : List Event) (file : TicketFile) (result : Result) : Prop extends
    Core run trace file result where
  verified : verified trace = some .resume
  pongs : pongs trace = 0
  decided : resuming trace = false
  fresh : result.fallbackReason = none
  rounds : Punctual trace → result.rounds = 0

variable {run} {past : List Event} {file file' : TicketFile} {result : Result}

theorem cold_cons {event : Event} (hcold : event ≠ .cold) :
    cold (event :: past) = cold past := by
  cases event <;> first | exact absurd rfl hcold | rfl

theorem attested_quiet {event : Event} (hquiet : event.quiet = true) (h : attested past = true) :
    attested (event :: past) = true := by
  cases event <;> first | exact h | rfl | cases hquiet

theorem Opening.quiet {allowResume forceFull asked : Bool} {event : Event}
    (h : Opening run allowResume forceFull asked past file result) (hquiet : event.quiet = true)
    (hcold : event ≠ .cold) (hallowed : Allowed run.crypto run.onCurve run.profile past event)
    (hfile : file' = fileAfter run.origin (event :: past)) :
    Opening run allowResume forceFull asked (event :: past) file' result := by
  have hextends := Event.extends_of_quiet hquiet past
  exact ⟨h.toReady.quiet hquiet hallowed hfile, fun hforce ↦ hextends.inits.symm ▸ h.fresh hforce,
    fun hallow hforce hprofile ↦ (cold_cons hcold).trans (h.warm hallow hforce hprofile),
    fun hasked hprofile ↦ attested_quiet hquiet (h.attested hasked hprofile)⟩

/-! ### The frames -/

theorem encodeFull_isProof {onCurve : Bytes → Bool} {profile subtype : UInt8} {payload wire : Bytes}
    (h : encodeFull onCurve profile subtype payload = some wire) : isProof wire = false := by
  obtain ⟨raw, rfl, hmagic⟩ : ∃ raw : Bytes, wire = raw.take 4 ++ [profile] ++ raw.drop 5 ∧
      (raw.take 4 = phase7Magic ∨ raw.take 4 = v1Magic) := by
    simp only [encodeFull, Option.bind_eq_bind, Option.bind_eq_some_iff] at h
    obtain ⟨d, -, h⟩ := h
    split_ifs at h with hprofile
    · simp only [encodePhase7Frame, Option.bind_eq_bind, Option.bind_eq_some_iff, Option.pure_def,
        Option.some.injEq] at h
      obtain ⟨raw, ⟨-, -, rfl⟩, rfl⟩ := h
      exact ⟨_, rfl, .inl rfl⟩
    · simp only [Option.bind_eq_some_iff, Option.pure_def, Option.some.injEq] at h
      obtain ⟨raw, hraw, rfl⟩ := h
      obtain ⟨-, rfl⟩ := encodeV1Frame_eq_some_iff.mp hraw
      exact ⟨_, rfl, .inr rfl⟩
  have htake : ∀ magic' : Bytes, magic'.length = 4 → raw.take 4 = magic' →
      (raw.take 4 ++ [profile] ++ raw.drop 5).take 4 = magic' := by
    intro magic' hlength hraw
    rw [hraw, List.append_assoc, List.take_left' hlength]
  have hne : (raw.take 4 ++ [profile] ++ raw.drop 5).take 4 ≠ magic := by
    rcases hmagic with hmagic | hmagic
    · rw [htake _ (by decide) hmagic]
      decide
    · rw [htake _ (by decide) hmagic]
      decide
  exact decide_eq_false fun h ↦ hne h.1

theorem isInit_initFrame (crypto : Crypto) (profile : UInt8) (root : Block 32) (rid sid : Block 16)
    (nc : Block 32) : isInit (initFrame crypto profile root rid sid nc) = true := by
  rfl

theorem isInit_finishCFrame (crypto : Crypto) (profile : UInt8) (keys : Keys) :
    isInit (finishCFrame crypto profile keys) = false := by
  rfl

end Stages

end PqBleHandshake.Python
