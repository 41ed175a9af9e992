import PqBleHandshake.Driver.Buffers
import PqBleHandshake.Handshake.Typestate

/-!
# The cleanup of an exchange

Every buffer that `_exchange` makes is, at every point, owned by one of its objects or by a `finally` that will
wipe it, or is wiped already.  So its final clear leaves no secret behind, wherever an exception arose.  The
ticket file is only ever deleted, or replaced by the ticket of a handshake that was just verified.
-/

namespace PqBleHandshake.Python.Buffers

open Foundation Resumption.Python Effect
open Resumption hiding Ticket

/-! ## What an exchange keeps -/

/-- The parameters of an exchange and the state before it. -/
structure Exchange where
  crypto : Crypto
  onCurve : Bytes → Bool
  profile : UInt8
  peer : Block 7
  start : Frame

/-- One of the events verified the FINISH_P or FINISHED_P of a stored ticket. -/
def VerifiedBy (run : Exchange) (events : List Event) (stored : Ticket) : Prop :=
  (∃ central old raw, .finishPVerified central old raw ∈ events ∧
    (central.finish run.crypto old raw).1 = .ok () ∧ stored = old.used) ∨
  ∃ handshake raw now next, .finishedPVerified handshake raw run.peer now ∈ events ∧
    handshake.finishP run.crypto run.onCurve raw run.peer now = some next ∧ next.ticket = some stored

theorem VerifiedBy.cons {run : Exchange} {events : List Event} {stored : Ticket} (event : Event)
    (h : VerifiedBy run events stored) : VerifiedBy run (event :: events) stored := by
  rcases h with ⟨central, old, raw, hmem, hfinish, hstored⟩ | ⟨handshake, raw, now, next, hmem, hrest⟩
  · exact .inl ⟨central, old, raw, List.mem_cons_of_mem _ hmem, hfinish, hstored⟩
  · exact .inr ⟨handshake, raw, now, next, List.mem_cons_of_mem _ hmem, hrest⟩

/-- The ticket file is unchanged, deleted, or holds a ticket that this exchange verified. -/
def FileKept (run : Exchange) (events : List Event) (file : TicketFile) : Prop :=
  file = run.start.file ∨ file = .absent ∨ ∃ stored, file = .ticket stored ∧ VerifiedBy run events stored

theorem FileKept.cons {run : Exchange} {events : List Event} {file : TicketFile} (event : Event)
    (h : FileKept run events file) : FileKept run (event :: events) file :=
  h.imp id (Or.imp id fun ⟨stored, hfile, hverified⟩ ↦ ⟨stored, hfile, hverified.cons event⟩)

/-- Keys come with the state that derives them. -/
def SessionObject.Typed : SessionObject → Prop
  | .resume central => central.state = .new ∨ central.state = .waitAccept → central.keys = none
  | .full handshake => (handshake.state = .new → handshake.keys = none) ∧
      (handshake.state = .new ∨ handshake.state = .waitAuth ∨ handshake.state = .waitFinishedP →
        handshake.traffic = none)

/-- A condition on the session, the application and whether there is a ticket. -/
abbrev Condition := Option SessionObject → Option Application → Bool → Prop

/-- Whatever they are. -/
abbrev anyState : Condition := fun _ _ _ ↦ True

/-- There is no application yet. -/
abbrev unopened : Condition := fun _ app _ ↦ app = none

/-- There is an application. -/
abbrev opened : Condition := fun _ app _ ↦ app ≠ none

/-- There is neither a session nor an application. -/
abbrev idle : Condition := fun session app _ ↦ session = none ∧ app = none

/-- There is no object at all. -/
abbrev blank : Condition := fun session app ticket ↦ session = none ∧ app = none ∧ ticket = false

/-- The session is this object, and there is no application yet. -/
abbrev holding (object : SessionObject) : Condition := fun session app _ ↦ session = some object ∧ app = none

/-- The buffers of the session. -/
def Frame.sessionOwned (w : Frame) : List ℕ := w.session.elim [] SessionObject.addresses

/-- The invariant of an exchange: beside the current objects, only `extra` buffers hold secrets. -/
structure Kept (run : Exchange) (T : Condition) (extra : List ℕ) (w : Frame) : Prop where
  custody : Heap.Custody run.start.heap.size (extra ++ w.owned) w.heap
  /-- The root of the ticket is no other's buffer. -/
  apart : ∀ ticket, w.ticket = some ticket → ticket.root ∉ extra ++ w.sessionOwned
  typed : ∀ session, w.session = some session → session.Typed
  holds : T w.session w.app w.ticket.isSome
  file : ∃ events, w.trace = events ++ run.start.trace ∧ FileKept run events w.file

/-- A computation under an invariant; the `extra` buffers stay someone's when it raises. -/
def Keeps (run : Exchange) {α : Type} (extra : List ℕ) (P : Frame → Prop) (x : Run α)
    (Q : α → Frame → Prop) : Prop := ∀ w, P w → Wp x Q (fun _ ↦ Kept run anyState extra) w

section Rules

variable {run : Exchange} {α β : Type} {T U : Condition} {extra X : List ℕ} {w : Frame}
  {P : Frame → Prop}

theorem mem_owned {a : ℕ} : a ∈ w.owned ↔ a ∈ w.sessionOwned ∨
    a ∈ w.app.elim [] Application.addresses ∨ ∃ ticket, w.ticket = some ticket ∧ a = ticket.root := by
  rw [Frame.owned, List.mem_append, List.mem_append, Frame.sessionOwned]
  cases w.ticket <;> simp

theorem Kept.any (h : Kept run T extra w) : Kept run anyState extra w :=
  ⟨h.custody, h.apart, h.typed, trivial, h.file⟩

theorem Kept.imp (h : Kept run T extra w) (hT : T w.session w.app w.ticket.isSome → U w.session w.app w.ticket.isSome) :
    Kept run U extra w :=
  ⟨h.custody, h.apart, h.typed, hT h.holds, h.file⟩

/-- A ticket's root is some buffer that exists. -/
theorem Kept.root_lt (h : Kept run T extra w) {ticket : TicketObject} (hticket : w.ticket = some ticket) :
    ticket.root < w.heap.size := by
  refine h.custody.bounded _ (List.mem_append_right _ (mem_owned.mpr (.inr (.inr ?_))))
  exact ⟨ticket, hticket, rfl⟩

theorem Keeps.bind {x : Run α} {f : α → Run β} {Q : α → Frame → Prop} {R : β → Frame → Prop}
    (hx : Keeps run extra P x Q) (hf : ∀ a, Keeps run extra (Q a) (f a) R) :
    Keeps run extra P (x >>= f) R := fun w h ↦ wp_seq (hx w h) fun a ↦ hf a

theorem Keeps.pure {a : α} : Keeps run extra P (pure a : Run α) fun _ ↦ P := fun _ h ↦ h

theorem Keeps.conseq {x : Run α} {R : Frame → Prop} {Q Q' : α → Frame → Prop}
    (hx : Keeps run extra R x Q') (hP : ∀ w, P w → R w) (hQ : ∀ a w, Q' a w → Q a w) :
    Keeps run extra P x Q := fun w h ↦ wp_mono (hx w (hP w h)) hQ fun _ _ h ↦ h

/-- A pure fact of the assertion. -/
theorem Keeps.fact {x : Run α} {Q : α → Frame → Prop} {p : Prop} (hx : p → Keeps run extra P x Q) :
    Keeps run extra (fun w ↦ P w ∧ p) x Q := fun w h ↦ hx h.2 w h.1

theorem keeps_fail {e : Exn} {Q : α → Frame → Prop} :
    Keeps run extra (Kept run T extra) (fail e : Run α) Q := fun _ h ↦ h.any

theorem keeps_onlyIf {condition : Prop} [Decidable condition] {x : Run Unit}
    (hx : condition → Keeps run extra P x fun _ ↦ P) :
    Keeps run extra P (onlyIf condition x) fun _ ↦ P := by
  unfold onlyIf
  split
  · exact hx ‹_›
  · exact Keeps.pure

/-- A check that raises where a condition holds. -/
theorem keeps_onlyIf_fail {condition : Prop} [Decidable condition] {e : Exn} :
    Keeps run extra (Kept run T extra) (onlyIf condition (fail e))
      fun _ w ↦ Kept run T extra w ∧ ¬condition := by
  unfold onlyIf
  split
  · exact keeps_fail
  · exact fun _ h ↦ ⟨h, ‹_›⟩

theorem keeps_orRaise {e : Exn} {x : Option α} : Keeps run extra (Kept run T extra) (orRaise e x)
    fun a w ↦ Kept run T extra w ∧ x = some a := by
  cases x with
  | some value => exact fun _ h ↦ ⟨h, rfl⟩
  | none => exact keeps_fail

theorem keeps_orResume {x : Except Reason α} : Keeps run extra (Kept run T extra) (orResume x)
    fun a w ↦ Kept run T extra w ∧ x = .ok a := by
  cases x with
  | ok value => exact fun _ h ↦ ⟨h, rfl⟩
  | error reason => exact keeps_fail

theorem keeps_look {f : Frame → α} :
    Keeps run extra P (look f) fun a w ↦ P w ∧ a = f w := fun _ h ↦ ⟨h, rfl⟩

/-- Reading what no assertion is about. -/
theorem keeps_peek {f : Frame → α} : Keeps run extra P (look f) fun _ ↦ P := fun _ h ↦ h

/-! ### Buffers -/

theorem Kept.make (h : Kept run T extra w) (content : Bytes) :
    Kept run T (w.heap.size :: extra) { w with heap := w.heap.make content } where
  custody := h.custody.make content
  apart ticket hticket := by
    rw [List.cons_append, List.mem_cons, not_or]
    exact ⟨(h.root_lt hticket).ne, h.apart ticket hticket⟩
  typed := h.typed
  holds := h.holds
  file := h.file

theorem keeps_make {content : Bytes} : Keeps run X (Kept run T extra) (make content)
    fun a ↦ Kept run T (a :: extra) := fun _ h ↦ h.make content

theorem Kept.wipe {A : List ℕ} (h : Kept run T extra w) (hsub : ∀ a ∈ X, a ∈ extra)
    (hrest : ∀ a ∈ extra, a ∈ X ∨ a ∈ A) :
    Kept run T X { w with heap := w.heap.wipeAll A } where
  custody := by
    refine h.custody.wipeAll (fun a ha ↦ ?_) fun a ha ↦ ?_
    · exact List.mem_append.mpr ((List.mem_append.mp ha).imp (hsub a) id)
    · rcases List.mem_append.mp ha with hextra | howned
      · exact (hrest a hextra).imp (List.mem_append_left _) id
      · exact .inl (List.mem_append_right _ howned)
  apart ticket hticket hmem := h.apart ticket hticket
    (List.mem_append.mpr ((List.mem_append.mp hmem).imp (hsub _) id))
  typed := h.typed
  holds := h.holds
  file := h.file

/-- The order of the local buffers does not matter. -/
theorem Kept.reorder (h : Kept run T extra w) (hsame : ∀ a, a ∈ X ↔ a ∈ extra) :
    Kept run T X w where
  custody := h.custody.congr fun a ↦ by rw [List.mem_append, List.mem_append, hsame]
  apart ticket hticket := by
    rw [List.mem_append, hsame, ← List.mem_append]
    exact h.apart ticket hticket
  typed := h.typed
  holds := h.holds
  file := h.file

theorem keeps_wipe {raised addresses : List ℕ} (hsub : ∀ a ∈ X, a ∈ extra)
    (hrest : ∀ a ∈ extra, a ∈ X ∨ a ∈ addresses) :
    Keeps run raised (Kept run T extra) (wipe addresses) fun _ ↦ Kept run T X :=
  fun _ h ↦ h.wipe hsub hrest

/-- Wiping the last local buffer. -/
theorem keeps_wipe_head {raised : List ℕ} {a : ℕ} :
    Keeps run raised (Kept run T (a :: extra)) (wipe [a]) fun _ ↦ Kept run T extra := by
  refine keeps_wipe (fun b hb ↦ List.mem_cons_of_mem _ hb) fun b hb ↦ ?_
  rcases List.mem_cons.mp hb with rfl | hb
  · exact .inr (List.mem_singleton_self b)
  · exact .inl hb

/-- Wiping a buffer that someone keeps. -/
theorem keeps_wipe_kept {addresses : List ℕ} :
    Keeps run X (Kept run T extra) (wipe addresses) fun _ ↦ Kept run T extra :=
  fun _ h ↦ h.wipe (fun _ ha ↦ ha) fun _ ha ↦ .inl ha

/-- A local buffer is wiped on every way out. -/
theorem Keeps.withBuffer {content : Bytes} {body : ℕ → Run α} {Q : α → Frame → Prop}
    {R : ℕ → α → Frame → Prop} (hbody : ∀ a, Keeps run (a :: extra) (Kept run T (a :: extra)) (body a) (R a))
    (hwipe : ∀ a b, Keeps run extra (R a b) (wipe [a]) fun _ ↦ Q b) :
    Keeps run extra (Kept run T extra) (withBuffer content body) Q := by
  refine Keeps.bind keeps_make fun a ↦ fun w h ↦ wp_ensuring (wp_mono (hbody a w h) (hwipe a) ?_)
  exact fun e w' hraised ↦ keeps_wipe_head w' hraised

/-- The usual case: the body keeps the buffer for its caller to wipe. -/
theorem keeps_withBuffer {content : Bytes} {body : ℕ → Run α} {V : α → Condition}
    (hbody : ∀ a, Keeps run (a :: extra) (Kept run T (a :: extra)) (body a)
      fun b ↦ Kept run (V b) (a :: extra)) :
    Keeps run extra (Kept run T extra) (withBuffer content body) fun b ↦ Kept run (V b) extra :=
  Keeps.withBuffer hbody fun _ _ ↦ keeps_wipe_head

theorem Kept.emit (h : Kept run T extra w) (event : Event) :
    Kept run T extra { w with trace := event :: w.trace } := by
  obtain ⟨events, htrace, hfile⟩ := h.file
  exact ⟨h.custody, h.apart, h.typed, h.holds, event :: events,
    congrArg (List.cons event) htrace, hfile.cons event⟩

theorem keeps_emit {event : Event} :
    Keeps run X (Kept run T extra) (emit event) fun _ ↦ Kept run T extra := fun _ h ↦ h.emit event

end Rules

/-! ## Clears -/

section Clears

variable {run : Exchange} {α : Type} {T U : Condition} {extra extra' : List ℕ} {w : Frame}

@[simp]
theorem SessionObject.addresses_close (session : SessionObject) :
    session.close.addresses = session.addresses := by
  cases session <;> rfl

theorem SessionObject.typed_close (session : SessionObject) : session.close.Typed := by
  cases session with
  | resume central => exact fun hstate ↦ by rcases hstate with hstate | hstate <;> cases hstate
  | full handshake =>
    exact ⟨fun hstate ↦ (nomatch hstate), fun hstate ↦ by rcases hstate with hstate | hstate | hstate <;> cases hstate⟩

/-- A condition that a disconnect keeps. -/
def Stable (T : Condition) : Prop :=
  ∀ session app ticket, T session app ticket → T (session.map SessionObject.close) app ticket

theorem stable_anyState : Stable anyState := fun _ _ _ _ ↦ trivial

theorem stable_unopened : Stable unopened := fun _ _ _ h ↦ h

theorem stable_blank : Stable blank := fun _ _ _ h ↦ ⟨by rw [h.1]; rfl, h.2⟩

/-- A new session that owns what the old one and some local buffers were. -/
theorem Kept.setSession {new : List ℕ} {session : SessionObject} (h : Kept run T (new ++ extra) w)
    (hsame : ∀ a, a ∈ session.addresses ↔ a ∈ new ++ w.sessionOwned) (htyped : session.Typed)
    (hU : U (some session) w.app w.ticket.isSome) :
    Kept run U extra { w with session := some session } where
  custody := by
    refine h.custody.congr fun a ↦ ?_
    have hmem : a ∈ ({ w with session := some session } : Frame).sessionOwned ↔ a ∈ new ++ w.sessionOwned :=
      hsame a
    rw [List.mem_append, mem_owned, hmem, List.mem_append, List.mem_append, List.mem_append, mem_owned]
    tauto
  apart ticket hticket hmem := by
    refine h.apart ticket hticket ?_
    have hsession : ticket.root ∈ session.addresses ↔ ticket.root ∈ new ++ w.sessionOwned := hsame _
    rcases List.mem_append.mp hmem with hextra | howned
    · exact List.mem_append_left _ (List.mem_append_right _ hextra)
    · rcases List.mem_append.mp (hsession.mp howned) with hnew | hold
      · exact List.mem_append_left _ (List.mem_append_left _ hnew)
      · exact List.mem_append_right _ hold
  typed other hother := by
    obtain rfl : session = other := Option.some.inj hother
    exact htyped
  holds := hU
  file := h.file

/-- `session.clear()` -/
theorem Kept.closed {session : SessionObject} (h : Kept run T extra w) (hsession : w.session = some session)
    (hU : U (some session.close) w.app w.ticket.isSome) :
    Kept run U extra
      { w with heap := w.heap.wipeAll session.addresses, session := some session.close } := by
  have hwiped : Kept run T ([] ++ extra) { w with heap := w.heap.wipeAll session.addresses } :=
    h.wipe (fun _ ha ↦ ha) fun _ ha ↦ .inl ha
  refine hwiped.setSession (fun a ↦ ?_) session.typed_close hU
  rw [SessionObject.addresses_close, List.nil_append, Frame.sessionOwned, hsession]
  rfl

theorem keeps_sessionClear (hT : Stable T) :
    Keeps run extra' (Kept run T extra) sessionClear fun _ ↦ Kept run T extra := by
  intro w h
  refine wp_bind.mpr (wp_look.mpr ?_)
  cases hsession : w.session with
  | none => exact h
  | some session =>
    refine h.closed hsession ?_
    have hstable := hT _ _ _ h.holds
    rw [hsession] at hstable
    exact hstable

theorem keeps_appClear (hT : Stable T) :
    Keeps run extra' (Kept run T extra) appClear fun _ ↦ Kept run T extra := by
  refine Keeps.bind keeps_peek fun app ↦ ?_
  cases app with
  | none => exact Keeps.pure
  | some app => exact Keeps.bind (keeps_sessionClear hT) fun _ ↦ keeps_wipe_kept

/-- A session may be dropped once it is cleared. -/
theorem keeps_sessionDrop : Keeps run extra' (Kept run unopened extra)
    (do
      sessionClear
      setSession none) fun _ ↦ Kept run idle extra := by
  intro w h
  refine wp_bind.mpr (wp_bind.mpr (wp_look.mpr ?_))
  cases hsession : w.session with
  | none =>
    refine ⟨h.custody.congr fun a ↦ ?_, fun ticket hticket hmem ↦ h.apart ticket hticket ?_, nofun,
      ⟨rfl, h.holds⟩, h.file⟩
    · simp only [List.mem_append, Frame.owned, hsession]
    · rw [Frame.sessionOwned, hsession]
      exact hmem
  | some session =>
    have hcleared := h.closed (U := unopened) hsession h.holds
    refine ⟨?_, fun ticket hticket hmem ↦ hcleared.apart ticket hticket ?_, nofun,
      ⟨rfl, h.holds⟩, h.file⟩
    · refine h.custody.wipeAll (fun a ha ↦ ?_) fun a ha ↦ ?_
      · simp only [List.mem_append, Frame.owned, Option.elim_none, List.not_mem_nil, false_or] at ha ⊢
        tauto
      · simp only [List.mem_append, Frame.owned, hsession, Option.elim_some, Option.elim_none,
          List.not_mem_nil, false_or] at ha ⊢
        tauto
    · exact List.mem_append.mpr ((List.mem_append.mp hmem).imp id fun hnil ↦ absurd hnil List.not_mem_nil)

/-- A ticket with the same root. -/
theorem Kept.setTicket {old ticket : TicketObject} (h : Kept run T extra w) (hold : w.ticket = some old)
    (hroot : ticket.root = old.root) : Kept run T extra { w with ticket := some ticket } where
  custody := by
    refine h.custody.congr fun a ↦ ?_
    simp only [List.mem_append, Frame.owned, hold, Option.elim_some, hroot]
  apart other hother hmem := by
    obtain rfl : ticket = other := Option.some.inj hother
    exact h.apart old hold (hroot ▸ hmem)
  typed := h.typed
  holds := by
    have hholds := h.holds
    rw [hold] at hholds
    exact hholds
  file := h.file

theorem keeps_ticketClear :
    Keeps run extra' (Kept run T extra) ticketClear fun _ ↦ Kept run T extra := by
  intro w h
  refine wp_bind.mpr (wp_look.mpr ?_)
  cases hticket : w.ticket with
  | none => exact h
  | some ticket =>
    have hwiped : Kept run T extra { w with heap := w.heap.wipeAll [ticket.root] } :=
      h.wipe (fun _ ha ↦ ha) fun _ ha ↦ .inl ha
    exact hwiped.setTicket hticket rfl

/-- A method that clears the session before it raises. -/
theorem Keeps.closing {body : Run α} {P : Frame → Prop} {Q : α → Frame → Prop}
    (hbody : Keeps run extra P body Q) : Keeps run extra P (closing body) Q := by
  intro w h
  refine wp_onError (wp_mono (hbody w h) (fun _ _ h ↦ h) fun e w' hraised ↦ ?_)
  exact Keeps.bind (keeps_sessionClear stable_anyState) (fun _ ↦ keeps_fail) w' hraised

/-- A handler that takes care of the buffers which the body leaves when it raises. -/
theorem Keeps.onError {X : List ℕ} {body : Run α} {handler : Exn → Run α} {P : Frame → Prop}
    {Q : α → Frame → Prop} (hbody : Keeps run X P body Q)
    (hhandler : ∀ e, Keeps run extra (Kept run anyState X) (handler e) Q) :
    Keeps run extra P (onError body handler) Q := by
  intro w h
  exact wp_onError (wp_mono (hbody w h) (fun _ _ h ↦ h) fun e w' hraised ↦ hhandler e w' hraised)

end Clears

/-! ## The outside and the store -/

section Outside

variable {run : Exchange} {T : Condition} {extra extra' : List ℕ} {w : Frame} {env : ℕ → Answer}

theorem keeps_ask : Keeps run extra' (Kept run T extra) (ask env) fun _ ↦ Kept run T extra :=
  fun _ h ↦ ⟨h.custody, h.apart, h.typed, h.holds, h.file⟩

/-- **Every wait**, whatever happens meanwhile and whether or not it raises. -/
theorem keeps_await (hT : Stable T) :
    Keeps run extra (Kept run T extra) (await env) fun _ ↦ Kept run T extra := by
  refine Keeps.bind keeps_ask fun answer ↦ Keeps.bind (keeps_onlyIf fun _ ↦ ?_) fun _ ↦ ?_
  · exact Keeps.bind (keeps_appClear hT) fun _ ↦ keeps_sessionClear hT
  · cases answer.raises with
    | none => exact Keeps.pure
    | some fault => exact keeps_fail

theorem keeps_requireLink : Keeps run extra (Kept run T extra) (requireLink env) fun _ ↦ Kept run T extra :=
  Keeps.bind keeps_ask fun _ ↦ Keeps.bind keeps_peek fun _ ↦ keeps_onlyIf fun _ ↦ keeps_fail

theorem keeps_receive (hT : Stable T) :
    Keeps run extra (Kept run T extra) (receive env) fun _ ↦ Kept run T extra :=
  Keeps.bind (keeps_await hT) fun _ ↦ Keeps.bind keeps_requireLink fun _ ↦ Keeps.pure

theorem keeps_sendControl (hT : Stable T) {wire : Bytes} :
    Keeps run extra (Kept run T extra) (sendControl env wire) fun _ ↦ Kept run T extra :=
  Keeps.bind keeps_emit fun _ ↦ Keeps.bind (keeps_await hT) fun _ ↦ Keeps.pure

/-- Deleting the file leaves the buffers and the ticket alone. -/
theorem keeps_storeDelete_beside {P : Heap → Option TicketObject → Prop} :
    Keeps run extra (fun w ↦ Kept run T extra w ∧ P w.heap w.ticket) (storeDelete env)
      fun _ w ↦ Kept run T extra w ∧ P w.heap w.ticket := by
  refine Keeps.bind (Q := fun _ w ↦ Kept run T extra w ∧ P w.heap w.ticket)
    (fun w h ↦ ⟨⟨h.1.custody, h.1.apart, h.1.typed, h.1.holds, h.1.file⟩, h.2⟩) fun answer ↦ ?_
  cases answer.raises with
  | some fault => exact fun w h ↦ h.1.any
  | none =>
    rintro w ⟨h, hbeside⟩
    obtain ⟨events, htrace, -⟩ := h.file
    exact ⟨⟨h.custody, h.apart, h.typed, h.holds, .deleted :: events, congrArg (List.cons _) htrace,
      .inr (.inl rfl)⟩, hbeside⟩

theorem keeps_storeDelete :
    Keeps run extra (Kept run T extra) (storeDelete env) fun _ ↦ Kept run T extra :=
  Keeps.conseq (keeps_storeDelete_beside (P := fun _ _ ↦ True)) (fun _ h ↦ ⟨h, trivial⟩) fun _ _ h ↦ h.1

/-- The ticket in hand, as long as it is valid, is one that this exchange verified. -/
def Verified (run : Exchange) (w : Frame) : Prop :=
  ∀ ticket, w.ticket = some ticket → ticket.valid = true →
    ∃ events, w.trace = events ++ run.start.trace ∧ VerifiedBy run events (ticket.value w.heap)

/-- What `check` does: it returns without a change, or it raises. -/
theorem keeps_ticketCheck {profile : UInt8} {peer : Block 7} (hw : Kept run T extra w) :
    Wp (ticketCheck env profile peer)
      (fun _ w' ↦ w' = { w with position := w.position + 1 })
      (fun _ ↦ Kept run anyState extra) w := by
  refine wp_bind.mpr (wp_look.mpr ?_)
  cases hticket : w.ticket with
  | none => exact hw.any
  | some ticket =>
    dsimp only
    refine wp_bind.mpr (wp_bind.mpr (wp_look.mpr (wp_bind.mpr (wp_update.mpr (wp_pure.mpr ?_)))))
    refine wp_bind.mpr (wp_look.mpr ?_)
    split
    · exact congrArg (fun ticket ↦ ({ w with position := w.position + 1, ticket } : Frame)) hticket
    · refine Keeps.bind (Q := fun _ ↦ Kept run anyState extra) (keeps_onlyIf fun _ ↦ keeps_ticketClear)
        (fun _ ↦ keeps_fail) _ ?_
      exact ⟨hw.custody, hw.apart, hw.typed, trivial, hw.file⟩

/-- Replacing the file by a verified ticket. -/
theorem keeps_replace {stored : Ticket} :
    Keeps run extra
      (fun w ↦ Kept run T extra w ∧ ∃ events, w.trace = events ++ run.start.trace ∧ VerifiedBy run events stored)
      (do
        let answer ← ask env
        onlyIf (answer.yes = true) do
          update fun w ↦ { w with file := .ticket stored }
          emit (.saved stored)
        match answer.raises with
        | some fault => fail fault.exn
        | none => pure ())
      fun _ ↦ Kept run T extra := by
  refine Keeps.bind (Q := fun _ w ↦ Kept run T extra w ∧
      ∃ events, w.trace = events ++ run.start.trace ∧ VerifiedBy run events stored)
    (fun w h ↦ ⟨⟨h.1.custody, h.1.apart, h.1.typed, h.1.holds, h.1.file⟩, h.2⟩) fun answer ↦ ?_
  refine Keeps.bind (Q := fun _ ↦ Kept run T extra) ?_ fun _ ↦ ?_
  · rintro w ⟨h, events, htrace, hby⟩
    unfold onlyIf
    split
    · exact ⟨h.custody, h.apart, h.typed, h.holds, .saved stored :: events,
        congrArg (List.cons _) htrace, .inr (.inr ⟨stored, rfl, hby.cons _⟩)⟩
    · exact h
  · cases answer.raises with
    | some fault => exact keeps_fail
    | none => exact Keeps.pure

/-- **A ticket is stored only when it is verified.** -/
theorem keeps_storeSave : Keeps run extra (fun w ↦ Kept run T extra w ∧ Verified run w) (storeSave env)
    fun _ ↦ Kept run T extra := by
  rintro w ⟨h, hverified⟩
  refine wp_bind.mpr (wp_look.mpr ?_)
  cases hticket : w.ticket with
  | none => exact h.any
  | some ticket =>
    dsimp only
    by_cases hvalid : ticket.valid = false
    · rw [if_pos hvalid]
      exact keeps_storeDelete w h
    · rw [if_neg hvalid]
      refine wp_seq (keeps_ticketCheck h) fun _ w' hw' ↦ ?_
      subst hw'
      have hstored : Kept run T extra { w with position := w.position + 1 } ∧
          ∃ events, w.trace = events ++ run.start.trace ∧ VerifiedBy run events (ticket.value w.heap) :=
        ⟨⟨h.custody, h.apart, h.typed, h.holds, h.file⟩,
          hverified ticket hticket (Bool.eq_true_of_not_eq_false hvalid)⟩
      exact wp_bind.mpr (wp_look.mpr (keeps_replace _ hstored))

end Outside

/-! ## The ticket -/

section Tickets

variable {run : Exchange} {T U : Condition} {extra : List ℕ} {w : Frame} {env : ℕ → Answer}

/-- A new ticket in the place of one that is wiped. -/
theorem Kept.adopt {ticket : TicketObject} (h : Kept run T (ticket.root :: extra) w)
    (hold : ∀ old, w.ticket = some old → w.heap.Wiped old.root)
    (hroot : ticket.root ∉ extra ++ w.sessionOwned) (hU : U w.session w.app true) :
    Kept run U extra { w with ticket := some ticket } where
  custody := by
    refine h.custody.drop (fun a ha ↦ ?_) fun a ha ↦ ?_
    · simp only [List.mem_append, mem_owned, List.mem_cons, Frame.sessionOwned, Option.some.injEq,
        exists_eq_left'] at ha ⊢
      tauto
    · simp only [List.mem_append, mem_owned, List.mem_cons, Frame.sessionOwned, Option.some.injEq,
        exists_eq_left'] at ha ⊢
      rcases ha with (rfl | hextra) | hsession | happ | ⟨old, hticket, rfl⟩
      · exact .inl (.inr (.inr (.inr rfl)))
      · exact .inl (.inl hextra)
      · exact .inl (.inr (.inl hsession))
      · exact .inl (.inr (.inr (.inl happ)))
      · exact .inr (hold old hticket)
  apart other hother := by
    obtain rfl : ticket = other := Option.some.inj hother
    exact hroot
  typed := h.typed
  holds := hU
  file := h.file

/-- A wiped ticket may be dropped. -/
theorem Kept.dropTicket (h : Kept run T extra w) (hold : ∀ old, w.ticket = some old → w.heap.Wiped old.root)
    (hU : U w.session w.app false) : Kept run U extra { w with ticket := none } where
  custody := by
    refine h.custody.drop (fun a ha ↦ ?_) fun a ha ↦ ?_
    · simp only [List.mem_append, mem_owned, Frame.sessionOwned, reduceCtorEq, false_and, exists_false,
        or_false] at ha ⊢
      tauto
    · simp only [List.mem_append, mem_owned, Frame.sessionOwned, reduceCtorEq, false_and, exists_false,
        or_false] at ha ⊢
      rcases ha with hextra | hsession | happ | ⟨old, hticket, rfl⟩
      · exact .inl (.inl hextra)
      · exact .inl (.inr (.inl hsession))
      · exact .inl (.inr (.inr happ))
      · exact .inr (hold old hticket)
  apart := nofun
  typed := h.typed
  holds := hU
  file := h.file

/-- The buffers of a ticket that may have been loaded. -/
def loadedRoots (loaded : Option TicketObject) : List ℕ := loaded.elim [] fun ticket ↦ [ticket.root]

/-- A loaded ticket is valid, and for the profile and the peer of the exchange. -/
def Loaded (run : Exchange) (loaded : Option TicketObject) : Prop :=
  ∀ ticket, loaded = some ticket → ticket.valid = true ∧ ticket.profile = run.profile ∧ ticket.peer = run.peer

theorem keeps_storeLoad :
    Keeps run [] (Kept run blank []) (storeLoad env run.profile run.peer)
      fun loaded w ↦ Kept run blank (loadedRoots loaded) w ∧ Loaded run loaded := by
  have hnone : Keeps run [] (Kept run blank []) (pure none : Run (Option TicketObject))
      fun loaded w ↦ Kept run blank (loadedRoots loaded) w ∧ Loaded run loaded := fun _ h ↦ ⟨h, nofun⟩
  refine Keeps.bind keeps_ask fun answer ↦ Keeps.bind keeps_peek fun file ↦ ?_
  split
  · exact hnone
  · split
    · exact hnone
    · exact Keeps.bind (keeps_onlyIf fun _ ↦ keeps_storeDelete) fun _ ↦ hnone
    · refine Keeps.bind keeps_make fun root ↦ Keeps.bind keeps_peek fun heap ↦ ?_
      split
      · refine fun _ h ↦ ⟨h, fun ticket hticket ↦ ?_⟩
        obtain rfl := Option.some.inj hticket
        exact ⟨rfl, rfl, rfl⟩
      · exact Keeps.bind keeps_wipe_head fun _ ↦ Keeps.bind keeps_storeDelete fun _ ↦ hnone

theorem keeps_setTicket_loaded {loaded : Option TicketObject} :
    Keeps run [] (fun w ↦ Kept run blank (loadedRoots loaded) w ∧ Loaded run loaded) (setTicket loaded)
      fun _ w ↦ Kept run idle [] w ∧ Loaded run w.ticket := by
  rintro w ⟨h, hloaded⟩
  have hnothing : ∀ old, w.ticket = some old → w.heap.Wiped old.root := by
    intro old hold
    have hblank := h.holds.2.2
    rw [hold] at hblank
    cases hblank
  refine ⟨?_, hloaded⟩
  cases loaded with
  | none => exact h.dropTicket hnothing ⟨h.holds.1, h.holds.2.1⟩
  | some ticket =>
    refine Kept.adopt h hnothing ?_ ⟨h.holds.1, h.holds.2.1⟩
    rw [Frame.sessionOwned, h.holds.1]
    exact List.not_mem_nil

/-- A check that fails for a valid ticket of the right profile and peer clears it. -/
theorem check_eq_error_of_valid {ticket after : Ticket} {profile : UInt8} {peer : Block 7} {now : ℚ}
    {reason : Reason} (hvalid : ticket.valid = true) (hprofile : ticket.profile = profile)
    (hpeer : ticket.peer = peer) (h : ticket.check profile peer now = .error (reason, after)) :
    after = ticket.clear := by
  unfold Resumption.Python.Ticket.check at h
  rw [if_neg (by simp [hvalid])] at h
  split at h
  · exact (Prod.mk.inj (Except.error.inj h)).2.symm
  · split at h
    · exact (Prod.mk.inj (Except.error.inj h)).2.symm
    · rw [if_neg (by rw [hprofile, hpeer]; simp)] at h
      cases h

/-- A loaded ticket that fails its check has been wiped. -/
theorem keeps_ticketCheck_loaded {ticket : TicketObject} (h : Kept run T extra w)
    (hticket : w.ticket = some ticket) (hvalid : ticket.valid = true)
    (hprofile : ticket.profile = run.profile) (hpeer : ticket.peer = run.peer) :
    Wp (ticketCheck env run.profile run.peer) (fun _ ↦ Kept run T extra)
      (fun _ w' ↦ Kept run T extra w' ∧ ∀ old, w'.ticket = some old → w'.heap.Wiped old.root) w := by
  refine wp_bind.mpr (wp_look.mpr ?_)
  rw [hticket]
  dsimp only
  refine wp_bind.mpr (wp_bind.mpr (wp_look.mpr (wp_bind.mpr (wp_update.mpr (wp_pure.mpr ?_)))))
  refine wp_bind.mpr (wp_look.mpr ?_)
  have hmoved : Kept run T extra { w with position := w.position + 1 } :=
    ⟨h.custody, h.apart, h.typed, h.holds, h.file⟩
  split
  · exact hmoved
  · next reason after hcheck =>
    have hafter := check_eq_error_of_valid hvalid hprofile hpeer hcheck
    have hchanged : after.valid ≠ ticket.valid := by
      rw [hafter, hvalid]
      exact Bool.false_ne_true
    rw [onlyIf, if_pos hchanged]
    refine wp_bind.mpr (wp_bind.mpr (wp_look.mpr ?_))
    have hsame : ({ w with position := w.position + 1 } : Frame).ticket = some ticket := hticket
    rw [hsame]
    have hwiped : Kept run T extra
        { w with position := w.position + 1, heap := w.heap.wipeAll [ticket.root] } :=
      hmoved.wipe (fun _ ha ↦ ha) fun _ ha ↦ .inl ha
    refine ⟨hwiped.setTicket hticket rfl, fun old hold ↦ ?_⟩
    obtain rfl := Option.some.inj hold
    exact Heap.wiped_wipe w.heap ticket.root

/-- **The test modes on the ticket**: a ticket is dropped only after its check has wiped it. -/
theorem keeps_lifecycle {negative : Option Negative} :
    Keeps run [] (fun w ↦ Kept run idle [] w ∧ Loaded run w.ticket)
      (lifecycle env run.profile run.peer negative) fun _ ↦ Kept run idle [] := by
  rintro w ⟨h, hloaded⟩
  unfold lifecycle onlyIf
  split
  · refine wp_bind.mpr (wp_look.mpr ?_)
    cases hticket : w.ticket with
    | none => exact h.any
    | some ticket =>
      obtain ⟨hvalid, hprofile, hpeer⟩ := hloaded ticket hticket
      refine wp_bind.mpr (wp_update.mpr (wp_onError ?_))
      refine wp_mono (keeps_ticketCheck_loaded (h.setTicket hticket ?_) rfl ?_ ?_ ?_) (fun _ _ h ↦ h) ?_
      · split <;> rfl
      · split <;> exact hvalid
      · split <;> exact hprofile
      · split <;> exact hpeer
      · rintro e w' ⟨h', hwiped⟩
        cases e with
        | resume reason =>
          refine Keeps.bind (Q := fun _ w ↦ Kept run idle [] w ∧
            ∀ old, w.ticket = some old → w.heap.Wiped old.root)
            (keeps_storeDelete_beside (P := fun heap ticket ↦
              ∀ old, ticket = some old → heap.Wiped old.root)) (fun _ w h ↦ ?_) w' ⟨h', hwiped⟩
          exact h.1.dropTicket h.2 h.1.holds
        | _ => exact h'.any
  · exact h

end Tickets

/-! ## The resumption -/

section Resumption

variable {run : Exchange} {T : Condition} {extra : List ℕ} {w : Frame} {env : ℕ → Answer}

theorem keeps_resumeObjects : Keeps run extra (Kept run T extra) resumeObjects fun objects w ↦
    Kept run T extra w ∧ w.session = some (.resume objects.1) ∧ w.ticket = some objects.2 := by
  intro w h
  refine wp_bind.mpr (wp_look.mpr (wp_bind.mpr (wp_look.mpr ?_)))
  split
  · next central ticket hsession hticket => exact ⟨h, hsession, hticket⟩
  · exact h.any

theorem keeps_makeResume : Keeps run extra (Kept run idle extra) (makeResume env)
    fun _ ↦ Kept run unopened extra := by
  intro w h
  refine wp_bind.mpr (wp_look.mpr ?_)
  cases w.ticket with
  | none => exact h.any
  | some ticket =>
    refine wp_seq (keeps_ticketCheck h) fun _ w' hw' ↦ ?_
    subst hw'
    have hmoved : Kept run idle ([] ++ extra) { w with position := w.position + 1 } :=
      ⟨h.custody, h.apart, h.typed, h.holds, h.file⟩
    refine Keeps.bind keeps_ask (fun drawn w h ↦ ?_) _ hmoved
    refine h.setSession (fun a ↦ ?_) (fun _ ↦ rfl) h.holds.2
    rw [Frame.sessionOwned, h.holds.1]
    rfl

theorem keeps_resumeBegin : Keeps run extra (Kept run unopened extra) (resumeBegin run.crypto)
    fun _ ↦ Kept run unopened extra := by
  refine Keeps.bind keeps_resumeObjects fun objects ↦ Keeps.bind keeps_peek fun heap ↦ ?_
  obtain ⟨central, ticket⟩ := objects
  dsimp only
  split
  · exact Keeps.conseq (Keeps.bind (keeps_sessionClear stable_unopened) fun _ ↦ keeps_fail)
      (fun _ h ↦ h.1) fun _ _ h ↦ h
  · next hnew =>
    refine Keeps.bind (Q := fun _ ↦ Kept run unopened extra) ?_ fun _ ↦
      Keeps.conseq keeps_orResume (fun _ h ↦ h) fun _ _ h ↦ h.1
    rintro w ⟨h, hsession, -⟩
    have hfresh : Kept run unopened ([] ++ extra) w := h
    refine hfresh.setSession (fun a ↦ ?_) ?_ h.holds
    · rw [Frame.sessionOwned, hsession]
      rfl
    · exact fun _ ↦ h.typed _ hsession (.inl (not_not.mp hnew))

theorem keeps_expandKey {raised : List ℕ} {prk th : Block 32} {label : Bytes} {length : ℕ} :
    Keeps run raised (Kept run T extra) (expandKey run.crypto prk th label length)
      fun a ↦ Kept run T (a :: extra) := by
  refine Keeps.bind keeps_make fun block ↦ Keeps.bind keeps_make fun key ↦ ?_
  refine Keeps.bind (keeps_wipe (fun a ha ↦ ?_) fun a ha ↦ ?_) fun _ _ h ↦ h
  · exact (List.mem_cons.mp ha).elim (fun heq ↦ heq ▸ List.mem_cons_self)
      fun hrest ↦ List.mem_cons_of_mem _ (List.mem_cons_of_mem _ hrest)
  · simp only [List.mem_cons] at ha ⊢
    tauto

/-- **The constructor of `SessionKeys`** leaves nothing behind but the buffers of its object. -/
theorem keeps_makeKeys {root : Block 32} {rid sid nc np : Bytes} {profile : UInt8} :
    Keeps run extra (Kept run T extra) (makeKeys run.crypto root rid sid nc np profile)
      fun keys ↦ Kept run T (keys.addresses ++ extra) := by
  refine Keeps.bind keeps_orResume fun input ↦ Keeps.fact fun _ ↦ ?_
  refine Keeps.bind keeps_orResume fun name ↦ Keeps.fact fun _ ↦ ?_
  refine Keeps.bind keeps_make fun th ↦ Keeps.bind keeps_make fun prk ↦ ?_
  refine Keeps.bind keeps_expandKey fun confirmC ↦ Keeps.bind keeps_expandKey fun confirmP ↦ ?_
  refine Keeps.bind keeps_expandKey fun c2p ↦ Keeps.bind keeps_expandKey fun p2c ↦ ?_
  refine Keeps.bind keeps_expandKey fun ivC2p ↦ Keeps.bind keeps_expandKey fun ivP2c ↦ ?_
  refine Keeps.bind (keeps_wipe (X := [confirmC, confirmP, th, c2p, p2c, ivC2p, ivP2c] ++ extra)
    (fun a ha ↦ ?_) fun a ha ↦ ?_) fun _ _ h ↦ h
  · simp only [List.mem_append, List.mem_cons, List.not_mem_nil, or_false] at ha ⊢
    tauto
  · simp only [List.mem_append, List.mem_cons, List.not_mem_nil, or_false] at ha ⊢
    tauto

/-- **`accept`**: the keys belong to the session as soon as they exist. -/
theorem keeps_accept {raw : Bytes} : Keeps run extra (Kept run unopened extra) (accept run.crypto raw)
    fun _ ↦ Kept run unopened extra := by
  refine Keeps.closing (Keeps.bind keeps_resumeObjects fun objects ↦ Keeps.bind keeps_peek fun heap ↦ ?_)
  obtain ⟨central, ticket⟩ := objects
  dsimp only
  refine Keeps.conseq (R := Kept run (holding (.resume central)) extra) ?_
    (fun w h ↦ h.1.imp fun happ ↦ ⟨h.2.1, happ⟩) fun _ _ h ↦ h
  refine Keeps.bind keeps_onlyIf_fail fun _ ↦ Keeps.fact fun hstate ↦ ?_
  refine Keeps.bind keeps_orResume fun payload ↦ Keeps.fact fun _ ↦ ?_
  refine Keeps.bind keeps_orResume fun expected ↦ Keeps.fact fun _ ↦ ?_
  refine Keeps.bind keeps_onlyIf_fail fun _ ↦ Keeps.fact fun _ ↦ ?_
  refine Keeps.bind keeps_makeKeys fun keys ↦ ?_
  refine Keeps.bind (Q := fun _ ↦ Kept run unopened extra) ?_ fun _ ↦ Keeps.bind keeps_peek fun heap ↦
    Keeps.conseq keeps_orResume (fun _ h ↦ h) fun _ _ h ↦ h.1
  intro w h
  have hkeys : central.keys = none := h.typed _ h.holds.1 (.inr (not_not.mp hstate))
  refine h.setSession (fun a ↦ ?_) (fun hopen ↦ by rcases hopen with hopen | hopen <;> cases hopen) h.holds.2
  rw [Frame.sessionOwned, h.holds.1, Option.elim_some, SessionObject.addresses, SessionObject.addresses,
    hkeys, Option.elim_none, List.append_nil]
  rfl

/-- `used` counts one use, and clears the ticket at the last one. -/
theorem keeps_ticketUsed {ticket : TicketObject} (h : Kept run T extra w) (hticket : w.ticket = some ticket) :
    Wp ticketUsed (fun _ w' ↦ Kept run T extra w' ∧ w'.session = w.session ∧ w'.trace = w.trace ∧
      ∀ used, w'.ticket = some used → used.valid = true →
        used.value w'.heap = (ticket.value w.heap).used) (fun _ ↦ Kept run anyState extra) w := by
  refine wp_bind.mpr (wp_look.mpr ?_)
  rw [hticket]
  refine wp_bind.mpr (wp_update.mpr ?_)
  have hcounted : Kept run T extra { w with
      ticket := some { ticket with successfulResumes := ticket.successfulResumes + 1 } } :=
    h.setTicket hticket rfl
  unfold onlyIf
  split
  · have hwiped : Kept run T extra { w with
        heap := w.heap.wipeAll [ticket.root]
        ticket := some { ticket with successfulResumes := ticket.successfulResumes + 1 } } :=
      hcounted.wipe (fun _ ha ↦ ha) fun _ ha ↦ .inl ha
    refine ⟨hwiped.setTicket rfl rfl, rfl, rfl, fun used hused hvalid ↦ ?_⟩
    obtain rfl := Option.some.inj hused
    cases hvalid
  · next hmore =>
    refine ⟨hcounted, rfl, rfl, fun used hused hvalid ↦ ?_⟩
    obtain rfl := Option.some.inj hused
    exact (if_neg hmore).symm

/-- Wiping other buffers leaves the contents of a ticket alone. -/
theorem TicketObject.value_wipeAll {ticket : TicketObject} {heap : Heap} {addresses : List ℕ}
    (h : ticket.root ∉ addresses) : ticket.value (heap.wipeAll addresses) = ticket.value heap := by
  simp only [TicketObject.value, Heap.block, Heap.read_wipeAll_of_notMem h]

/-- **`finish`**: FINISH_P of the ticket in hand is verified. -/
theorem keeps_resumeFinish {reply : Bytes} :
    Keeps run extra (Kept run unopened extra) (resumeFinish run.crypto reply)
      fun _ w ↦ Kept run unopened extra w ∧ Verified run w := by
  refine Keeps.closing (Keeps.bind keeps_resumeObjects fun objects ↦ ?_)
  obtain ⟨central, ticket⟩ := objects
  rintro w ⟨h, hsession, hticket⟩
  refine wp_bind.mpr (wp_look.mpr (wp_bind.mpr ?_))
  cases hbody : (central.value w.heap).finishBody run.crypto reply with
  | error reason => exact h.any
  | ok keys =>
    -- The wiped confirmation secrets belong to the session, so the root of the ticket is not among them.
    have hroot : ticket.root ∉ central.keys.elim [] fun keys ↦ [keys.confirmC, keys.confirmP, keys.th] := by
      intro hmem
      refine h.apart ticket hticket (List.mem_append_right _ ?_)
      rw [Frame.sessionOwned, hsession, Option.elim_some, SessionObject.addresses]
      cases hkeys : central.keys with
      | none =>
        rw [hkeys] at hmem
        exact hmem
      | some keys =>
        rw [hkeys] at hmem
        simp only [Option.elim_some, KeysObject.addresses, List.mem_cons, List.not_mem_nil, or_false] at hmem ⊢
        tauto
    have hfinish : ((central.value w.heap).finish run.crypto (ticket.value w.heap) reply).1 = .ok () := by
      rw [CentralResume.finish, hbody]
    obtain ⟨events, htrace, -⟩ := h.file
    have hwiped := (h.emit (.finishPVerified (central.value w.heap) (ticket.value w.heap) reply)).wipe
      (A := central.keys.elim [] fun keys ↦ [keys.confirmC, keys.confirmP, keys.th])
      (fun _ ha ↦ ha) fun _ ha ↦ .inl ha
    refine wp_bind.mpr (wp_update.mpr (wp_bind.mpr (wp_update.mpr (wp_bind.mpr ?_))))
    refine wp_mono (keeps_ticketUsed hwiped hticket) ?_ fun _ _ h ↦ h
    rintro - w' ⟨h', hsame, htrace', hused⟩
    have hkept : Kept run unopened ([] ++ extra) w' := h'
    refine ⟨hkept.setSession (fun a ↦ ?_) ?_ h'.holds, fun used hticket' hvalid ↦ ?_⟩
    · rw [Frame.sessionOwned, hsame, hsession]
      rfl
    · exact fun hopen ↦ by rcases hopen with hopen | hopen <;> cases hopen
    · refine ⟨.finishPVerified (central.value w.heap) (ticket.value w.heap) reply :: events,
        htrace'.trans (congrArg (List.cons _) htrace), .inl ⟨_, _, _, List.mem_cons_self, hfinish, ?_⟩⟩
      rw [hused used hticket' hvalid, TicketObject.value_wipeAll hroot]

end Resumption

/-! ## The full handshake -/

section Full

variable {run : Exchange} {T : Condition} {extra : List ℕ} {w : Frame} {env : ℕ → Answer}

theorem keeps_makeFull : Keeps run extra (Kept run idle extra) (makeFull run.profile)
    fun _ ↦ Kept run unopened extra := by
  refine Keeps.bind keeps_orResume fun name ↦ Keeps.fact fun _ w h ↦ ?_
  have hfresh : Kept run idle ([] ++ extra) w := h
  refine hfresh.setSession (fun a ↦ ?_) ⟨fun _ ↦ rfl, fun _ ↦ rfl⟩ h.holds.2
  rw [Frame.sessionOwned, h.holds.1]
  rfl

/-- The session as a full handshake, for the rest of a method. -/
theorem keeps_fullObject : Keeps run extra (Kept run unopened extra) fullObject
    fun handshake ↦ Kept run (holding (.full handshake)) extra := by
  intro w h
  refine wp_bind.mpr (wp_look.mpr ?_)
  split
  · next handshake hsession => exact h.imp fun happ ↦ ⟨hsession, happ⟩
  · exact h.any

/-- **`begin`**: the handshake keys belong to the session, and what they were derived from is wiped. -/
theorem keeps_fullBegin {ss pk ct sid ecdh centralPublic peripheralPublic sec : Bytes} :
    Keeps run extra (Kept run unopened extra)
      (fullBegin run.crypto run.onCurve ss pk ct sid ecdh centralPublic peripheralPublic sec)
      fun _ ↦ Kept run unopened extra := by
  refine Keeps.closing (Keeps.bind keeps_fullObject fun handshake ↦ Keeps.bind keeps_peek fun heap ↦ ?_)
  refine Keeps.bind keeps_orRaise fun next ↦ Keeps.fact fun hbegin ↦ ?_
  have hnew : handshake.state = .new := (FullHandshake.begin_eq_some hbegin).1
  refine Keeps.bind keeps_make fun ikm ↦ Keeps.bind keeps_make fun th ↦ Keeps.bind keeps_make fun prk ↦ ?_
  refine Keeps.bind (keeps_wipe (X := prk :: th :: extra) (fun a ha ↦ ?_) fun a ha ↦ ?_) fun _ ↦ ?_
  · simp only [List.mem_cons] at ha ⊢
    tauto
  · simp only [List.mem_cons, List.not_mem_nil, or_false] at ha ⊢
    tauto
  -- A session that has not begun owns nothing, so the new keys are all it owns.
  have hopened : ∀ {keys : HandshakeKeys} {w : Frame},
      Kept run (holding (.full handshake)) (keys.addresses ++ extra) w →
        Kept run unopened extra { w with session := some (.full { handshake with
          sessionId := next.sessionId, keys := some keys, state := .waitAuth }) } := by
    intro keys w h
    obtain ⟨hkeys, htraffic⟩ := h.typed _ h.holds.1
    have hnone := htraffic (.inl hnew)
    refine h.setSession (fun a ↦ ?_) ⟨nofun, fun _ ↦ hnone⟩ h.holds.2
    rw [Frame.sessionOwned, h.holds.1, Option.elim_some, SessionObject.addresses, SessionObject.addresses,
      hkeys hnew, hnone]
    rfl
  split
  · refine Keeps.bind keeps_make fun block ↦ Keeps.bind keeps_make fun application ↦ ?_
    refine Keeps.bind keeps_make fun sasKey ↦ Keeps.bind keeps_make fun confirmC ↦ ?_
    refine Keeps.bind keeps_make fun confirmP ↦ Keeps.bind (keeps_wipe
      (X := ([prk, th, confirmC, confirmP] ++ [application, sasKey]) ++ extra)
      (fun a ha ↦ ?_) fun a ha ↦ ?_) fun _ w h ↦
      @hopened { prk, th, confirmC, confirmP, hybrid := some (application, sasKey) } w h
    · simp only [List.mem_append, List.mem_cons, List.not_mem_nil, or_false] at ha ⊢
      tauto
    · simp only [List.mem_append, List.mem_cons, List.not_mem_nil, or_false] at ha ⊢
      tauto
  · refine Keeps.bind keeps_make fun confirmC ↦ Keeps.bind keeps_make fun confirmP ↦ ?_
    intro w h
    refine @hopened { prk, th, confirmC, confirmP, hybrid := none } w ?_
    refine h.reorder fun a ↦ ?_
    simp only [HandshakeKeys.addresses, pairAddresses, Option.elim_none, List.mem_append, List.mem_cons,
      List.not_mem_nil, or_false]
    tauto

theorem keeps_fullSas : Keeps run extra (Kept run unopened extra) (fullSas run.crypto)
    fun _ ↦ Kept run unopened extra := by
  refine Keeps.bind keeps_fullObject fun handshake ↦ Keeps.bind keeps_peek fun heap ↦ ?_
  exact Keeps.bind keeps_orRaise fun _ w h ↦ h.1.imp fun hholds ↦ hholds.2

/-- **The chaining of the transcript hash** trades the old buffer, wiped, for the new one. -/
theorem keeps_chainTh {handshake : FullObject} {keys : HandshakeKeys} {wire : Bytes}
    (hkeys : handshake.keys = some keys) :
    Keeps run extra (Kept run (holding (.full handshake)) extra) (chainTh run.crypto handshake keys wire)
      fun keys' ↦ Kept run (holding (.full { handshake with keys := some keys' })) extra := by
  unfold chainTh
  split
  · intro w h
    refine h.imp fun hholds ↦ ⟨hholds.1.trans ?_, hholds.2⟩
    rw [← hkeys]
  · intro w h
    set content := (run.crypto.hash ((w.heap.block 32 keys.th).bytes ++ wire)).bytes with hcontent
    have hmade := h.make content
    have hsession := h.holds.1
    have htyped := h.typed _ hsession
    have howned : w.sessionOwned = keys.addresses ++ pairAddresses handshake.traffic := by
      rw [Frame.sessionOwned, hsession, Option.elim_some, SessionObject.addresses, hkeys]
      rfl
    refine ⟨?_, ?_, ?_, ⟨rfl, h.holds.2⟩, h.file⟩
    · refine hmade.custody.wipeAll (fun a ha ↦ ?_) fun a ha ↦ ?_
      · simp only [List.mem_append, mem_owned, List.mem_cons, Frame.sessionOwned, Option.elim_some,
          SessionObject.addresses, HandshakeKeys.addresses, List.not_mem_nil, or_false] at ha ⊢
        rw [← Frame.sessionOwned, howned]
        simp only [List.mem_append, List.mem_cons, HandshakeKeys.addresses, List.not_mem_nil, or_false]
        tauto
      · simp only [List.mem_append, mem_owned, List.mem_cons, Frame.sessionOwned, Option.elim_some,
          SessionObject.addresses, HandshakeKeys.addresses, List.not_mem_nil, or_false] at ha ⊢
        rw [← Frame.sessionOwned, howned] at ha
        simp only [List.mem_append, List.mem_cons, HandshakeKeys.addresses, List.not_mem_nil, or_false] at ha
        grind
    · intro ticket hticket hmem
      refine hmade.apart ticket hticket ?_
      have hold : ({ w with heap := w.heap.make content } : Frame).sessionOwned =
          keys.addresses ++ pairAddresses handshake.traffic := howned
      rw [hold]
      simp only [List.mem_append, List.mem_cons, Frame.sessionOwned, Option.elim_some,
        SessionObject.addresses, HandshakeKeys.addresses, List.not_mem_nil, or_false] at hmem ⊢
      tauto
    · intro session hsome
      obtain rfl := Option.some.inj hsome
      refine ⟨fun hnew ↦ ?_, htyped.2⟩
      exact absurd ((htyped.1 hnew).symm.trans hkeys) nofun

/-- **`finish_c`** -/
theorem keeps_fullFinishC {authenticated : Bool} :
    Keeps run extra (Kept run unopened extra) (fullFinishC run.crypto run.onCurve authenticated)
      fun _ ↦ Kept run unopened extra := by
  refine Keeps.closing (Keeps.bind keeps_fullObject fun handshake ↦ Keeps.bind keeps_peek fun heap ↦ ?_)
  refine Keeps.bind keeps_onlyIf_fail fun _ ↦ Keeps.fact fun hallowed ↦ ?_
  have hwait : handshake.state = .waitAuth := not_not.mp fun hne ↦ hallowed (.inl hne)
  refine Keeps.bind keeps_orRaise fun keys ↦ Keeps.fact fun hkeys ↦ ?_
  refine Keeps.bind keeps_orRaise fun d ↦ Keeps.fact fun _ ↦ ?_
  refine Keeps.bind (keeps_withBuffer (V := fun _ ↦ holding (.full handshake)) fun tag ↦
    Keeps.conseq keeps_orRaise (fun _ h ↦ h) fun _ _ h ↦ h.1) fun wire ↦ ?_
  refine Keeps.bind (keeps_chainTh hkeys) fun keys' ↦ ?_
  refine Keeps.bind (Q := fun _ ↦ Kept run unopened extra) (fun w h ↦ ?_) fun _ ↦ Keeps.pure
  have hheld : Kept run (holding (.full { handshake with keys := some keys' })) ([] ++ extra) w := h
  refine hheld.setSession (fun a ↦ ?_) ⟨nofun, fun _ ↦ ?_⟩ h.holds.2
  · rw [Frame.sessionOwned, h.holds.1]
    rfl
  · exact (h.typed _ h.holds.1).2 (.inr (.inl hwait))

end Full

/-! ## The new ticket and the application -/

section Opening

variable {run : Exchange} {T : Condition} {extra : List ℕ} {w : Frame} {env : ℕ → Answer}

/-- A ticket that was just issued: beside its root only `extra` buffers are left over. -/
structure Issued (run : Exchange) (extra : List ℕ) (ticket : Ticket) (issued : TicketObject) (w : Frame) :
    Prop where
  kept : Kept run unopened (issued.root :: extra) w
  fresh : issued.root ∉ extra ++ w.owned
  value : issued.value w.heap = ticket

/-- A new ticket has never been used. -/
theorem finishP_ticket {crypto : Crypto} {onCurve : Bytes → Bool} {h next : FullHandshake} {raw : Bytes}
    {peer : Block 7} {now : ℚ} {ticket : Ticket} (hfinish : h.finishP crypto onCurve raw peer now = some next)
    (hticket : next.ticket = some ticket) : ticket.replay = [] ∧ ticket.valid = true := by
  simp only [FullHandshake.finishP, Option.bind_eq_bind, Option.bind_eq_some_iff, Option.guard_eq_some',
    exists_and_left, exists_const, Option.pure_def, Option.some.injEq, Prod.exists] at hfinish
  obtain ⟨-, subtype, payload, -, -, d, -, -, issued, hissue, rfl⟩ := hfinish
  obtain rfl := Option.some.inj hticket
  simp only [issueTicket, Option.bind_eq_bind, Option.bind_eq_some_iff, Option.pure_def,
    Option.some.injEq] at hissue
  obtain ⟨root, -, rid, -, rfl⟩ := hissue
  exact ⟨rfl, rfl⟩

/-- The end of `finish_p`: the session trades its handshake keys, wiped, for the traffic keys. -/
theorem keeps_openTraffic {handshake : FullObject} {keys : HandshakeKeys} {raw : Bytes} {next : FullHandshake}
    {ticket : Ticket} (hstate : handshake.state = .waitFinishedP) (hkeys : handshake.keys = some keys)
    (hreplay : ticket.replay = []) (hvalid : ticket.valid = true) :
    Keeps run extra (Kept run (holding (.full handshake)) extra)
      (openTraffic run.crypto handshake keys raw next ticket) fun issued ↦ Issued run extra ticket issued := by
  refine Keeps.bind (keeps_chainTh hkeys) fun keys' w h ↦ ?_
  have hnone : handshake.traffic = none := (h.typed _ h.holds.1).2 (.inr (.inr hstate))
  have howned : w.sessionOwned = keys'.addresses := by
    rw [Frame.sessionOwned, h.holds.1, Option.elim_some, SessionObject.addresses, hnone]
    exact List.append_nil _
  have hbound : ∀ a ∈ extra ++ w.owned, a < w.heap.size := h.custody.bounded
  have hkeysBound : ∀ a ∈ keys'.addresses, a < w.heap.size := fun a ha ↦
    hbound a (List.mem_append_right _ (mem_owned.mpr (.inl (howned ▸ ha))))
  have hmade := ((h.make next.appC2p.bytes).make next.appP2c.bytes).make ticket.root.bytes
  have hwiped := hmade.wipe (A := keys'.addresses)
    (X := [w.heap.size, w.heap.size + 1] ++ ((w.heap.size + 2) :: extra))
    (fun a ha ↦ by
      simp only [List.mem_append, List.mem_cons, List.not_mem_nil, or_false, Heap.size_make] at ha ⊢
      tauto)
    (fun a ha ↦ .inl (by
      simp only [List.mem_append, List.mem_cons, List.not_mem_nil, or_false, Heap.size_make] at ha ⊢
      tauto))
  have hroot : w.heap.size + 2 ∉ keys'.addresses := fun hmem ↦ by
    have := hkeysBound _ hmem
    omega
  refine ⟨hwiped.setSession (fun a ↦ ?_) ⟨nofun, fun hopen ↦ ?_⟩ h.holds.2, fun hmem ↦ ?_, ?_⟩
  · have hsame : ({ w with heap := (((w.heap.make next.appC2p.bytes).make next.appP2c.bytes).make
        ticket.root.bytes).wipeAll keys'.addresses } : Frame).sessionOwned = keys'.addresses := howned
    rw [hsame]
    simp only [SessionObject.addresses, pairAddresses, Option.elim_some, List.mem_append, List.mem_cons,
      List.not_mem_nil, or_false, Heap.size_make]
    tauto
  · rcases hopen with hopen | hopen | hopen <;> cases hopen
  · simp only [List.mem_append, mem_owned, Frame.sessionOwned, Option.elim_some, SessionObject.addresses,
      pairAddresses, List.mem_cons, List.not_mem_nil, or_false, Heap.size_make] at hmem
    rcases hmem with hextra | ((hold | hnew) | happ | hticket)
    · have := hbound _ (List.mem_append_left _ hextra)
      omega
    · exact hroot hold
    · omega
    · have := hbound _ (List.mem_append_right _ (mem_owned.mpr (.inr (.inl happ))))
      omega
    · have := hbound _ (List.mem_append_right _ (mem_owned.mpr (.inr (.inr hticket))))
      omega
  · have hread : ((((w.heap.make next.appC2p.bytes).make next.appP2c.bytes).make
        ticket.root.bytes).wipeAll keys'.addresses).read (w.heap.size + 2) = ticket.root.bytes :=
      (Heap.read_wipeAll_of_notMem hroot).trans Heap.read_make
    obtain ⟨profile, peer, rid, root, createdAt, uses, replay, valid⟩ := ticket
    obtain rfl : replay = [] := hreplay
    obtain rfl : valid = true := hvalid
    have hblock : ((((w.heap.make next.appC2p.bytes).make next.appP2c.bytes).make
        root.bytes).wipeAll keys'.addresses).block 32 (w.heap.size + 2) = root := by
      rw [Heap.block, hread, Block.ofBytes_self]
    exact congrArg (fun root ↦ ({ profile, peer, rid, root, createdAt, successfulResumes := uses, replay := []
                                  valid := true } : Ticket)) hblock

/-- A ticket whose FINISHED_P this exchange verified. -/
def Granted (run : Exchange) (extra : List ℕ) (issued : TicketObject) (w : Frame) : Prop :=
  ∃ ticket events, Issued run extra ticket issued w ∧ w.trace = events ++ run.start.trace ∧
    VerifiedBy run events ticket

/-- **`finish_p`** -/
theorem keeps_fullFinishP {raw : Bytes} {now : ℚ} :
    Keeps run extra (Kept run unopened extra) (fullFinishP run.crypto run.onCurve run.peer raw now)
      (Granted run extra) := by
  refine Keeps.closing (Keeps.bind keeps_fullObject fun handshake ↦ Keeps.bind keeps_peek fun heap ↦ ?_)
  refine Keeps.bind keeps_onlyIf_fail fun _ ↦ Keeps.fact fun hwait ↦ ?_
  refine Keeps.bind keeps_orRaise fun keys ↦ Keeps.fact fun hkeys ↦ ?_
  refine Keeps.bind keeps_orRaise fun frame ↦ Keeps.fact fun _ ↦ ?_
  obtain ⟨subtype, payload⟩ := frame
  refine Keeps.bind keeps_onlyIf_fail fun _ ↦ Keeps.fact fun _ ↦ ?_
  refine Keeps.bind keeps_orRaise fun d ↦ Keeps.fact fun _ ↦ ?_
  refine Keeps.withBuffer (R := fun a ↦ Granted run (a :: extra)) (fun a ↦ ?_) fun a issued ↦ ?_
  · refine Keeps.bind keeps_onlyIf_fail fun _ ↦ Keeps.fact fun _ ↦ ?_
    refine Keeps.bind keeps_orRaise fun next ↦ Keeps.fact fun hfinish ↦ ?_
    refine Keeps.bind keeps_orRaise fun ticket ↦ Keeps.fact fun hticket ↦ ?_
    obtain ⟨hreplay, hvalid⟩ := finishP_ticket hfinish hticket
    refine Keeps.bind (keeps_openTraffic (not_not.mp hwait) hkeys hreplay hvalid) fun issued w h ↦ ?_
    obtain ⟨events, htrace, -⟩ := h.kept.file
    refine ⟨ticket, .finishedPVerified (handshake.value heap) raw run.peer now :: events,
      ⟨h.kept.emit _, h.fresh, h.value⟩, congrArg (List.cons _) htrace, .inr ?_⟩
    exact ⟨handshake.value heap, raw, now, next, List.mem_cons_self, hfinish, hticket⟩
  · -- The expected tag is wiped; it is not the root.
    rintro w ⟨ticket, events, h, htrace, hverified⟩
    have hne : issued.root ∉ [a] := fun hmem ↦ h.fresh
      (List.mem_append_left _ (List.mem_singleton.mp hmem ▸ List.mem_cons_self))
    refine ⟨ticket, events, ⟨?_, fun hmem ↦ h.fresh ?_, ?_⟩, htrace, hverified⟩
    · refine h.kept.wipe (fun b hb ↦ ?_) fun b hb ↦ ?_
      · simp only [List.mem_cons] at hb ⊢
        tauto
      · simp only [List.mem_cons, List.not_mem_nil, or_false] at hb ⊢
        tauto
    · rw [List.cons_append]
      exact List.mem_cons_of_mem _ hmem
    · exact (TicketObject.value_wipeAll hne).trans h.value

/-- The old ticket is cleared before the new one takes its place. -/
theorem keeps_ticketClear_granted {issued : TicketObject} :
    Keeps run extra (Granted run extra issued) ticketClear fun _ w ↦ Granted run extra issued w ∧
      ∀ old, w.ticket = some old → w.heap.Wiped old.root := by
  rintro w ⟨ticket, events, h, htrace, hverified⟩
  refine wp_bind.mpr (wp_look.mpr ?_)
  cases hticket : w.ticket with
  | none =>
    refine ⟨⟨ticket, events, h, htrace, hverified⟩, fun old hold ↦ ?_⟩
    rw [hticket] at hold
    cases hold
  | some held =>
    have hne : issued.root ∉ [held.root] := fun hmem ↦ h.fresh (List.mem_append_right _
      (mem_owned.mpr (.inr (.inr ⟨held, hticket, List.mem_singleton.mp hmem⟩))))
    have hwiped := h.kept.wipe (A := [held.root]) (fun _ ha ↦ ha) fun _ ha ↦ .inl ha
    refine ⟨⟨ticket, events, ⟨hwiped.setTicket hticket rfl, fun hmem ↦ h.fresh ?_, ?_⟩, htrace,
      hverified⟩, fun old hold ↦ ?_⟩
    · simp only [List.mem_append, mem_owned, Frame.sessionOwned, Option.some.injEq, exists_eq_left',
        hticket] at hmem ⊢
      exact hmem
    · exact (TicketObject.value_wipeAll hne).trans h.value
    · obtain rfl := Option.some.inj hold
      exact Heap.wiped_wipe w.heap held.root

theorem keeps_setTicket_granted {issued : TicketObject} :
    Keeps run extra (fun w ↦ Granted run extra issued w ∧ ∀ old, w.ticket = some old → w.heap.Wiped old.root)
      (setTicket (some issued)) fun _ w ↦ Kept run unopened extra w ∧ Verified run w := by
  rintro w ⟨⟨ticket, events, h, htrace, hverified⟩, hwiped⟩
  refine ⟨h.kept.adopt hwiped (fun hmem ↦ h.fresh ?_) h.kept.holds, fun other hother _ ↦ ?_⟩
  · exact List.mem_append.mpr ((List.mem_append.mp hmem).imp id fun howned ↦ mem_owned.mpr (.inl howned))
  · obtain rfl := Option.some.inj hother
    refine ⟨events, htrace, ?_⟩
    have hvalue : issued.value w.heap = ticket := h.value
    rw [hvalue]
    exact hverified

/-- An application and its own buffers. -/
theorem Kept.setApp {new : List ℕ} {app : Application} (h : Kept run unopened (new ++ extra) w)
    (hsame : ∀ a, a ∈ app.addresses ↔ a ∈ new) : Kept run opened extra { w with app := some app } where
  custody := by
    have hnone : w.app = none := h.holds
    refine h.custody.congr fun a ↦ ?_
    simp only [List.mem_append, mem_owned, Frame.sessionOwned, Option.elim_some, hnone, Option.elim_none,
      List.not_mem_nil, false_or, hsame]
    tauto
  apart ticket hticket hmem := by
    refine h.apart ticket hticket (List.mem_append.mpr ((List.mem_append.mp hmem).imp ?_ id))
    exact fun hextra ↦ List.mem_append_right _ hextra
  typed := h.typed
  holds := nofun
  file := h.file

theorem keeps_makeCentral {session : SessionObject} :
    Keeps run extra (Kept run unopened extra) (makeCentral run.crypto session)
      fun _ ↦ Kept run opened extra := by
  refine Keeps.closing (Keeps.bind keeps_onlyIf_fail fun _ ↦ Keeps.fact fun _ ↦ ?_)
  refine Keeps.bind keeps_peek fun heap ↦ Keeps.bind keeps_orRaise fun first ↦ Keeps.fact fun _ ↦ ?_
  refine Keeps.bind keeps_make fun ivC2p ↦ ?_
  refine Keeps.onError (X := ivC2p :: extra) ?_ fun e ↦ Keeps.bind keeps_wipe_head fun _ ↦ keeps_fail
  refine Keeps.bind keeps_orRaise fun second ↦ Keeps.fact fun _ ↦ ?_
  refine Keeps.bind keeps_make fun ivP2c w h ↦ ?_
  have hboth : Kept run unopened ([ivP2c, ivC2p] ++ extra) w := h
  refine hboth.setApp fun a ↦ ?_
  simp only [Application.addresses, List.mem_cons, List.not_mem_nil, or_false]
  exact or_comm

theorem keeps_openApplication : Keeps run extra (Kept run unopened extra)
    (openApplication run.crypto run.profile) fun _ ↦ Kept run opened extra := by
  refine Keeps.bind keeps_peek fun session ↦ ?_
  cases session with
  | none => exact keeps_fail
  | some session =>
    dsimp only
    split
    · refine Keeps.bind keeps_onlyIf_fail fun _ ↦ Keeps.fact fun _ w h ↦ ?_
      have hnothing : Kept run unopened ([] ++ extra) w := h
      exact hnothing.setApp fun a ↦ Iff.rfl
    · exact keeps_makeCentral

theorem keeps_appRaise : Keeps run extra (Kept run anyState extra) appRaise
    fun _ ↦ Kept run anyState extra := by
  refine Keeps.bind keeps_peek fun app ↦ ?_
  split
  · exact Keeps.bind (keeps_appClear stable_anyState) fun _ ↦ keeps_fail
  · exact keeps_fail

theorem keeps_acceptPong : Keeps run extra (Kept run anyState extra) (acceptPong env)
    fun _ ↦ Kept run anyState extra :=
  Keeps.bind keeps_ask fun _ ↦ Keeps.bind (keeps_onlyIf fun _ ↦ keeps_appRaise) fun _ ↦
    keeps_withBuffer (V := fun _ ↦ anyState) fun _ ↦ keeps_onlyIf fun _ ↦ keeps_appRaise

theorem keeps_applicationRound : Keeps run extra (Kept run anyState extra) (applicationRound env)
    fun _ ↦ Kept run anyState extra := by
  refine Keeps.bind keeps_requireLink fun _ ↦ Keeps.bind (Q := fun _ ↦ Kept run anyState extra) ?_ fun _ ↦ ?_
  · exact Keeps.bind keeps_ask fun _ ↦ keeps_onlyIf fun _ ↦ keeps_appRaise
  · exact Keeps.bind (keeps_await stable_anyState) fun _ ↦
      Keeps.bind (keeps_receive stable_anyState) fun _ ↦ keeps_acceptPong

theorem keeps_applicationRounds (rounds : ℕ) :
    Keeps run extra (Kept run anyState extra) (applicationRounds env rounds)
      fun _ ↦ Kept run anyState extra := by
  induction rounds with
  | zero => exact Keeps.bind keeps_ask fun _ ↦ keeps_onlyIf fun _ ↦ keeps_fail
  | succ rounds ih => exact Keeps.bind keeps_applicationRound fun _ ↦ ih

end Opening

/-! ## The exchange -/

section Exchange

variable {run : Exchange} {T : Condition} {extra : List ℕ} {w : Frame} {env : ℕ → Answer}
  {negative : Option Negative} {replayFinish : Option Bytes}

theorem keeps_attest (hT : Stable T) : Keeps run extra (Kept run T extra) (attest env run.onCurve)
    fun _ ↦ Kept run T extra := by
  refine Keeps.bind keeps_orRaise fun query ↦ Keeps.fact fun _ ↦ ?_
  refine Keeps.bind (keeps_sendControl hT) fun _ ↦ Keeps.bind (keeps_receive hT) fun sec ↦ ?_
  exact Keeps.bind keeps_orRaise fun _ _ h ↦ h.1

/-- What follows an ACCEPT, in every mode. -/
theorem keeps_resumeAccepted {init raw : Bytes} :
    Keeps run extra (Kept run unopened extra)
      (resumeAccepted env run.crypto run.profile negative replayFinish init raw)
      fun _ ↦ Kept run opened extra := by
  refine Keeps.bind (keeps_onlyIf fun _ ↦ keeps_fail) fun _ ↦ ?_
  refine Keeps.bind (keeps_onlyIf fun _ ↦ ?_) fun _ ↦ Keeps.bind (keeps_onlyIf fun _ ↦ ?_) fun _ ↦ ?_
  · refine Keeps.bind (keeps_sendControl stable_unopened) fun _ ↦ ?_
    refine Keeps.bind (keeps_receive stable_unopened) fun reply ↦ ?_
    exact Keeps.bind keeps_orResume fun _ ↦ Keeps.fact fun _ ↦ keeps_fail
  · refine Keeps.bind (Q := fun _ ↦ Kept run unopened extra) (Keeps.onError keeps_accept fun e ↦ ?_)
      fun _ ↦ keeps_fail
    split <;> exact keeps_fail
  · refine Keeps.bind keeps_accept fun finished ↦ Keeps.bind (keeps_sendControl stable_unopened) fun _ ↦ ?_
    refine Keeps.bind (keeps_receive stable_unopened) fun reply ↦ ?_
    refine Keeps.bind (keeps_onlyIf fun _ ↦ ?_) fun _ ↦ ?_
    · exact Keeps.bind keeps_orResume fun _ ↦ Keeps.fact fun _ ↦ keeps_fail
    · exact Keeps.bind keeps_resumeFinish fun _ ↦ Keeps.bind keeps_storeSave fun _ ↦ keeps_openApplication

/-- The resumption opens the application, or it is rejected and leaves no session. -/
theorem keeps_resumeExchange :
    Keeps run extra (Kept run idle extra) (resumeExchange env run.crypto run.profile negative replayFinish)
      fun _ w ↦ Kept run opened extra w ∨ Kept run idle extra w := by
  refine Keeps.bind keeps_makeResume fun _ ↦ Keeps.bind keeps_resumeBegin fun init ↦ ?_
  refine Keeps.bind (keeps_sendControl stable_unopened) fun _ ↦ ?_
  refine Keeps.bind (keeps_receive stable_unopened) fun raw ↦ ?_
  refine Keeps.bind keeps_orResume fun subtype ↦ Keeps.fact fun _ ↦ ?_
  split
  · refine Keeps.bind (keeps_onlyIf fun _ ↦ keeps_fail) fun _ ↦ ?_
    exact Keeps.conseq keeps_sessionDrop (fun _ h ↦ h) fun _ _ h ↦ .inr h
  · exact Keeps.conseq keeps_resumeAccepted (fun _ h ↦ h) fun _ _ h ↦ .inl h

theorem keeps_confirm {secret : ℕ} {pk ct sid publicKey : Bytes} {subtype : UInt8} {payload : Bytes} :
    Keeps run extra (Kept run unopened extra)
      (confirm env run.crypto run.onCurve run.profile secret pk ct sid publicKey subtype payload)
      fun _ ↦ Kept run unopened extra := by
  unfold confirm
  split
  · refine Keeps.bind (keeps_onlyIf fun _ ↦ keeps_fail) fun _ ↦ Keeps.bind keeps_ask fun shared ↦ ?_
    refine Keeps.bind (keeps_onlyIf fun _ ↦ keeps_fail) fun _ ↦ ?_
    refine keeps_withBuffer (V := fun _ ↦ unopened) fun ecdh ↦ Keeps.bind keeps_peek fun heap ↦ ?_
    refine Keeps.bind keeps_fullBegin fun _ ↦ ?_
    refine Keeps.bind keeps_wipe_kept fun _ ↦ Keeps.bind keeps_wipe_kept fun _ ↦ ?_
    exact Keeps.bind keeps_fullSas fun _ ↦ Keeps.bind (keeps_await stable_unopened) fun _ ↦ Keeps.pure
  · refine Keeps.bind keeps_fullObject fun handshake ↦ Keeps.bind keeps_peek fun heap ↦ ?_
    refine Keeps.bind (keeps_onlyIf fun _ ↦ keeps_fail) fun _ w h ↦ ?_
    exact h.imp fun hholds ↦ hholds.2

/-- The full handshake from the encapsulation on. -/
theorem keeps_fullBody {pk ct : Bytes} {secret : ℕ} :
    Keeps run extra (Kept run unopened extra)
      (fullBody env run.crypto run.onCurve run.profile run.peer pk ct secret)
      fun _ ↦ Kept run opened extra := by
  refine Keeps.bind keeps_ask fun drawn ↦ Keeps.bind keeps_orRaise fun start ↦ Keeps.fact fun _ ↦ ?_
  refine Keeps.bind (keeps_await stable_unopened) fun _ ↦ Keeps.bind (keeps_onlyIf fun _ ↦ ?_) fun _ ↦ ?_
  · exact Keeps.bind (keeps_attest stable_unopened) fun sec ↦ Keeps.bind keeps_peek fun heap ↦ keeps_fullBegin
  · refine Keeps.bind (keeps_sendControl stable_unopened) fun _ ↦ ?_
    refine Keeps.bind (keeps_receive stable_unopened) fun raw ↦ ?_
    refine Keeps.bind keeps_orRaise fun ready ↦ Keeps.fact fun _ ↦ ?_
    obtain ⟨subtype, payload⟩ := ready
    refine Keeps.bind keeps_confirm fun confirmed ↦ Keeps.bind keeps_fullFinishC fun finishedC ↦ ?_
    refine Keeps.bind (keeps_sendControl stable_unopened) fun _ ↦ ?_
    refine Keeps.bind (keeps_receive stable_unopened) fun raw ↦ Keeps.bind keeps_ask fun clock ↦ ?_
    refine Keeps.bind keeps_fullFinishP fun issued ↦ ?_
    refine Keeps.bind keeps_ticketClear_granted fun _ ↦ Keeps.bind keeps_setTicket_granted fun _ ↦ ?_
    exact Keeps.bind keeps_storeSave fun _ ↦ keeps_openApplication

theorem keeps_fullExchange :
    Keeps run extra (Kept run idle extra)
      (fullExchange env run.crypto run.onCurve run.profile run.peer negative)
      fun _ ↦ Kept run opened extra := by
  refine Keeps.bind (keeps_onlyIf fun _ ↦ keeps_fail) fun _ ↦ Keeps.bind keeps_makeFull fun _ ↦ ?_
  refine Keeps.bind (keeps_await stable_unopened) fun pk ↦ Keeps.bind keeps_requireLink fun _ ↦ ?_
  refine Keeps.bind keeps_orResume fun pk ↦ Keeps.fact fun _ ↦ Keeps.bind keeps_ask fun encapsulated ↦ ?_
  refine Keeps.bind (keeps_onlyIf fun _ ↦ keeps_fail) fun _ ↦ ?_
  exact keeps_withBuffer (V := fun _ ↦ opened) fun secret ↦ keeps_fullBody

/-- **The body of the exchange**, in every mode. -/
theorem keeps_exchangeBody {allowResume forceFull : Bool} :
    Keeps run [] (Kept run blank [])
      (exchangeBody env run.crypto run.onCurve run.profile run.peer negative replayFinish allowResume forceFull)
      fun _ ↦ Kept run anyState [] := by
  refine Keeps.bind (keeps_await stable_blank) fun _ ↦ Keeps.bind keeps_requireLink fun _ ↦ ?_
  refine Keeps.bind (keeps_onlyIf fun _ ↦ Keeps.bind (keeps_attest stable_blank) fun _ ↦ Keeps.pure) fun _ ↦ ?_
  refine Keeps.bind (keeps_onlyIf fun _ ↦ keeps_storeDelete) fun _ ↦ ?_
  refine Keeps.bind (Q := fun loaded w ↦ Kept run blank (loadedRoots loaded) w ∧ Loaded run loaded) ?_
    fun loaded ↦ Keeps.bind keeps_setTicket_loaded fun _ ↦ Keeps.bind keeps_lifecycle fun _ ↦ ?_
  · split
    · exact keeps_storeLoad
    · exact fun _ h ↦ ⟨h, nofun⟩
  refine Keeps.bind keeps_peek fun ticket ↦ ?_
  refine Keeps.bind (Q := fun _ w ↦ Kept run opened [] w ∨ Kept run idle [] w) ?_ fun _ ↦ ?_
  · unfold onlyIf
    split
    · exact keeps_resumeExchange
    · exact fun _ h ↦ .inr h
  refine Keeps.bind keeps_look fun app ↦
    Keeps.bind (Q := fun _ ↦ Kept run anyState []) ?_ fun _ ↦ keeps_applicationRounds _
  rintro w ⟨h, rfl⟩
  unfold onlyIf
  split
  · next hnone =>
    have hidle := h.resolve_left fun hopened ↦ hopened.holds (Option.isNone_iff_eq_none.mp hnone)
    exact Keeps.conseq keeps_fullExchange (fun _ h ↦ h) (fun _ _ h ↦ h.any) w hidle
  · exact h.elim Kept.any Kept.any

/-! ### The final clear -/

/-- Nothing but the ticket file is left: every buffer of the exchange is wiped. -/
structure Wiped (run : Exchange) (w : Frame) : Prop where
  custody : Heap.Custody run.start.heap.size [] w.heap
  file : ∃ events, w.trace = events ++ run.start.trace ∧ FileKept run events w.file

theorem Wiped.wipeAll (h : Wiped run w) (addresses : List ℕ) :
    Heap.Custody run.start.heap.size [] (w.heap.wipeAll addresses) :=
  h.custody.wipeAll (fun _ ha ↦ ha) fun _ ha ↦ .inl ha

theorem wiped_sessionClear (h : Wiped run w) : Wp sessionClear (fun _ ↦ Wiped run) (fun _ ↦ Wiped run) w := by
  refine wp_bind.mpr (wp_look.mpr ?_)
  cases w.session with
  | none => exact h
  | some session => exact ⟨h.wipeAll _, h.file⟩

theorem wiped_appClear (h : Wiped run w) : Wp appClear (fun _ ↦ Wiped run) (fun _ ↦ Wiped run) w := by
  refine wp_bind.mpr (wp_look.mpr ?_)
  cases w.app with
  | none => exact h
  | some app => exact wp_seq (wiped_sessionClear h) fun _ w' h' ↦ ⟨h'.wipeAll _, h'.file⟩

theorem wiped_await (h : Wiped run w) : Wp (await env) (fun _ ↦ Wiped run) (fun _ ↦ Wiped run) w := by
  refine wp_bind.mpr (wp_bind.mpr (wp_look.mpr (wp_bind.mpr (wp_update.mpr (wp_pure.mpr ?_)))))
  refine wp_seq (Q := fun _ ↦ Wiped run) ?_ fun _ w' h' ↦ ?_
  · unfold onlyIf
    split
    · exact wp_seq (wiped_appClear ⟨h.custody, h.file⟩) fun _ _ h' ↦ wiped_sessionClear h'
    · exact ⟨h.custody, h.file⟩
  · cases (env w.position).raises with
    | none => exact h'
    | some fault => exact h'

/-- What the final clear wipes; with an application it clears the session twice. -/
theorem finalClear_eq (w : Frame) : ∃ first w', finalClear w = (.ok (), w') ∧ w'.trace = w.trace ∧
    w'.file = w.file ∧ w'.heap = (((w.heap.wipeAll first).wipeAll
      (w.app.elim [] Application.addresses)).wipeAll w.sessionOwned).wipeAll (loadedRoots w.ticket) := by
  obtain ⟨position, trace, file, heap, session, app, ticket⟩ := w
  cases session with
  | none => cases app <;> cases ticket <;> exact ⟨[], _, rfl, rfl, rfl, rfl⟩
  | some session =>
    cases app with
    | none => cases ticket <;> exact ⟨[], _, rfl, rfl, rfl, rfl⟩
    | some app =>
      have hsame := session.addresses_close
      cases ticket <;>
      · refine ⟨session.addresses, _, rfl, rfl, rfl, ?_⟩
        rw [hsame]
        rfl

/-- **The final clear** reaches every owner. -/
theorem wiped_finalClear (h : Kept run anyState [] w) :
    Wp finalClear (fun _ ↦ Wiped run) (fun _ ↦ Wiped run) w := by
  obtain ⟨first, w', hrun, htrace, hfile, hheap⟩ := finalClear_eq w
  have hwiped : Wiped run w' := by
    refine ⟨?_, ?_⟩
    · rw [hheap]
      have howned : Heap.Custody run.start.heap.size w.owned w.heap := h.custody
      have hfirst := howned.wipeAll (A := first) (fun _ ha ↦ ha) fun _ ha ↦ .inl ha
      have happ := hfirst.wipeAll (L := w.sessionOwned ++ loadedRoots w.ticket)
        (A := w.app.elim [] Application.addresses) (fun a ha ↦ ?_) fun a ha ↦ ?_
      · have hsession := happ.wipeAll (L := loadedRoots w.ticket) (A := w.sessionOwned)
          (fun a ha ↦ List.mem_append_right _ ha) fun a ha ↦ (List.mem_append.mp ha).symm
        exact hsession.wipeAll nofun fun _ ha ↦ .inr ha
      · rcases List.mem_append.mp ha with hsession | hticket
        · exact List.mem_append_left _ hsession
        · exact List.mem_append_right _ (List.mem_append_right _ hticket)
      · rcases List.mem_append.mp ha with hsession | hrest
        · exact .inl (List.mem_append_left _ hsession)
        · exact (List.mem_append.mp hrest).symm.imp (List.mem_append_right _) id
    · rw [htrace, hfile]
      exact h.file
  unfold Wp
  rw [hrun]
  exact hwiped

/-- The exchange up to its final clear. -/
theorem wiped_exchangeCleared {allowResume forceFull : Bool} :
    Wp (exchangeCleared env run.crypto run.onCurve run.profile run.peer negative replayFinish allowResume forceFull)
      (fun _ ↦ Wiped run) (fun _ ↦ Wiped run) run.start := by
  refine wp_bind.mpr (wp_update.mpr (wp_ensuring ?_))
  refine wp_mono (keeps_exchangeBody _ ⟨Heap.Custody.start _, nofun, nofun, ⟨rfl, rfl, rfl⟩, [], rfl, .inl rfl⟩)
    (fun _ _ h ↦ wiped_finalClear h) fun _ _ h ↦ wiped_finalClear h

theorem wiped_exchange {allowResume forceFull : Bool} :
    Wp (exchange env run.crypto run.onCurve run.profile run.peer negative replayFinish allowResume forceFull)
      (fun _ ↦ Wiped run) (fun _ ↦ Wiped run) run.start := by
  refine wp_ensuring (wp_mono wiped_exchangeCleared (fun _ w h ↦ ?_) fun _ w h ↦ ?_)
  · exact wp_seq (wiped_await h) fun _ _ h' ↦ h'
  · exact wp_seq (wiped_await h) fun _ _ h' ↦ h'

/-- What holds after a computation, however it ends. -/
theorem after_of_wp {α : Type} {x : Run α} {P : Frame → Prop} (h : Wp x (fun _ ↦ P) (fun _ ↦ P) w) :
    P (x w).2 := by
  unfold Wp at h
  split at h
  · next heq => rw [heq]; exact h
  · next heq => rw [heq]; exact h

end Exchange

/-- Everything secret that an exchange made since its start is zero, and the ticket file is unchanged, deleted,
or holds a ticket that the exchange verified. -/
def Cleaned (run : Exchange) (w : Frame) : Prop :=
  (∀ address, run.start.heap.size ≤ address → address < w.heap.size → w.heap.Wiped address) ∧
    ∃ events, w.trace = events ++ run.start.trace ∧ FileKept run events w.file

theorem Wiped.cleaned {run : Exchange} {w : Frame} (h : Wiped run w) : Cleaned run w :=
  ⟨fun address hmade hbound ↦ h.custody.wiped address hmade hbound List.not_mem_nil, h.file⟩

/-- **The cleanup of an exchange.**  Whatever the peer, the link, the operator and the platform answer at any
wait, and whether the exchange returns or raises: once its final clear has run, and still when it ends, every
buffer that it made holds zeros only, and the ticket file is unchanged, deleted, or holds a ticket whose
FINISH_P or FINISHED_P this exchange verified. -/
theorem exchange_cleanup (env : ℕ → Answer) (run : Exchange) (negative : Option Negative)
    (replayFinish : Option Bytes) (allowResume forceFull : Bool) :
    Cleaned run (exchangeCleared env run.crypto run.onCurve run.profile run.peer negative replayFinish
        allowResume forceFull run.start).2 ∧
      Cleaned run (exchange env run.crypto run.onCurve run.profile run.peer negative replayFinish
        allowResume forceFull run.start).2 :=
  ⟨(after_of_wp wiped_exchangeCleared).cleaned, (after_of_wp wiped_exchange).cleaned⟩

end PqBleHandshake.Python.Buffers
