import PqBleHandshake.DriverV1.Session
import PqBleHandshake.Handshake.Typestate

/-!
# The protocol of a Central of v1.0

What a run may send and accept, in which order, as a transition system over the events of its trace.  A stage
holds what the Central knows there: the handshake object, and its application once there is one.
-/

namespace PqBleHandshake.Python.V1

open Foundation

/-- The stages of a run. -/
inductive Stage
  | probing (denied : List Probe)
  | paired
  /-- The client holds the new session. -/
  | installed
  | queried
  | attested
  | keyed (pk : Bytes)
  | encapsulated (pk ct ss : Bytes)
  | transferred (pk ct ss : Bytes)
  | requeried (pk ct ss : Bytes)
  | reattested (pk ct ss sec : Bytes)
  | begun (start : Bytes) (h : CentralHandshake)
  | started (h : CentralHandshake)
  | readied (finishedC : Bytes) (h : CentralHandshake)
  | finished (h : CentralHandshake)
  | secure (h : CentralHandshake)
  /-- `rounds` runs, without its application yet. -/
  | entered (h : CentralHandshake)
  | idle (h : CentralHandshake) (channel : Channel)
  | sealed (h : CentralHandshake) (channel : Channel) (challenge wire : Bytes)
  | pinging (h : CentralHandshake) (channel : Channel) (challenge : Bytes)
  | closed

namespace Stage

/-- The handshake object. -/
def session : Stage → CentralHandshake
  | .begun _ h | .started h | .readied _ h | .finished h | .secure h | .entered h | .idle h _ | .sealed h ..
  | .pinging h .. => h
  | _ => {}

/-- The application. -/
def app : Stage → Option Channel
  | .idle _ channel | .sealed _ channel .. | .pinging _ channel _ => some channel
  | _ => none

/-- `application_active` -/
def active : Stage → Bool
  | .entered _ | .idle .. | .sealed .. | .pinging .. => true
  | _ => false

/-- A PING is under way. -/
def waits : Stage → Bool
  | .sealed .. | .pinging .. => true
  | _ => false

/-- How far the run has come. -/
def rank : Stage → ℕ
  | .probing _ => 0
  | .paired => 1
  | .installed => 2
  | .queried => 3
  | .attested => 4
  | .keyed _ => 5
  | .encapsulated .. => 6
  | .transferred .. => 7
  | .requeried .. => 8
  | .reattested .. => 9
  | .begun .. => 10
  | .started _ => 11
  | .readied .. => 12
  | .finished _ => 13
  | .secure _ => 14
  | .entered _ | .idle .. | .sealed .. | .pinging .. => 15
  | .closed => 16

/-- The probes that were denied. -/
def denied : Stage → List Probe
  | .probing denied => denied
  | _ => preL4Probes

/-- The PONGs that were accepted. -/
def pongs (stage : Stage) : ℕ := stage.app.elim 0 Channel.rxP2c

end Stage

/-- How far a run has come that records the event. -/
def Event.rank : Event → ℕ
  | .paired | .bonded => 1
  | .read _ => 5
  | .encapsulated .. => 6
  | .transferred _ => 7
  | _ => 0

/-- SEC_INFO of a link with strict Level 4. -/
def Strict (sec : Bytes) : Prop := ∃ info, parseSecInfo sec = some info ∧ isAuthenticatedLevel4 info = true

section Protocol

variable (crypto : Crypto) (aead : Aead)

/-- The moves of the protocol; a silent move records nothing. -/
inductive Moves : Stage → Option Event → Stage → Prop
  | denied {denied : List Probe} {probe : Probe} :
    Moves (.probing denied) (some (.denied probe)) (.probing (denied ++ [probe]))
  | paired : Moves (.probing preL4Probes) (some .paired) .paired
  | bonded : Moves (.probing []) (some .bonded) .paired
  | install : Moves .paired none .installed
  | query : Moves .installed (some (.sent (v1Frame pqV10 pqV1SecQuery []))) .queried
  | attest {sec : Bytes} (hstrict : Strict sec) : Moves .queried (some (.accepted sec)) .attested
  | read {pk : Bytes} (hlength : pk.length = 1184) : Moves .attested (some (.read pk)) (.keyed pk)
  | encapsulate {pk ct ss : Bytes} (hct : ct.length = 1088) (hss : ss.length = 32) :
    Moves (.keyed pk) (some (.encapsulated ct ss)) (.encapsulated pk ct ss)
  | transfer {pk ct ss : Bytes} {mtu : ℕ} {fragments : List Bytes}
      (hfragments : writeFragmentedCiphertext ct mtu = some fragments) :
    Moves (.encapsulated pk ct ss) (some (.transferred fragments)) (.transferred pk ct ss)
  | requery {pk ct ss : Bytes} :
    Moves (.transferred pk ct ss) (some (.sent (v1Frame pqV10 pqV1SecQuery []))) (.requeried pk ct ss)
  | reattest {pk ct ss sec : Bytes} (hstrict : Strict sec) :
    Moves (.requeried pk ct ss) (some (.accepted sec)) (.reattested pk ct ss sec)
  | begin {pk ct ss sec : Bytes} {sid : Block 16} {h : CentralHandshake}
      (hbegin : ({} : CentralHandshake).begin crypto ss sec pk ct (v1Frame pqV10 pqV1StartCp3 sid.bytes) = some h) :
    Moves (.reattested pk ct ss sec) none (.begun (v1Frame pqV10 pqV1StartCp3 sid.bytes) h)
  | start {start : Bytes} {h : CentralHandshake} : Moves (.begun start h) (some (.sent start)) (.started h)
  | ready {h h' : CentralHandshake} {raw finishedC : Bytes}
      (haccept : h.acceptReady crypto raw = some (finishedC, h')) :
    Moves (.started h) (some (.accepted raw)) (.readied finishedC h')
  | finishC {finishedC : Bytes} {h : CentralHandshake} :
    Moves (.readied finishedC h) (some (.sent finishedC)) (.finished h)
  | finishP {h h' : CentralHandshake} {raw : Bytes} (haccept : h.acceptFinishedP crypto raw = some h') :
    Moves (.finished h) (some (.accepted raw)) (.secure h')
  | enter {h : CentralHandshake} : Moves (.secure h) none (.entered h)
  | create {h : CentralHandshake} {app : CentralApplication}
      (hcreate : CentralApplication.create crypto (borrowed h) none none = some app) :
    Moves (.entered h) none (.idle h (.of app))
  | encrypt {h : CentralHandshake} {channel : Channel} {app : CentralApplication} {challenge wire : Bytes} {mtu : ℕ}
      (hcount : channel.txC2p < 2) (hlength : challenge.length = 16)
      (hencrypt : (channel.over h).encryptPing aead challenge mtu = (some wire, app)) :
    Moves (.idle h channel) none (.sealed h (.of app) challenge wire)
  | ping {h : CentralHandshake} {channel : Channel} {challenge wire : Bytes} :
    Moves (.sealed h channel challenge wire) (some (.sent wire)) (.pinging h channel challenge)
  | pong {h : CentralHandshake} {channel : Channel} {app : CentralApplication} {challenge raw plaintext : Bytes}
      {mtu : ℕ} (haccept : (channel.over h).acceptPong aead raw challenge mtu = (some plaintext, app)) :
    Moves (.pinging h channel challenge) (some (.accepted raw)) (.idle h (.of app))
  | close {stage : Stage} (hstage : stage ≠ .closed) : Moves stage (some .closed) .closed

/-- A trace leads to a stage. -/
inductive Reaches : List Event → Stage → Prop
  | nil : Reaches [] (.probing [])
  | silent {trace : List Event} {stage next : Stage} :
    Reaches trace stage → Moves crypto aead stage none next → Reaches trace next
  | step {trace : List Event} {stage next : Stage} {event : Event} :
    Reaches trace stage → Moves crypto aead stage (some event) next → Reaches (event :: trace) next

end Protocol

variable {crypto : Crypto} {aead : Aead} {stage next : Stage} {trace : List Event}

/-- The protocol never goes back, and an event is recorded where it belongs. -/
theorem Moves.rank_le {event : Option Event} (h : Moves crypto aead stage event next) :
    stage.rank ≤ next.rank ∧ ∀ recorded ∈ event, recorded.rank ≤ next.rank := by
  cases h with
  | close =>
    refine ⟨?_, by simp [Event.rank]⟩
    cases stage <;> exact Nat.le_of_ble_eq_true rfl
  | _ => exact ⟨Nat.le_of_ble_eq_true rfl, by simp [Event.rank, Stage.rank]⟩

/-- No event is recorded before its stage. -/
theorem Reaches.rank_le (h : Reaches crypto aead trace stage) : ∀ event ∈ trace, event.rank ≤ stage.rank := by
  induction h with
  | nil => exact nofun
  | silent _ hmove ih => exact fun event hmem ↦ (ih event hmem).trans hmove.rank_le.1
  | step _ hmove ih =>
    intro event hmem
    rcases List.mem_cons.mp hmem with rfl | hmem
    · exact hmove.rank_le.2 event rfl
    · exact (ih event hmem).trans hmove.rank_le.1

end PqBleHandshake.Python.V1
