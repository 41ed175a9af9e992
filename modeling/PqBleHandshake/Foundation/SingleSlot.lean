import PqBleHandshake.Foundation.Transition

/-!
# A worker with one slot

A server keeps at most one job between its acceptance and its end.  Any thread may submit a job or reset
the session that a job belongs to; one worker takes the job, runs it or discards it, and reports its result
after the slot is free again.  `Follows` says which sequences of these events are orderly; `program` says what
a job makes of its input, without a look at the buffers in which the server keeps it.  The rules below reduce
all of it, and the delivery of every result, to one step of a server.
-/

namespace PqBleHandshake.Foundation

/-- What happens to the slot: `κ` names the sessions, `μ` the modes of a job, `ι` the inputs, `π` what a job
makes of its input and `ρ` the results. -/
inductive SlotEvent (κ μ ι π ρ : Type*)
  | accepted (mode : μ) (input : ι)
  | reset (session : κ)
  | taken (mode : μ)
  | discarded (mode : μ)
  | ran (mode : μ) (input : ι) (product : π)
  | finished (mode : μ) (result : ρ)
  | reported (mode : μ) (result : ρ)

/-- The job in the slot.  One that has not run yet comes with its input, and one that has with its product;
`resets` counts the resets of its session since it was accepted, and `early` those before the worker took
it. -/
inductive SlotJob (μ ι π : Type*)
  | free
  | queued (mode : μ) (input : ι) (resets : ℕ)
  | running (mode : μ) (input : ι) (early resets : ℕ)
  | done (mode : μ) (resets : ℕ) (product : π)
  | dropped (mode : μ)

/-- The slot, and the result that the worker still has to report. -/
structure Desk (μ ι π ρ : Type*) where
  job : SlotJob μ ι π
  owed : Option (μ × ρ)

/-- The desk of a server that has done nothing. -/
def Desk.idle {μ ι π ρ : Type*} : Desk μ ι π ρ := ⟨.free, none⟩

/-- The session of a mode, the results that a product comes to, those that count as failed without output, and
the number of resets after which an epoch repeats. -/
structure SlotRules (κ μ π ρ : Type*) where
  session : μ → Option κ
  Yields : π → ρ → Prop
  Failed : ρ → Prop
  period : ℕ

variable {ε κ μ ι π ρ τ σ ς δ : Type*}

namespace SlotJob

/-- The mode of the job in the slot. -/
def mode : SlotJob μ ι π → Option μ
  | .free => none
  | .queued mode _ _ | .running mode _ _ _ | .done mode _ _ | .dropped mode => some mode

/-- A reset of a session is counted by the job that belongs to it. -/
def reset [DecidableEq κ] (session : μ → Option κ) (kind : κ) : SlotJob μ ι π → SlotJob μ ι π
  | .queued mode input resets =>
    .queued mode input (if session mode = some kind then resets + 1 else resets)
  | .running mode input early resets =>
    .running mode input early (if session mode = some kind then resets + 1 else resets)
  | .done mode resets product => .done mode (if session mode = some kind then resets + 1 else resets) product
  | job => job

/-- One if the job in the slot has the given mode. -/
def load [DecidableEq μ] (job : SlotJob μ ι π) (mode : μ) : ℕ := if job.mode = some mode then 1 else 0

/-- One if a job of the given mode has neither run nor been discarded. -/
def waiting [DecidableEq μ] (mode : μ) : SlotJob μ ι π → ℕ
  | .queued m _ _ | .running m _ _ _ => if m = mode then 1 else 0
  | _ => 0

@[simp]
theorem mode_reset [DecidableEq κ] (session : μ → Option κ) (kind : κ) (job : SlotJob μ ι π) :
    (job.reset session kind).mode = job.mode := by
  cases job <;> rfl

@[simp]
theorem waiting_reset [DecidableEq κ] [DecidableEq μ] (session : μ → Option κ) (kind : κ) (mode : μ) (job : SlotJob μ ι π) :
    (job.reset session kind).waiting mode = job.waiting mode := by
  cases job <;> rfl

end SlotJob

/-- One if a result of the given mode is owed. -/
def Desk.debt [DecidableEq μ] (desk : Desk μ ι π ρ) (mode : μ) : ℕ :=
  if desk.owed.map Prod.fst = some mode then 1 else 0

namespace SlotRules

/-- The events that are in order.  A job runs on the input that it was accepted with, or is discarded, and
then a reset of its session came first and its result is a failure.  A job whose session was reset before the
worker took it does not run, unless the epoch has gone round since.  One that has run ends with what its product
comes to, and fails instead only after a reset. -/
inductive Next [DecidableEq κ] (rules : SlotRules κ μ π ρ) :
    Desk μ ι π ρ → SlotEvent κ μ ι π ρ → Desk μ ι π ρ → Prop
  | accept {mode : μ} {input : ι} {owed : Option (μ × ρ)} :
    Next rules ⟨.free, owed⟩ (.accepted mode input) ⟨.queued mode input 0, owed⟩
  | reset {job : SlotJob μ ι π} {owed : Option (μ × ρ)} {kind : κ} :
    Next rules ⟨job, owed⟩ (.reset kind) ⟨job.reset rules.session kind, owed⟩
  | take {mode : μ} {input : ι} {resets : ℕ} :
    Next rules ⟨.queued mode input resets, none⟩ (.taken mode) ⟨.running mode input resets resets, none⟩
  | discardQueued {mode : μ} {input : ι} {resets : ℕ} (h : resets ≠ 0) :
    Next rules ⟨.queued mode input resets, none⟩ (.discarded mode) ⟨.dropped mode, none⟩
  | discardRunning {mode : μ} {input : ι} {early resets : ℕ} (h : resets ≠ 0) :
    Next rules ⟨.running mode input early resets, none⟩ (.discarded mode) ⟨.dropped mode, none⟩
  | run {mode : μ} {input : ι} {early resets : ℕ} {product : π} (h : early ≠ 0 → rules.period ≤ resets) :
    Next rules ⟨.running mode input early resets, none⟩ (.ran mode input product)
      ⟨.done mode resets product, none⟩
  | finish {mode : μ} {resets : ℕ} {product : π} {result : ρ}
      (h : rules.Yields product result ∨ resets ≠ 0 ∧ rules.Failed result) :
    Next rules ⟨.done mode resets product, none⟩ (.finished mode result) ⟨.free, some (mode, result)⟩
  | drop {mode : μ} {result : ρ} (h : rules.Failed result) :
    Next rules ⟨.dropped mode, none⟩ (.finished mode result) ⟨.free, some (mode, result)⟩
  | report {job : SlotJob μ ι π} {mode : μ} {result : ρ} :
    Next rules ⟨job, some (mode, result)⟩ (.reported mode result) ⟨job, none⟩

/-- A sequence of events leads from one desk to another. -/
def Follows [DecidableEq κ] (rules : SlotRules κ μ π ρ) :
    Desk μ ι π ρ → List (SlotEvent κ μ ι π ρ) → Desk μ ι π ρ → Prop
  | desk, [], last => desk = last
  | desk, event :: events, last => ∃ mid, rules.Next desk event mid ∧ rules.Follows mid events last

variable [DecidableEq κ] {rules : SlotRules κ μ π ρ} {desk mid last : Desk μ ι π ρ}
  {event : SlotEvent κ μ ι π ρ} {events more : List (SlotEvent κ μ ι π ρ)}

theorem Next.follows (h : rules.Next desk event last) : rules.Follows desk [event] last :=
  ⟨last, h, rfl⟩

theorem Follows.append (h : rules.Follows desk events mid) (hmore : rules.Follows mid more last) :
    rules.Follows desk (events ++ more) last := by
  induction events generalizing desk with
  | nil =>
    rw [show desk = mid from h]
    exact hmore
  | cons event events ih =>
    obtain ⟨next, hnext, hrest⟩ := h
    exact ⟨next, hnext, ih hrest⟩

/-- Resets are always in order; what one reset preserves about the job, all of them do. -/
theorem follows_resets {holds : SlotJob μ ι π → Prop} {job : SlotJob μ ι π} {owed : Option (μ × ρ)}
    (hjob : holds job) (hreset : ∀ job kind, holds job → holds (job.reset rules.session kind))
    (hevents : ∀ event ∈ events, ∃ kind, event = .reset kind) :
    ∃ last, rules.Follows ⟨job, owed⟩ events ⟨last, owed⟩ ∧ holds last := by
  induction events generalizing job with
  | nil => exact ⟨job, rfl, hjob⟩
  | cons event events ih =>
    obtain ⟨kind, rfl⟩ := hevents event List.mem_cons_self
    obtain ⟨last, hrest, hlast⟩ := ih (hreset job kind hjob) fun later hlater ↦
      hevents later (List.mem_cons_of_mem _ hlater)
    exact ⟨last, ⟨_, .reset, hrest⟩, hlast⟩

end SlotRules

/-! ## Counting -/

namespace SlotEvent

/-- A job of the given mode is accepted. -/
def accepts [DecidableEq μ] (mode : μ) : SlotEvent κ μ ι π ρ → ℕ
  | .accepted m _ => if m = mode then 1 else 0
  | _ => 0

/-- A job of the given mode runs, or is discarded. -/
def settles [DecidableEq μ] (mode : μ) : SlotEvent κ μ ι π ρ → ℕ
  | .ran m _ _ | .discarded m => if m = mode then 1 else 0
  | _ => 0

/-- A result of the given mode is reported. -/
def reports [DecidableEq μ] (mode : μ) : SlotEvent κ μ ι π ρ → ℕ
  | .reported m _ => if m = mode then 1 else 0
  | _ => 0

end SlotEvent

namespace SlotRules

variable [DecidableEq κ] [DecidableEq μ] {rules : SlotRules κ μ π ρ} {desk last : Desk μ ι π ρ}
  {event : SlotEvent κ μ ι π ρ} {events : List (SlotEvent κ μ ι π ρ)}

theorem Next.accepts_add (h : rules.Next desk event last) (mode : μ) :
    event.accepts mode + desk.job.load mode + desk.debt mode =
      event.reports mode + last.job.load mode + last.debt mode := by
  cases h
  case reset =>
    simp only [SlotEvent.accepts, SlotEvent.reports, SlotJob.load, SlotJob.mode_reset, Desk.debt]
  all_goals
    simp [SlotEvent.accepts, SlotEvent.reports, SlotJob.load, Desk.debt, SlotJob.mode]
  all_goals omega

theorem Next.accepts_settles (h : rules.Next desk event last) (mode : μ) :
    event.accepts mode + desk.job.waiting mode = event.settles mode + last.job.waiting mode := by
  cases h
  case reset => simp only [SlotEvent.accepts, SlotEvent.settles, SlotJob.waiting_reset]
  all_goals simp [SlotEvent.accepts, SlotEvent.settles, SlotJob.waiting]

/-- Every job accepted since an idle desk has been reported, or is in the slot, or its result is owed. -/
theorem Follows.accepts_eq (h : rules.Follows desk events last) (mode : μ) :
    (events.map (·.accepts mode)).sum + desk.job.load mode + desk.debt mode =
      (events.map (·.reports mode)).sum + last.job.load mode + last.debt mode := by
  induction events generalizing desk with
  | nil =>
    rw [show desk = last from h]
    simp
  | cons event events ih =>
    obtain ⟨mid, hstep, hrest⟩ := h
    have hfirst := hstep.accepts_add mode
    have hlater := ih hrest
    simp only [List.map_cons, List.sum_cons]
    omega

/-- Every job accepted since an idle desk has run or was discarded, once, or has yet to be. -/
theorem Follows.settles_eq (h : rules.Follows desk events last) (mode : μ) :
    (events.map (·.accepts mode)).sum + desk.job.waiting mode =
      (events.map (·.settles mode)).sum + last.job.waiting mode := by
  induction events generalizing desk with
  | nil =>
    rw [show desk = last from h]
    simp
  | cons event events ih =>
    obtain ⟨mid, hstep, hrest⟩ := h
    have hfirst := hstep.accepts_settles mode
    have hlater := ih hrest
    simp only [List.map_cons, List.sum_cons]
    omega

end SlotRules

/-! ## Servers -/

/-- A server: the requests `ς` that submit a job, each ending in a state whether it is taken or refused, and the
other calls `δ`, among them the steps of the worker, with the events of each.  `reads` is what the worker sees of
the state besides the input of its job, and `program` what it makes of an input then. -/
structure Server (ε κ μ ι π ρ τ σ ς δ : Type*) where
  rules : SlotRules κ μ π ρ
  submit : σ → ς → Except (ε × σ) σ
  mode : ς → μ
  input : ς → ι
  act : σ → δ → σ
  log : σ → δ → List (SlotEvent κ μ ι π ρ)
  works : δ → Bool
  reads : σ → τ
  program : τ → δ → μ → ι → π

namespace Server

variable (server : Server ε κ μ ι π ρ τ σ ς δ)

/-- One call. -/
def step (state : σ) : ς ⊕ δ → σ
  | .inl request => match server.submit state request with
    | .ok next => next
    | .error (_, next) => next
  | .inr call => server.act state call

/-- The events of one call. -/
def events (state : σ) : ς ⊕ δ → List (SlotEvent κ μ ι π ρ)
  | .inl request => match server.submit state request with
    | .ok _ => [.accepted (server.mode request) (server.input request)]
    | .error _ => []
  | .inr call => server.log state call

/-- The state after a sequence of calls. -/
def run (server : Server ε κ μ ι π ρ τ σ ς δ) : σ → List (ς ⊕ δ) → σ
  | state, [] => state
  | state, call :: calls => server.run (server.step state call) calls

theorem run_append (server : Server ε κ μ ι π ρ τ σ ς δ) (state : σ) (first second : List (ς ⊕ δ)) :
    server.run state (first ++ second) = server.run (server.run state first) second := by
  induction first generalizing state with
  | nil => rfl
  | cons call calls ih => exact ih (server.step state call)

/-- Some calls lead from one state to another. -/
def Reaches (server : Server ε κ μ ι π ρ τ σ ς δ) (state next : σ) : Prop :=
  ∃ calls, server.run state calls = next

theorem Reaches.trans {server : Server ε κ μ ι π ρ τ σ ς δ} {state mid next : σ} (h : server.Reaches state mid)
    (hnext : server.Reaches mid next) : server.Reaches state next := by
  obtain ⟨calls, rfl⟩ := h
  obtain ⟨more, rfl⟩ := hnext
  exact ⟨calls ++ more, server.run_append _ _ _⟩

/-- The events of a sequence of calls. -/
def trace (server : Server ε κ μ ι π ρ τ σ ς δ) : σ → List (ς ⊕ δ) → List (SlotEvent κ μ ι π ρ)
  | _, [] => []
  | state, call :: calls => server.events state call ++ server.trace (server.step state call) calls

/-- The number of worker steps in a sequence of calls. -/
def workerSteps (server : Server ε κ μ ι π ρ τ σ ς δ) : List (ς ⊕ δ) → ℕ
  | [] => 0
  | .inr call :: calls => (if server.works call then 1 else 0) + server.workerSteps calls
  | .inl _ :: calls => server.workerSteps calls

/-- What holds of a run that has come to a given desk.  Its events are in order.  While a job is in the slot
every request is refused, and enough further steps of the worker report its result, whatever else is called.
Of every mode as many jobs were accepted as were reported or are under way, and as many as ran, were discarded
or still wait. -/
structure Served [DecidableEq κ] [DecidableEq μ] (boot : σ) (bound : ℕ) (calls : List (ς ⊕ δ)) (desk : Desk μ ι π ρ) : Prop where
  follows : server.rules.Follows .idle (server.trace boot calls) desk
  busy : desk.job.mode ≠ none → ∀ request, ∃ refusal,
    server.submit (server.run boot calls) request = .error refusal
  reported : ∀ mode, desk.job.mode = some mode → ∀ more, bound ≤ server.workerSteps more →
    ∃ result, .reported mode result ∈ server.trace (server.run boot calls) more
  accepted_reports : ∀ mode, ((server.trace boot calls).map (·.accepts mode)).sum =
    ((server.trace boot calls).map (·.reports mode)).sum + desk.job.load mode + desk.debt mode
  accepted_settles : ∀ mode, ((server.trace boot calls).map (·.accepts mode)).sum =
    ((server.trace boot calls).map (·.settles mode)).sum + desk.job.waiting mode

/-- The slot of a server is sound: every run is served, a job that runs computes its program on its input, and a
request that is refused ends in the state that it found. -/
structure Sound [DecidableEq κ] [DecidableEq μ] (boot : σ) (bound : ℕ) : Prop where
  served : ∀ calls, ∃ desk, server.Served boot bound calls desk
  computed : ∀ calls call mode input product,
    .ran mode input product ∈ server.log (server.run boot calls) call →
      product = server.program (server.reads (server.run boot calls)) call mode input
  refused : ∀ state request error next, server.submit state request = .error (error, next) → next = state

/-- What one call has to do for the slot to be sound: `Matches` relates the desk to the state, and `rank`
bounds the steps of the worker up to the end of the job in the slot. -/
structure Simulation [DecidableEq κ] (boot : σ) (bound : ℕ) (Matches : Desk μ ι π ρ → σ → Prop) (rank : σ → ℕ) : Prop where
  start : Matches .idle boot
  rank_lt : ∀ state, rank state < bound
  accept : ∀ {desk state request next}, Matches desk state → server.submit state request = .ok next →
    desk.job = .free ∧
      Matches ⟨.queued (server.mode request) (server.input request) 0, desk.owed⟩ next
  refuse : ∀ {state request error next}, server.submit state request = .error (error, next) → next = state
  compute : ∀ {desk state call mode input product}, Matches desk state →
    .ran mode input product ∈ server.log state call → product = server.program (server.reads state) call mode input
  other : ∀ {desk state call}, Matches desk state → server.works call = false →
    (∀ event ∈ server.log state call, ∃ kind, event = .reset kind) ∧
      rank (server.act state call) ≤ rank state ∧
      ∃ next, server.rules.Follows desk (server.log state call) next ∧ Matches next (server.act state call)
  work : ∀ {desk state call}, Matches desk state → server.works call = true →
    (∀ mode result, desk.owed = some (mode, result) → .reported mode result ∈ server.log state call) ∧
      ∃ next, server.rules.Follows desk (server.log state call) next ∧
        Matches next (server.act state call) ∧
        ∀ mode, desk.job.mode = some mode →
          (next.job.mode = some mode ∧ rank (server.act state call) < rank state) ∨
            ∃ result, next.owed = some (mode, result) ∧ 0 < rank state

end Server

/-- Resets keep the mode of the job in the slot and the result that is owed. -/
theorem SlotRules.Follows.of_resets [DecidableEq κ] {rules : SlotRules κ μ π ρ} {desk last : Desk μ ι π ρ}
    {events : List (SlotEvent κ μ ι π ρ)} (h : rules.Follows desk events last)
    (hresets : ∀ event ∈ events, ∃ kind, event = .reset kind) :
    last.job.mode = desk.job.mode ∧ last.owed = desk.owed := by
  induction events generalizing desk with
  | nil =>
    rw [show desk = last from h]
    exact ⟨rfl, rfl⟩
  | cons event events ih =>
    obtain ⟨mid, hstep, hrest⟩ := h
    obtain ⟨hmode, howed⟩ := ih hrest fun later hlater ↦ hresets later (List.mem_cons_of_mem _ hlater)
    obtain ⟨kind, rfl⟩ := hresets event List.mem_cons_self
    cases hstep
    exact ⟨hmode.trans (SlotJob.mode_reset _ _ _), howed⟩

namespace Server.Simulation

variable [DecidableEq κ] {server : Server ε κ μ ι π ρ τ σ ς δ} {boot state : σ} {bound : ℕ}
  {Matches : Desk μ ι π ρ → σ → Prop} {rank : σ → ℕ} {desk : Desk μ ι π ρ} {mode : μ} {result : ρ}

/-- A job in the slot keeps every request from being accepted. -/
theorem busy (h : server.Simulation boot bound Matches rank) (hdesk : Matches desk state)
    (hjob : desk.job.mode ≠ none) (request : ς) :
    ∃ refusal, server.submit state request = .error refusal := by
  cases hsubmit : server.submit state request with
  | error refusal => exact ⟨refusal, rfl⟩
  | ok next =>
    obtain ⟨hfree, -⟩ := h.accept hdesk hsubmit
    exact absurd (by rw [hfree]; rfl) hjob

theorem matches_run (h : server.Simulation boot bound Matches rank) (hdesk : Matches desk state)
    (calls : List (ς ⊕ δ)) :
    ∃ last, server.rules.Follows desk (server.trace state calls) last ∧
      Matches last (server.run state calls) := by
  induction calls generalizing state desk with
  | nil => exact ⟨desk, rfl, hdesk⟩
  | cons call calls ih =>
    -- one call leads to a desk that matches, from which the rest of the run goes on
    have hstep : ∃ next, server.rules.Follows desk (server.events state call) next ∧
        Matches next (server.step state call) := by
      cases call with
      | inl request =>
        cases hsubmit : server.submit state request with
        | error refusal =>
          obtain rfl := h.refuse hsubmit
          simp only [Server.events, Server.step, hsubmit]
          exact ⟨desk, rfl, hdesk⟩
        | ok next =>
          obtain ⟨hfree, hnext⟩ := h.accept hdesk hsubmit
          simp only [Server.events, Server.step, hsubmit]
          refine ⟨_, SlotRules.Next.follows ?_, hnext⟩
          obtain ⟨job, owed⟩ := desk
          rw [show job = .free from hfree]
          exact .accept
      | inr call =>
        by_cases hworks : server.works call = true
        · obtain ⟨-, next, hfollows, hnext, -⟩ := h.work hdesk hworks
          exact ⟨next, hfollows, hnext⟩
        · obtain ⟨-, -, hnext⟩ := h.other hdesk (Bool.eq_false_iff.mpr hworks)
          exact hnext
    obtain ⟨next, hfollows, hnext⟩ := hstep
    obtain ⟨last, hrest, hlast⟩ := ih hnext
    exact ⟨last, hfollows.append hrest, hlast⟩

/-- A result that is owed is reported by the next step of the worker. -/
theorem reported_of_owed (h : server.Simulation boot bound Matches rank) (calls : List (ς ⊕ δ))
    (hdesk : Matches desk state) (howed : desk.owed = some (mode, result))
    (hsteps : 0 < server.workerSteps calls) :
    .reported mode result ∈ server.trace state calls := by
  induction calls generalizing state desk with
  | nil => cases hsteps
  | cons call calls ih =>
    refine List.mem_append.mpr ?_
    cases call with
    | inl request =>
      refine .inr ?_
      cases hsubmit : server.submit state request with
      | error refusal =>
        obtain rfl := h.refuse hsubmit
        simp only [Server.step, hsubmit]
        exact ih hdesk howed hsteps
      | ok next =>
        simp only [Server.step, hsubmit]
        exact ih (h.accept hdesk hsubmit).2 howed hsteps
    | inr call =>
      by_cases hworks : server.works call = true
      · exact .inl ((h.work hdesk hworks).1 mode result howed)
      · obtain ⟨hresets, -, next, hfollows, hnext⟩ := h.other hdesk (Bool.eq_false_iff.mpr hworks)
        refine .inr (ih hnext ((hfollows.of_resets hresets).2.trans howed) ?_)
        simpa [Server.workerSteps, hworks] using hsteps

/-- The job in the slot is reported after at most as many steps of the worker as its rank and one more. -/
theorem reported_of_job (h : server.Simulation boot bound Matches rank) (calls : List (ς ⊕ δ))
    (hdesk : Matches desk state) (hjob : desk.job.mode = some mode)
    (hsteps : rank state < server.workerSteps calls) :
    ∃ result, .reported mode result ∈ server.trace state calls := by
  induction calls generalizing state desk with
  | nil => cases hsteps
  | cons call calls ih =>
    cases call with
    | inl request =>
      obtain ⟨refusal, hsubmit⟩ := h.busy hdesk (by rw [hjob]; exact Option.some_ne_none _) request
      obtain rfl := h.refuse hsubmit
      simp only [Server.trace, Server.events, Server.step, hsubmit, List.nil_append]
      exact ih hdesk hjob hsteps
    | inr call =>
      by_cases hworks : server.works call = true
      · obtain ⟨-, next, -, hnext, hprogress⟩ := h.work hdesk hworks
        have hrest : rank state < server.workerSteps calls + 1 := by
          simp only [Server.workerSteps, hworks, if_true] at hsteps
          omega
        rcases hprogress mode hjob with ⟨hmode, hrank⟩ | ⟨result, howed, hpositive⟩
        · obtain ⟨result, hresult⟩ := ih hnext hmode (by omega)
          exact ⟨result, List.mem_append_right _ hresult⟩
        · exact ⟨result, List.mem_append_right _ (h.reported_of_owed calls hnext howed (by omega))⟩
      · obtain ⟨hresets, hrank, next, hfollows, hnext⟩ := h.other hdesk (Bool.eq_false_iff.mpr hworks)
        have hrest : rank state < server.workerSteps calls := by
          simpa [Server.workerSteps, hworks] using hsteps
        obtain ⟨result, hresult⟩ := ih hnext ((hfollows.of_resets hresets).1.trans hjob)
          (by omega)
        exact ⟨result, List.mem_append_right _ hresult⟩

/-- A server whose calls follow the desk one by one has a sound slot. -/
theorem sound [DecidableEq μ] (h : server.Simulation boot bound Matches rank) : server.Sound boot bound where
  served calls := by
    obtain ⟨desk, hfollows, hdesk⟩ := h.matches_run h.start calls
    refine ⟨desk, ⟨hfollows, fun hjob ↦ h.busy hdesk hjob, ?_, ?_, ?_⟩⟩
    · intro mode hjob more hmore
      exact h.reported_of_job more hdesk hjob ((h.rank_lt _).trans_le hmore)
    · intro mode
      simpa [Desk.idle, SlotJob.load, SlotJob.mode, Desk.debt] using hfollows.accepts_eq mode
    · intro mode
      simpa [Desk.idle, SlotJob.waiting] using hfollows.settles_eq mode
  computed calls call mode input product hran := by
    obtain ⟨desk, -, hdesk⟩ := h.matches_run h.start calls
    exact h.compute hdesk hran
  refused state request error next hrefused := h.refuse hrefused

end Server.Simulation

end PqBleHandshake.Foundation
