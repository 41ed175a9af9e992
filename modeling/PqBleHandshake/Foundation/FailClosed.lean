import PqBleHandshake.Foundation.Transition

/-!
# Fail-closed objects

An object with methods is a machine: a call that returns answers `some` value, one that raises answers `none`.
`closing` is the machine of an object whose methods all end in the same handler, which clears the object and
raises again.  The rules are about runs of calls: what a raising call leaves, and what a closed object can
still do.
-/

namespace PqBleHandshake.Foundation.Machine

variable {σ ι ο κ α : Type}

/-- **History rule.**  What one step preserves about the inputs so far and the state holds after a run. -/
theorem run_history (machine : Machine σ ι ο) {P : List ι → σ → Prop} {start : σ} (hinit : P [] start)
    (hstep : ∀ before state input, P before state →
      P (before ++ [input]) (machine.step state input).2) (inputs : List ι) :
    P inputs (machine.run start inputs) := by
  induction inputs using List.reverseRecOn with
  | nil => exact hinit
  | append_singleton before input ih =>
    rw [run_append]
    exact hstep before _ input ih

/-- Two conditions that agree in the states of an invariant agree along a run. -/
theorem along_iff (machine : Machine σ ι ο) {A B : σ → ι → Prop} {P : σ → Prop}
    (hstep : ∀ state input, P state → P (machine.step state input).2)
    (hiff : ∀ state input, P state → (A state input ↔ B state input)) {state : σ} (hinit : P state)
    (inputs : List ι) : machine.Along A state inputs ↔ machine.Along B state inputs := by
  induction inputs generalizing state with
  | nil => exact Iff.rfl
  | cons input rest ih => exact and_congr (hiff state input hinit) (ih (hstep state input hinit))

/-- The states that are reached from a start by inputs of a history, each one rank above the state before. -/
inductive Climbed (machine : Machine σ ι ο) (rank : σ → ℕ) (start : σ) (history : List ι) : σ → Prop
  | start : Climbed machine rank start history start
  | step {state : σ} {input : ι} (hstate : Climbed machine rank start history state) (hmem : input ∈ history)
      (hrank : rank (machine.step state input).2 = rank state + 1) :
      Climbed machine rank start history (machine.step state input).2

theorem Climbed.mono {machine : Machine σ ι ο} {rank : σ → ℕ} {start state : σ} {history history' : List ι}
    (h : machine.Climbed rank start history state) (hsub : history ⊆ history') :
    machine.Climbed rank start history' state := by
  induction h with
  | start => exact .start
  | step _ hmem hrank ih => exact ih.step (hsub hmem) hrank

theorem Climbed.eq_start {machine : Machine σ ι ο} {rank : σ → ℕ} {start state : σ} {history : List ι}
    (h : machine.Climbed rank start history state) (hrank : rank state = 0) : state = start := by
  cases h with
  | start => rfl
  | step _ _ habove => exact absurd (hrank.symm.trans habove) (Nat.succ_ne_zero _).symm

/-- **Ladder rule.**  If every step closes an object or takes an open one a rank up, then an object that is
not closed has climbed to where it is. -/
theorem climbed_of_run (machine : Machine σ ι ο) {rank : σ → ℕ} {Closed : σ → Prop}
    (hstep : ∀ state input, Closed (machine.step state input).2 ∨
      ¬Closed state ∧ rank (machine.step state input).2 = rank state + 1) (start : σ) (inputs : List ι) :
    Closed (machine.run start inputs) ∨ machine.Climbed rank start inputs (machine.run start inputs) := by
  refine machine.run_history (P := fun history state ↦ Closed state ∨
    machine.Climbed rank start history state) (.inr .start) (fun before state input h ↦ ?_) inputs
  rcases hstep state input with hclosed | ⟨hopen, hrank⟩
  · exact .inl hclosed
  · have hclimbed := (h.resolve_left hopen).mono (List.subset_append_left before [input])
    exact .inr (hclimbed.step (List.mem_append_right _ List.mem_cons_self) hrank)

/-- An object in a closed state that it cannot have climbed to is closed. -/
theorem closed_of_run {machine : Machine σ ι ο} {rank : σ → ℕ} {Closed Q : σ → Prop}
    (hstep : ∀ state input, Closed (machine.step state input).2 ∨
      ¬Closed state ∧ rank (machine.step state input).2 = rank state + 1) {start : σ}
    (hstart : ¬Q start) (hrank : ∀ state, Q state → rank state = 0) (inputs : List ι)
    (hstate : Q (machine.run start inputs)) : Closed (machine.run start inputs) := by
  refine (machine.climbed_of_run hstep start inputs).resolve_right fun hclimbed ↦ hstart ?_
  rwa [hclimbed.eq_start (hrank _ hstate)] at hstate

/-- A call that raises leaves a closed object. -/
def RaisesClosed (machine : Machine σ ι (Option α)) (Closed : σ → Prop) (state : σ) (input : ι) : Prop :=
  (machine.step state input).1 = none → Closed (machine.step state input).2

/-- A closed object stays closed, and its calls give nothing out: they raise, or return no proof. -/
structure StaysClosed (machine : Machine σ ι (Option (Option α))) (Closed : σ → Prop) (state : σ)
    (inputs : List ι) : Prop where
  closed : Closed (machine.run state inputs)
  silent : ∀ output ∈ machine.outputs state inputs, ∀ proof, output ≠ some (some proof)

/-- **A closed object stays closed** along every run, if each call leaves it so. -/
theorem staysClosed_of_step (machine : Machine σ ι (Option (Option α))) {Closed : σ → Prop}
    (hstep : ∀ state input, Closed state → Closed (machine.step state input).2 ∧
      ∀ proof, (machine.step state input).1 ≠ some (some proof)) {state : σ} (hclosed : Closed state)
    (inputs : List ι) : machine.StaysClosed Closed state inputs := by
  induction inputs generalizing state with
  | nil => exact ⟨hclosed, fun _ houtput ↦ absurd houtput List.not_mem_nil⟩
  | cons input rest ih =>
    obtain ⟨hnext, hsilent⟩ := hstep state input hclosed
    obtain ⟨hend, hrest⟩ := ih hnext
    refine ⟨hend, fun output houtput ↦ ?_⟩
    rcases List.mem_cons.mp houtput with rfl | houtput
    · exact hsilent
    · exact hrest output houtput

/-- The machine of an object whose methods share one handler.  A call comes with whether something in its body
raises that is not modelled. -/
def closing (perform : σ → κ → Option (α × σ)) (clear : σ → σ) : Machine σ (κ × Bool) (Option α) where
  step state input :=
    match if input.2 then none else perform state input.1 with
    | some (value, state') => (some value, state')
    | none => (none, clear state)

variable {perform : σ → κ → Option (α × σ)} {clear : σ → σ}

/-- Both outcomes of a call. -/
theorem closing_cases (perform : σ → κ → Option (α × σ)) (clear : σ → σ) (state : σ) (input : κ × Bool) :
    (∃ value state', input.2 = false ∧ perform state input.1 = some (value, state') ∧
      (closing perform clear).step state input = (some value, state')) ∨
      (closing perform clear).step state input = (none, clear state) := by
  obtain ⟨call, fault⟩ := input
  cases fault with
  | true => exact .inr rfl
  | false =>
    cases hperform : perform state call with
    | none =>
      right
      simp only [closing, hperform]
      rfl
    | some result =>
      left
      refine ⟨result.1, result.2, rfl, rfl, ?_⟩
      simp only [closing, hperform]
      rfl

/-- A raising call of such an object closes it. -/
theorem raisesClosed_closing {Closed : σ → Prop} (hclear : ∀ state, Closed (clear state)) (state : σ)
    (input : κ × Bool) : (closing perform clear).RaisesClosed Closed state input := by
  intro hraised
  rcases closing_cases perform clear state input with ⟨value, state', -, -, hstep⟩ | hstep
  · rw [hstep] at hraised
    exact nomatch hraised
  · rw [hstep]
    exact hclear state

end PqBleHandshake.Foundation.Machine
