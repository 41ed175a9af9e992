import Mathlib.Data.List.Basic
import Mathlib.Tactic

/-!
# Runs of machines and of guarded systems

A `Machine` is total: every input is answered with an output and a next state.  A guarded system is
a partial step function, where `none` says that the action is not enabled.  The rules below are the
only inductions over runs in the development: an invariant that one step preserves holds after every
run, a relation that one step preserves holds between the ends of a run, and two machines that agree
step by step under a condition produce the same outputs along every run that meets it.
-/

namespace PqBleHandshake.Foundation

variable {σ τ ι ο : Type*}

/-- In a list without repeated images, equal images are at equal positions. -/
theorem eq_index_of_nodup_map {α β : Type*} {f : α → β} {l : List α} {i j : ℕ} {x y : α}
    (h : (l.map f).Nodup) (hi : l[i]? = some x) (hj : l[j]? = some y) (hxy : f x = f y) : i = j := by
  have hlt : i < (l.map f).length := by
    rw [List.length_map]
    exact (List.getElem?_eq_some_iff.mp hi).1
  refine (List.getElem?_inj hlt h).mp ?_
  rw [List.getElem?_map, List.getElem?_map, hi, hj, Option.map_some, Option.map_some, hxy]

/-! ## Guarded computations -/

/-- Stop with an error unless a check passes: one `goto fail` or `raise`. -/
def require {ε : Type*} (check : Prop) [Decidable check] (error : ε) : Except ε Unit :=
  if check then .ok () else .error error

section Except

variable {ε α β : Type}

/-- A sequence succeeds when both parts do. -/
theorem except_bind_eq_ok_iff {first : Except ε α} {second : α → Except ε β} {result : β} :
    (first >>= second) = .ok result ↔ ∃ value, first = .ok value ∧ second value = .ok result := by
  constructor
  · intro h
    cases first with
    | error e => cases h
    | ok value => exact ⟨value, rfl, h⟩
  · rintro ⟨value, rfl, h⟩
    exact h

/-- A sequence fails where its first failing part does. -/
theorem except_bind_eq_error_iff {first : Except ε α} {second : α → Except ε β} {error : ε} :
    (first >>= second) = .error error ↔
      first = .error error ∨ ∃ value, first = .ok value ∧ second value = .error error := by
  constructor
  · intro h
    cases first with
    | error e =>
      cases h
      exact .inl rfl
    | ok value => exact .inr ⟨value, rfl, h⟩
  · rintro (rfl | ⟨value, rfl, h⟩)
    · rfl
    · exact h

@[simp]
theorem require_eq_ok_iff {check : Prop} [Decidable check] {error : ε} {value : Unit} :
    require check error = .ok value ↔ check := by
  unfold require
  split_ifs with h <;> simp [h]

@[simp]
theorem require_eq_error_iff {check : Prop} [Decidable check] {error error' : ε} :
    require check error = .error error' ↔ ¬check ∧ error = error' := by
  unfold require
  split_ifs with h <;> simp [h]

theorem require_bind_of {check : Prop} {_ : Decidable check} {error : ε}
    {next : Unit → Except ε α} (h : check) : (require check error >>= next) = next () := by
  rw [require, if_pos h]
  rfl

theorem require_bind_of_not {check : Prop} {_ : Decidable check} {error : ε}
    {next : Unit → Except ε α} (h : ¬check) :
    (require check error >>= next) = .error error := by
  rw [require, if_neg h]
  rfl

theorem ok_bind {first : Except ε α} {value : α} (h : first = .ok value)
    (next : α → Except ε β) : (first >>= next) = next value := by
  rw [h]
  rfl

theorem error_bind {first : Except ε α} {error : ε} (h : first = .error error)
    (next : α → Except ε β) : (first >>= next) = .error error := by
  rw [h]
  rfl

theorem guard_bind_of {check : Prop} {_ : Decidable check} (h : check) (next : Unit → Option α) :
    (guard check : Option Unit).bind next = next () := by
  rw [guard, if_pos h]
  rfl

theorem toOption_eq_some_iff {result : Except ε α} {value : α} :
    result.toOption = some value ↔ result = .ok value := by
  cases result <;> simp [Except.toOption]

/-- Turn a missing value into an error. -/
def orFail (error : ε) : Option α → Except ε α
  | some value => .ok value
  | none => .error error

@[simp]
theorem orFail_eq_ok_iff {error : ε} {option : Option α} {value : α} :
    orFail error option = .ok value ↔ option = some value := by
  cases option <;> simp [orFail]

@[simp]
theorem orFail_eq_error_iff {error error' : ε} {option : Option α} :
    orFail error option = .error error' ↔ option = none ∧ error = error' := by
  cases option <;> simp [orFail]

theorem orFail_some_bind (error : ε) (value : α) (next : α → Except ε β) :
    (orFail error (some value) >>= next) = next value := rfl

theorem orFail_none_bind (error : ε) (next : α → Except ε β) :
    (orFail error none >>= next) = .error error := rfl

@[simp]
theorem mapError_eq_ok_iff {ε' : Type} {f : ε → ε'} {result : Except ε α} {value : α} :
    result.mapError f = .ok value ↔ result = .ok value := by
  cases result <;> simp [Except.mapError]

end Except

section FailsIn

variable {ε ρ α β : Type} {state : ρ} {check : Prop} [Decidable check] {error : ε}

/-- A computation whose errors carry the state that it ends in, and that fails in the given one only. -/
def FailsIn (state : ρ) (result : Except (ε × ρ) α) : Prop :=
  ∀ error next, result = .error (error, next) → next = state

theorem FailsIn.ok {value : α} : FailsIn state (.ok value : Except (ε × ρ) α) := nofun

theorem FailsIn.require : FailsIn state (require check (error, state)) := by
  intro error' next h
  obtain ⟨-, heq⟩ := require_eq_error_iff.mp h
  exact (congrArg Prod.snd heq).symm

theorem FailsIn.mapError {ε' : Type} {result : Except ε' α} :
    FailsIn state (result.mapError fun _ ↦ (error, state)) := by
  intro error' next h
  cases result with
  | ok value => cases h
  | error e => exact (congrArg Prod.snd (Except.error.inj h)).symm

theorem FailsIn.bind {first : Except (ε × ρ) α} {second : α → Except (ε × ρ) β} (h : FailsIn state first)
    (hsecond : ∀ value, FailsIn state (second value)) : FailsIn state (first >>= second) := by
  intro error' next hfailed
  rcases except_bind_eq_error_iff.mp hfailed with hfirst | ⟨value, -, hlater⟩
  · exact h error' next hfirst
  · exact hsecond value error' next hlater

end FailsIn

/-! ## Total machines -/

/-- A machine that answers every input. -/
structure Machine (σ ι ο : Type*) where
  step : σ → ι → ο × σ

namespace Machine

/-- The state after a list of inputs. -/
def run (machine : Machine σ ι ο) (state : σ) (inputs : List ι) : σ :=
  inputs.foldl (fun current input ↦ (machine.step current input).2) state

/-- The outputs along a list of inputs, in order. -/
def outputs (machine : Machine σ ι ο) : σ → List ι → List ο
  | _, [] => []
  | state, input :: rest =>
      (machine.step state input).1 :: machine.outputs (machine.step state input).2 rest

@[simp]
theorem run_nil (machine : Machine σ ι ο) (state : σ) : machine.run state [] = state := rfl

@[simp]
theorem run_cons (machine : Machine σ ι ο) (state : σ) (input : ι) (rest : List ι) :
    machine.run state (input :: rest) = machine.run (machine.step state input).2 rest := rfl

theorem run_append (machine : Machine σ ι ο) (state : σ) (first second : List ι) :
    machine.run state (first ++ second) = machine.run (machine.run state first) second :=
  List.foldl_append

/-- **Invariant rule.** What every step preserves holds after every run. -/
theorem run_invariant (machine : Machine σ ι ο) {P : σ → Prop}
    (hstep : ∀ state input, P state → P (machine.step state input).2)
    {state : σ} (hinit : P state) (inputs : List ι) : P (machine.run state inputs) := by
  induction inputs generalizing state with
  | nil => exact hinit
  | cons input rest ih => exact ih (hstep state input hinit)

/-- A condition on the state and the input that every step of a run meets. -/
def Along (machine : Machine σ ι ο) (condition : σ → ι → Prop) : σ → List ι → Prop
  | _, [] => True
  | state, input :: rest =>
      condition state input ∧ machine.Along condition (machine.step state input).2 rest

theorem along_append (machine : Machine σ ι ο) {condition : σ → ι → Prop} {state : σ}
    {first second : List ι} :
    machine.Along condition state (first ++ second) ↔
      machine.Along condition state first ∧
        machine.Along condition (machine.run state first) second := by
  induction first generalizing state with
  | nil => simp [Along]
  | cons input rest ih => simp only [List.cons_append, Along, run_cons, ih, and_assoc]

/-- Inputs that meet a condition in every state meet it along every run. -/
theorem along_of_forall (machine : Machine σ ι ο) {condition : σ → ι → Prop} {inputs : List ι}
    (h : ∀ input ∈ inputs, ∀ state, condition state input) (state : σ) :
    machine.Along condition state inputs := by
  induction inputs generalizing state with
  | nil => trivial
  | cons input rest ih =>
    exact ⟨h input List.mem_cons_self state,
      ih (fun input' hmem ↦ h input' (List.mem_cons_of_mem _ hmem)) _⟩

instance decidableAlong {machine : Machine σ ι ο} {condition : σ → ι → Prop}
    [∀ state input, Decidable (condition state input)] :
    (state : σ) → (inputs : List ι) → Decidable (machine.Along condition state inputs)
  | _, [] => isTrue trivial
  | state, input :: rest =>
    have : Decidable (machine.Along condition (machine.step state input).2 rest) :=
      decidableAlong _ rest
    inferInstanceAs (Decidable (condition state input ∧ _))

/-- **Conditional invariant rule.** What every step that meets the condition preserves holds after every
run that meets it. -/
theorem run_invariant_of_along (machine : Machine σ ι ο) {condition : σ → ι → Prop} {P : σ → Prop}
    (hstep : ∀ state input, P state → condition state input → P (machine.step state input).2)
    {state : σ} (hinit : P state) {inputs : List ι} (halong : machine.Along condition state inputs) :
    P (machine.run state inputs) := by
  induction inputs generalizing state with
  | nil => exact hinit
  | cons input rest ih =>
    obtain ⟨hcondition, hrest⟩ := halong
    exact ih (hstep state input hinit hcondition) hrest

/-- Two machines in lockstep: they start related, answer every input alike and stay related. -/
def Lockstep (concrete : Machine σ ι ο) (model : Machine τ ι ο) (R : σ → τ → Prop) :
    σ → τ → List ι → Prop
  | s, t, [] => R s t
  | s, t, input :: rest =>
      R s t ∧ (concrete.step s input).1 = (model.step t input).1 ∧
        concrete.Lockstep model R (concrete.step s input).2 (model.step t input).2 rest

theorem Lockstep.related {concrete : Machine σ ι ο} {model : Machine τ ι ο} {R : σ → τ → Prop}
    {s : σ} {t : τ} {inputs : List ι} (h : concrete.Lockstep model R s t inputs) : R s t := by
  cases inputs with
  | nil => exact h
  | cons input rest => exact h.1

/-- Machines in lockstep produce the same outputs and end related. -/
theorem Lockstep.outputs_eq {concrete : Machine σ ι ο} {model : Machine τ ι ο}
    {R : σ → τ → Prop} {s : σ} {t : τ} {inputs : List ι}
    (h : concrete.Lockstep model R s t inputs) :
    concrete.outputs s inputs = model.outputs t inputs ∧
      R (concrete.run s inputs) (model.run t inputs) := by
  induction inputs generalizing s t with
  | nil => exact ⟨rfl, h⟩
  | cons input rest ih =>
    obtain ⟨-, hout, hrest⟩ := h
    obtain ⟨houts, hend⟩ := ih hrest
    exact ⟨by simp only [outputs, hout, houts], hend⟩

/-- **Simulation rule.**  If a condition on the state and the input decides whether related machines
answer it alike and stay related, then it decides, step by step, whether they run in lockstep. -/
theorem lockstep_iff_along {concrete : Machine σ ι ο} {model : Machine τ ι ο}
    {R : σ → τ → Prop} {condition : σ → ι → Prop}
    (hstep : ∀ s t input, R s t →
      ((concrete.step s input).1 = (model.step t input).1 ∧
        R (concrete.step s input).2 (model.step t input).2 ↔ condition s input))
    {s : σ} {t : τ} (hrel : R s t) (inputs : List ι) :
    concrete.Lockstep model R s t inputs ↔ concrete.Along condition s inputs := by
  induction inputs generalizing s t with
  | nil => exact ⟨fun _ ↦ trivial, fun _ ↦ hrel⟩
  | cons input rest ih =>
    constructor
    · rintro ⟨-, hout, hrest⟩
      have hnext := hrest.related
      exact ⟨(hstep s t input hrel).mp ⟨hout, hnext⟩, (ih hnext).mp hrest⟩
    · rintro ⟨hcond, hrest⟩
      obtain ⟨hout, hnext⟩ := (hstep s t input hrel).mpr hcond
      exact ⟨hrel, hout, (ih hnext).mpr hrest⟩

end Machine

/-! ## Guarded systems -/

/-- Run a guarded step function over a list of actions; `none` when one of them is not enabled. -/
def run (step : σ → ι → Option σ) : σ → List ι → Option σ
  | state, [] => some state
  | state, action :: rest => (step state action).bind fun next ↦ run step next rest

@[simp]
theorem run_nil (step : σ → ι → Option σ) (state : σ) : run step state [] = some state := rfl

theorem run_cons (step : σ → ι → Option σ) (state : σ) (action : ι) (rest : List ι) :
    run step state (action :: rest) = (step state action).bind fun next ↦ run step next rest :=
  rfl

/-- A run over a concatenation stops where the first part stops and goes on from there. -/
theorem run_append (step : σ → ι → Option σ) (state : σ) (first second : List ι) :
    run step state (first ++ second) =
      (run step state first).bind fun middle ↦ run step middle second := by
  induction first generalizing state with
  | nil => rfl
  | cons action rest ih =>
    simp only [List.cons_append, run_cons]
    cases step state action with
    | none => rfl
    | some next => exact ih next

/-- **Invariant rule.** What every enabled step preserves holds at the end of every run. -/
theorem run_invariant {step : σ → ι → Option σ} {P : σ → Prop}
    (hstep : ∀ s action t, P s → step s action = some t → P t)
    {s t : σ} {actions : List ι} (hinit : P s) (hrun : run step s actions = some t) : P t := by
  induction actions generalizing s with
  | nil =>
    cases hrun
    exact hinit
  | cons action rest ih =>
    rw [run_cons, Option.bind_eq_some_iff] at hrun
    obtain ⟨next, hnext, hrest⟩ := hrun
    exact ih (hstep s action next hinit hnext) hrest

/-- **Frame rule.** A reflexive and transitive relation that every enabled step respects relates the
two ends of every run. -/
theorem run_frame {step : σ → ι → Option σ} {R : σ → σ → Prop} (hrefl : ∀ s, R s s)
    (htrans : ∀ s t u, R s t → R t u → R s u)
    (hstep : ∀ s action t, step s action = some t → R s t)
    {s t : σ} {actions : List ι} (hrun : run step s actions = some t) : R s t :=
  run_invariant (P := R s) (fun _ _ _ hs hnext ↦ htrans _ _ _ hs (hstep _ _ _ hnext))
    (hrefl s) hrun

/-- A condition on the state and the action that every step of a guarded run meets. -/
def Meets (step : σ → ι → Option σ) (condition : σ → ι → Prop) : σ → List ι → Prop
  | _, [] => True
  | state, action :: rest =>
      condition state action ∧ ∀ next ∈ step state action, Meets step condition next rest

instance decidableMeets {step : σ → ι → Option σ} {condition : σ → ι → Prop}
    [∀ state action, Decidable (condition state action)] :
    (state : σ) → (actions : List ι) → Decidable (Meets step condition state actions)
  | _, [] => isTrue trivial
  | state, action :: rest =>
    have : ∀ next, Decidable (Meets step condition next rest) := fun next ↦ decidableMeets next rest
    inferInstanceAs (Decidable (condition state action ∧ ∀ next ∈ step state action, _))

/-- **Conditional invariant rule.** What every enabled step that meets the condition preserves holds at
the end of every run that meets it. -/
theorem run_invariant_of_meets {step : σ → ι → Option σ} {condition : σ → ι → Prop} {P : σ → Prop}
    (hstep : ∀ s action t, P s → condition s action → step s action = some t → P t)
    {s t : σ} {actions : List ι} (hinit : P s) (hmeets : Meets step condition s actions)
    (hrun : run step s actions = some t) : P t := by
  induction actions generalizing s with
  | nil =>
    cases hrun
    exact hinit
  | cons action rest ih =>
    rw [run_cons, Option.bind_eq_some_iff] at hrun
    obtain ⟨next, hnext, hrest⟩ := hrun
    obtain ⟨hcondition, hafter⟩ := hmeets
    exact ih (hstep s action next hinit hcondition hnext) (hafter next hnext) hrest

/-- **Equivalence rule.**  If, where an invariant holds, a condition on the action decides a property of
it, and the condition keeps the invariant, then a run meets the one exactly when it meets the other. -/
theorem meets_iff {step : σ → ι → Option σ} {condition property : σ → ι → Prop} {P : σ → Prop}
    (hiff : ∀ s action, P s → (condition s action ↔ property s action))
    (hkeep : ∀ s action t, P s → condition s action → step s action = some t → P t)
    {s : σ} (hinit : P s) (actions : List ι) :
    Meets step condition s actions ↔ Meets step property s actions := by
  induction actions generalizing s with
  | nil => exact Iff.rfl
  | cons action rest ih =>
    have hfirst := hiff s action hinit
    constructor
    · rintro ⟨hcondition, hrest⟩
      exact ⟨hfirst.mp hcondition, fun next hnext ↦
        (ih (hkeep s action next hinit hcondition hnext)).mp (hrest next hnext)⟩
    · rintro ⟨hproperty, hrest⟩
      have hcondition := hfirst.mpr hproperty
      exact ⟨hcondition, fun next hnext ↦
        (ih (hkeep s action next hinit hcondition hnext)).mpr (hrest next hnext)⟩

/-! ## What happened earlier in a run -/

/-- Some step of a run meets a relation. -/
def Earlier (step : σ → ι → Option σ) (P : σ → ι → σ → Prop) (start : σ) (actions : List ι) : Prop :=
  ∃ before action after s t, actions = before ++ action :: after ∧ run step start before = some s ∧
    step s action = some t ∧ P s action t

/-- What happened stays in the history. -/
theorem Earlier.append {step : σ → ι → Option σ} {P : σ → ι → σ → Prop} {start : σ} {actions : List ι}
    (h : Earlier step P start actions) (more : List ι) : Earlier step P start (actions ++ more) := by
  obtain ⟨before, action, after, s, t, rfl, hbefore, hstep, hP⟩ := h
  exact ⟨before, action, after ++ more, s, t, by simp, hbefore, hstep, hP⟩

/-- The last step is part of the history. -/
theorem earlier_last {step : σ → ι → Option σ} {P : σ → ι → σ → Prop} {start s t : σ} {actions : List ι}
    {action : ι} (hrun : run step start actions = some s) (hstep : step s action = some t)
    (h : P s action t) : Earlier step P start (actions ++ [action]) :=
  ⟨actions, action, [], s, t, rfl, hrun, hstep, h⟩

/-- **History rule.** What the start meets with an empty history, and every step with its own added, holds
of the history and the end of every run. -/
theorem run_history {step : σ → ι → Option σ} {P : List ι → σ → Prop} {s t : σ} {actions : List ι}
    (hinit : P [] s) (hstep : ∀ past action u v, run step s past = some u → P past u →
      step u action = some v → P (past ++ [action]) v)
    (hrun : run step s actions = some t) : P actions t := by
  induction actions using List.reverseRecOn generalizing t with
  | nil =>
    cases hrun
    exact hinit
  | append_singleton past action ih =>
    rw [run_append, Option.bind_eq_some_iff] at hrun
    obtain ⟨u, hpast, hlast⟩ := hrun
    rw [run_cons, Option.bind_eq_some_iff] at hlast
    obtain ⟨v, hnext, hend⟩ := hlast
    cases hend
    exact hstep past action u t hpast (ih hpast) hnext

end PqBleHandshake.Foundation
