import Mathlib.Tactic

/-!
# Effects with exceptions

A computation that reads and writes a state and may raise: the state survives an exception, as the variables
of a Python coroutine do.  `Wp` is the weakest precondition for a return and for an exception, with one rule
for each way to build a computation.
-/

namespace PqBleHandshake.Foundation

/-- A computation over a state that returns or raises. -/
def Effect (σ ε α : Type) : Type := σ → Except ε α × σ

namespace Effect

variable {σ ε α β : Type}

instance : Monad (Effect σ ε) where
  pure a := fun s ↦ (.ok a, s)
  bind x f := fun s ↦ match x s with
    | (.ok a, s') => f a s'
    | (.error e, s') => (.error e, s')

/-- Read from the state. -/
def look (f : σ → α) : Effect σ ε α := fun s ↦ (.ok (f s), s)

/-- Write the state. -/
def update (f : σ → σ) : Effect σ ε Unit := fun s ↦ (.ok (), f s)

/-- Raise. -/
def fail (e : ε) : Effect σ ε α := fun s ↦ (.error e, s)

/-- `if` without `else`. -/
def onlyIf (condition : Prop) [Decidable condition] (x : Effect σ ε Unit) : Effect σ ε Unit :=
  if condition then x else pure ()

/-- `try … except`. -/
def onError (x : Effect σ ε α) (handler : ε → Effect σ ε α) : Effect σ ε α := fun s ↦
  match x s with
  | (.ok a, s') => (.ok a, s')
  | (.error e, s') => handler e s'

/-- `try … finally`; an exception of the cleanup replaces the outcome. -/
def ensuring (x : Effect σ ε α) (cleanup : Effect σ ε Unit) : Effect σ ε α := fun s ↦
  match x s with
  | (outcome, s') => match cleanup s' with
    | (.ok _, s'') => (outcome, s'')
    | (.error e, s'') => (.error e, s'')

/-- What must hold before a computation, so that a return satisfies `Q` and an exception satisfies `E`. -/
def Wp (x : Effect σ ε α) (Q : α → σ → Prop) (E : ε → σ → Prop) (s : σ) : Prop :=
  match x s with
  | (.ok a, s') => Q a s'
  | (.error e, s') => E e s'

variable {Q : α → σ → Prop} {R : β → σ → Prop} {E : ε → σ → Prop} {s : σ}

theorem wp_iff {x : Effect σ ε α} : Wp x Q E s ↔
    (∀ a s', x s = (.ok a, s') → Q a s') ∧ ∀ e s', x s = (.error e, s') → E e s' := by
  unfold Wp
  rcases x s with ⟨_ | _, s'⟩ <;> simp

@[simp]
theorem wp_pure {a : α} : Wp (pure a : Effect σ ε α) Q E s ↔ Q a s := Iff.rfl

@[simp]
theorem wp_look {f : σ → α} : Wp (look f) Q E s ↔ Q (f s) s := Iff.rfl

@[simp]
theorem wp_update {f : σ → σ} {Q : Unit → σ → Prop} : Wp (update f) Q E s ↔ Q () (f s) := Iff.rfl

@[simp]
theorem wp_fail {e : ε} : Wp (fail e : Effect σ ε α) Q E s ↔ E e s := Iff.rfl

@[simp]
theorem wp_bind {x : Effect σ ε α} {f : α → Effect σ ε β} :
    Wp (x >>= f) R E s ↔ Wp x (fun a s' ↦ Wp (f a) R E s') E s := by
  change (match (match x s with
    | (.ok a, s') => f a s'
    | (.error e, s') => (.error e, s')) with
    | (.ok b, s') => R b s'
    | (.error e, s') => E e s') ↔ _
  unfold Wp
  rcases x s with ⟨_ | _, s'⟩ <;> rfl

theorem wp_mono {x : Effect σ ε α} {Q' : α → σ → Prop} {E' : ε → σ → Prop} (h : Wp x Q E s)
    (hreturn : ∀ a s', Q a s' → Q' a s') (hraise : ∀ e s', E e s' → E' e s') : Wp x Q' E' s := by
  obtain ⟨hok, herror⟩ := wp_iff.mp h
  exact wp_iff.mpr ⟨fun a s' hrun ↦ hreturn a s' (hok a s' hrun),
    fun e s' hrun ↦ hraise e s' (herror e s' hrun)⟩

/-- A sequence through an intermediate assertion. -/
theorem wp_seq {x : Effect σ ε α} {f : α → Effect σ ε β} (h : Wp x Q E s)
    (hrest : ∀ a s', Q a s' → Wp (f a) R E s') : Wp (x >>= f) R E s :=
  wp_bind.mpr (wp_mono h hrest fun _ _ h ↦ h)

theorem wp_onError {x : Effect σ ε α} {handler : ε → Effect σ ε α}
    (h : Wp x Q (fun e s' ↦ Wp (handler e) Q E s') s) : Wp (onError x handler) Q E s := by
  unfold Wp onError at *
  rcases hx : x s with ⟨_ | _, s'⟩ <;> rw [hx] at h <;> exact h

theorem wp_ensuring {x : Effect σ ε α} {cleanup : Effect σ ε Unit}
    (h : Wp x (fun a s' ↦ Wp cleanup (fun _ s'' ↦ Q a s'') E s')
      (fun e s' ↦ Wp cleanup (fun _ s'' ↦ E e s'') E s') s) : Wp (ensuring x cleanup) Q E s := by
  unfold Wp ensuring at *
  rcases hx : x s with ⟨_ | _, s'⟩ <;> rw [hx] at h <;> dsimp only at h ⊢ <;>
    rcases hcleanup : cleanup s' with ⟨_ | _, s''⟩ <;> rw [hcleanup] at h <;> exact h

/-! ## Triples -/

/-- From every state with `P`, a return satisfies `Q` and an exception satisfies `E`. -/
def Triple (P : σ → Prop) (x : Effect σ ε α) (Q : α → σ → Prop) (E : ε → σ → Prop) : Prop :=
  ∀ s, P s → Wp x Q E s

namespace Triple

variable {P P' : σ → Prop} {Q Q' : α → σ → Prop} {R : β → σ → Prop} {E E' : ε → σ → Prop}

theorem bind {x : Effect σ ε α} {f : α → Effect σ ε β} (hx : Triple P x Q E)
    (hf : ∀ a, Triple (Q a) (f a) R E) : Triple P (x >>= f) R E :=
  fun s h ↦ wp_seq (hx s h) fun a s' ha ↦ hf a s' ha

theorem conseq {x : Effect σ ε α} (h : Triple P x Q E) (hpre : ∀ s, P' s → P s)
    (hreturn : ∀ a s, Q a s → Q' a s) (hraise : ∀ e s, E e s → E' e s) : Triple P' x Q' E' :=
  fun s hs ↦ wp_mono (h s (hpre s hs)) hreturn hraise

theorem weaken {x : Effect σ ε α} (h : Triple P x Q E) (hreturn : ∀ a s, Q a s → Q' a s) : Triple P x Q' E :=
  h.conseq (fun _ h ↦ h) hreturn fun _ _ h ↦ h

theorem strengthen {x : Effect σ ε α} (h : Triple P x Q E) (hpre : ∀ s, P' s → P s) : Triple P' x Q E :=
  h.conseq hpre (fun _ _ h ↦ h) fun _ _ h ↦ h

/-- One computation, two specifications. -/
theorem and {x : Effect σ ε α} (h : Triple P x Q E) (h' : Triple P' x Q' E') :
    Triple (fun s ↦ P s ∧ P' s) x (fun a s ↦ Q a s ∧ Q' a s) fun e s ↦ E e s ∧ E' e s := by
  intro s hs
  obtain ⟨hok, herror⟩ := wp_iff.mp (h s hs.1)
  obtain ⟨hok', herror'⟩ := wp_iff.mp (h' s hs.2)
  exact wp_iff.mpr ⟨fun a s' hrun ↦ ⟨hok a s' hrun, hok' a s' hrun⟩,
    fun e s' hrun ↦ ⟨herror e s' hrun, herror' e s' hrun⟩⟩

theorem pure {a : α} (h : ∀ s, P s → Q a s) : Triple P (Pure.pure a : Effect σ ε α) Q E := h

theorem look {f : σ → α} (h : ∀ s, P s → Q (f s) s) : Triple P (look f : Effect σ ε α) Q E := h

theorem update {f : σ → σ} {Q : Unit → σ → Prop} (h : ∀ s, P s → Q () (f s)) :
    Triple P (update f : Effect σ ε Unit) Q E := h

theorem fail {e : ε} (h : ∀ s, P s → E e s) : Triple P (fail e : Effect σ ε α) Q E := h

/-- A fact of the precondition that no state can change. -/
theorem fact {p : Prop} {x : Effect σ ε α} (h : p → Triple P x Q E) : Triple (fun s ↦ p ∧ P s) x Q E :=
  fun s hs ↦ h hs.1 s hs.2

theorem exists_pre {κ : Type} {P : κ → σ → Prop} {x : Effect σ ε α} (h : ∀ k, Triple (P k) x Q E) :
    Triple (fun s ↦ ∃ k, P k s) x Q E :=
  fun s ⟨k, hs⟩ ↦ h k s hs

/-- A read leaves the precondition. -/
theorem peek {f : σ → α} : Triple P (Effect.look f : Effect σ ε α) (fun _ ↦ P) E := fun _ h ↦ h

/-- A check that raises. -/
theorem require {condition : Prop} [Decidable condition] {e : ε} (h : ∀ s, P s → E e s) :
    Triple P (onlyIf condition (Effect.fail e)) (fun _ s ↦ ¬condition ∧ P s) E := by
  unfold onlyIf
  split_ifs with hcondition
  · exact h
  · exact fun s hs ↦ ⟨hcondition, hs⟩

theorem onError {F : ε → σ → Prop} {x : Effect σ ε α} {handler : ε → Effect σ ε α} (hx : Triple P x Q F)
    (hhandler : ∀ e, Triple (F e) (handler e) Q E) : Triple P (onError x handler) Q E :=
  fun s hs ↦ wp_onError (wp_mono (hx s hs) (fun _ _ h ↦ h) fun e s' h ↦ hhandler e s' h)

theorem ensuring {F : ε → σ → Prop} {G : α → σ → Prop} {x : Effect σ ε α} {cleanup : Effect σ ε Unit}
    (hx : Triple P x G F) (hreturn : ∀ a, Triple (G a) cleanup (fun _ s ↦ Q a s) E)
    (hraise : ∀ e, Triple (F e) cleanup (fun _ s ↦ E e s) E) : Triple P (ensuring x cleanup) Q E :=
  fun s hs ↦ wp_ensuring (wp_mono (hx s hs) (fun a s' h ↦ hreturn a s' h) fun e s' h ↦ hraise e s' h)

end Triple

end Effect

end PqBleHandshake.Foundation
