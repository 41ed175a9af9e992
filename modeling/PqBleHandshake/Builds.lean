import PqBleHandshake.FirmwareV1.Resets
import PqBleHandshake.FirmwareV1.SingleSlot
import PqBleHandshake.Legacy.Resets
import PqBleHandshake.Legacy.SingleSlot

/-!
# What holds of the worker in every build

v0.7 and v0.8 keep one session store, v1.0 and v1.1 another one.  Both have the same discipline: a reset
clears the secrets and moves an epoch, every commit of the worker compares the epoch of its job, and all
submit functions share one slot, its input buffers and one worker.
-/

namespace PqBleHandshake

open Foundation

/-! ## No resurrection of secrets -/

/-- **No resurrection.**  The resets clear what the stores retain.  In every run, once a step has moved an
epoch, a job that was submitted before it never again installs anything under that epoch: every further
step of the job leaves what the store retains and its flags as they are, or clears them. -/
theorem no_resurrection :
    ((∀ store : Legacy.Store, store.resetPhase5.session5 = .zero ∧ store.resetPhase5.session6 = .zero ∧
        store.resetPhase7.session7 = .zero) ∧
      ∀ store : FirmwareV1.Store, store.resetV1Cp3.session = .zero) ∧
    (∀ (platform : Legacy.Platform) (past later : List Legacy.Action) (reset : Legacy.Action)
      (view : Legacy.WorkerView) (before after state next : Legacy.State),
      run (Legacy.step platform) .boot past = some before →
      Legacy.step platform before reset = some after →
      run (Legacy.step platform) after later = some state →
      state.workerStep platform view = some next →
      (before.store.phase7Epoch < after.store.phase7Epoch → state.Older7 before →
        Legacy.Spares7 state next) ∧
      (before.store.phase5Epoch < after.store.phase5Epoch → state.Older5 before →
        Legacy.Spares5 state next)) ∧
    ∀ (platform : FirmwareV1.Platform) (past later : List FirmwareV1.Action) (reset : FirmwareV1.Action)
      (view : FirmwareV1.WorkerView) (state : FirmwareV1.State),
      let firmware := FirmwareV1.firmware platform
      let before := firmware.run .boot past
      before.store.v1Cp3Epoch < (firmware.step before reset).2.store.v1Cp3Epoch →
      state = firmware.run .boot (past ++ reset :: later) → state.Older before →
      FirmwareV1.Spares state (state.workerStep platform view).2 := by
  refine ⟨⟨fun store ↦ ?_, fun store ↦ store.resetV1Cp3_session.1⟩, ?_, ?_⟩
  · obtain ⟨hsession5, hsession6, -⟩ := store.resetPhase5_sessions
    exact ⟨hsession5, hsession6, store.resetPhase7_session.1⟩
  · intro platform past later reset view before after state next hpast hreset hlater hstep
    exact Legacy.older_job_spares hpast hreset hlater hstep
  · intro platform past later reset view state firmware before hmoved hstate holder
    exact FirmwareV1.older_job_spares past later reset hmoved hstate holder

/-- A START that the worker runs while its connection ends installs nothing. -/
theorem no_resurrection_overtaken :
    (∃ state next, run (Legacy.step (Legacy.samplePlatform pqV07)) .boot (Legacy.linkUp 1 ++
          [Legacy.startAuth 1, .worker (Legacy.sampleView true), .disconnected 1 0, .host] ++ [.host]) =
        some state ∧
      state.workerStep (Legacy.samplePlatform pqV07) (Legacy.sampleView true) = some next ∧
      state.worker.isPhase7 = true ∧ Legacy.Spares7 state next) ∧
    FirmwareV1.Spares FirmwareV1.overtakenState
      (FirmwareV1.overtakenState.workerStep (FirmwareV1.samplePlatform pqV10)
        FirmwareV1.openWorkerView).2 := by
  obtain ⟨-, hlegacy, hfirmware⟩ := no_resurrection
  constructor
  · obtain ⟨before, after, hpast, hreset, htest⟩ := @Legacy.exists_last_step (Legacy.samplePlatform pqV07)
      (Legacy.linkUp 1 ++
        [Legacy.startAuth 1, .worker (Legacy.sampleView true), .disconnected 1 0, .host]) .host
      (fun before after ↦ decide ((before.store.phase7Epoch < after.store.phase7Epoch ∧
        after.worker.isPhase7 = true ∧ after.workerEpoch ≤ before.store.phase7Epoch ∧
        after.store.phase7Epoch < after.workerEpoch + 2 ^ 32) ∧
        (after.workerStep (Legacy.samplePlatform pqV07) (Legacy.sampleView true)).isSome = true))
      (by decide +kernel)
    obtain ⟨⟨hmoved, hphase7, hsubmitted, hturn⟩, hsome⟩ := of_decide_eq_true htest
    obtain ⟨next, hstep⟩ := Option.isSome_iff_exists.mp hsome
    refine ⟨after, next, ?_, hstep, hphase7, ?_⟩
    · rw [run_append, hpast, Option.bind_some, run_cons, hreset, Option.bind_some, run_nil]
    · exact (hlegacy _ _ [] _ _ _ _ _ _ hpast hreset rfl hstep).1 hmoved fun _ ↦ ⟨hsubmitted, hturn⟩
  · exact hfirmware (FirmwareV1.samplePlatform pqV10) (FirmwareV1.startedActions pqV10)
      [.connected 2 true 0 0] (.disconnected 1 0) FirmwareV1.openWorkerView FirmwareV1.overtakenState
      (by decide +kernel) (by decide +kernel) fun _ ↦ by decide +kernel

/-! ## The single slot of the worker -/

/-- Whatever submissions, resets and worker steps interleave, the slot of every build is sound.  A job that a
submit function accepts is taken by the worker once; it runs once and makes what its program makes of the bytes
that were passed, or fails without output after a reset of its session; and it is reported once.  Until then
every submission is refused, and a submission that is refused ends in the state that it found.  The report comes
after at most nine, or thirteen, steps of the worker.  Every run of a firmware is a run of its slot. -/
theorem single_slot (legacy : Legacy.Platform) (platform : FirmwareV1.Platform) :
    ((Legacy.slotServer legacy).Sound Legacy.State.boot 9 ∧
      ∀ actions state, run (Legacy.step legacy) .boot actions = some state →
        (Legacy.slotServer legacy).Reaches .boot state) ∧
    (FirmwareV1.slotServer platform).Sound FirmwareV1.State.boot 13 ∧
      ∀ actions, (FirmwareV1.slotServer platform).Reaches .boot ((FirmwareV1.firmware platform).run .boot actions) :=
  ⟨⟨(Legacy.slotServer_simulation legacy).sound, fun _ _ hrun ↦ Legacy.run_called hrun⟩,
    (FirmwareV1.slotServer_simulation platform).sound, FirmwareV1.run_called platform⟩

end PqBleHandshake
