import TwinRing.Proofs.Direction.Flags
import TwinRing.Proofs.Segment.Within
/-!
# Lanes that are shut down — no more bytes

A worker that looks for something to do looks at the shutdown before it
looks at the slot. So once a lane is shut down, no request is picked up any
more, and only a worker that is on its way to the ring at that moment still
changes a byte. A lane whose worker is not (`Idle`) leaves the store as it
is until the worker has ended: `objects_join_of_idle`.
-/

namespace TwinRing

namespace Lane

variable {l : Lane} {s : Store}

/-- **The worker is not on its way to the ring.** -/
def Idle (l : Lane) : Prop := ∀ buffer, l.handshake.worker ≠ some (.serving buffer)

/-- **A lane that is shut down**, and whose worker is not on its way to the
ring. -/
structure Retiring (l : Lane) : Prop where
  exit : l.direction.exit = true
  idle : l.Idle

/-- A notice sends nobody to the ring. -/
theorem idle_of_noticed {l' : Lane} (h : l.Idle)
    (hworker : l'.handshake.worker = l.handshake.worker.map WorkerPhase.noticed) : l'.Idle := by
  intro buffer hserving
  rw [hworker] at hserving
  obtain ⟨w, hw, hnoticed⟩ := Option.map_eq_some_iff.1 hserving
  refine h buffer (hw.trans ?_)
  cases w <;> first | exact congrArg some hnoticed | cases hnoticed

theorem retiring_signalExit (h : l.Idle) : (l.onHandshake Handshake.signalExit).Retiring :=
  ⟨rfl, idle_of_noticed h rfl⟩

theorem Retiring.callStep (h : l.Retiring) (ticket : Nat) : (l.callStep ticket).Retiring := by
  refine ⟨?_, ?_⟩
  · change (l.handshake.callStep ticket).direction.exit = true
    unfold Handshake.callStep
    split
    · exact h.exit
    · rename_i k _
      have hexit : (k.step l.handshake.direction).1.exit = true :=
        (Call.exit_step l.handshake.direction k).trans h.exit
      dsimp only
      split <;> exact hexit
  · rcases Course.worker_callStep { lane := l, store := {} } ticket with hworker | hworker
    · exact fun buffer hserving => h.idle buffer (hworker.symm.trans hserving)
    · exact idle_of_noticed h.idle hworker

/-- A worker that looks sees the shutdown, or nothing. -/
theorem pickUp_of_exit {d : Direction} (h : d.exit = true) :
    (d.pickUp.1 = .exit ∨ d.pickUp.1 = .nothing) ∧ d.pickUp.2.exit = true := by
  unfold Direction.pickUp
  cases d.ready with
  | false => exact ⟨.inr rfl, h⟩
  | true =>
    dsimp only
    rw [if_pos rfl, if_pos h]
    exact ⟨.inl rfl, h⟩

/-- **The worker of a lane that is shut down** picks nothing up. -/
theorem Retiring.workerStep (h : l.Retiring) (s : Store) : (l.workerStep s).1.Retiring := by
  have hexit : l.handshake.direction.exit = true := h.exit
  have next : ∀ {h' : Handshake} {events : Array Event} {w : WorkerPhase},
      h'.direction.exit = true → h'.worker = some w → (∀ buffer, w ≠ .serving buffer) →
      ({ l with handshake := h', events } : Lane).Retiring := fun hexit' hw hidle =>
    ⟨hexit', fun buffer hserving => hidle buffer (Option.some.inj (hw.symm.trans hserving))⟩
  unfold Lane.workerStep
  cases hw : l.handshake.worker with
  | none =>
    simp only [Lane.onHandshake, Handshake.workerStep, hw]
    exact h
  | some w =>
    cases w with
    | looking =>
      obtain ⟨hfound, hkept⟩ := pickUp_of_exit hexit
      rcases hpick : l.handshake.direction.pickUp with ⟨found, d⟩
      rw [hpick] at hfound hkept
      simp only [Lane.onHandshake, Handshake.workerStep, hw, hpick]
      rcases hfound with hfound | hfound <;> cases hfound
      · exact next hkept rfl fun _ => WorkerPhase.noConfusion
      · exact next hkept rfl fun _ => WorkerPhase.noConfusion
    | serving buffer => exact absurd hw (h.idle buffer)
    | publishing t =>
      simp only [Lane.onHandshake, Handshake.workerStep, hw]
      exact next hexit rfl fun _ => WorkerPhase.noConfusion
    | announcing =>
      simp only [Lane.onHandshake, Handshake.workerStep, hw]
      exact next hexit rfl fun _ => WorkerPhase.noConfusion
    | leaving =>
      simp only [Handshake.workerStep, hw]
      exact next hexit rfl fun _ => WorkerPhase.noConfusion
    | asleep =>
      simp only [Lane.onHandshake, Handshake.workerStep, hw]
      exact h
    | stopped =>
      simp only [Lane.onHandshake, Handshake.workerStep, hw]
      exact h

/-- **An idle lane that is shut down** stays idle and changes no byte. -/
theorem idle_signalExit (h : l.Idle) (s : Store) :
    (l.signalExit s).1.Idle ∧ (l.signalExit s).2.objects = s.objects := by
  have hsteps := steps_induction (P := fun l' s' => l'.Retiring ∧ s'.objects = s.objects)
    (fun l' s' ⟨hl, hs⟩ => ⟨hl.workerStep s', by rw [(within_workerStep l' s').2 hl.idle, hs]⟩)
    (fun _ _ ticket ⟨hl, hs⟩ => ⟨hl.callStep ticket, hs⟩)
    (l.onHandshake Handshake.signalExit).stepBound (s := s) ⟨retiring_signalExit h, rfl⟩
  exact ⟨hsteps.1.idle, hsteps.2⟩

/-- **Nor does it while its worker is waited for.** -/
theorem objects_join_of_idle (h : l.Idle) (s : Store) : (l.join s).2.objects = s.objects :=
  (idle_signalExit h s).2

end Lane

end TwinRing
