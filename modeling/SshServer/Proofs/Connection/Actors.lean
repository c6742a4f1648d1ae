import SshServer.Proofs.Connection.Run
import SshServer.Rehearsal.Actor

/-!
Contract: actors keep to what handlers keep to.

Owns: that an actor never takes back what it has decided, and that to end or to stop one decides
nothing.
Does not own: what actors do with their channels.
-/

namespace SshServer.Rehearsal.Actor

/-- An actor that ends, or is stopped, keeps what it has. -/
theorem decision_finish (actor : Actor) (ending : TaskEnd) :
    (actor.finish ending).decision? = actor.decision? := by
  obtain ⟨context, offer, awaited, work, previous⟩ := actor
  cases work <;> rfl

theorem decision_cancel (actor : Actor) : actor.cancel.decision? = actor.decision? := by
  obtain ⟨context, offer, awaited, work, previous⟩ := actor
  cases work <;> rfl

/-- What comes of an echo keeps the channel, done or not. -/
theorem decision_afterEcho (actor : Actor) (channel : Channel) (sending : Outbox.Sending) :
    (actor.afterEcho channel sending).decision? = some (.ok ()) := by
  unfold afterEcho
  split
  · rfl
  · exact decision_finish { actor with work := .idle channel } .returned
  · rfl

theorem decision_stepEcho {actor next : Actor} {channel : Channel} {state : Echoing}
    (step : actor.stepEcho? channel state = some next) : next.decision? = some (.ok ()) := by
  unfold stepEcho? at step
  split at step
  · split at step
    · rw [← Option.some.inj step]
      rfl
    · split at step
      · rw [← Option.some.inj step]
        exact decision_afterEcho _ _ _
      · split at step
        · rw [← Option.some.inj step]
          exact decision_finish { actor with work := .idle _ } .returned
        · exact absurd step.symm (Option.some_ne_none next)
  · split at step
    · rw [← Option.some.inj step]
      exact decision_afterEcho _ _ _
    · exact absurd step.symm (Option.some_ne_none next)

theorem decision_stepSession {actor next : Actor} {session : Session} {main : Routine}
    {subsystems : List (String × Routine)} {play : Play} {remarks : List LogEntry}
    (accepted : actor.decision? = some (.ok ()))
    (step : actor.stepSession? session main subsystems play = some (next, remarks)) :
    next.decision? = some (.ok ()) := by
  unfold stepSession? at step
  split at step
  · rw [← (Prod.mk.inj (Option.some.inj step)).1, decision_finish]
    exact accepted
  · obtain ⟨_, _, same⟩ := Option.map_eq_some_iff.1 step
    rw [← (Prod.mk.inj same).1]
    rfl

theorem decision_step {actor next : Actor} {remarks : List LogEntry} {decision : Decision}
    (step : actor.step? = some (next, remarks)) (decided : actor.decision? = some decision) :
    next.decision? = some decision := by
  unfold step? at step
  split at step
  · exact absurd step.symm (Option.some_ne_none _)
  · split at step
    next handler work =>
      -- before its first step an actor has decided nothing
      unfold decision? channel? at decided
      rw [work] at decided
      exact absurd decided.symm (Option.some_ne_none decision)
    next channel state work =>
      have accepted : actor.decision? = some (.ok ()) := by
        unfold decision? channel?
        rw [work]
        rfl
      obtain ⟨other, moved, same⟩ := Option.map_eq_some_iff.1 step
      rw [← decided, accepted, ← (Prod.mk.inj same).1]
      exact decision_stepEcho moved
    next session main subsystems play work =>
      have accepted : actor.decision? = some (.ok ()) := by
        unfold decision? channel?
        rw [work]
        rfl
      rw [← decided, accepted]
      exact decision_stepSession accepted step
    next work => exact absurd step.symm (Option.some_ne_none _)
    next rejection work => exact absurd step.symm (Option.some_ne_none _)
    next channel work => exact absurd step.symm (Option.some_ne_none _)

/-- Actors are lawful: what they have accepted they keep, and they reject only as they end. -/
theorem lawful : handling.Lawful where
  step := decision_step
  cancel := decision_cancel

end SshServer.Rehearsal.Actor
