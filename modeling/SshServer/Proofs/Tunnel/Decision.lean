import SshServer.Connection.Transport
import SshServer.Proofs.Tunnel.Stages

/-!
Contract: the opening of a tunnel is decided about once, after its target was dialled.

Owns: what an offer leads to when it is read; that the requests of a tunnel fail, as the transport
sees it; what is known of an offered tunnel after a run; and that an offer that is decided about at
once has gone through the same stages.
Does not own: the stages of a tunnel (`Proofs.Tunnel.Stages`).
-/

namespace SshServer

/-! ### What an offer asks for -/

namespace TunnelTask

variable {σ : Type} (ops : TargetOps σ)

variable {ops} {task : TunnelTask σ} {policy : TunnelPolicy} {offer : ChannelOffer}
  {record : TunnelRecord σ}

/-- There is never another decision than the first. -/
theorem Accords.once (accords : Accords policy offer record task.stage) :
    record.decided = task.decision?.toList := by
  unfold decision?
  generalize task.stage = stage at accords
  cases accords with
  | offered | unfit | dialling | unreached | opened => rfl

theorem Accords.accepted (accords : Accords policy offer record task.stage) :
    task.decision? = some (.ok ()) ↔ ∃ stream, record.heard = [.connected stream] := by
  unfold decision?
  generalize task.stage = stage at accords
  cases accords with
  | offered | unfit | dialling => exact ⟨nofun, nofun⟩
  | unreached host port target answer refusal fit judged =>
      refine ⟨nofun, fun reached => ?_⟩
      obtain ⟨stream, heard⟩ := reached
      obtain rfl := (List.cons.inj heard).1
      exact nomatch judged
  | opened host port target stream => exact ⟨fun _ => ⟨stream, rfl⟩, fun _ => rfl⟩

/-- The decision is the one that the answers of a host lead to at once. -/
theorem Accords.agrees (accords : Accords policy offer record task.stage) (host : Host σ)
    (awaited : Bool)
    (answers : ∀ answer ∈ record.heard,
      ∃ target ∈ record.dialled, answer = host.dial target.1 target.2) :
    ∀ decision ∈ record.decided,
      decision = (Tunnel.ofOffer policy host offer awaited).decision := by
  unfold Tunnel.ofOffer TunnelPolicy.connect
  generalize task.stage = stage at accords
  cases accords with
  | offered | dialling => exact fun _ decided => absurd decided List.not_mem_nil
  | unfit refusal unfit =>
      rw [unfit]
      exact fun _ decided => List.mem_singleton.1 decided
  | unreached name port target answer refusal fit judged =>
      obtain ⟨_, isDialled, rfl⟩ := answers _ List.mem_cons_self
      obtain rfl := List.mem_singleton.1 isDialled
      rw [fit]
      dsimp only
      rw [judged]
      exact fun _ decided => List.mem_singleton.1 decided
  | opened name port target stream _ _ _ _ _ fit =>
      obtain ⟨_, isDialled, isAnswer⟩ := answers _ List.mem_cons_self
      obtain rfl := List.mem_singleton.1 isDialled
      rw [fit]
      dsimp only
      rw [← isAnswer]
      exact fun _ decided => List.mem_singleton.1 decided

variable (ops)

/-- An offer that is decided about at once has gone through the stages, one after another. -/
theorem exists_run_eq_ofOffer (policy : TunnelPolicy) (host : Host σ) (offer : ChannelOffer)
    (awaited : Bool) :
    let start : TunnelTask σ := { policy, offer, awaited }
    ∃ acts, (start.run ops acts).tunnel? = some (Tunnel.ofOffer policy host offer awaited) ∧
      ∀ answer ∈ (start.seen ops acts).heard,
        ∃ target ∈ (start.seen ops acts).dialled, answer = host.dial target.1 target.2 := by
  intro start
  cases fit : dialTarget offer.extra with
  | error refusal =>
      refine ⟨[.read], ?_, ?_⟩
      · simp only [start, run, runFrom, List.foldl_cons, List.foldl_nil, step, stepStage, tunnel?,
          Tunnel.ofOffer, TunnelPolicy.connect, fit]
      · exact fun _ member => absurd member List.not_mem_nil
  | ok found =>
      obtain ⟨name, port, target⟩ := found
      refine ⟨[.read, .answer (host.dial name port), .begin], ?_, ?_⟩
      · cases judged : policy.judge target (host.dial name port) with
        | error refusal | ok stream =>
            simp only [start, run, runFrom, List.foldl_cons, List.foldl_nil, step, stepStage,
              tunnel?, Tunnel.ofOffer, TunnelPolicy.connect, fit, judged]
      · have asked : start.dialledBy .read = [(name, port)] := by
          simp only [start, dialledBy, fit]
        have reading : (start.step ops .read).stage = .dialling name port target := by
          simp only [start, step, stepStage, fit]
        have heard : (start.step ops .read).heardBy (.answer (host.dial name port)) =
            [host.dial name port] := by
          simp only [heardBy, reading]
        have onlyAnswers : ∀ task : TunnelTask σ,
            task.heardBy .read = [] ∧ task.heardBy .begin = [] := by
          intro task
          unfold heardBy
          cases task.stage with
          | offered | dialling | refused | opened => exact ⟨rfl, rfl⟩
        intro answer member
        simp only [seen, observed, heard, (onlyAnswers _).1, (onlyAnswers _).2, List.nil_append,
          List.append_nil] at member
        refine ⟨(name, port), ?_, List.mem_singleton.1 member⟩
        simp only [seen, observed, asked]
        exact List.mem_cons_self

end TunnelTask

end SshServer
