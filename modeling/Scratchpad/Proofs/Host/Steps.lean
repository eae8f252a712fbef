import Scratchpad.Host.Serve

/-!
# Steps of a host

What the parts of a host do to its messages. Sending adds a message at the end, writing takes the
first one that is left, and nothing else touches them: whatever was sent stays sent, in its order.
-/

set_option autoImplicit false

namespace Scratchpad.Host

open Session (Notice)

variable {μ : Type}

/-! ## Runs -/

@[simp] theorem run_nil (host : Host μ) : host.run [] = host := rfl

@[simp] theorem run_cons (host : Host μ) (action : Action μ) (actions : List (Action μ)) :
    host.run (action :: actions) = (host.step action).run actions := rfl

theorem run_append (host : Host μ) (earlier later : List (Action μ)) :
    host.run (earlier ++ later) = (host.run earlier).run later := by
  simp [run, List.foldl_append]

/-! ## Sending -/

theorem send_eq {host : Host μ} (listening : host.listening = true) (message : Message) :
    host.send message = { host with queue := host.queue ++ [message] } := by
  simp [send, listening]

theorem sendNotice_eq {host : Host μ} (listening : host.listening = true)
    (notice : Option Notice) :
    host.sendNotice notice =
      { host with queue := host.queue ++ notice.toList.map .notice } := by
  cases notice with
  | none => simp [sendNotice]
  | some content => exact send_eq listening (.notice content)

/-! ## What one action can do -/

/-- What an action can make of a host that someone listens to. -/
inductive Stepped (host : Host μ) : Action μ → Host μ → Prop where
  | ignored {action} : Stepped host action host
  /-- Only the controller has moved on. -/
  | worked {action controller} : Stepped host action { host with controller }
  | started : host.start = .due → Stepped host .start
      { host with
        controller := host.controller.begin .start
        start := .running host.controller.operations }
  | reported {operation notice} : host.start = .running operation →
      host.controller.result? operation = some notice → Stepped host .report
        { host with start := .ended, queue := host.queue ++ notice.toList.map .notice }
  | closed : host.isReading = true → host.input = [] → Stepped host .read host.close
  | skipped {record rest} : host.isReading = true → host.input = record :: rest →
      Line.ofRecord record = .ok .blank → Stepped host .read { host with input := rest }
  | accepted {record rest envelope} : host.isReading = true → host.input = record :: rest →
      Line.ofRecord record = .ok (.request envelope) →
      Stepped host .read ({ host with input := rest }.accept envelope)
  | turnedDown {record rest report controller} : host.isReading = true →
      host.input = record :: rest → Line.ofRecord record = .ok (.garbled report) →
      Stepped host .read
        { host with
          input := rest
          controller
          queue := host.queue ++ [.response none (.refused ("Invalid request: " ++ report))] }
  | broken {record rest error} : host.isReading = true → host.input = record :: rest →
      Line.ofRecord record = .error error →
      Stepped host .read { host with input := rest, closing := some (.malformed error) }
  | announced {id request operation notice} :
      host.task = some ⟨id, request, .awaiting operation⟩ →
      host.controller.result? operation = some notice → Stepped host .announce
        { host with
          task := some ⟨id, request, .answering notice⟩
          queue := host.queue ++ notice.toList.map .notice }
  | responded {id request notice} : host.task = some ⟨id, request, .answering notice⟩ →
      Stepped host .respond
        { host with
          task := none
          queue := host.queue ++
            [.response id (request.reply host.controller.session.snapshot notice)] }
  | wrote {message others} : host.queue = message :: others → Stepped host .write
      { host with queue := others, written := host.written ++ [message] }

private theorem beginStart_stepped (host : Host μ) : Stepped host .start host.beginStart := by
  unfold beginStart
  split
  · next due => exact .started due
  · exact .ignored

private theorem report_stepped {host : Host μ} (listening : host.listening = true) :
    Stepped host .report host.report := by
  unfold report
  split
  · next operation running =>
    split
    · next notice ended =>
      rw [sendNotice_eq]
      · exact .reported running ended
      · exact listening
    · exact .ignored
  · exact .ignored

private theorem read_stepped {host : Host μ} (listening : host.listening = true) :
    Stepped host .read host.read := by
  unfold read
  split
  · next reading =>
    split
    · next none => exact .closed reading none
    · next record rest some =>
      unfold takeRecord
      cases read : Line.ofRecord record with
      | error error => exact .broken reading some read
      | ok line =>
        cases line with
        | blank => exact .skipped reading some read
        | request envelope => exact .accepted reading some read
        | garbled report =>
          simp only [take, turnDown]
          rw [send_eq]
          · exact .turnedDown reading some read
          · exact listening
  · exact .ignored

private theorem announce_stepped {host : Host μ} (listening : host.listening = true) :
    Stepped host .announce host.announce := by
  unfold announce
  split
  · next id request operation atWork =>
    split
    · next notice ended =>
      rw [sendNotice_eq]
      · exact .announced atWork ended
      · exact listening
    · exact .ignored
  · exact .ignored

private theorem respond_stepped {host : Host μ} (listening : host.listening = true) :
    Stepped host .respond host.respond := by
  unfold respond
  split
  · next id request notice atWork =>
    rw [send_eq]
    · exact .responded atWork
    · exact listening
  · exact .ignored

private theorem write_stepped (host : Host μ) : Stepped host .write host.write := by
  unfold write
  split
  · exact .ignored
  · next message others queued => exact .wrote queued

theorem step_stepped {host : Host μ} (listening : host.listening = true) (action : Action μ) :
    Stepped host action (host.step action) := by
  cases action with
  | start => exact beginStart_stepped host
  | report => exact report_stepped listening
  | read => exact read_stepped listening
  | announce => exact announce_stepped listening
  | respond => exact respond_stepped listening
  | answer place answer => exact .worked
  | proceed place => exact .worked
  | grant => exact .worked
  | write => exact write_stepped host

/-! ## What was sent -/

theorem listening_step {host : Host μ} (listening : host.listening = true) (action : Action μ) :
    (host.step action).listening = true := by
  generalize reached : host.step action = after
  have stepped := step_stepped listening action
  rw [reached] at stepped
  cases stepped <;> exact listening

theorem listening_run {host : Host μ} (listening : host.listening = true)
    (actions : List (Action μ)) : (host.run actions).listening = true := by
  induction actions generalizing host with
  | nil => exact listening
  | cons action actions ih => exact ih (listening_step listening action)

theorem sent_isPrefix_step {host : Host μ} (listening : host.listening = true)
    (action : Action μ) : host.sent <+: (host.step action).sent := by
  generalize reached : host.step action = after
  have stepped := step_stepped listening action
  rw [reached] at stepped
  cases stepped with
  | reported => exact ⟨_, List.append_assoc ..⟩
  | turnedDown => exact ⟨_, List.append_assoc ..⟩
  | announced => exact ⟨_, List.append_assoc ..⟩
  | responded => exact ⟨_, List.append_assoc ..⟩
  | wrote queued => exact ⟨[], by simp [sent, queued]⟩
  | _ => exact List.prefix_rfl

theorem sent_isPrefix_run {host : Host μ} (listening : host.listening = true)
    (actions : List (Action μ)) : host.sent <+: (host.run actions).sent := by
  induction actions generalizing host with
  | nil => exact List.prefix_rfl
  | cons action actions ih =>
    exact (sent_isPrefix_step listening action).trans (ih (listening_step listening action))

end Scratchpad.Host
