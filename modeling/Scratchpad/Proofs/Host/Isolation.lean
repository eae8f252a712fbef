import Scratchpad.Proofs.Host.Delivery

/-!
# Lines that are no requests

A line that is no request is turned down and leaves no other trace: whatever else happens around it
would happen without it. This is so because nothing that a host does depends on what it has sent or
logged. A line that is no text is another matter. It ends the input, so it is the last one that is
read.
-/

set_option autoImplicit false

namespace Scratchpad

open Session (Notice)
open Text.Utf8 (Malformed)

variable {μ : Type}

/-! ## What was logged does not matter -/

namespace Controller

/-- A controller without its log. -/
def bare (controller : Controller μ) : Controller μ :=
  { controller with log := [] }

theorem bare_answer (controller : Controller μ) (place : Nat) (answer : Answer μ) :
    (controller.bare.answer place answer).bare = (controller.answer place answer).bare := by
  unfold Controller.answer
  have same : controller.bare.phase? place = controller.phase? place := rfl
  rw [same]
  split
  · split <;> rfl
  · rfl

theorem bare_goOn (controller : Controller μ) (place : Nat) (phase : Phase μ) :
    (controller.bare.goOn place phase).bare = (controller.goOn place phase).bare := by
  have session : controller.bare.session = controller.session := rfl
  cases phase with
  | selecting file =>
    simp only [goOn, lookUp, session]
    split <;> rfl
  | claiming =>
    simp only [goOn, claim, session]
    split <;> rfl
  | onTurn =>
    simp only [goOn, look, session]
    split <;> rfl
  | _ => rfl

theorem bare_proceed (controller : Controller μ) (place : Nat) :
    (controller.bare.proceed place).bare = (controller.proceed place).bare := by
  have same : controller.bare.phase? place = controller.phase? place := rfl
  unfold proceed
  rw [same]
  split
  · split
    · rfl
    · exact bare_goOn ..
  · rfl

theorem bare_grant (controller : Controller μ) :
    controller.bare.grant.bare = controller.grant.bare := by
  have taken : controller.bare.turnTaken = controller.turnTaken := rfl
  have activities : controller.bare.activities = controller.activities := rfl
  unfold grant
  rw [taken, activities]
  split
  · rfl
  · split <;> rfl

theorem bare_step (controller : Controller μ) (action : Action μ) :
    (controller.bare.step action).bare = (controller.step action).bare := by
  cases action with
  | begin operation => rfl
  | edit program => rfl
  | clear => rfl
  | answer place answer => exact bare_answer ..
  | proceed place => exact bare_proceed ..
  | grant => exact bare_grant ..

end Controller

namespace Host

/-! ## What was sent does not matter -/

/-- A host without its messages and its log. -/
def bare (host : Host μ) : Host μ :=
  { host with controller := host.controller.bare, queue := [], written := [] }

/-- What a move does depends neither on what was sent nor on what was logged. -/
def Blind (move : Host μ → Host μ) : Prop :=
  ∀ host, (move host.bare).bare = (move host).bare ∧
    (move host).sent = host.sent ++ (move host.bare).sent

theorem blind_id : Blind fun host : Host μ => host := fun _ => ⟨rfl, (List.append_nil _).symm⟩

theorem blind_send (message : Message) : Blind fun host : Host μ => host.send message := by
  intro host
  have same : host.bare.listening = host.listening := rfl
  dsimp only [send]
  rw [same]
  split
  · exact ⟨rfl, by simp [sent, bare]⟩
  · exact ⟨rfl, by simp [sent, bare]⟩

theorem blind_sendNotice (notice : Option Notice) :
    Blind fun host : Host μ => host.sendNotice notice := by
  cases notice with
  | none => exact blind_id
  | some content => exact blind_send (.notice content)

theorem blind_write : Blind (@write μ) := by
  intro host
  have empty : host.bare.write = host.bare := rfl
  rw [empty]
  unfold write
  split
  · exact blind_id host
  · next message others queued => exact ⟨rfl, by simp [sent, bare, queued]⟩

theorem blind_beginStart : Blind (@beginStart μ) := by
  intro host
  have same : host.bare.start = host.start := rfl
  unfold beginStart
  rw [same]
  split
  · exact ⟨rfl, by simp [sent, bare]⟩
  · exact blind_id host

theorem blind_report : Blind (@report μ) := by
  intro host
  have same : host.bare.start = host.start := rfl
  have result (operation : Nat) :
    host.bare.controller.result? operation = host.controller.result? operation := rfl
  unfold report
  rw [same]
  split
  · rw [result]
    split
    · next notice _ => exact blind_sendNotice notice { host with start := .ended }
    · exact blind_id host
  · exact blind_id host

theorem blind_accept (envelope : Envelope) : Blind fun host : Host μ => host.accept envelope := by
  intro host
  refine ⟨?_, (List.append_nil _).symm⟩
  dsimp only [accept]
  generalize envelope.request.action? = action
  have same : (action.elim host.bare.controller host.bare.controller.step).bare =
      (action.elim host.controller host.controller.step).bare := by
    cases action with
    | none => rfl
    | some action => exact host.controller.bare_step action
  simp only [bare, stageOf] at same ⊢
  rw [same]
  rfl

theorem blind_turnDown (report : String) : Blind fun host : Host μ => host.turnDown report := by
  intro host
  have same : host.bare.listening = host.listening := rfl
  dsimp only [turnDown, send]
  rw [same]
  split
  · exact ⟨rfl, by simp [sent, bare]⟩
  · exact ⟨rfl, by simp [sent, bare]⟩

theorem blind_takeRecord (record : List UInt8) :
    Blind fun host : Host μ => host.takeRecord record := by
  intro host
  dsimp only [takeRecord]
  split
  · next line _ =>
    cases line with
    | blank => exact blind_id host
    | request envelope => exact blind_accept envelope host
    | garbled report => exact blind_turnDown report host
  · exact ⟨rfl, (List.append_nil _).symm⟩

theorem blind_read : Blind (@read μ) := by
  intro host
  have reading : host.bare.isReading = host.isReading := rfl
  have input : host.bare.input = host.input := rfl
  unfold read
  rw [reading, input]
  split
  · split
    · exact ⟨rfl, (List.append_nil _).symm⟩
    · next record rest _ => exact blind_takeRecord record { host with input := rest }
  · exact blind_id host

theorem blind_announce : Blind (@announce μ) := by
  intro host
  have same : host.bare.task = host.task := rfl
  have result (operation : Nat) :
    host.bare.controller.result? operation = host.controller.result? operation := rfl
  unfold announce
  rw [same]
  split
  · next id request operation _ =>
    rw [result]
    split
    · next notice _ =>
      exact blind_sendNotice notice { host with task := some ⟨id, request, .answering notice⟩ }
    · exact blind_id host
  · exact blind_id host

theorem blind_respond : Blind (@respond μ) := by
  intro host
  have same : host.bare.task = host.task := rfl
  unfold respond
  rw [same]
  split
  · exact blind_send _ { host with task := none }
  · exact blind_id host

theorem blind_work (work : Controller μ → Controller μ)
    (commutes : ∀ controller, (work controller.bare).bare = (work controller).bare) :
    Blind fun host => { host with controller := work host.controller } := by
  intro host
  refine ⟨?_, (List.append_nil _).symm⟩
  have same := commutes host.controller
  simp only [bare, same]

theorem blind_step (action : Action μ) : Blind fun host => host.step action := by
  cases action with
  | start => exact blind_beginStart
  | report => exact blind_report
  | read => exact blind_read
  | announce => exact blind_announce
  | respond => exact blind_respond
  | answer place answer =>
    exact blind_work (·.answer place answer) fun controller => controller.bare_answer place answer
  | proceed place =>
    exact blind_work (·.proceed place) fun controller => controller.bare_proceed place
  | grant => exact blind_work _ Controller.bare_grant
  | write => exact blind_write

/-- Hosts that are alike but for what they have sent and logged stay alike, and say the same. -/
theorem run_alike {host twin : Host μ} (alike : host.bare = twin.bare)
    (actions : List (Action μ)) :
    (host.run actions).bare = (twin.run actions).bare ∧
      ∃ more, (host.run actions).sent = host.sent ++ more ∧
        (twin.run actions).sent = twin.sent ++ more := by
  induction actions generalizing host twin with
  | nil => exact ⟨alike, [], by simp⟩
  | cons action actions ih =>
    obtain ⟨bare, sent⟩ := blind_step action host
    obtain ⟨twinBare, twinSent⟩ := blind_step action twin
    rw [alike] at bare sent
    obtain ⟨stays, more, said, twinSaid⟩ := ih (bare.symm.trans twinBare)
    refine ⟨stays, (twin.bare.step action).sent ++ more, ?_, ?_⟩
    · rw [run_cons, said, sent, List.append_assoc]
    · rw [run_cons, twinSaid, twinSent, List.append_assoc]

/-! ## Input that is not reached does not matter -/

/-- A host with more input behind the one that it has. -/
def onto (host : Host μ) (tail : List (List UInt8)) : Host μ :=
  { host with input := host.input ++ tail }

theorem send_onto (host : Host μ) (message : Message) (tail : List (List UInt8)) :
    (host.onto tail).send message = (host.send message).onto tail := by
  have same : (host.onto tail).listening = host.listening := rfl
  unfold send
  rw [same]
  split <;> rfl

theorem sendNotice_onto (host : Host μ) (notice : Option Notice) (tail : List (List UInt8)) :
    (host.onto tail).sendNotice notice = (host.sendNotice notice).onto tail := by
  cases notice with
  | none => rfl
  | some content => exact send_onto host (.notice content) tail

theorem takeRecord_onto (host : Host μ) (record : List UInt8) (tail : List (List UInt8)) :
    (host.onto tail).takeRecord record = (host.takeRecord record).onto tail := by
  unfold takeRecord
  split
  · next line _ =>
    cases line with
    | blank => rfl
    | request envelope => rfl
    | garbled report => exact send_onto { host with controller := _ } _ tail
  · rfl

theorem beginStart_onto (host : Host μ) (tail : List (List UInt8)) :
    (host.onto tail).beginStart = host.beginStart.onto tail := by
  have same : (host.onto tail).start = host.start := rfl
  unfold beginStart
  rw [same]
  split <;> rfl

theorem report_onto (host : Host μ) (tail : List (List UInt8)) :
    (host.onto tail).report = host.report.onto tail := by
  have same : (host.onto tail).start = host.start := rfl
  have controller : (host.onto tail).controller = host.controller := rfl
  unfold report
  rw [same, controller]
  split
  · split
    · exact sendNotice_onto { host with start := .ended } _ tail
    · rfl
  · rfl

theorem announce_onto (host : Host μ) (tail : List (List UInt8)) :
    (host.onto tail).announce = host.announce.onto tail := by
  have same : (host.onto tail).task = host.task := rfl
  have controller : (host.onto tail).controller = host.controller := rfl
  unfold announce
  rw [same, controller]
  split
  · next id request _ _ =>
    split
    · next notice _ =>
      exact sendNotice_onto { host with task := some ⟨id, request, .answering notice⟩ } notice tail
    · rfl
  · rfl

theorem respond_onto (host : Host μ) (tail : List (List UInt8)) :
    (host.onto tail).respond = host.respond.onto tail := by
  have same : (host.onto tail).task = host.task := rfl
  unfold respond
  rw [same]
  split
  · exact send_onto { host with task := none } _ tail
  · rfl

theorem write_onto (host : Host μ) (tail : List (List UInt8)) :
    (host.onto tail).write = host.write.onto tail := by
  have same : (host.onto tail).queue = host.queue := rfl
  unfold write
  rw [same]
  split <;> rfl

/-- The host is about to find that its input has ended. -/
def isAtEnd (host : Host μ) : Bool :=
  host.isReading && host.input.isEmpty

theorem read_onto {host : Host μ} (inside : host.isAtEnd = false) (tail : List (List UInt8)) :
    (host.onto tail).read = host.read.onto tail := by
  have same : (host.onto tail).isReading = host.isReading := rfl
  unfold read
  rw [same]
  split
  · next reading =>
    cases input : host.input with
    | nil => simp [isAtEnd, reading, input] at inside
    | cons record rest =>
      have left : (host.onto tail).input = record :: (rest ++ tail) := by
        rw [onto, input, List.cons_append]
      rw [left]
      exact takeRecord_onto { host with input := rest } record tail
  · rfl

theorem step_onto {host : Host μ} {action : Action μ}
    (inside : action = .read → host.isAtEnd = false) (tail : List (List UInt8)) :
    (host.onto tail).step action = (host.step action).onto tail := by
  cases action with
  | start => exact beginStart_onto host tail
  | report => exact report_onto host tail
  | read => exact read_onto (inside rfl) tail
  | announce => exact announce_onto host tail
  | respond => exact respond_onto host tail
  | write => exact write_onto host tail
  | _ => rfl

/-- Input that is still open, and all of it text. -/
def Decodable (host : Host μ) : Prop :=
  host.closing = none ∧ ∀ record ∈ host.input, ∃ line, Line.ofRecord record = .ok line

theorem Decodable.step {host : Host μ} (decodable : host.Decodable)
    (listening : host.listening = true) {action : Action μ}
    (inside : action = .read → host.isAtEnd = false) : (host.step action).Decodable := by
  obtain ⟨fresh, decodes⟩ := decodable
  generalize reached : host.step action = after
  have stepped := step_stepped listening action
  rw [reached] at stepped
  have fewer {first : List UInt8} {rest : List (List UInt8)} (input : host.input = first :: rest) :
      ∀ record ∈ rest, ∃ line, Line.ofRecord record = .ok line := by
    rw [input] at decodes
    exact (List.forall_mem_cons.mp decodes).2
  cases stepped with
  | closed reading input => simp [isAtEnd, reading, input] at inside
  | skipped _ input => exact ⟨fresh, fewer input⟩
  | accepted _ input => exact ⟨fresh, fewer input⟩
  | turnedDown _ input => exact ⟨fresh, fewer input⟩
  | broken _ input read =>
    obtain ⟨line, decoded⟩ := decodes _ (input ▸ List.mem_cons_self)
    cases read.symm.trans decoded
  | _ => exact ⟨fresh, decodes⟩

/-- Whatever stands behind the input of a host plays no part until that input has ended. -/
theorem run_onto {host : Host μ} (decodable : host.Decodable) (listening : host.listening = true)
    (actions : List (Action μ)) :
    ((host.run actions).closing = none ∧
      ∀ tail, (host.onto tail).run actions = (host.run actions).onto tail) ∨
    ∃ earlier later, actions = earlier ++ .read :: later ∧ (host.run earlier).isAtEnd = true ∧
      ∀ tail, (host.onto tail).run earlier = (host.run earlier).onto tail := by
  -- Hosts with different input behind go on alike up to the first read that finds nothing else.
  induction actions generalizing host with
  | nil => exact .inl ⟨decodable.1, fun _ => rfl⟩
  | cons action actions ih =>
    by_cases reached : action = .read ∧ host.isAtEnd = true
    · obtain ⟨rfl, ends⟩ := reached
      exact .inr ⟨[], actions, rfl, ends, fun _ => rfl⟩
    · have inside : action = .read → host.isAtEnd = false := by simpa using reached
      have step := step_onto inside
      rcases ih (decodable.step listening inside) (listening_step listening action) with
        ⟨unended, same⟩ | ⟨earlier, later, rfl, ends, same⟩
      · exact .inl ⟨unended, fun tail => by rw [run_cons, step, same, run_cons]⟩
      · exact .inr ⟨action :: earlier, later, rfl, ends, fun tail => by
          rw [run_cons, step, same, run_cons]⟩

theorem exists_isAtEnd {host : Host μ} (decodable : host.Decodable)
    (listening : host.listening = true) {tail : List (List UInt8)} {actions : List (Action μ)}
    (ended : ((host.onto tail).run actions).closing ≠ none) :
    ∃ earlier later, actions = earlier ++ .read :: later ∧ (host.run earlier).isAtEnd = true ∧
      ∀ tail, (host.onto tail).run earlier = (host.run earlier).onto tail := by
  rcases run_onto decodable listening actions with ⟨unended, same⟩ | reached
  · rw [same] at ended
    exact absurd unended ended
  · exact reached

/-! ## A line that is turned down -/

/-- Two hosts that have got to the same place, and have said the same but for one message. The one
that has said it may also have logged something else. -/
structure OneMore (message : Message) (before : List Message) (host twin : Host μ) : Prop where
  alike : host.bare = twin.bare
  sent : ∃ after, host.sent = before ++ message :: after ∧ twin.sent = before ++ after

/-- Every run of one host that gets to the end of the input is a run of the other one with one read
more, and the other way round. -/
structure Isolated (message : Message) (host twin : Host μ) : Prop where
  dropped : ∀ actions, (host.run actions).closing ≠ none →
    ∃ earlier later, actions = earlier ++ .read :: later ∧
      OneMore message (twin.run earlier).sent (host.run actions) (twin.run (earlier ++ later))
  inserted : ∀ actions, (twin.run actions).closing ≠ none →
    ∃ earlier later, actions = earlier ++ later ∧
      OneMore message (twin.run earlier).sent (host.run (earlier ++ .read :: later))
        (twin.run actions)

theorem read_of_isAtEnd {host : Host μ} (ends : host.isAtEnd = true) (record : List UInt8)
    (rest : List (List UInt8)) :
    (host.onto (record :: rest)).read = (host.onto rest).takeRecord record := by
  obtain ⟨reading, empty⟩ : host.isReading = true ∧ host.input = [] := by
    simpa [isAtEnd] using ends
  have same : (host.onto (record :: rest)).isReading = true := reading
  unfold read
  rw [if_pos same]
  simp only [onto, empty, List.nil_append]

theorem alike_turnDown {host : Host μ} (listening : host.listening = true) (report : String) :
    (host.turnDown report).bare = host.bare ∧ (host.turnDown report).sent =
      host.sent ++ [.response none (.refused ("Invalid request: " ++ report))] := by
  unfold turnDown
  rw [send_eq]
  · exact ⟨rfl, (List.append_assoc ..).symm⟩
  · exact listening

theorem oneMore_run {host : Host μ} (listening : host.listening = true) (ends : host.isAtEnd = true)
    {bad : List UInt8} {report : String} (garbled : Line.ofRecord bad = .ok (.garbled report))
    (rest : List (List UInt8)) (actions : List (Action μ)) :
    OneMore (.response none (.refused ("Invalid request: " ++ report))) host.sent
      ((host.onto (bad :: rest)).run (.read :: actions)) ((host.onto rest).run actions) := by
  have turned : (host.onto (bad :: rest)).step .read = (host.onto rest).turnDown report := by
    rw [step, read_of_isAtEnd ends]
    simp only [takeRecord, garbled, take]
  -- Once the line is turned down, the hosts differ only in what they have sent and logged.
  have heard : (host.onto rest).listening = true := listening
  obtain ⟨same, answered⟩ := alike_turnDown heard report
  obtain ⟨alike, after, said, twinSaid⟩ := run_alike same actions
  rw [run_cons, turned]
  refine ⟨alike, after, ?_, twinSaid⟩
  rw [said, answered, List.append_assoc]
  rfl

theorem isolated {host : Host μ} (decodable : host.Decodable) (listening : host.listening = true)
    {bad : List UInt8} {report : String} (garbled : Line.ofRecord bad = .ok (.garbled report))
    (rest : List (List UInt8)) :
    Isolated (.response none (.refused ("Invalid request: " ++ report))) (host.onto (bad :: rest))
      (host.onto rest) := by
  constructor
  case dropped =>
    intro actions ended
    obtain ⟨earlier, later, rfl, ends, same⟩ := exists_isAtEnd decodable listening ended
    refine ⟨earlier, later, rfl, ?_⟩
    rw [run_append, run_append, same, same]
    exact oneMore_run (listening_run listening earlier) ends garbled rest later
  case inserted =>
    intro actions ended
    obtain ⟨earlier, later, rfl, ends, same⟩ := exists_isAtEnd decodable listening ended
    refine ⟨earlier, .read :: later, rfl, ?_⟩
    rw [run_append, run_append, same, same]
    exact oneMore_run (listening_run listening earlier) ends garbled rest (.read :: later)

/-! ## A line that is no text -/

/-- A host that reads no more: some input is left, and nothing more is answered. -/
structure Stopped (error : Malformed) (left : List (List UInt8)) (answers : List Message)
    (host : Host μ) : Prop where
  closing : host.closing = some (.malformed error)
  input : host.input = left
  answers : host.sent.filter Message.isResponse = answers
  idle : host.task = none
  listening : host.listening = true

theorem Stopped.step {error : Malformed} {left : List (List UInt8)} {answers : List Message}
    {host : Host μ} (stopped : Stopped error left answers host) (action : Action μ) :
    Stopped error left answers (host.step action) := by
  have deaf : host.isReading = false := by simp [isReading, stopped.closing]
  generalize reached : host.step action = after
  have stepped := step_stepped stopped.listening action
  rw [reached] at stepped
  cases stepped with
  | ignored => exact stopped
  | worked => exact { stopped with }
  | started => exact { stopped with }
  | reported _ _ =>
    refine { stopped with answers := ?_ }
    rw [← stopped.answers]
    simp [sent, Message.isResponse]
  | closed reading => simp [deaf] at reading
  | skipped reading => simp [deaf] at reading
  | accepted reading => simp [deaf] at reading
  | turnedDown reading => simp [deaf] at reading
  | broken reading => simp [deaf] at reading
  | announced task => simp [stopped.idle] at task
  | responded task => simp [stopped.idle] at task
  | wrote queued =>
    refine { stopped with answers := ?_ }
    rw [← stopped.answers]
    simp [sent, queued]

theorem Stopped.run {error : Malformed} {left : List (List UInt8)} {answers : List Message}
    {host : Host μ} (stopped : Stopped error left answers host) (actions : List (Action μ)) :
    Stopped error left answers (host.run actions) := by
  induction actions generalizing host with
  | nil => exact stopped
  | cons action actions ih => exact ih (stopped.step action)

/-- The input ends with a line that is no text: what stands before it is answered as it would be
without the line, what stands after it is not read. -/
structure Last (error : Malformed) (left : List (List UInt8)) (host twin : Host μ) : Prop where
  reached : ∀ actions, (host.run actions).closing ≠ none →
    ∃ earlier later, actions = earlier ++ .read :: later ∧ (twin.run earlier).input = left ∧
      Stopped error left ((twin.run earlier).sent.filter Message.isResponse) (host.run actions)
  inserted : ∀ actions, (twin.run actions).closing ≠ none →
    ∃ earlier later, actions = earlier ++ later ∧ (twin.run earlier).input = left ∧
      Stopped error left ((twin.run earlier).sent.filter Message.isResponse)
        (host.run (earlier ++ .read :: later))

theorem stopped_run {host : Host μ} (listening : host.listening = true) (ends : host.isAtEnd = true)
    {bad : List UInt8} {error : Malformed} (malformed : Line.ofRecord bad = .error error)
    (rest : List (List UInt8)) (actions : List (Action μ)) :
    (host.onto rest).input = rest ∧
      Stopped error rest (host.sent.filter Message.isResponse)
        ((host.onto (bad :: rest)).run (.read :: actions)) := by
  obtain ⟨⟨idle, _⟩, empty⟩ : (host.task = none ∧ host.closing = none) ∧ host.input = [] := by
    simpa [isAtEnd, isReading] using ends
  have left : (host.onto rest).input = rest := by rw [onto, empty, List.nil_append]
  have stops : (host.onto (bad :: rest)).step .read =
      { host.onto rest with closing := some (.malformed error) } := by
    rw [step, read_of_isAtEnd ends]
    simp only [takeRecord, malformed]
  refine ⟨left, ?_⟩
  rw [run_cons, stops]
  apply Stopped.run
  exact { closing := rfl, input := left, answers := rfl, idle, listening }

theorem last {host : Host μ} (decodable : host.Decodable) (listening : host.listening = true)
    {bad : List UInt8} {error : Malformed} (malformed : Line.ofRecord bad = .error error)
    (rest : List (List UInt8)) : Last error rest (host.onto (bad :: rest)) (host.onto rest) := by
  constructor
  case reached =>
    intro actions ended
    obtain ⟨earlier, later, rfl, ends, same⟩ := exists_isAtEnd decodable listening ended
    refine ⟨earlier, later, rfl, ?_⟩
    rw [run_append, same, same]
    exact stopped_run (listening_run listening earlier) ends malformed rest later
  case inserted =>
    intro actions ended
    obtain ⟨earlier, later, rfl, ends, same⟩ := exists_isAtEnd decodable listening ended
    refine ⟨earlier, .read :: later, rfl, ?_⟩
    rw [run_append, same, same]
    exact stopped_run (listening_run listening earlier) ends malformed rest (.read :: later)

/-! ## Lines of bytes -/

/-- A line of bytes with its end. -/
def terminated (line : List UInt8) : List UInt8 :=
  line ++ [recordEnd]

theorem input_facing (controller : Controller μ) {lines : List (List UInt8)}
    (whole : ∀ line ∈ lines, recordEnd ∉ line) :
    (facing controller (lines.flatMap terminated)).input = lines.map terminated :=
  Text.records_flatMap_line whole

/-- A host before lines is one before the first of them, with the others behind these. -/
theorem facing_append (controller : Controller μ) {before after : List (List UInt8)}
    (whole : ∀ line ∈ before ++ after, recordEnd ∉ line) :
    facing controller ((before ++ after).flatMap terminated) =
      (facing controller (before.flatMap terminated)).onto (after.map terminated) := by
  have first := input_facing controller (List.forall_mem_append.mp whole).1
  have all := input_facing controller whole
  simp only [facing, onto] at first all ⊢
  rw [all, first, List.map_append]

theorem ofRecord_of_fault {record : List UInt8} {text : List Char} {c : Char} {cs : List Char}
    {fault : Json.Fault} (decoded : Text.Utf8.decode record = .ok text)
    (trimmed : Text.trimChars text = c :: cs)
    (refused : Envelope.ofText (String.ofList (c :: cs)) = .error fault) :
    Line.ofRecord record = .ok (.garbled (fault.message (c :: cs))) := by
  rw [Line.ofRecord, decoded, Except.map, Line.ofText, trimmed]
  simp only [refused]

/-- One line more that is neither blank nor a request. If it is a text, it gets one answer and
changes nothing else. If it is none, it ends the input. -/
theorem bad_line_isolated_or_last (controller : Controller μ) {before after : List (List UInt8)}
    {bad : List UInt8} (whole : ∀ line ∈ before ++ bad :: after, recordEnd ∉ line)
    (decodes : ∀ line ∈ before, ∃ read, Line.ofRecord (terminated line) = .ok read) :
    (∀ report, Line.ofRecord (terminated bad) = .ok (.garbled report) →
      Isolated (.response none (.refused ("Invalid request: " ++ report)))
        (facing controller ((before ++ bad :: after).flatMap terminated))
        (facing controller ((before ++ after).flatMap terminated))) ∧
    (∀ error, Line.ofRecord (terminated bad) = .error error →
      Last error (after.map terminated)
        (facing controller ((before ++ bad :: after).flatMap terminated))
        (facing controller ((before ++ after).flatMap terminated))) := by
  obtain ⟨first, behind⟩ := List.forall_mem_append.mp whole
  have others : ∀ line ∈ before ++ after, recordEnd ∉ line :=
    List.forall_mem_append.mpr ⟨first, (List.forall_mem_cons.mp behind).2⟩
  have decodable : (facing controller (before.flatMap terminated)).Decodable := by
    refine ⟨rfl, ?_⟩
    rw [input_facing controller first]
    exact List.forall_mem_map.mpr decodes
  rw [facing_append controller whole, facing_append controller others, List.map_cons]
  exact ⟨fun report garbled => isolated decodable rfl garbled _,
    fun error malformed => last decodable rfl malformed _⟩

/-- A question mark is isolated, a byte that no text has is the last thing that is read. -/
theorem bad_line_isolated_or_last_after_blank :
    let controller : Controller String := { session := Session.new "id" "program" }
    let request := Text.Utf8.encode "\x7b\"command\": \"run\"\x7d".toList
    Isolated (.response none (.refused "Invalid request: expected value at line 1 column 1"))
        (facing controller ([[0x20], [0x3F], request].flatMap terminated))
        (facing controller ([[0x20], request].flatMap terminated)) ∧
      Last (.invalid 1 0) [terminated request]
        (facing controller ([[0x20], [0xFF], request].flatMap terminated))
        (facing controller ([[0x20], request].flatMap terminated)) := by
  intro controller request
  have whole (bad : UInt8) (apart : recordEnd ≠ bad) :
      ∀ line ∈ [[0x20]] ++ [bad] :: [request], recordEnd ∉ line := by
    have space : recordEnd ≠ 0x20 := by decide
    have plain : recordEnd ∉ request := Text.Utf8.lineFeed_not_mem_encode (by decide)
    simp [space, apart, plain]
  have decodes : ∀ line ∈ [[0x20]], ∃ read, Line.ofRecord (terminated line) = .ok read := by
    simp only [List.mem_singleton, forall_eq]
    exact ⟨.blank, rfl⟩
  have garbled : Line.ofRecord (terminated [0x3F]) =
      .ok (.garbled (Json.Fault.message ['?'] ⟨.valueExpected, 0⟩)) :=
    ofRecord_of_fault rfl rfl rfl
  exact ⟨(bad_line_isolated_or_last controller (whole 0x3F (by decide)) decodes).1 _ garbled,
    (bad_line_isolated_or_last controller (whole 0xFF (by decide)) decodes).2 _ rfl⟩

end Host

end Scratchpad
