import TunnelDeck.Concurrency.Interleaving
import TunnelDeck.Daemon.Dispatch

/-!
# The threads of the daemon

The manager as a set of threads over what they share. A thread that handles a request, and the
supervisor, run through the sections of the calls they make; between two sections any other thread
may run. A section is what happens under one hold of the state lock, one step of the launch or the
cleanup of an attempt, or the publishing of one event.

`Pc` says where a thread is, with the local variables that are live there. `exec` runs the section
at that point. What the operating system answers in it is the record `Env`: the request a free
thread takes up, fresh UUIDs, the outcome of each call into the outside, the clock.

The processes behind attempts are shared too. An attempt is *launched* when its guardian is
spawned, and every cleanup of it is counted.

Writing log records is left out: it reads one setting and changes nothing.
-/

namespace TunnelDeck

open Json (Value)
open Concurrency

/-! ## Shared state -/

/-- How far an attempt is. -/
inductive Phase where
  /-- The guardian is spawned and has not reported yet. -/
  | launching
  /-- The start succeeded and returned the attempt. -/
  | running
  /-- The start failed, and the attempt has ended. -/
  | failed
  /-- The start failed and left its guardian behind. -/
  | abandoned
  /-- The attempt was cleaned up after it had started. -/
  | cleaned
  deriving DecidableEq

/-- A spawned attempt: what it was launched for, how far it is and how often it was cleaned up
after its start. -/
structure Process where
  launch : Launch
  phase : Phase
  cleanups : ℕ
  deriving DecidableEq

/-- What the threads share. `drawn` holds the UUIDs that starts have drawn so far. -/
structure Daemon where
  state : State
  events : List Event
  processes : List Process
  drawn : List Uuid

namespace Daemon

def setState (d : Daemon) (s : State) : Daemon := { d with state := s }

/-- `EventHub::publish`. -/
def publish (d : Daemon) (events : List Event) : Daemon := { d with events := d.events ++ events }

def spawn (d : Daemon) (launch : Launch) : Daemon :=
  { d with processes := d.processes ++ [⟨launch, .launching, 0⟩] }

/-- The end of the launch of a process. -/
def settle (d : Daemon) (process : ℕ) (phase : Phase) : Daemon :=
  { d with processes := d.processes.modify process fun p ↦ { p with phase } }

/-- The attempts that were left behind end by themselves once their guardian sees the lease closed;
`ended` says which of them have. -/
def reap (d : Daemon) (ended : ℕ → Bool) : Daemon :=
  { d with
    processes := d.processes.mapIdx fun process p ↦
      if p.phase = .abandoned ∧ ended process = true then { p with phase := .failed } else p }

/-- `ManagedAttempt::cleanup`. -/
def cleanup (d : Daemon) (attempt : ManagedAttempt) : Daemon :=
  { d with
    processes := d.processes.modify attempt.process fun p ↦
      { p with phase := .cleaned, cleanups := p.cleanups + 1 } }

end Daemon

/-! ## Program points -/

/-- Who runs `maintain`: the handler of a status request or the supervisor. -/
inductive Poller where
  | status (request : Request)
  | supervisor

/-- Who calls `start_inner`, with what it needs to go on: a client, the retries of `maintain`, the
supervisor that restores rules, or an edit that restarts its rule. -/
inductive Caller where
  | client (request : Request)
  | retry (poller : Poller) (id : Uuid) (rest : List Uuid)
  | restore (id : Uuid) (rest : List Uuid)
  | edit (request : Request) (edit : Edit) (saved : Except StoreError Unit)

/-- The argument `automatic`. -/
def Caller.automatic : Caller → Bool
  | .retry _ _ _ | .restore _ _ => true
  | .client _ | .edit _ _ _ => false

/-- The argument `edit_owned`. -/
def Caller.editOwned : Caller → Bool
  | .edit _ _ _ => true
  | .client _ | .retry _ _ _ | .restore _ _ => false

def Caller.manual (caller : Caller) : Bool := !caller.automatic && !caller.editOwned

def Caller.target : Caller → Option Uuid
  | .client _ => none
  | .retry _ id _ | .restore id _ => some id
  | .edit _ e _ => some e.id

/-- The points of `start_inner`. -/
inductive StartPc where
  | enter
  | launch (launch : Launch)
  | spawned (launch : Launch) (process : ℕ)
  | launched (launch : Launch) (attempt : Option ManagedAttempt)
  | failed (launch : Launch) (error : ProcessError)
  | discard (launch : Launch) (attempt : ManagedAttempt)
  | publish (event : String) (id : Uuid) (reply : Reply)

/-- The points of `stop`. -/
inductive StopPc where
  | enter
  | cleanup (id : Uuid) (attempt : ManagedAttempt)
  | publish (id : Uuid)

/-- The points of `edit_active` from the reservation on. -/
inductive EditPc where
  | cleanup (attempt : ManagedAttempt)
  | stopFailed (error : ProcessError)
  | publishFailed (error : ProcessError)
  | publishStopped
  | save
  | finish (reply : Reply)

/-- The points of `maintain` up to its starts. -/
inductive MaintainPc where
  | scan
  | publish (events : List (String × Uuid)) (retry : List Uuid)

/-- Where a thread is. -/
inductive Pc where
  | idle
  | returned (request : Request) (reply : Reply)
  | dispatch (request : Request)
  | start (caller : Caller) (pc : StartPc)
  | stop (request : Request) (pc : StopPc)
  | editEnter (request : Request)
  | edit (request : Request) (edit : Edit) (pc : EditPc)
  | maintain (poller : Poller) (pc : MaintainPc)
  | supervise

/-! ## Sections -/

/-- What a free thread takes up. -/
inductive Call where
  | request (request : Request)
  | supervise

/-- The answers of the environment. An absent error is a success. -/
structure Env where
  call : Option Call := none
  /-- The UUID that `start_inner` draws. -/
  attemptId : Uuid := 0
  /-- The UUID of a managed attempt. -/
  processId : Uuid := 0
  /-- Probing the local port. -/
  bind : Option IoError := none
  /-- Spawning a guardian. -/
  spawn : Option ProcessError := none
  /-- What `start_attempt` fails with once the guardian is spawned. -/
  ready : Option ProcessError := none
  /-- Whether the guardian of such a start has exited when it returns. The results of `wait_child`
  are ignored, and a `set_read_timeout` that fails is not followed by one. -/
  exitedInTime : Bool := true
  /-- Which of the attempts that were left behind have ended. -/
  ended : ℕ → Bool := fun _ ↦ false
  /-- Cleaning up an attempt. -/
  cleanup : Option ProcessError := none
  save : SaveFaults := { replace := { id := 0 } }
  /-- The order in which the runtime entries are visited. -/
  order : List Uuid := []
  /-- Which processes are seen to have exited. -/
  exited : ℕ → Bool := fun _ ↦ false
  now : ℕ := 0

/-- `RequestHandler::handle`. -/
def handle (request : Request) : Pc :=
  match request.operation with
  | .status => .maintain (.status request) .scan
  | .forwardStart => .start (.client request) .enter
  | .forwardStop => .stop request .enter
  | .forwardEditActive => .editEnter request
  | _ => .dispatch request

/-- What follows `maintain`. -/
def Poller.resume : Poller → Pc
  | .status request => .dispatch request
  | .supervisor => .maintain .supervisor .scan

/-- The starts at the end of `maintain`. -/
def nextRetry (poller : Poller) : List Uuid → Pc
  | [] => poller.resume
  | id :: rest => .start (.retry poller id rest) .enter

def nextRestore : List Uuid → Pc
  | [] => .maintain .supervisor .scan
  | id :: rest => .start (.restore id rest) .enter

section Exec

variable (crates : Crates) (managed : Bool)

/-- The request of a start: the client's, or one that names the rule to start by its id. -/
def Caller.payload : Caller → Value
  | .client request => request.payload
  | .retry _ id _ | .restore id _ => selectId crates id
  | .edit _ e _ => selectId crates e.id

/-- The last match of `edit_active`, over the save and the restart. -/
def editReply (id : Uuid) : Except StoreError Unit → Reply → Reply
  | .ok (), .ok _ =>
    .ok (.object [("rule_id", encodeUuid crates id), ("saved", .bool true),
      ("state", .string "active")])
  | .ok (), .error (_, error) =>
    .error (.unavailable,
      "new configuration saved; forwarding stopped after restart failure" ++ (": " ++ error))
  | .error (.durabilityUncertain error), .ok _ =>
    .error (.internal,
      "new configuration applied and forwarding restarted; persistence durability uncertain" ++
        (": " ++ error))
  | .error (.durabilityUncertain error), .error (_, restart) =>
    .error (.internal,
      "new configuration applied but durability uncertain; forwarding stopped after restart failure"
        ++ (": " ++ restart ++ "; save: " ++ error))
  | .error error, .ok _ =>
    .error (saveErrorCode error,
      "save failed; old configuration restored and forwarding restarted" ++
        (": " ++ error.toString crates))
  | .error error, .error (_, restart) =>
    .error (saveErrorCode error,
      "save failed; old configuration unchanged; forwarding stopped after restart failure" ++
        (": " ++ restart ++ "; save: " ++ error.toString crates))

def Caller.resume : Caller → Reply → Pc
  | .client request, reply => .returned request reply
  | .retry poller _ rest, _ => nextRetry poller rest
  | .restore _ rest, _ => nextRestore rest
  | .edit request e saved, reply =>
    .edit request e (.finish (editReply crates e.id saved reply))

def startReply (id : Uuid) (startRequested changed : Bool) : Reply :=
  .ok (.object [("rule_id", encodeUuid crates id), ("start_requested", .bool startRequested),
    ("changed", .bool changed)])

def ruleEvent (event : String) (id : Uuid) : Event := ⟨event, ruleIdPayload crates id⟩

/-- The sections of `start_inner`. -/
def execStart (env : Env) (d : Daemon) (caller : Caller) : StartPc → Daemon × Pc
  | .enter =>
    let (entry, s) := startEnter crates caller.automatic caller.editOwned (caller.payload crates)
      env.attemptId env.bind d.state
    let d := { d.setState s with drawn := env.attemptId :: d.drawn }
    match entry with
    | .refused failure => (d, caller.resume crates (.error failure))
    | .unchanged id startRequested =>
      (d, caller.resume crates (startReply crates id startRequested false))
    | .launch launch => (d, .start caller (.launch launch))
  | .launch launch =>
    if managed then
      match env.spawn with
      | some error => (d, .start caller (.failed launch error))
      | none => (d.spawn launch, .start caller (.spawned launch d.processes.length))
    else (d, .start caller (.launched launch none))
  | .spawned launch process =>
    match env.ready with
    | some error =>
      (d.settle process (if env.exitedInTime then .failed else .abandoned),
        .start caller (.failed launch error))
    | none =>
      (d.settle process .running,
        .start caller (.launched launch (some ⟨process, env.processId⟩)))
  | .failed launch error =>
    let (recorded, s) := startFailed caller.editOwned launch error env.now d.state
    let failure : Failure := (.unavailable, (classifyDiagnostic error.toString).message)
    match recorded with
    | none => (d.setState s, caller.resume crates (startReply crates launch.id false true))
    | some true =>
      (d.setState s, .start caller (.publish "rule_reconnecting" launch.id (.error failure)))
    | some false => (d.setState s, caller.resume crates (.error failure))
  | .launched launch attempt =>
    let (wanted, s) := startFinish caller.editOwned launch attempt env.now d.state
    if wanted then
      (d.setState s,
        .start caller (.publish "rule_started" launch.id (startReply crates launch.id true true)))
    else
      match attempt with
      | some attempt => (d.setState s, .start caller (.discard launch attempt))
      | none => (d.setState s, caller.resume crates (startReply crates launch.id false true))
  | .discard launch attempt =>
    (d.cleanup attempt, caller.resume crates
      (match env.cleanup with
      | some error => .error (.internal, error.toString)
      | none => startReply crates launch.id false true))
  | .publish event id reply =>
    (d.publish [ruleEvent crates event id], caller.resume crates reply)

/-- What follows a stop that took the entry of its rule: an active attempt is cleaned up first. -/
def stopNext (request : Request) (id : Uuid) : Option Attempt → Pc
  | some (.active attempt) => .stop request (.cleanup id attempt)
  | some _ => .stop request (.publish id)
  | none => .returned request (startReply crates id false false)

/-- The sections of `stop`. -/
def execStop (env : Env) (d : Daemon) (request : Request) : StopPc → Daemon × Pc
  | .enter =>
    match stopEnter crates request.payload d.state with
    | (.error failure, s) => (d.setState s, .returned request (.error failure))
    | (.ok (id, entry), s) => (d.setState s, stopNext crates request id entry)
  | .cleanup id attempt =>
    (d.cleanup attempt,
      match env.cleanup with
      | some error => .returned request (.error (.internal, error.toString))
      | none => .stop request (.publish id))
  | .publish id =>
    (d.publish [ruleEvent crates "rule_stopped" id],
      .returned request (startReply crates id false true))

/-- The first section of `edit_active`. -/
def execEditEnter (d : Daemon) (request : Request) : Daemon × Pc :=
  match parseEdit crates request.payload with
  | .error failure => (d, .returned request (.error failure))
  | .ok edit =>
    match editReserve crates edit d.state with
    | (.error failure, s) => (d.setState s, .returned request (.error failure))
    | (.ok (some (.active attempt)), s) => (d.setState s, .edit request edit (.cleanup attempt))
    | (.ok _, s) =>
      (d.setState s,
        .edit request edit (.finish (.error (.internal, "active attempt disappeared"))))

/-- The sections of `edit_active` from the reservation on. -/
def execEdit (env : Env) (d : Daemon) (request : Request) (edit : Edit) : EditPc → Daemon × Pc
  | .cleanup attempt =>
    (d.cleanup attempt, .edit request edit
      (match env.cleanup with
      | some error => .stopFailed error
      | none => .publishStopped))
  | .stopFailed error =>
    (d.setState (editStopFailed edit d.state), .edit request edit (.publishFailed error))
  | .publishFailed error =>
    (d.publish [ruleEvent crates "rule_failed" edit.id], .edit request edit (.finish (.error
      (.internal, "stop failed; old configuration unchanged; forwarding state uncertain" ++
        (": " ++ error.toString)))))
  | .publishStopped =>
    (d.publish [ruleEvent crates "rule_stopped" edit.id], .edit request edit .save)
  | .save =>
    match editSave crates env.save edit d.state with
    | (none, s) =>
      (d.setState s,
        .edit request edit (.finish (.error (.internal, "reserved rule disappeared"))))
    | (some outcome, s) =>
      let d := d.setState s
      let d :=
        if committed outcome then d.publish [ruleEvent crates "configuration_changed" edit.id]
        else d
      (d, .start (.edit request edit outcome) .enter)
  | .finish reply => (d.setState (finishEdit edit.id d.state), .returned request reply)

/-- The sections of `maintain`. -/
def execMaintain (env : Env) (d : Daemon) (poller : Poller) : MaintainPc → Daemon × Pc
  | .scan =>
    let (scan, s) := maintainScan env.order env.exited env.now env.processId d.state
    let events := scan.reconnecting.map (fun id ↦ ("rule_reconnecting", id)) ++
      scan.terminalFailures.map fun id ↦ ("rule_failed", id)
    -- replacing an entry drops its attempt, which cleans up
    (scan.dropped.foldl Daemon.cleanup (d.setState s),
      .maintain poller (.publish events scan.retry))
  | .publish [] retry => (d, nextRetry poller retry)
  | .publish (event :: events) retry =>
    (d.publish [ruleEvent crates event.1 event.2], .maintain poller (.publish events retry))

/-- The section at a program point. -/
def exec (env : Env) (d : Daemon) : Pc → Daemon × Pc
  | .idle =>
    match env.call with
    -- nothing for the thread to do: what was left behind may end meanwhile
    | none => (d.reap env.ended, .idle)
    | some (.request request) => (d, handle request)
    | some .supervise => (d, .supervise)
  | .returned _ _ => (d, .idle)
  | .dispatch request =>
    let (reply, events, s) := dispatch crates env.save env.now request d.state
    ((d.setState s).publish events, .returned request reply)
  | .start caller pc => execStart crates managed env d caller pc
  | .stop request pc => execStop crates env d request pc
  | .editEnter request => execEditEnter crates d request
  | .edit request edit pc => execEdit crates env d request edit pc
  | .maintain poller pc => execMaintain crates env d poller pc
  | .supervise =>
    (d, nextRestore ((d.state.rules.filter Rule.autoStart).map Rule.id))

end Exec

/-! ## Runs -/

/-- The daemon and its threads. -/
abbrev System := World Daemon Pc

/-- A choice of the scheduler with the answers of the environment. -/
abbrev Choice := ℕ × Env

/-- The daemon right after it was opened: no call is in flight. -/
def System.opened (s : State) : System where
  shared := { state := s, events := [], processes := [], drawn := [] }
  thread := fun _ ↦ .idle

/-- One section of one thread. -/
abbrev System.step (crates : Crates) (managed : Bool) : System → Choice → System :=
  World.step (exec crates managed)

/-- A start that is about to draw its UUID. -/
def Pc.draws : Pc → Bool
  | .start _ .enter => true
  | _ => false

/-- A start that draws its UUID draws a new one. -/
def Fresh (env : Env) (d : Daemon) (p : Pc) : Prop := p.draws = true → env.attemptId ∉ d.drawn

instance (env : Env) (d : Daemon) (p : Pc) : Decidable (Fresh env d p) :=
  inferInstanceAs (Decidable (_ → _))

/-- Every UUID that a start draws is new. -/
def FreshId (w : System) (a : Choice) : Prop := Fresh a.2 w.shared (w.thread a.1)

instance (w : System) (a : Choice) : Decidable (FreshId w a) :=
  inferInstanceAs (Decidable (Fresh ..))

end TunnelDeck
