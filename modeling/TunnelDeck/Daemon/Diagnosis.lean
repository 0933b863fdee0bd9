import TunnelDeck.Daemon.Configuration
import TunnelDeck.Daemon.View
import TunnelDeck.Process.Starting
import TunnelDeck.Text.Decimal
import TunnelDeck.Text.JsonText
import TunnelDeck.Text.Lossy

/-!
# From a failed master to a retry

When `guardian_start` fails, the guardian turns the reason into a text: what the master wrote to its
standard error or, if that is nothing, a text of its own. The text crosses the socketpair inside a
report, and the daemon wraps it once more before `classify_diagnostic` looks for well-known parts in
it. What the classification makes of the text decides between a retry and a failure.

The markers have no colon, and both wrappings end in one, so no marker comes about by wrapping.

## Main results

* `retryable_iff`: the classification as a condition on the text.
* `retried_iff`: when the rule is retried exactly for a transport loss or a timeout.
-/

namespace TunnelDeck

open Json (Value)

/-! ## The text of the guardian -/

/-- `MAX_STDERR_BYTES`. -/
def maxStderrBytes : ℕ := 64 * 1024

/-- `bounded_read`, with the bytes that each read gives. -/
def boundedRead (reads : List (List UInt8)) : List UInt8 :=
  reads.foldl (fun retained count ↦
    retained ++ count.take (maxStderrBytes - retained.length)) []

/-- `join_diagnostic`. -/
def joinDiagnostic (reads : List (List UInt8)) : String :=
  String.ofList (Text.trim (Text.fromUtf8Lossy (boundedRead reads)))

/-- The names of the signals on Linux, from the first on. -/
def signalNames : List String :=
  ["SIGHUP", "SIGINT", "SIGQUIT", "SIGILL", "SIGTRAP", "SIGABRT", "SIGBUS", "SIGFPE", "SIGKILL",
    "SIGUSR1", "SIGSEGV", "SIGUSR2", "SIGPIPE", "SIGALRM", "SIGTERM", "SIGSTKFLT", "SIGCHLD",
    "SIGCONT", "SIGSTOP", "SIGTSTP", "SIGTTIN", "SIGTTOU", "SIGURG", "SIGXCPU", "SIGXFSZ",
    "SIGVTALRM", "SIGPROF", "SIGWINCH", "SIGIO", "SIGPWR", "SIGSYS"]

inductive ExitStatus where
  | exited (code : ℕ)
  | signaled (signal : ℕ) (coreDumped : Bool)
  deriving DecidableEq

/-- The name of a signal in brackets, if it has one. -/
def signalString (signal : ℕ) : String :=
  match signalNames[signal - 1]? with
  | some name => " (" ++ name ++ ")"
  | none => ""

/-- The `Display` of an exit status. -/
def ExitStatus.toString : ExitStatus → String
  | .exited code => "exit status: " ++ ToString.toString code
  | .signaled signal coreDumped =>
    "signal: " ++ ToString.toString signal ++ signalString signal ++
      (if coreDumped then " (core dumped)" else "")

/-- The ways in which `guardian_start` fails. -/
inductive StartFailure where
  /-- The master exited before it was ready. -/
  | masterExited (status : ExitStatus)
  /-- The startup deadline elapsed. -/
  | readiness
  /-- The control request `forward` was rejected. -/
  | controlRejected
  /-- The control request `forward` timed out. -/
  | controlTimedOut
  /-- The master exited although it accepted the forwarding. -/
  | exitedAfterAcceptance
  deriving DecidableEq

/-- What the guardian says when the master wrote nothing. -/
def StartFailure.fallback : StartFailure → String
  | .masterExited status => "SSH master exited with " ++ status.toString
  | .readiness => "SSH master readiness timed out"
  | .controlRejected => (ProcessError.startup "SSH control request was rejected").toString
  | .controlTimedOut => (ProcessError.startup "SSH control request timed out").toString
  | .exitedAfterAcceptance => "SSH master exited after accepting the forwarding"

/-- The error that `guardian_start` returns. -/
def guardianStartError (failure : StartFailure) (reads : List (List UInt8)) : ProcessError :=
  let diagnostic := joinDiagnostic reads
  .startup (if diagnostic = "" then failure.fallback else diagnostic)

/-! ## The report -/

structure GuardianReport where
  accepted : Bool
  diagnostic : String
  masterPid : ℕ
  deriving DecidableEq

/-- What `write_json` writes. -/
def GuardianReport.line (report : GuardianReport) : List Char :=
  (Value.object [("accepted", .bool report.accepted), ("diagnostic", .string report.diagnostic),
    ("master_pid", .int report.masterPid)]).compact ++ ['\n']

/-- The report on a failed `guardian_start`. -/
def refusal (error : ProcessError) : GuardianReport := ⟨false, error.toString, 0⟩

/-- The line is longer than `read_json` takes it. -/
def oversized (line : List Char) : Bool := maxStderrBytes * 2 < (Json.utf8 line).length

/-- `read_json` on a line, where `fromStr` is `serde_json::from_str`. -/
def readJson (fromStr : List Char → Except String GuardianReport) (line : List Char) :
    Except ProcessError GuardianReport :=
  if line = [] ∨ oversized line then
    .error (.protocol "guardian disconnected or sent an oversized message")
  else (fromStr line).mapError .protocol

/-- The error of a read whose timeout elapsed, on Linux. -/
def readTimedOut : String := "Resource temporarily unavailable (os error 11)"

/-- The exchange in `start_attempt`, behind the spec: the line of the guardian comes, or the timeout
elapses before it does. -/
def exchange (fromStr : List Char → Except String GuardianReport) (line : List Char)
    (late : Bool) : Except ProcessError GuardianReport :=
  if late then .error (.io readTimedOut) else readJson fromStr line

/-- What `start_attempt` makes of the exchange. -/
def acceptReport (exchange : Except ProcessError GuardianReport) : Except ProcessError ℕ :=
  match exchange with
  | .error error => .error error
  | .ok report =>
    if !report.accepted then .error (.startup report.diagnostic)
    else if Process.Starting.validPid report.masterPid then .ok report.masterPid
    else .error (.protocol "guardian returned an invalid master PID")

/-- `start_attempt`, from the report of a guardian that failed to start. -/
def startAttempt (fromStr : List Char → Except String GuardianReport) (failure : StartFailure)
    (reads : List (List UInt8)) (late : Bool) : Except ProcessError ℕ :=
  acceptReport (exchange fromStr (refusal (guardianStartError failure reads)).line late)

/-! ## Markers -/

/-- The text, in lower case, contains the marker. -/
def carries (text marker : String) : Bool :=
  Text.contains (text.toList.map Text.toAsciiLowercase) marker.toList

/-- What a lost network connection looks like. -/
def networkMarkers : List String :=
  ["connection timed out", "connection refused", "no route to host", "connection reset",
    "network is unreachable"]

/-- What authentication, host keys, a rejection or a listener look like. -/
def otherMarkers : List String :=
  ["permission denied", "authentication failed", "host key verification failed",
    "remote host identification has changed", "remote port forwarding failed",
    "administratively prohibited", "address already in use", "cannot listen to port"]

/-- The text has a network marker and none of the others. -/
def TransportLoss (text : String) : Prop :=
  (∃ marker ∈ networkMarkers, carries text marker = true) ∧
    ¬ ∃ marker ∈ otherMarkers, carries text marker = true

instance (text : String) : Decidable (TransportLoss text) :=
  inferInstanceAs (Decidable (_ ∧ _))

/-- **What is retryable.** -/
theorem retryable_iff (value : String) :
    (classifyDiagnostic value).retryable = true ↔ TransportLoss value := by
  have hnetwork : (∃ marker ∈ networkMarkers, carries value marker = true) ↔
      (carries value "connection timed out" || carries value "connection refused" ||
        carries value "no route to host" || carries value "connection reset" ||
        carries value "network is unreachable") = true := by
    simp [networkMarkers, or_assoc]
  have hother : (∃ marker ∈ otherMarkers, carries value marker = true) ↔
      (carries value "permission denied" || carries value "authentication failed") = true ∨
      (carries value "host key verification failed" ||
        carries value "remote host identification has changed") = true ∨
      (carries value "remote port forwarding failed" ||
        carries value "administratively prohibited") = true ∨
      (carries value "address already in use" || carries value "cannot listen to port") = true := by
    simp [otherMarkers, or_assoc]
  -- only the fifth branch is retryable, behind the four others
  have hbranch : ∀ {auth host remote listener network : Bool} {d₁ d₂ d₃ d₄ d₅ d₆ : Diagnostic},
      d₁.retryable = false → d₂.retryable = false → d₃.retryable = false →
      d₄.retryable = false → d₅.retryable = true → d₆.retryable = false →
      ((if auth then d₁ else if host then d₂ else if remote then d₃ else if listener then d₄
        else if network then d₅ else d₆).retryable = true ↔
        network = true ∧ ¬ (auth = true ∨ host = true ∨ remote = true ∨ listener = true)) := by
    intro auth host remote listener network d₁ d₂ d₃ d₄ d₅ d₆ h₁ h₂ h₃ h₄ h₅ h₆
    split_ifs <;> simp [*]
  rw [TransportLoss, hnetwork, hother]
  exact hbranch rfl rfl rfl rfl rfl rfl

/-! ## Wrapping -/

theorem colon_not_mem_marker : ∀ marker ∈ networkMarkers ++ otherMarkers,
    ':' ∉ marker.toList ∧ marker.toList.head? ≠ some ' ' := by
  decide +kernel

/-- A text behind a colon and a space is all that a marker can be found in. -/
theorem carries_behind {fixed marker : String} (h : marker ∈ networkMarkers ++ otherMarkers)
    (hfixed : carries fixed marker = false) (text : String) :
    carries (fixed ++ ": " ++ text) marker = carries text marker := by
  obtain ⟨hcolon, hspace⟩ := colon_not_mem_marker marker h
  have hmap : (fixed ++ ": " ++ text).toList.map Text.toAsciiLowercase =
      fixed.toList.map Text.toAsciiLowercase ++
        ':' :: ' ' :: text.toList.map Text.toAsciiLowercase := by
    simp [Text.toAsciiLowercase]
  have hskip : marker.toList <:+: ' ' :: text.toList.map Text.toAsciiLowercase ↔
      marker.toList <:+: text.toList.map Text.toAsciiLowercase := by
    -- the marker cannot begin at the space
    rw [List.infix_cons_iff, or_iff_right_of_imp]
    intro hprefix
    rcases hmarker : marker.toList with _ | ⟨c, rest⟩
    · exact List.nil_infix
    · rw [hmarker] at hprefix
      obtain ⟨rfl, -⟩ := List.cons_prefix_cons.mp hprefix
      exact absurd (by rw [hmarker]; rfl) hspace
  rw [carries, Text.contains, decide_eq_false_iff_not] at hfixed
  rw [carries, carries, Text.contains, Text.contains, hmap, decide_eq_decide,
    Text.infix_append_cons_iff hcolon, or_iff_right hfixed, hskip]

theorem carries_startup {marker : String} (h : marker ∈ networkMarkers ++ otherMarkers)
    (text : String) :
    carries (ProcessError.startup text).toString marker = carries text marker := by
  have hfixed : ∀ marker ∈ networkMarkers ++ otherMarkers,
      carries "SSH startup failed" marker = false := by decide +kernel
  exact carries_behind h (hfixed marker h) text

theorem transportLoss_startup (text : String) :
    TransportLoss (ProcessError.startup text).toString ↔ TransportLoss text := by
  have hcarries : ∀ marker ∈ networkMarkers ++ otherMarkers,
      carries (ProcessError.startup text).toString marker = carries text marker :=
    fun _ h ↦ carries_startup h text
  refine and_congr ?_ (not_congr ?_)
  · refine exists_congr fun marker ↦ and_congr_right fun h ↦ ?_
    rw [hcarries marker (List.mem_append_left _ h)]
  · refine exists_congr fun marker ↦ and_congr_right fun h ↦ ?_
    rw [hcarries marker (List.mem_append_right _ h)]

/-! ## The guardian's own texts -/

theorem n_not_mem_digits (k : ℕ) : 'n' ∉ (toString k).toList.map Text.toAsciiLowercase := by
  rw [List.mem_map]
  rintro ⟨c, hc, hn⟩
  have hdigit : c.toNat ≤ 57 := by
    have h := Text.isDigit_of_mem_toString hc
    rw [Char.isDigit, Bool.and_eq_true, decide_eq_true_iff, decide_eq_true_iff] at h
    exact h.2
  rw [Text.toAsciiLowercase, if_neg] at hn
  · subst hn
    exact absurd hdigit (by decide)
  · rintro ⟨hA, -⟩
    have hletter : 65 ≤ c.toNat := hA
    omega

theorem mem_networkMarker : ∀ marker ∈ networkMarkers,
    'n' ∈ marker.toList ∧ ' ' ∈ marker.toList ∧ '(' ∉ marker.toList ∧ ')' ∉ marker.toList := by
  decide +kernel

/-- A text whose letters do not include an n has no network marker. -/
theorem carries_of_not_mem {text marker : String} (h : marker ∈ networkMarkers)
    (hn : 'n' ∉ text.toList.map Text.toAsciiLowercase) : carries text marker = false := by
  rw [carries, Text.contains, decide_eq_false_iff_not]
  exact Text.not_infix_of_not_mem (mem_networkMarker marker h).1 hn

theorem carries_exitStatus (status : ExitStatus) {marker : String} (h : marker ∈ networkMarkers) :
    carries (StartFailure.masterExited status).fallback marker = false := by
  obtain ⟨hn, hspace, hopen, hclose⟩ := mem_networkMarker marker h
  rcases status with code | ⟨signal, coreDumped⟩
  · have htext : (StartFailure.masterExited (.exited code)).fallback =
        "SSH master exited with exit status: " ++ toString code := by
      show "SSH master exited with " ++ ("exit status: " ++ toString code) = _
      rw [← String.append_assoc]
      rfl
    rw [htext]
    refine carries_of_not_mem h ?_
    rw [String.toList_append, List.map_append, List.mem_append, not_or]
    exact ⟨by decide +kernel, n_not_mem_digits code⟩
  · have hcore : ∀ b : Bool, 'n' ∉ (if b then " (core dumped)" else "").toList.map
        Text.toAsciiLowercase := by decide
    have hfixed : ∀ marker ∈ networkMarkers,
        carries "SSH master exited with signal" marker = false := by decide +kernel
    have htext : (StartFailure.masterExited (.signaled signal coreDumped)).fallback =
        "SSH master exited with signal" ++ ": " ++ (toString signal ++ signalString signal ++
          (if coreDumped then " (core dumped)" else "")) := by
      show "SSH master exited with " ++ ("signal: " ++ toString signal ++ signalString signal ++
        (if coreDumped then " (core dumped)" else "")) = _
      simp only [← String.append_assoc]
      rfl
    rw [htext, carries_behind (List.mem_append_left _ h) (hfixed marker h), carries,
      Text.contains, decide_eq_false_iff_not, String.toList_append, String.toList_append,
      List.map_append, List.map_append]
    rcases hname : signalNames[signal - 1]? with _ | name
    · refine Text.not_infix_of_not_mem hn ?_
      simp only [signalString, hname, List.mem_append, not_or]
      exact ⟨⟨n_not_mem_digits signal, by decide⟩, hcore coreDumped⟩
    · -- the name stands between brackets and is one word
      have hword : ∀ name ∈ signalNames, ' ' ∉ name.toList.map Text.toAsciiLowercase := by
        decide +kernel
      have hsplit : (toString signal).toList.map Text.toAsciiLowercase ++
          (signalString signal).toList.map Text.toAsciiLowercase ++
          (if coreDumped then " (core dumped)" else "").toList.map Text.toAsciiLowercase =
          ((toString signal).toList.map Text.toAsciiLowercase ++ [' ']) ++ '(' ::
            (name.toList.map Text.toAsciiLowercase ++ ')' ::
              (if coreDumped then " (core dumped)" else "").toList.map Text.toAsciiLowercase) := by
        simp [signalString, hname, Text.toAsciiLowercase]
      rw [hsplit, Text.infix_append_cons_iff hopen, Text.infix_append_cons_iff hclose]
      rintro (hdigits | hname' | hcore')
      · refine Text.not_infix_of_not_mem hn ?_ hdigits
        rw [List.mem_append, not_or]
        exact ⟨n_not_mem_digits signal, by decide⟩
      · refine Text.not_infix_of_not_mem hspace ?_ hname'
        exact hword name (List.mem_of_getElem? hname)
      · exact Text.not_infix_of_not_mem hn (hcore coreDumped) hcore'

/-- **The guardian's own texts are never retried.** -/
theorem not_transportLoss_fallback (failure : StartFailure) :
    ¬ TransportLoss failure.fallback := by
  rintro ⟨⟨marker, hmarker, hcarries⟩, -⟩
  rcases failure with status | _ | _ | _ | _
  · rw [carries_exitStatus status hmarker] at hcarries
    cases hcarries
  all_goals
    -- the other texts are fixed
    revert marker
    decide +kernel

/-! ## Retries -/

/-- The text that a master wrote, as far as it is retained. -/
def stderrText (stderr : List UInt8) : String :=
  String.ofList (Text.trim (Text.fromUtf8Lossy (stderr.take maxStderrBytes)))

theorem boundedRead_eq (reads : List (List UInt8)) :
    boundedRead reads = reads.flatten.take maxStderrBytes := by
  have hfold : ∀ retained : List UInt8, retained.length ≤ maxStderrBytes →
      reads.foldl (fun retained count ↦
        retained ++ count.take (maxStderrBytes - retained.length)) retained =
      (retained ++ reads.flatten).take maxStderrBytes := by
    induction reads with
    | nil =>
      intro retained hretained
      rw [List.foldl_nil, List.flatten_nil, List.append_nil, List.take_of_length_le hretained]
    | cons count reads ih =>
      intro retained hretained
      rw [List.foldl_cons, ih, List.flatten_cons]
      · have hcut : (count.take (maxStderrBytes - retained.length) ++ reads.flatten).take
            (maxStderrBytes - retained.length) =
            (count ++ reads.flatten).take (maxStderrBytes - retained.length) := by
          rw [List.take_append, List.take_append, List.take_take, min_self, List.length_take]
          congr 2
          omega
        rw [List.append_assoc, List.take_append, hcut, ← List.take_append]
      · rw [List.length_append, List.length_take]
        omega
  exact hfold [] (Nat.zero_le _)

/-- The failure is an elapsed deadline. -/
def StartFailure.timeout : StartFailure → Bool
  | .readiness | .controlTimedOut => true
  | _ => false

/-- The policy: a transport loss or a timeout is retried. -/
def Retried (failure : StartFailure) (text : String) : Prop :=
  TransportLoss text ∨ (text = "" ∧ failure.timeout = true)

instance (failure : StartFailure) (text : String) : Decidable (Retried failure text) :=
  inferInstanceAs (Decidable (_ ∨ _))

/-- What the daemon sees of a failed start is retryable only for a transport loss whose report came
in time and was not too long. -/
theorem startAttempt_retryable {fromStr : List Char → Except String GuardianReport}
    {failure : StartFailure} {reads : List (List UInt8)} (late : Bool)
    (hread : fromStr (refusal (guardianStartError failure reads)).line =
      .ok (refusal (guardianStartError failure reads))) :
    ∃ error, startAttempt fromStr failure reads late = .error error ∧
      ((classifyDiagnostic error.toString).retryable = true ↔
        TransportLoss (joinDiagnostic reads) ∧ late = false ∧
          oversized (refusal (guardianStartError failure reads)).line = false) := by
  let line := (refusal (guardianStartError failure reads)).line
  rcases late with _ | _
  · rcases hsize : oversized line with _ | _
    · have hline : line ≠ [] := by simp [line, GuardianReport.line]
      refine ⟨.startup (guardianStartError failure reads).toString, ?_, ?_⟩
      · rw [startAttempt, exchange, if_neg Bool.false_ne_true, readJson,
          if_neg (by simp [hline, hsize, line]), hread]
        rfl
      · rw [retryable_iff, transportLoss_startup, guardianStartError, transportLoss_startup,
          and_iff_left ⟨rfl, rfl⟩]
        split
        · rename_i hempty
          rw [hempty]
          exact iff_of_false (not_transportLoss_fallback failure) (by decide)
        · rfl
    · refine ⟨.protocol "guardian disconnected or sent an oversized message", ?_, ?_⟩
      · rw [startAttempt, exchange, if_neg Bool.false_ne_true, readJson, if_pos (Or.inr hsize)]
        rfl
      · rw [retryable_iff]
        exact iff_of_false (by decide +kernel) fun h ↦ nomatch h.2.2
  · refine ⟨.io readTimedOut, rfl, ?_⟩
    rw [retryable_iff]
    exact iff_of_false (by decide +kernel) fun h ↦ nomatch h.2.1

theorem lookup_startFailed {launch : Launch} {s : State} (hcurrent : launch.current s)
    (hreconnect : launch.rule.reconnect = true) (error : ProcessError) (now : ℕ) :
    if (classifyDiagnostic error.toString).retryable then
      ∃ due, (startFailed false launch error now s).2.running.lookup launch.id =
        some (.reconnecting due)
    else (startFailed false launch error now s).2.running.lookup launch.id = some .failed := by
  have hview := congrArg RuleView.entry (startFailed_of_current hcurrent false error now).2.1
  have hentry : (startFailed false launch error now s).2.running.lookup launch.id =
      ((s.view launch.id).launchFailed false launch error now).entry := hview
  rw [hentry]
  split
  · rename_i hretryable
    simp [RuleView.launchFailed, hreconnect, hretryable]
  · rename_i hretryable
    simp [RuleView.launchFailed, hreconnect, hretryable]

/-- **When a failed start is retried as it should be.** For a rule with reconnect whose launch is
not an edit's and is still wanted: it is left to reconnect for a transport loss or a timeout and
left failed otherwise, if and only if the failure is no timeout with nothing on the standard error,
and the report on a transport loss came in time and was not too long. -/
theorem retried_iff (fromStr : List Char → Except String GuardianReport) (failure : StartFailure)
    (reads : List (List UInt8)) (late : Bool)
    (hread : fromStr (refusal (guardianStartError failure reads)).line =
      .ok (refusal (guardianStartError failure reads)))
    (launch : Launch) (s : State) (now : ℕ) (hreconnect : launch.rule.reconnect = true)
    (hcurrent : launch.current s) :
    let text := stderrText reads.flatten
    ∃ error, startAttempt fromStr failure reads late = .error error ∧
      let entry := (startFailed false launch error now s).2.running.lookup launch.id
      (((Retried failure text → ∃ due, entry = some (.reconnecting due)) ∧
          (¬ Retried failure text → entry = some .failed)) ↔
        ¬ (text = "" ∧ failure.timeout = true) ∧
          (TransportLoss text → late = false ∧
            oversized (refusal (guardianStartError failure reads)).line = false)) := by
  intro text
  obtain ⟨error, herror, hretryable⟩ := startAttempt_retryable late hread
  have htext : joinDiagnostic reads = text := by rw [joinDiagnostic, boundedRead_eq]; rfl
  rw [htext] at hretryable
  refine ⟨error, herror, ?_⟩
  intro entry
  have hentry := lookup_startFailed hcurrent hreconnect error now
  have hempty : text = "" → ¬ TransportLoss text := by
    intro hempty
    rw [hempty]
    decide
  split at hentry
  · -- the rule is left to reconnect
    rename_i hyes
    obtain ⟨hloss, hreport⟩ := hretryable.mp hyes
    have hno : entry ≠ some .failed := by
      obtain ⟨due, hdue⟩ := hentry
      rw [show entry = _ from hdue]
      nofun
    refine iff_of_true ⟨fun _ ↦ hentry, fun hnot ↦ absurd (Or.inl hloss) hnot⟩ ?_
    exact ⟨fun h ↦ hempty h.1 hloss, fun _ ↦ hreport⟩
  · -- the rule is left failed
    rename_i hno
    have hnot : ¬ ∃ due, entry = some (.reconnecting due) := by
      rintro ⟨due, hdue⟩
      cases hdue.symm.trans hentry
    constructor
    · rintro ⟨hretried, -⟩
      refine ⟨fun h ↦ hnot (hretried (Or.inr h)), fun hloss ↦ ?_⟩
      exact absurd (hretried (Or.inl hloss)) hnot
    · rintro ⟨htimeout, hreport⟩
      refine ⟨?_, fun _ ↦ hentry⟩
      rintro (hloss | htimed)
      · exact absurd (hretryable.mpr ⟨hloss, hreport hloss⟩) hno
      · exact absurd htimed htimeout

/-! ### An example -/

def exampleReader (report : GuardianReport) (line : List Char) : Except String GuardianReport :=
  if line = report.line then .ok report else .error "expected value at line 1 column 1"

def exampleLaunch : Launch := ⟨exampleRule.id, exampleRule, 7⟩

/-- The state in which its marker was stored. -/
def exampleMarked : State :=
  (exampleState (exampleDirectory "") [exampleRule]).setEntry exampleRule.id (.starting 7)

/-- What a master writes when nobody listens at the host. -/
def exampleStderr : List (List UInt8) :=
  [Json.utf8 "ssh: connect to host db port 22: ".toList, Json.utf8 "Connection refused\r\n".toList]

theorem retried_exampleStderr :
    ∃ error, startAttempt
        (exampleReader (refusal (guardianStartError (.masterExited (.exited 255)) exampleStderr)))
        (.masterExited (.exited 255)) exampleStderr false = .error error ∧
      ∃ due, (startFailed false exampleLaunch error 0 exampleMarked).2.running.lookup
        exampleLaunch.id = some (.reconnecting due) := by
  obtain ⟨error, herror, hretried⟩ := retried_iff
    (exampleReader (refusal (guardianStartError (.masterExited (.exited 255)) exampleStderr)))
    (.masterExited (.exited 255)) exampleStderr false (if_pos rfl) exampleLaunch exampleMarked 0
    rfl (by decide +kernel)
  refine ⟨error, herror, (hretried.mpr ⟨?_, fun _ ↦ ⟨rfl, ?_⟩⟩).1 (Or.inl ?_)⟩
  · decide +kernel
  · decide +kernel
  · decide +kernel

/-- A master that says nothing and is not ready in time is left failed, although it timed out. -/
theorem failed_exampleSilent :
    Retried .readiness (stderrText []) ∧
    ∃ error, startAttempt (exampleReader (refusal (guardianStartError .readiness []))) .readiness
        [] false = .error error ∧
      (startFailed false exampleLaunch error 0 exampleMarked).2.running.lookup exampleLaunch.id =
        some .failed := by
  refine ⟨by decide +kernel, .startup (guardianStartError .readiness []).toString, ?_, ?_⟩
  · decide +kernel
  · decide +kernel

end TunnelDeck
