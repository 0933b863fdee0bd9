import Mathlib.Algebra.Group.Nat.Defs
import TunnelDeck.Domain.Rule

/-!
# What a failed attempt means

The policy of the daemon on attempts that fail: `classifyDiagnostic` turns the text of an error
into a fixed diagnostic that says whether a retry is worth it, and `fullJitter` gives the delay
before the retry.
-/

namespace TunnelDeck

/-! ## Diagnostics -/

/-- Why an attempt could not be started or stopped. -/
inductive ProcessError where
  | io (error : String)
  | protocol (message : String)
  | startup (message : String)
  deriving DecidableEq

/-- The `Display` of a process error. -/
def ProcessError.toString : ProcessError → String
  | .io error => "SSH process I/O failed: " ++ error
  | .protocol message => "guardian protocol failed: " ++ message
  | .startup message => "SSH startup failed: " ++ message

inductive DiagnosticKind where
  | authentication
  | hostKey
  | listener
  | network
  | remoteRejected
  | unknown
  deriving DecidableEq

/-- `as_str`, which is also the name under which a kind is serialized. -/
def DiagnosticKind.asStr : DiagnosticKind → String
  | .authentication => "authentication"
  | .hostKey => "host_key"
  | .listener => "listener"
  | .network => "network"
  | .remoteRejected => "remote_rejected"
  | .unknown => "unknown"

structure Diagnostic where
  kind : DiagnosticKind
  message : String
  retryable : Bool
  deriving DecidableEq

/-- `classify_diagnostic`. -/
def classifyDiagnostic (value : String) : Diagnostic :=
  let lower := value.toList.map Text.toAsciiLowercase
  let contains (pattern : String) : Bool := Text.contains lower pattern.toList
  if contains "permission denied" || contains "authentication failed" then
    ⟨.authentication, "SSH authentication failed", false⟩
  else if contains "host key verification failed" ||
      contains "remote host identification has changed" then
    ⟨.hostKey, "SSH host-key verification failed", false⟩
  else if contains "remote port forwarding failed" ||
      contains "administratively prohibited" then
    ⟨.remoteRejected, "the SSH server rejected remote forwarding", false⟩
  else if contains "address already in use" || contains "cannot listen to port" then
    ⟨.listener, "the requested listener could not be created", false⟩
  else if contains "connection timed out" || contains "connection refused" ||
      contains "no route to host" || contains "connection reset" ||
      contains "network is unreachable" then
    ⟨.network, "the SSH network connection failed", true⟩
  else ⟨.unknown, "SSH startup failed for an unclassified reason", false⟩

/-! ## Reconnecting -/

/-- `RESET_AFTER`, in milliseconds. -/
def resetAfter : ℕ := 60000

/-- `full_jitter`, in milliseconds. -/
def fullJitter (attempt entropy : ℕ) : ℕ :=
  let capSeconds := min (1 <<< min attempt 6) 60
  entropy % (capSeconds * 1000 + 1)

/-- The first eight bytes of a UUID, read in little-endian order. -/
def uuidEntropy (id : Uuid) : ℕ :=
  (List.range 8).foldr (fun i n ↦ (id >>> (120 - 8 * i) % 256#128).toNat + 256 * n) 0

/-- `saturating_add(1)` on a `u32`. -/
def saturatingSucc (n : ℕ) : ℕ := min (n + 1) 4294967295

theorem fullJitter_le (attempt entropy : ℕ) :
    fullJitter attempt entropy ≤ min 60000 (2 ^ attempt * 1000) := by
  have hmod : fullJitter attempt entropy < min (1 <<< min attempt 6) 60 * 1000 + 1 :=
    Nat.mod_lt _ (Nat.succ_pos _)
  have hpow : 1 <<< min attempt 6 ≤ 2 ^ attempt := by
    rw [Nat.one_shiftLeft]
    exact Nat.pow_le_pow_right (by decide) (Nat.min_le_left ..)
  omega

end TunnelDeck
