import TunnelDeck.Concurrency.Fairness
import TunnelDeck.Daemon.Thread

/-!
# Every call returns

A call of `handle` comes to its end by sections of its own thread, whatever the other threads do and
whatever the environment answers: no section waits for another thread, and the two loops on the way
run over lists that are fixed when they begin.

The proof goes through the program points backwards, from the reply to the first section.
-/

namespace TunnelDeck

open Concurrency

def Pc.HasReturned (p : Pc) : Prop := ∃ request reply, p = .returned request reply

section Returns

variable (crates : Crates) (managed : Bool)

/-- A thread at `p` returns from its call. -/
abbrev Returns (p : Pc) : Prop := Ends (exec crates managed) (fun _ _ ↦ True) Pc.HasReturned p

variable {crates managed}

theorem returns_returned (request : Request) (reply : Reply) :
    Returns crates managed (.returned request reply) := .reached ⟨request, reply, rfl⟩

theorem returns_dispatch (request : Request) : Returns crates managed (.dispatch request) :=
  .next fun _ _ _ ↦ returns_returned request _

/-! ## Starts -/

section Start

variable {caller : Caller}
  (hresume : ∀ reply, Returns crates managed (caller.resume crates reply))

include hresume

theorem returns_start_publish (event : String) (id : Uuid) (reply : Reply) :
    Returns crates managed (.start caller (.publish event id reply)) :=
  .next fun _ _ _ ↦ hresume reply

theorem returns_start_discard (launch : Launch) (attempt : ManagedAttempt) :
    Returns crates managed (.start caller (.discard launch attempt)) :=
  .next fun _ _ _ ↦ hresume _

theorem returns_start_failed (launch : Launch) (error : ProcessError) :
    Returns crates managed (.start caller (.failed launch error)) := by
  refine .next fun env d _ ↦ ?_
  simp only [exec, execStart]
  split
  · exact hresume _
  · exact returns_start_publish hresume ..
  · exact hresume _

theorem returns_start_launched (launch : Launch) (attempt : Option ManagedAttempt) :
    Returns crates managed (.start caller (.launched launch attempt)) := by
  refine .next fun env d _ ↦ ?_
  simp only [exec, execStart]
  split
  · exact returns_start_publish hresume ..
  · rcases attempt with _ | attempt
    · exact hresume _
    · exact returns_start_discard hresume ..

theorem returns_start_spawned (launch : Launch) (process : ℕ) :
    Returns crates managed (.start caller (.spawned launch process)) := by
  refine .next fun env d _ ↦ ?_
  simp only [exec, execStart]
  split
  · exact returns_start_failed hresume ..
  · exact returns_start_launched hresume ..

theorem returns_start_launch (launch : Launch) :
    Returns crates managed (.start caller (.launch launch)) := by
  refine .next fun env d _ ↦ ?_
  simp only [exec, execStart]
  split
  · split
    · exact returns_start_failed hresume ..
    · exact returns_start_spawned hresume ..
  · exact returns_start_launched hresume ..

theorem returns_start_enter : Returns crates managed (.start caller .enter) := by
  refine .next fun env d _ ↦ ?_
  simp only [exec, execStart]
  split
  · exact hresume _
  · exact hresume _
  · exact returns_start_launch hresume _

end Start

theorem returns_start_client (request : Request) :
    Returns crates managed (.start (.client request) .enter) :=
  returns_start_enter (returns_returned request)

/-! ## Stops and edits -/

theorem returns_stop_publish (request : Request) (id : Uuid) :
    Returns crates managed (.stop request (.publish id)) :=
  .next fun _ _ _ ↦ returns_returned request _

theorem returns_stop_cleanup (request : Request) (id : Uuid) (attempt : ManagedAttempt) :
    Returns crates managed (.stop request (.cleanup id attempt)) := by
  refine .next fun env d _ ↦ ?_
  simp only [exec, execStop]
  split
  · exact returns_returned ..
  · exact returns_stop_publish ..

theorem returns_stop_enter (request : Request) : Returns crates managed (.stop request .enter) := by
  refine .next fun env d _ ↦ ?_
  simp only [exec, execStop]
  split
  · exact returns_returned ..
  · rename_i id entry s _
    rcases entry with _ | (_ | _ | _ | _)
    · exact returns_returned ..
    · exact returns_stop_publish ..
    · exact returns_stop_cleanup ..
    · exact returns_stop_publish ..
    · exact returns_stop_publish ..

theorem returns_edit_finish (request : Request) (edit : Edit) (reply : Reply) :
    Returns crates managed (.edit request edit (.finish reply)) :=
  .next fun _ _ _ ↦ returns_returned request reply

theorem returns_edit_save (request : Request) (edit : Edit) :
    Returns crates managed (.edit request edit .save) := by
  refine .next fun env d _ ↦ ?_
  simp only [exec, execEdit]
  split
  · exact returns_edit_finish ..
  · exact returns_start_enter fun reply ↦ returns_edit_finish ..

theorem returns_edit_cleanup (request : Request) (edit : Edit) (attempt : ManagedAttempt) :
    Returns crates managed (.edit request edit (.cleanup attempt)) := by
  have hfailed : ∀ error, Returns crates managed (.edit request edit (.publishFailed error)) :=
    fun _ ↦ .next fun _ _ _ ↦ returns_edit_finish ..
  refine .next fun env d _ ↦ ?_
  simp only [exec, execEdit]
  split
  · exact .next fun _ _ _ ↦ hfailed _
  · exact .next fun _ _ _ ↦ returns_edit_save ..

theorem returns_editEnter (request : Request) : Returns crates managed (.editEnter request) := by
  refine .next fun env d _ ↦ ?_
  simp only [exec, execEditEnter]
  split
  · exact returns_returned ..
  · split
    · exact returns_returned ..
    · exact returns_edit_cleanup ..
    · exact returns_edit_finish ..

/-! ## The poll of a status request -/

theorem returns_nextRetry (request : Request) (retry : List Uuid) :
    Returns crates managed (nextRetry (.status request) retry) := by
  induction retry with
  | nil => exact returns_dispatch request
  | cons id rest ih => exact returns_start_enter fun _ ↦ ih

theorem returns_maintain_publish (request : Request) (events : List (String × Uuid))
    (retry : List Uuid) :
    Returns crates managed (.maintain (.status request) (.publish events retry)) := by
  induction events with
  | nil => exact .next fun _ _ _ ↦ returns_nextRetry request retry
  | cons event events ih => exact .next fun _ _ _ ↦ ih

/-- **Every call returns.** -/
theorem returns_handle (request : Request) : Returns crates managed (handle request) := by
  unfold handle
  split
  · exact .next fun _ _ _ ↦ returns_maintain_publish ..
  · exact returns_start_client request
  · exact returns_stop_enter request
  · exact returns_editEnter request
  · exact returns_dispatch request

end Returns

end TunnelDeck
