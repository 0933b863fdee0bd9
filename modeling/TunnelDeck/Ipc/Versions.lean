import TunnelDeck.Ipc.Connection

/-!
# Requests of another version

The loop of `serve_connection` looks at the version of a request before it has the request handled,
and at its operation after the response is written. A request of another version is refused without
being handled; but if its operation is a subscription, the connection still subscribes, streams
events and reads no further request.

Two runs are compared: one in which the request was sent, and one in which it was not and the two
sections that read and refuse it do not take place. All other sections are the same and in the same
order.
-/

namespace TunnelDeck.Ipc

open Concurrency

section Mismatch

variable {σ π ε : Type} (handler : RequestHandler σ π ε)

/-- The request, first in the inbox of the connection `t`, is read and refused with one failure,
after which the connection reads on; and whatever the other threads do meanwhile and all threads do
later, everything is as if the request had not been there, but for that failure. -/
def MismatchInert (w : Threads σ π) (t : ℕ) (request : Request)
    (rest : List (Except TransportError Request)) (sent : List Response) (events : List Event) :
    Prop :=
  ∀ (gap₁ gap₂ after : List (ℕ × ServeEnv ε)) (e₁ e₂ : ServeEnv ε),
    (∀ a ∈ gap₁, a.1 ≠ t) → (∀ a ∈ gap₂, a.1 ≠ t) → e₂.fault = none →
    let given := w.setThread t ⟨.ok request :: rest, sent, events, .reading⟩
    let absent := w.setThread t ⟨rest, sent, events, .reading⟩
    let read := run (Server.step handler) given (gap₁ ++ [(t, e₁)])
    let answered := run (Server.step handler) read (gap₂ ++ [(t, e₂)])
    (read.thread t).pc = .answering request (unsupportedVersion request) ∧
      answered.thread t = ⟨rest, sent ++ [unsupportedVersion request], events, .reading⟩ ∧
      Surplus t sent [unsupportedVersion request] (run (Server.step handler) answered after)
        (run (Server.step handler) absent (gap₁ ++ gap₂ ++ after))

variable (w : Threads σ π) (t : ℕ) {request : Request} (rest : List (Except TransportError Request))
  (sent : List Response) (events : List Event)

theorem read_mismatch (h : request.protocolVersion ≠ protocolVersion)
    {gap : List (ℕ × ServeEnv ε)} (hgap : ∀ a ∈ gap, a.1 ≠ t) (e : ServeEnv ε) :
    run (Server.step handler) (w.setThread t ⟨.ok request :: rest, sent, events, .reading⟩)
        (gap ++ [(t, e)]) =
      (run (Server.step handler) w gap).setThread t
        ⟨rest, sent, events, .answering request (unsupportedVersion request)⟩ := by
  rw [run_append, World.run_setThread_of_ne _ hgap, run_cons, run_nil]
  refine (World.step_setThread_self (serve handler) _ t _ e).trans ?_
  simp only [serve, Conn.received, if_pos h]

theorem answer_mismatch {gap : List (ℕ × ServeEnv ε)} (hgap : ∀ a ∈ gap, a.1 ≠ t)
    {e : ServeEnv ε} (he : e.fault = none) :
    run (Server.step handler)
        (w.setThread t ⟨rest, sent, events, .answering request (unsupportedVersion request)⟩)
        (gap ++ [(t, e)]) =
      (run (Server.step handler) w gap).setThread t
        ⟨rest, sent ++ [unsupportedVersion request], events,
          if request.operation = .subscribe then .subscribing else .reading⟩ := by
  rw [run_append, World.run_setThread_of_ne _ hgap, run_cons, run_nil]
  refine (World.step_setThread_self (serve handler) _ t _ e).trans ?_
  have hwrite := (writeFrame_ok_iff responseVec (unsupportedVersion request) []).mpr
    (fits_unsupportedVersion request)
  simp only [serve, Conn.answered, Conn.write, he, hwrite]
  split <;> rfl

/-- A subscription of another version does not go back to reading. -/
theorem not_mismatchInert [Inhabited ε] (h : request.protocolVersion ≠ protocolVersion)
    (hsubscribe : request.operation = .subscribe) :
    ¬ MismatchInert handler w t request rest sent events := by
  intro hinert
  have hnone : ∀ a ∈ ([] : List (ℕ × ServeEnv ε)), a.1 ≠ t := fun a ha ↦ absurd ha List.not_mem_nil
  have hread := (hinert [] [] [] ⟨default, none⟩ ⟨default, none⟩ hnone hnone rfl).2.1
  rw [read_mismatch handler w t rest sent events h hnone,
    answer_mismatch handler _ t rest sent events hnone rfl, World.setThread_thread_self,
    if_pos hsubscribe] at hread
  exact absurd (congrArg Conn.pc hread) nofun

/-- **Requests of another version.** They are inert exactly if they are no subscription. -/
theorem mismatchInert_iff [Inhabited ε] (h : request.protocolVersion ≠ protocolVersion) :
    MismatchInert handler w t request rest sent events ↔ request.operation ≠ .subscribe := by
  constructor
  · intro hinert hsubscribe
    exact not_mismatchInert handler w t rest sent events h hsubscribe hinert
  · intro hother gap₁ gap₂ after e₁ e₂ hgap₁ hgap₂ he₂ given absent read answered
    have hread : read = _ := read_mismatch handler w t rest sent events h hgap₁ e₁
    have hanswered : answered = (run (Server.step handler) w (gap₁ ++ gap₂)).setThread t
        ⟨rest, sent ++ [unsupportedVersion request], events, .reading⟩ := by
      show run (Server.step handler) read (gap₂ ++ [(t, e₂)]) = _
      rw [hread, answer_mismatch handler _ t rest sent events hgap₂ he₂, if_neg hother, run_append]
    have habsent : run (Server.step handler) absent (gap₁ ++ gap₂) =
        (run (Server.step handler) w (gap₁ ++ gap₂)).setThread t
          ⟨rest, sent, events, .reading⟩ :=
      World.run_setThread_of_ne _ (fun a ha ↦ (List.mem_append.mp ha).elim (hgap₁ a) (hgap₂ a)) w _
    refine ⟨?_, ?_, ?_⟩
    · rw [hread, World.setThread_thread_self]
    · rw [hanswered, World.setThread_thread_self]
    · rw [run_append, habsent, hanswered]
      apply Surplus.run
      refine ⟨rfl, fun u hu ↦ ?_, [], ?_, ?_⟩
      · rw [World.setThread_thread_of_ne _ hu, World.setThread_thread_of_ne _ hu]
      · rw [World.setThread_thread_self, List.append_nil]
      · rw [World.setThread_thread_self, World.setThread_thread_self, List.append_nil]

end Mismatch

def exampleMismatch (operation : Operation) : Request where
  protocolVersion := 2
  requestId := 7
  operation := operation
  payload := .object []

def exampleNext : Request :=
  { exampleMismatch .hostList with protocolVersion := 1, requestId := 8 }

/-- A connection that reads a request of this version. -/
def exampleReading : Threads Daemon Pc :=
  exampleServer.setThread 1 { inbox := [.ok exampleNext] }

/-- A section of a connection in which nothing fails. -/
def exampleTurn (t : ℕ) : ℕ × ServeEnv Env := (t, ⟨{}, none⟩)

/-- What the daemon answers to a request that it does not handle. -/
def exampleUnavailable : Response :=
  failure 8 .unavailable "operation is not handled by the daemon yet"

/-- A status request of version 2 is inert: the request behind it is answered as it is without it.
-/
theorem mismatchInert_iff_exampleMismatch :
    (exampleMismatch .status).protocolVersion ≠ protocolVersion ∧
      ((run (Server.step (manager exampleCrates true))
        (exampleReading.setThread 0
          { inbox := [.ok (exampleMismatch .status), .ok exampleNext] })
        ([1, 0, 1, 0, 0, 1, 0, 1, 0, 0].map exampleTurn)).thread 0).sent =
        [unsupportedVersion (exampleMismatch .status), exampleUnavailable] := by
  have hversion : (exampleMismatch .status).protocolVersion ≠ protocolVersion := by decide
  have hinert := (mismatchInert_iff (manager exampleCrates true) exampleReading 0
    [.ok exampleNext] [] [] hversion).mpr (by decide)
  have hother : ∀ a ∈ [exampleTurn 1], a.1 ≠ 0 := List.forall_mem_singleton.mpr (by decide)
  obtain ⟨-, -, hsurplus⟩ := hinert [exampleTurn 1] [exampleTurn 1]
    ([0, 1, 0, 1, 0, 0].map exampleTurn) ⟨{}, none⟩ ⟨{}, none⟩ hother hother rfl
  obtain ⟨later, hlater, hthread⟩ := hsurplus.connection
  have hreply : ((run (Server.step (manager exampleCrates true))
      (exampleReading.setThread 0 { inbox := [.ok exampleNext] })
      ([1, 1, 0, 1, 0, 1, 0, 0].map exampleTurn)).thread 0).sent = [exampleUnavailable] := by
    decide +kernel
  have hsame : later = [exampleUnavailable] := hlater.symm.trans hreply
  rw [hsame] at hthread
  exact ⟨hversion, congrArg Conn.sent hthread⟩

/-- A subscription of version 2 is not: what comes after it is not read. -/
theorem exampleMismatch_not_inert :
    ¬ MismatchInert (manager exampleCrates true) exampleServer 0 (exampleMismatch .subscribe)
      [.ok { exampleMismatch .status with protocolVersion := 1 }] [] [] :=
  not_mismatchInert _ _ _ _ _ _ (by decide) rfl

end TunnelDeck.Ipc
