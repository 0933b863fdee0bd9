import TunnelDeck.Concurrency.Run

/-!
# The guardian of an attempt

A guardian is the small process that owns one SSH master: `run_guardian` reads its spec, starts the
master in a process group of its own, reports to the daemon, and then waits until the lease is
closed or the master exits. Every way out leads through the removal of the attempt directory to the
return, which closes the inherited lock.

The guardian is a program with a point where it stands, and what a call gives it is part of the
input: whether a control request is accepted, whether a deadline has passed, whether the lease has
ended. Between its steps the processes of the group exit and fork as they like. A guardian that is
killed is outside the model, and so is a call that fails although the design rules it out.

## Main results

* `Guardian.Sound`: what holds at every point. A guardian past its ending has reaped its master.
* `group_ended`: when a guardian ends, no process of the group is running, provided that no other
  was running whenever it saw the master exited; and this proviso is exact.
-/

namespace TunnelDeck.Process

open Concurrency

/-! ## The process group -/

/-- The SSH master. It leads its group, and is a zombie from its exit until it is reaped. -/
inductive Leader where
  | absent
  | running
  | exited
  | reaped
  deriving DecidableEq

def Leader.exit : Leader → Leader
  | running => exited
  | leader => leader

structure Descendant where
  /-- It ignores SIGTERM. -/
  ignoresTerm : Bool
  /-- It has the standard error of the master open. -/
  keepsStderr : Bool
  running : Bool := true
  deriving DecidableEq

def Descendant.exit (d : Descendant) : Descendant := { d with running := false }

def Descendant.term (d : Descendant) : Descendant := if d.ignoresTerm then d else d.exit

/-! ## The program -/

/-- What the guardian does after the master has ended. -/
inductive Ending where
  /-- `guardian_start` returns an error. -/
  | refused
  /-- The report could not be written. -/
  | unreported
  /-- The lease was closed, or the master exited. -/
  | finished
  deriving DecidableEq

/-- Where `run_guardian` stands. -/
inductive Point where
  /-- Reading the spec. -/
  | spec
  /-- Spawning the master. -/
  | spawn
  /-- `try_wait` in the loop of `guardian_start`. -/
  | poll
  /-- The control request `check`. -/
  | check
  /-- Comparing the time with the startup deadline. -/
  | deadline
  /-- The control request `forward`. -/
  | forward
  /-- `try_wait` after the forwarding. -/
  | recheck
  /-- Writing the report. -/
  | report (accepted : Bool)
  /-- Reading the lease. -/
  | lease
  /-- `try_wait` in the loop of `run_guardian`. -/
  | supervise
  /-- SIGTERM in `terminate_group`. -/
  | signal (ending : Ending)
  /-- `try_wait` in the loop of `terminate_group`. -/
  | grace (ending : Ending)
  /-- Comparing the time with the end of the grace. -/
  | graceDeadline (ending : Ending)
  /-- `wait` after SIGKILL. -/
  | wait (ending : Ending)
  /-- Joining the thread that drains the standard error of the master. -/
  | join (ending : Ending)
  /-- Removing the attempt directory. -/
  | remove (ok : Bool)
  /-- Returning, with the lease and the lock still open. -/
  | returning (ok : Bool)
  | closed (ok : Bool)
  deriving DecidableEq

/-- Where the guardian goes once the standard error of the master is read to its end. -/
def Ending.after : Ending → Point
  | refused => .report false
  | unreported => .remove false
  | finished => .remove true

/-- A guardian, its process group and what it holds. -/
structure Guardian where
  point : Point
  leader : Leader
  descendants : List Descendant
  /-- The spec was read. -/
  specRead : Bool
  /-- The attempt directory is there. -/
  attemptDir : Bool
  /-- The inherited lock is open. -/
  lock : Bool
  deriving DecidableEq

/-- What the calls of one step give. -/
structure Answer where
  /-- The call succeeds: the spec is read, the master is spawned, the control request is accepted,
  the report is written. -/
  succeeds : Bool := true
  /-- The deadline has passed. -/
  expired : Bool := false
  /-- The lease was read to its end. -/
  leaseEnded : Bool := false
  /-- The master exits on the SIGTERM. -/
  leaderExits : Bool := false

def Guardian.spawned : Guardian where
  point := .spec
  leader := .absent
  descendants := []
  specRead := false
  attemptDir := true
  lock := true

namespace Guardian

def goTo (g : Guardian) (point : Point) : Guardian := { g with point }

/-- `kill(-pid, SIGTERM)`. -/
def signalTerm (g : Guardian) (leaderExits : Bool) : Guardian :=
  { g with
    leader := if leaderExits then g.leader.exit else g.leader
    descendants := g.descendants.map Descendant.term }

/-- `kill(-pid, SIGKILL)`. -/
def signalKill (g : Guardian) : Guardian :=
  { g with leader := g.leader.exit, descendants := g.descendants.map Descendant.exit }

/-- `try_wait` of the master: an exited master is reaped, and the guardian goes on at `exited`. -/
def tryWait (g : Guardian) (exited running : Point) : Guardian :=
  match g.leader with
  | .exited => { g with leader := .reaped, point := exited }
  | _ => g.goTo running

/-- Some process has the standard error of the master open. -/
def stderrHeld (g : Guardian) : Bool :=
  g.leader = .running || g.descendants.any fun d ↦ d.running && d.keepsStderr

/-- The next step of `run_guardian`, with `guardian_start`, `control` and `terminate_group`. -/
def next (answer : Answer) (g : Guardian) : Guardian :=
  match g.point with
  | .spec =>
    if answer.succeeds then { g with specRead := true, point := .spawn }
    else g.goTo (.returning false)
  | .spawn =>
    if answer.succeeds then { g with leader := .running, point := .poll }
    else g.goTo (.report false)
  | .poll => g.tryWait (.join .refused) .check
  | .check => g.goTo (if answer.succeeds then .forward else .deadline)
  | .deadline => g.goTo (if answer.expired then .signal .refused else .poll)
  | .forward => g.goTo (if answer.succeeds then .recheck else .signal .refused)
  | .recheck => g.tryWait (.join .refused) (.report true)
  | .report accepted =>
    -- the attempt directory is removed on every branch but the first
    match answer.succeeds, accepted with
    | true, true => g.goTo .lease
    | false, true => g.goTo (.signal .unreported)
    | _, false => g.goTo (.remove false)
  | .lease => g.goTo (if answer.leaseEnded then .signal .finished else .supervise)
  | .supervise => g.tryWait (.join .finished) .lease
  | .signal ending => (g.signalTerm answer.leaderExits).goTo (.grace ending)
  | .grace ending => g.tryWait (.join ending) (.graceDeadline ending)
  | .graceDeadline ending =>
    if answer.expired then g.signalKill.goTo (.wait ending) else g.goTo (.grace ending)
  | .wait ending => g.tryWait (.join ending) (.wait ending)
  | .join ending =>
    -- the thread reads until nobody has the standard error open
    if g.stderrHeld then g else g.goTo ending.after
  | .remove ok => { g with attemptDir := false, point := .returning ok }
  | .returning ok => { g with lock := false, point := .closed ok }
  | .closed _ => g

end Guardian

/-! ## Runs -/

/-- What can happen: a step of the guardian, or something in the group. -/
inductive Happening where
  | step (answer : Answer)
  /-- The master ends by itself. -/
  | leaderExits
  /-- A descendant ends by itself. -/
  | exits (index : ℕ)
  /-- A process of the group forks. -/
  | forks (d : Descendant)

def Guardian.alive (g : Guardian) : Bool :=
  g.leader = .running || g.descendants.any Descendant.running

/-- A descendant can be forked: somebody is there to do it, and has the standard error to pass
on. -/
def Guardian.canFork (g : Guardian) (d : Descendant) : Bool :=
  g.alive && (!d.keepsStderr || g.stderrHeld)

/-- The system of a guardian and its group. -/
def Guardian.happen (g : Guardian) : Happening → Guardian
  | .step answer => g.next answer
  | .leaderExits => { g with leader := g.leader.exit }
  | .exits index => { g with descendants := g.descendants.modify index Descendant.exit }
  | .forks d =>
    if g.canFork d then { g with descendants := g.descendants ++ [{ d with running := true }] }
    else g

/-! ## What holds at every point -/

/-- The states in which the master can be when the guardian stands at the point. -/
def Point.leaders : Point → List Leader
  | .spec | .spawn => [.absent]
  | .wait _ => [.exited]
  | .join _ => [.reaped]
  | .report false | .remove _ | .returning _ | .closed _ => [.absent, .reaped]
  | .poll | .check | .deadline | .forward | .recheck | .report true | .lease | .supervise
  | .signal _ | .grace _ | .graceDeadline _ => [.running, .exited]

/-- The guardian is about to return or has returned. -/
def Point.leaving : Point → Bool
  | .returning _ | .closed _ => true
  | _ => false

/-- What holds at every point: the master is where the program takes it to be, a guardian that
leaves has removed the directory of the spec it read, and only one that has left has closed the
lock. -/
structure Guardian.Sound (g : Guardian) : Prop where
  leader : g.leader ∈ g.point.leaders
  unread : g.point = .spec → g.specRead = false
  attemptDir : g.point.leaving = true → g.specRead = true → g.attemptDir = false
  lock : g.lock = false → ∃ ok, g.point = .closed ok

namespace Guardian

theorem sound_spawned : Sound spawned := by
  constructor
  · exact List.mem_singleton_self _
  · intro _
    rfl
  · intro h
    cases h
  · intro h
    cases h

theorem Sound.move {g g' : Guardian} (h : g.Sound) (hopen : g.point.leaving = false)
    (hlock : g'.lock = g.lock) (hspec : g'.point ≠ .spec) (hleaving : g'.point.leaving = false)
    (hleader : g'.leader ∈ g'.point.leaders) : g'.Sound := by
  constructor
  · exact hleader
  · intro hpoint
    exact absurd hpoint hspec
  · intro hleave
    rw [hleaving] at hleave
    cases hleave
  · intro hclosed
    obtain ⟨ok, hpoint⟩ := h.lock (hlock ▸ hclosed)
    rw [hpoint] at hopen
    cases hopen

theorem Sound.tryWait {g : Guardian} (h : g.Sound) (hopen : g.point.leaving = false)
    {exited running : Point} (hexited : exited.leaders = [.reaped])
    (hrunning : g.leader ∈ running.leaders) (hinside : exited ≠ .spec ∧ running ≠ .spec)
    (hleaving : exited.leaving = false ∧ running.leaving = false) :
    (g.tryWait exited running).Sound := by
  unfold Guardian.tryWait
  split
  · refine h.move hopen rfl hinside.1 hleaving.1 ?_
    simp [hexited]
  · exact h.move hopen rfl hinside.2 hleaving.2 hrunning

theorem Sound.leave {g g' : Guardian} (h : g.Sound) (hopen : g.point.leaving = false) {ok : Bool}
    (hpoint : g'.point = .returning ok) (hlock : g'.lock = g.lock)
    (hleader : g'.leader ∈ [Leader.absent, .reaped])
    (hdir : g'.specRead = true → g'.attemptDir = false) : g'.Sound := by
  constructor
  · rw [hpoint]
    exact hleader
  · intro hspec
    rw [hpoint] at hspec
    cases hspec
  · intro _
    exact hdir
  · intro hclosed
    obtain ⟨ok, hclosed⟩ := h.lock (hlock ▸ hclosed)
    rw [hclosed] at hopen
    cases hopen

theorem exit_of_mem {l : Leader} (h : l ∈ [Leader.running, .exited]) : l.exit = .exited := by
  rcases l with _ | _ | _ | _
  · simp at h
  · rfl
  · rfl
  · simp at h

/-- No point minds that the master ends. -/
theorem exit_mem_leaders {p : Point} {l : Leader} (h : l ∈ p.leaders) : l.exit ∈ p.leaders := by
  rcases l with _ | _ | _ | _
  · exact h
  · -- where the master may run it may have exited
    rcases p with _ | _ | _ | _ | _ | _ | _ | (_ | _) | _ | _ | _ | _ | _ | _ | _ | _ | _ | _
    all_goals simp [Point.leaders, Leader.exit] at h ⊢
  · exact h
  · exact h

/-- **What a step of the guardian keeps.** -/
theorem Sound.next {g : Guardian} (h : g.Sound) (answer : Answer) : (g.next answer).Sound := by
  have hleader := h.leader
  -- one case for each point; only the last three are about leaving
  rcases hpoint : g.point with _ | _ | _ | _ | _ | _ | _ | accepted | _ | _ | ending | ending |
    ending | ending | ending | ok | ok | ok
  all_goals rw [hpoint] at hleader
  all_goals simp only [Guardian.next, hpoint]
  case spec =>
    split
    · exact h.move (hpoint ▸ rfl) rfl nofun rfl hleader
    · refine h.leave (hpoint ▸ rfl) rfl rfl ?_ fun hread ↦ ?_
      · exact List.mem_cons.mpr (Or.inl (List.mem_singleton.mp hleader))
      · exact absurd (h.unread hpoint) (by rw [show g.specRead = true from hread]; simp)
  case spawn =>
    split
    · exact h.move (hpoint ▸ rfl) rfl nofun rfl List.mem_cons_self
    · refine h.move (hpoint ▸ rfl) rfl nofun rfl ?_
      exact List.mem_cons.mpr (Or.inl (List.mem_singleton.mp hleader))
  case poll | recheck | supervise | grace | wait =>
    exact h.tryWait (hpoint ▸ rfl) rfl hleader ⟨nofun, nofun⟩ ⟨rfl, rfl⟩
  case check | deadline | forward | lease =>
    split <;> exact h.move (hpoint ▸ rfl) rfl nofun rfl hleader
  case report =>
    rcases accepted with _ | _ <;> rcases answer.succeeds with _ | _ <;>
      exact h.move (hpoint ▸ rfl) rfl nofun rfl hleader
  case signal =>
    refine h.move (hpoint ▸ rfl) rfl nofun rfl ?_
    show (if answer.leaderExits then g.leader.exit else g.leader) ∈ [Leader.running, .exited]
    split
    · exact exit_mem_leaders (p := .poll) hleader
    · exact hleader
  case graceDeadline =>
    split
    · refine h.move (hpoint ▸ rfl) rfl nofun rfl ?_
      exact List.mem_singleton.mpr (exit_of_mem hleader)
    · exact h.move (hpoint ▸ rfl) rfl nofun rfl hleader
  case join =>
    have hreaped := List.mem_cons_of_mem Leader.absent hleader
    split
    · exact h
    · rcases ending with _ | _ | _ <;>
        exact h.move (hpoint ▸ rfl) rfl nofun rfl hreaped
  case remove => exact h.leave (hpoint ▸ rfl) rfl rfl hleader fun _ ↦ rfl
  case returning =>
    constructor
    · exact hleader
    · exact nofun
    · intro _
      exact h.attemptDir (hpoint ▸ rfl)
    · intro _
      exact ⟨ok, rfl⟩
  case closed => exact h

/-- The group changes nothing that the guardian relies on. -/
theorem Sound.happen {g : Guardian} (h : g.Sound) (what : Happening) : (g.happen what).Sound := by
  rcases what with answer | _ | index | d
  · exact h.next answer
  · exact ⟨exit_mem_leaders h.leader, h.unread, h.attemptDir, h.lock⟩
  · exact ⟨h.leader, h.unread, h.attemptDir, h.lock⟩
  · rw [Guardian.happen]
    split
    · exact ⟨h.leader, h.unread, h.attemptDir, h.lock⟩
    · exact h

theorem sound_run (whats : List Happening) : (run happen spawned whats).Sound :=
  invariant_run happen (fun _ _ h ↦ h.happen _) sound_spawned whats

/-! ## The end of the group -/

def ended (g : Guardian) : Prop := ∃ ok, g.point = .closed ok

/-- A point that asks with `try_wait` whether the master has exited. -/
def tries : Point → Bool
  | .poll | .recheck | .supervise | .grace _ => true
  | _ => false

/-- The guardian sees that the master has exited, and takes it for the end of the group while
another process of it is running. -/
def Abandons (g : Guardian) : Happening → Prop
  | .step _ => tries g.point = true ∧ g.leader = .exited ∧ ∃ d ∈ g.descendants, d.running = true
  | _ => False

instance (g : Guardian) (what : Happening) : Decidable (g.Abandons what) :=
  match what with
  | .step _ => inferInstanceAs (Decidable (_ ∧ _ ∧ ∃ d ∈ g.descendants, d.running = true))
  | .leaderExits | .exits _ | .forks _ => isFalse id

/-- The guardian will not signal the group any more: it has no master, or SIGKILL was sent. -/
def Settled (g : Guardian) : Prop :=
  g.leader = .absent ∨ g.leader = .reaped ∨ ∃ ending, g.point = .wait ending

/-- Nobody is left in the group when it will not be signalled any more. -/
def Quiet (g : Guardian) : Prop := g.Settled → ∀ d ∈ g.descendants, d.running = false

theorem quiet_spawned : Quiet spawned := by
  intro _ d hd
  cases hd

/-- While the master may run, the group will still be signalled. -/
theorem Sound.not_settled {g : Guardian} (h : g.Sound)
    (hpoint : g.point.leaders = [.running, .exited]) : ¬ g.Settled := by
  have hleader := h.leader
  rw [hpoint] at hleader
  rintro (habsent | hreaped | ⟨ending, hwait⟩)
  · rw [habsent] at hleader
    simp at hleader
  · rw [hreaped] at hleader
    simp at hleader
  · rw [hwait] at hpoint
    cases hpoint

theorem Sound.quiet {g : Guardian} (h : g.Sound)
    (hpoint : g.point.leaders = [.running, .exited]) : g.Quiet :=
  fun hsettled ↦ absurd hsettled (h.not_settled hpoint)

theorem Quiet.keep {g g' : Guardian} (h : g.Quiet) (hleader : g'.leader = g.leader)
    (hdescendants : g'.descendants = g.descendants) (hpoint : ∀ ending, g'.point ≠ .wait ending) :
    g'.Quiet := by
  rintro (habsent | hreaped | ⟨ending, hwait⟩) d hd
  · exact h (Or.inl (hleader ▸ habsent)) d (hdescendants ▸ hd)
  · exact h (Or.inr (Or.inl (hleader ▸ hreaped))) d (hdescendants ▸ hd)
  · exact absurd hwait (hpoint ending)

theorem Quiet.tryWait {g : Guardian} {exited running : Point}
    (hempty : g.leader = .exited → ∀ d ∈ g.descendants, d.running = false)
    (hsound : (g.tryWait exited running).Sound) (hrunning : running.leaders = [.running, .exited]) :
    (g.tryWait exited running).Quiet := by
  by_cases hexited : g.leader = .exited
  · intro _
    rw [Guardian.tryWait, hexited]
    exact hempty hexited
  · have hgo : g.tryWait exited running = g.goTo running := by
      rw [Guardian.tryWait]
      split
      · contradiction
      · rfl
    rw [hgo] at hsound ⊢
    exact hsound.quiet hrunning

/-- **The group stays settled**, unless the guardian abandons it. -/
theorem Quiet.next {g : Guardian} (h : g.Quiet) (hsound : g.Sound) {answer : Answer}
    (hnot : ¬ g.Abandons (.step answer)) : (g.next answer).Quiet := by
  have hnext := hsound.next answer
  -- a leader that is seen to have exited leaves nobody behind
  have hempty : tries g.point = true → g.leader = .exited →
      ∀ d ∈ g.descendants, d.running = false := by
    intro htries hexited d hd
    by_contra hrunning
    exact hnot ⟨htries, hexited, d, hd, by simpa using hrunning⟩
  rcases hpoint : g.point with _ | _ | _ | _ | _ | _ | _ | accepted | _ | _ | ending | ending |
    ending | ending | ending | ok | ok | ok
  all_goals
    rw [hpoint] at hempty
    simp only [Guardian.next, hpoint] at hnext ⊢
  case spec => split <;> exact h.keep rfl rfl nofun
  case spawn =>
    split
    · rw [if_pos ‹_›] at hnext
      exact hnext.quiet rfl
    · exact h.keep rfl rfl nofun
  case poll | recheck | supervise | grace => exact .tryWait (hempty rfl) hnext rfl
  case check | deadline | forward | lease =>
    refine hnext.quiet ?_
    rw [Guardian.goTo]
    split <;> rfl
  case report =>
    rcases accepted with _ | _
    · rcases answer.succeeds with _ | _ <;> exact h.keep rfl rfl nofun
    · rcases hwritten : answer.succeeds with _ | _ <;> rw [hwritten] at hnext <;>
        exact hnext.quiet rfl
  case signal => exact hnext.quiet rfl
  case graceDeadline =>
    split
    · -- SIGKILL ends everybody
      intro _ d hd
      obtain ⟨d, -, rfl⟩ := List.mem_map.mp hd
      rfl
    · rw [if_neg ‹_›] at hnext
      exact hnext.quiet rfl
  case wait =>
    intro _
    -- the wait comes behind the signals
    have hquiet := h (Or.inr (Or.inr ⟨ending, hpoint⟩))
    unfold Guardian.tryWait
    split <;> exact hquiet
  case join =>
    split
    · exact h
    · rcases ending with _ | _ | _ <;> exact h.keep rfl rfl nofun
  case remove | returning => exact h.keep rfl rfl nofun
  case closed => exact h

theorem not_running_modify {descendants : List Descendant}
    (h : ∀ d ∈ descendants, d.running = false) (index : ℕ) :
    ∀ d ∈ descendants.modify index Descendant.exit, d.running = false := by
  induction descendants generalizing index with
  | nil =>
    intro d hd
    simp at hd
  | cons a rest ih =>
    obtain ⟨ha, hrest⟩ := List.forall_mem_cons.mp h
    rcases index with _ | index
    · exact List.forall_mem_cons.mpr ⟨rfl, hrest⟩
    · exact List.forall_mem_cons.mpr ⟨ha, ih hrest index⟩

/-- In a settled group nobody is left to fork. -/
theorem Quiet.not_alive {g : Guardian} (h : g.Quiet) (hsound : g.Sound) (hsettled : g.Settled) :
    g.alive = false := by
  have hleader : g.leader ≠ .running := by
    intro hrunning
    rcases hsettled with habsent | hreaped | ⟨ending, hwait⟩
    · rw [habsent] at hrunning
      cases hrunning
    · rw [hreaped] at hrunning
      cases hrunning
    · have hexited := hsound.leader
      rw [hwait, hrunning] at hexited
      simp [Point.leaders] at hexited
  have hdescendants : g.descendants.any Descendant.running = false := by
    rw [List.any_eq_false]
    intro d hd
    simp [h hsettled d hd]
  simp [alive, hleader, hdescendants]

theorem Quiet.happen {g : Guardian} (h : g.Quiet) (hsound : g.Sound) {what : Happening}
    (hnot : ¬ g.Abandons what) : (g.happen what).Quiet := by
  rcases what with answer | _ | index | d
  · exact h.next hsound hnot
  · have hback : ∀ {l : Leader}, l.exit = .absent ∨ l.exit = .reaped →
        l = .absent ∨ l = .reaped := by
      rintro (_ | _ | _ | _) hexit
      · exact Or.inl rfl
      · rcases hexit with hexit | hexit <;> cases hexit
      · rcases hexit with hexit | hexit <;> cases hexit
      · exact Or.inr rfl
    rintro (habsent | hreaped | hwait)
    · exact h ((hback (Or.inl habsent)).elim Or.inl (Or.inr ∘ Or.inl))
    · exact h ((hback (Or.inr hreaped)).elim Or.inl (Or.inr ∘ Or.inl))
    · exact h (Or.inr (Or.inr hwait))
  · exact fun hsettled ↦ not_running_modify (h hsettled) index
  · rw [Guardian.happen]
    split
    · rename_i hfork
      intro hsettled
      have halive := h.not_alive hsound hsettled
      simp [canFork, halive] at hfork
    · exact h

/-- **A guardian that never abandons its group leaves nobody behind.** -/
theorem not_alive_of_ended {whats : List Happening}
    (hwhats : Along happen (fun g what ↦ ¬ g.Abandons what) spawned whats)
    (hended : (run happen spawned whats).ended) : (run happen spawned whats).alive = false := by
  have h : (run happen spawned whats).Sound ∧ (run happen spawned whats).Quiet :=
    invariant_along happen (I := fun g ↦ g.Sound ∧ g.Quiet)
      (fun _ _ h hnot ↦ ⟨h.1.happen _, h.2.happen h.1 hnot⟩) ⟨sound_spawned, quiet_spawned⟩ hwhats
  obtain ⟨hsound, hquiet⟩ := h
  refine hquiet.not_alive hsound ?_
  obtain ⟨ok, hclosed⟩ := hended
  have hleader := hsound.leader
  rw [hclosed] at hleader
  rcases List.mem_cons.mp hleader with habsent | hreaped
  · exact Or.inl habsent
  · exact Or.inr (Or.inl (List.mem_singleton.mp hreaped))

/-! ### What is left behind -/

theorem modify_append_cons {done rest : List Descendant} {d : Descendant} :
    (done ++ d :: rest).modify done.length Descendant.exit = done ++ d.exit :: rest := by
  induction done with
  | nil => rfl
  | cons a done ih => rw [List.cons_append, List.length_cons, List.modify_succ_cons, ih]; rfl

theorem exists_exits (g : Guardian) (done rest tail : List Descendant)
    (h : g.descendants = done ++ (rest ++ tail)) :
    ∃ whats, run happen g whats =
      { g with descendants := done ++ (rest.map Descendant.exit ++ tail) } := by
  induction rest generalizing g done with
  | nil => exact ⟨[], by rw [run_nil, List.map_nil, ← h]⟩
  | cons d rest ih =>
    have hexit : (g.happen (.exits done.length)).descendants =
        (done ++ [d.exit]) ++ (rest ++ tail) := by
      rw [Guardian.happen, h, List.cons_append, List.append_assoc]
      exact modify_append_cons
    obtain ⟨whats, hwhats⟩ := ih _ _ hexit
    refine ⟨.exits done.length :: whats, ?_⟩
    rw [run_cons, hwhats, List.append_assoc]
    rfl

theorem Abandons.next {g : Guardian} {answer : Answer} (h : g.Abandons (.step answer)) :
    ∃ ending, g.next answer = { g with leader := .reaped, point := .join ending } := by
  obtain ⟨htries, hexited, -⟩ := h
  have hwait : ∀ exited running : Point,
      g.tryWait exited running = { g with leader := .reaped, point := exited } := by
    intro exited running
    rw [Guardian.tryWait, hexited]
  rcases hpoint : g.point with _ | _ | _ | _ | _ | _ | _ | _ | _ | _ | ending | ending |
    ending | ending | ending | _ | _ | _
  all_goals rw [hpoint] at htries
  all_goals simp only [Guardian.next, hpoint]
  case poll | recheck => exact ⟨.refused, hwait ..⟩
  case supervise => exact ⟨.finished, hwait ..⟩
  case grace => exact ⟨ending, hwait ..⟩
  all_goals cases htries

theorem ended_of_join {g : Guardian} {ending : Ending} (hpoint : g.point = .join ending)
    (hstderr : g.stderrHeld = false) :
    ∃ whats, (run happen g whats).ended ∧
      (run happen g whats).descendants = g.descendants := by
  have hjoin : ∀ answer : Answer, g.next answer = g.goTo ending.after := by
    intro answer
    rw [Guardian.next, hpoint]
    exact if_neg (by simp [hstderr])
  refine ⟨[.step {}, .step {}, .step {}, .step {}], ?_⟩
  simp only [run_cons, run_nil, Guardian.happen, hjoin]
  rcases ending with _ | _ | _
  · exact ⟨⟨false, rfl⟩, rfl⟩
  · exact ⟨⟨false, rfl⟩, rfl⟩
  · exact ⟨⟨true, rfl⟩, rfl⟩

/-- A process of an abandoned group can outlive the guardian: it forks one that does not have the
standard error open, and everybody who has it ends. -/
theorem alive_of_abandons {g : Guardian} {what : Happening} (h : g.Abandons what) :
    ∃ rest, (run happen (g.happen what) rest).ended ∧
      (run happen (g.happen what) rest).alive = true := by
  rcases what with answer | _ | index | d
  · obtain ⟨ending, hnext⟩ := h.next
    obtain ⟨-, -, d, hd, hrunning⟩ := h
    let child : Descendant := { ignoresTerm := true, keepsStderr := false }
    let forked : Guardian :=
      { g with leader := .reaped, point := .join ending, descendants := g.descendants ++ [child] }
    have hfork : run happen (g.happen (.step answer)) [.forks child] = forked := by
      have halive : (g.next answer).alive = true := by
        rw [hnext, alive, Bool.or_eq_true, List.any_eq_true]
        exact Or.inr ⟨d, hd, hrunning⟩
      have hcan : (g.next answer).canFork child = true := by
        simp [canFork, halive, child]
      rw [run_cons, run_nil, Guardian.happen, Guardian.happen, if_pos hcan, hnext]
    obtain ⟨exits, hexits⟩ := exists_exits forked [] g.descendants [child] rfl
    have hstderr : (run happen forked exits).stderrHeld = false := by
      rw [hexits, stderrHeld]
      simp [forked, child, Descendant.exit]
    obtain ⟨whats, hended, hleft⟩ := ended_of_join (by rw [hexits]) hstderr
    refine ⟨.forks child :: (exits ++ whats), ?_⟩
    have hrun : run happen (g.happen (.step answer)) (.forks child :: (exits ++ whats)) =
        run happen (run happen forked exits) whats := by
      rw [← hfork, ← run_append, ← run_append]
      rfl
    rw [hrun]
    refine ⟨hended, ?_⟩
    rw [alive, hleft, hexits]
    simp [child]
  · cases h
  · cases h
  · cases h

/-- **When a guardian leaves nobody behind.** In a run in which it never takes the exit of the
master for the end of the group while another process of the group is running, no process of the
group is running when it has returned. And where it does, the run can go on so that one is. -/
theorem group_ended (whats : List Happening) :
    (Along happen (fun g what ↦ ¬ g.Abandons what) spawned whats →
      (run happen spawned whats).ended → (run happen spawned whats).alive = false) ∧
    ∀ what, (run happen spawned whats).Abandons what →
      ∃ rest, (run happen spawned (whats ++ what :: rest)).ended ∧
        (run happen spawned (whats ++ what :: rest)).alive = true := by
  refine ⟨not_alive_of_ended, fun what h ↦ ?_⟩
  obtain ⟨rest, hrest⟩ := alive_of_abandons h
  refine ⟨rest, ?_⟩
  rw [run_append, run_cons]
  exact hrest

/-- A guardian whose forwarding was accepted, with a descendant that ignores SIGTERM and does not
have the standard error of the master open, up to the end of the lease. -/
def exampleLeased : List Happening :=
  [.step {}, .step {}, .forks { ignoresTerm := true, keepsStderr := false }, .step {}, .step {},
    .step {}, .step {}, .step {}, .step { leaseEnded := true }]

/-- The master ignores SIGTERM too: SIGKILL is sent, and nobody is left. -/
def exampleForced : List Happening :=
  exampleLeased ++ [.step {}, .step {}, .step { expired := true }, .step {}, .step {}, .step {},
    .step {}]

theorem group_ended_exampleForced : (run happen spawned exampleForced).alive = false :=
  (group_ended exampleForced).1 (by decide) ⟨true, rfl⟩

/-- The master exits on SIGTERM: the guardian returns, and the descendant is still running. -/
theorem exampleOutlived :
    (run happen spawned (exampleLeased ++ [.step { leaderExits := true }, .step {}, .step {},
      .step {}, .step {}])).ended ∧
    (run happen spawned (exampleLeased ++ [.step { leaderExits := true }, .step {}, .step {},
      .step {}, .step {}])).alive = true :=
  ⟨⟨true, rfl⟩, rfl⟩

end Guardian

end TunnelDeck.Process
