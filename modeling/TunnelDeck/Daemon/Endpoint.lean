import Mathlib.Logic.Function.Basic
import TunnelDeck.Concurrency.Run

/-!
# The endpoint of the daemon

Calls of `DaemonEndpoint::bind` race for the runtime directory: each opens the permanent lock file
and locks it, removes a socket that a daemon before it has left, binds its own and restricts it to
the user. The value that a call returns unlinks the socket when it is dropped and closes the lock
after that. Calls are numbered, whatever process makes them, and one step is one call into the
operating system. A call may fail at each step, and its process may be killed between any two.

The lock belongs to the open-file description of one call and is free once every descriptor of it
is closed: the one of the call itself, and the copies in guardians and in forked children.

## Main results

* `World.Sound`: a call that is past the lock holds it, and from its bind to its drop the socket is
  its own.
* `one_endpoint`: at most one endpoint is owned, and nobody else touches its socket.
-/

namespace TunnelDeck.Endpoint

open Concurrency

/-! ## Model -/

/-- What stands at the path of the socket. -/
inductive Node where
  /-- A socket of the user that no call of this run has bound. -/
  | stale
  /-- Something of another user, or no socket. -/
  | foreign
  /-- The socket that a call has bound, and whether its mode is set. -/
  | endpoint (call : ℕ) (restricted : Bool)
  deriving DecidableEq

/-- Sets the mode of the socket. -/
def Node.restrict : Node → Node
  | .endpoint call _ => .endpoint call true
  | node => node

/-- What a call of `bind`, or the owner of the endpoint it has returned, does next. -/
inductive Point where
  | opening
  /-- Reads the metadata of the lock file. -/
  | inspecting
  | locking
  /-- Reads the metadata of the socket. -/
  | checking
  | removing
  | binding
  | listening
  | restricting
  /-- Serves, until the endpoint is dropped. -/
  | owned
  /-- Unlinks the socket. -/
  | dropping
  /-- Closes the descriptor of the lock file. -/
  | closing
  | done
  deriving DecidableEq

namespace Point

def isOpen : Point → Bool
  | .opening | .done => false
  | _ => true

def hasLock : Point → Bool
  | .opening | .inspecting | .locking | .closing | .done => false
  | _ => true

def hasSocket : Point → Bool
  | .listening | .restricting | .owned | .dropping => true
  | _ => false

/-- The endpoint exists as a value. -/
def isLive : Point → Bool
  | .owned | .dropping => true
  | _ => false

end Point

/-- The runtime directory and the calls that use it. -/
structure World where
  point : ℕ → Point
  /-- The descriptors of the lock file of a call that other processes hold. -/
  copies : ℕ → ℕ
  /-- The call whose description is locked. -/
  locked : Option ℕ
  socket : Option Node

inductive Step where
  /-- The next call into the operating system, and whether that lets it succeed. -/
  | advance (call : ℕ) (ok : Bool)
  /-- The process of a call is killed. -/
  | kill (call : ℕ)
  /-- A process that holds the description of a call forks. -/
  | copies (call : ℕ)
  /-- A process closes its copy, or ends. -/
  | closes (call : ℕ)

def Step.call : Step → ℕ
  | .advance i _ | .kill i | .copies i | .closes i => i

namespace World

def goto (w : World) (i : ℕ) (p : Point) : World := { w with point := Function.update w.point i p }

/-- The lock is free once no descriptor is open. -/
def release (w : World) (i : ℕ) : World :=
  if w.locked = some i ∧ (w.point i).isOpen = false ∧ w.copies i = 0 then
    { w with locked := none }
  else w

def advance (w : World) (i : ℕ) (ok : Bool) : World :=
  match w.point i with
  | .opening => w.goto i (if ok then .inspecting else .done)
  | .inspecting => w.goto i (if ok then .locking else .closing)
  | .locking =>
    if ok && w.locked.isNone then { w.goto i .checking with locked := some i }
    else w.goto i .closing
  | .checking =>
    match ok, w.socket with
    | true, none => w.goto i .binding
    | true, some .foreign => w.goto i .closing
    | true, some _ => w.goto i .removing
    | false, _ => w.goto i .closing
  | .removing =>
    if ok then { w.goto i .binding with socket := none } else w.goto i .closing
  | .binding =>
    -- an address in use is an error
    if ok && w.socket.isNone then
      { w.goto i .listening with socket := some (.endpoint i false) }
    else w.goto i .closing
  | .listening => w.goto i (if ok then .restricting else .closing)
  | .restricting =>
    if ok then { w.goto i .owned with socket := w.socket.map Node.restrict }
    else w.goto i .closing
  | .owned => w.goto i .dropping
  | .dropping =>
    if ok then { w.goto i .closing with socket := none } else w.goto i .closing
  | .closing => (w.goto i .done).release i
  | .done => w

def step (w : World) : Step → World
  | .advance i ok => w.advance i ok
  | .kill i => w.goto i (if (w.point i).isOpen then .closing else .done)
  | .copies i =>
    if (w.point i).isOpen || 0 < w.copies i then
      { w with copies := Function.update w.copies i (w.copies i + 1) }
    else w
  | .closes i => release { w with copies := Function.update w.copies i (w.copies i - 1) } i

/-- No call has begun. The path is as earlier daemons and others have left it. -/
def init (path : Option Node) : World := ⟨fun _ ↦ .opening, fun _ ↦ 0, none, path⟩

/-! ## What a step changes -/

variable {w : World} {i j : ℕ}

@[simp] theorem goto_point_self (p : Point) : (w.goto i p).point i = p := by
  show Function.update w.point i p i = p
  rw [Function.update_self]

theorem goto_point_of_ne (p : Point) (h : j ≠ i) : (w.goto i p).point j = w.point j := by
  show Function.update w.point i p j = w.point j
  rw [Function.update_of_ne h]

@[simp] theorem release_point : (w.release i).point = w.point := by
  rw [release]
  split <;> rfl

@[simp] theorem release_socket : (w.release i).socket = w.socket := by
  rw [release]
  split <;> rfl

/-- Only the description without descriptors loses the lock. -/
theorem release_locked (h : j ≠ i ∨ (w.point i).isOpen) (hlocked : w.locked = some j) :
    (w.release i).locked = some j := by
  rw [release]
  split
  · rename_i hfree
    obtain ⟨hheld, hclosed, -⟩ := hfree
    rcases h with h | h
    · exact absurd (Option.some.inj (hlocked.symm.trans hheld)) h
    · rw [hclosed] at h
      exact absurd h Bool.false_ne_true
  · exact hlocked

/-! ## The invariant -/

/-- What holds between the steps. -/
structure Sound (w : World) : Prop where
  /-- A call that is past the lock holds it. -/
  locked : ∀ i, (w.point i).hasLock → w.locked = some i
  /-- From its bind to its drop the socket is that of the call. -/
  bound : ∀ i, (w.point i).hasSocket → ∃ restricted, w.socket = some (.endpoint i restricted)
  /-- The endpoint is returned after its mode is set. -/
  restricted : ∀ i, (w.point i).isLive → w.socket = some (.endpoint i true)

theorem sound_init (path : Option Node) : (init path).Sound := by
  constructor
  · intro i hi
    exact absurd hi Bool.false_ne_true
  · intro i hi
    exact absurd hi Bool.false_ne_true
  · intro i hi
    exact absurd hi Bool.false_ne_true

theorem hasLock_of_hasSocket {p : Point} (h : p.hasSocket) : p.hasLock := by
  cases p <;> first | rfl | exact absurd h Bool.false_ne_true

theorem hasSocket_of_isLive {p : Point} (h : p.isLive) : p.hasSocket := by
  cases p <;> first | rfl | exact absurd h Bool.false_ne_true

theorem isOpen_of_hasLock {p : Point} (h : p.hasLock) : p.isOpen := by
  cases p <;> first | rfl | exact absurd h Bool.false_ne_true

/-- The lock tells two calls apart. -/
theorem Sound.eq (h : w.Sound) (hi : (w.point i).hasLock) (hj : (w.point j).hasLock) : i = j :=
  Option.some.inj ((h.locked i hi).symm.trans (h.locked j hj))

/-- A change by one call, which says what holds of that call and leaves the others alone. -/
theorem Sound.change {w' : World} (h : w.Sound)
    (hpoint : ∀ j, j ≠ i → w'.point j = w.point j)
    (hlocked : ∀ j, j ≠ i → w.locked = some j → w'.locked = some j)
    (hsocket : (w.point i).hasLock = false → w'.socket = w.socket)
    (hself : (w'.point i).hasLock → w'.locked = some i)
    (hbound : (w'.point i).hasSocket → ∃ restricted, w'.socket = some (.endpoint i restricted))
    (hlive : (w'.point i).isLive → w'.socket = some (.endpoint i true)) : w'.Sound := by
  -- while another call holds the lock, this one is not past it
  have hother : ∀ j, j ≠ i → (w.point j).hasLock → w'.socket = w.socket := by
    intro j hj hlock
    refine hsocket (Bool.eq_false_iff.mpr fun hi ↦ hj ?_)
    exact h.eq hlock hi
  constructor
  · intro j hj
    by_cases hji : j = i
    · subst hji
      exact hself hj
    · rw [hpoint j hji] at hj
      exact hlocked j hji (h.locked j hj)
  · intro j hj
    by_cases hji : j = i
    · subst hji
      exact hbound hj
    · rw [hpoint j hji] at hj
      rw [hother j hji (hasLock_of_hasSocket hj)]
      exact h.bound j hj
  · intro j hj
    by_cases hji : j = i
    · subst hji
      exact hlive hj
    · rw [hpoint j hji] at hj
      rw [hother j hji (hasLock_of_hasSocket (hasSocket_of_isLive hj))]
      exact h.restricted j hj

theorem Sound.goto (h : w.Sound) {p : Point} (hlock : p.hasLock → (w.point i).hasLock)
    (hbound : p.hasSocket → (w.point i).hasSocket) (hlive : p.isLive → (w.point i).isLive) :
    (w.goto i p).Sound := by
  refine h.change (i := i) (fun j hj ↦ goto_point_of_ne p hj) (fun _ _ hj ↦ hj) (fun _ ↦ rfl)
    ?_ ?_ ?_
  · rw [goto_point_self]
    exact fun hp ↦ h.locked i (hlock hp)
  · rw [goto_point_self]
    exact fun hp ↦ h.bound i (hbound hp)
  · rw [goto_point_self]
    exact fun hp ↦ h.restricted i (hlive hp)

theorem Sound.closing (h : w.Sound) : (w.goto i .closing).Sound :=
  h.goto (fun hp ↦ absurd hp Bool.false_ne_true) (fun hp ↦ absurd hp Bool.false_ne_true)
    fun hp ↦ absurd hp Bool.false_ne_true

theorem Sound.act (h : w.Sound) (hi : (w.point i).hasLock) {p : Point} {socket : Option Node}
    (hbound : p.hasSocket → ∃ restricted, socket = some (.endpoint i restricted))
    (hlive : p.isLive → socket = some (.endpoint i true)) :
    Sound { w.goto i p with socket := socket } := by
  refine h.change (i := i) (fun j hj ↦ goto_point_of_ne p hj) (fun _ _ hj ↦ hj) (fun hno ↦ ?_)
    (fun _ ↦ h.locked i hi) (fun hp ↦ hbound ?_) (fun hp ↦ hlive ?_)
  · rw [hi] at hno
    exact absurd hno.symm Bool.false_ne_true
  · exact goto_point_self (w := w) p ▸ hp
  · exact goto_point_self (w := w) p ▸ hp

theorem Sound.lock (h : w.Sound) (hfree : w.locked = none) (i : ℕ) :
    Sound { w.goto i .checking with locked := some i } := by
  refine h.change (i := i) (fun j hj ↦ goto_point_of_ne _ hj) (fun j _ hj ↦ ?_) (fun _ ↦ rfl)
    (fun _ ↦ rfl) (fun hp ↦ ?_) (fun hp ↦ ?_)
  · rw [hfree] at hj
    exact absurd hj (Option.some_ne_none j).symm
  · have hp : Point.checking.hasSocket := goto_point_self (w := w) .checking ▸ hp
    exact absurd hp Bool.false_ne_true
  · have hp : Point.checking.isLive := goto_point_self (w := w) .checking ▸ hp
    exact absurd hp Bool.false_ne_true

/-- A descriptor that is closed takes the lock from nobody who is past it. -/
theorem Sound.release (h : w.Sound) (i : ℕ) : (w.release i).Sound := by
  refine h.change (i := i) (fun j _ ↦ congrFun release_point j)
    (fun j hj hlocked ↦ release_locked (.inl hj) hlocked) (fun _ ↦ release_socket) ?_ ?_ ?_
  · rw [release_point]
    intro hp
    exact release_locked (.inr (isOpen_of_hasLock hp)) (h.locked i hp)
  · rw [release_point, release_socket]
    exact h.bound i
  · rw [release_point, release_socket]
    exact h.restricted i

theorem Sound.advance (h : w.Sound) (i : ℕ) (ok : Bool) : (w.advance i ok).Sound := by
  cases hpoint : w.point i with
  | opening =>
    simp only [World.advance, hpoint]
    refine h.goto ?_ ?_ ?_ <;> cases ok <;> exact nofun
  | inspecting =>
    simp only [World.advance, hpoint]
    refine h.goto ?_ ?_ ?_ <;> cases ok <;> exact nofun
  | locking =>
    simp only [World.advance, hpoint]
    split
    · -- `flock` succeeds only where nobody has the lock
      rename_i hfree
      exact h.lock (Option.isNone_iff_eq_none.mp (Bool.and_eq_true_iff.mp hfree).2) i
    · exact h.closing
  | checking =>
    have hlock : (w.point i).hasLock := by rw [hpoint]; rfl
    simp only [World.advance, hpoint]
    split
    · exact h.goto (fun _ ↦ hlock) nofun nofun
    · exact h.closing
    · exact h.goto (fun _ ↦ hlock) nofun nofun
    · exact h.closing
  | removing =>
    have hlock : (w.point i).hasLock := by rw [hpoint]; rfl
    simp only [World.advance, hpoint]
    split
    · exact h.act hlock nofun nofun
    · exact h.closing
  | binding =>
    have hlock : (w.point i).hasLock := by rw [hpoint]; rfl
    simp only [World.advance, hpoint]
    split
    · exact h.act hlock (fun _ ↦ ⟨false, rfl⟩) nofun
    · exact h.closing
  | listening =>
    have hlock : (w.point i).hasLock := by rw [hpoint]; rfl
    have hsocket : (w.point i).hasSocket := by rw [hpoint]; rfl
    simp only [World.advance, hpoint]
    refine h.goto (fun _ ↦ hlock) (fun _ ↦ hsocket) ?_
    cases ok <;> exact nofun
  | restricting =>
    have hlock : (w.point i).hasLock := by rw [hpoint]; rfl
    have hsocket : (w.point i).hasSocket := by rw [hpoint]; rfl
    obtain ⟨restricted, hnode⟩ := h.bound i hsocket
    simp only [World.advance, hpoint]
    split
    · have hmode : w.socket.map Node.restrict = some (.endpoint i true) := by rw [hnode]; rfl
      exact h.act hlock (fun _ ↦ ⟨true, hmode⟩) fun _ ↦ hmode
    · exact h.closing
  | owned =>
    have hlive : (w.point i).isLive := by rw [hpoint]; rfl
    simp only [World.advance, hpoint]
    exact h.goto (fun _ ↦ hasLock_of_hasSocket (hasSocket_of_isLive hlive))
      (fun _ ↦ hasSocket_of_isLive hlive) fun _ ↦ hlive
  | dropping =>
    have hlock : (w.point i).hasLock := by rw [hpoint]; rfl
    simp only [World.advance, hpoint]
    split
    · exact h.act hlock nofun nofun
    · exact h.closing
  | closing =>
    simp only [World.advance, hpoint]
    -- closing drops the listener and then the lock
    have hdone : (w.goto i .done).Sound := h.goto nofun nofun nofun
    exact hdone.release i
  | done =>
    simp only [World.advance, hpoint]
    exact h

theorem Sound.step (h : w.Sound) (a : Step) : (w.step a).Sound := by
  rcases a with ⟨i, ok⟩ | i | i | i
  · exact h.advance i ok
  · rw [World.step]
    split
    · exact h.closing
    · exact h.goto nofun nofun nofun
  · rw [World.step]
    split
    · exact ⟨h.locked, h.bound, h.restricted⟩
    · exact h
  · -- the last copy that is closed gives up the lock of a call that is over
    have hclosed : Sound { w with copies := Function.update w.copies i (w.copies i - 1) } :=
      ⟨h.locked, h.bound, h.restricted⟩
    exact hclosed.release i

theorem socket_step (a : Step) (ha : (w.point a.call).hasLock = false) :
    (w.step a).socket = w.socket := by
  rcases a with ⟨i, ok⟩ | i | i | i
  · rw [Step.call] at ha
    rw [World.step]
    cases hpoint : w.point i with
    | opening | inspecting =>
      simp only [World.advance, hpoint]
      rfl
    | locking =>
      simp only [World.advance, hpoint]
      split <;> rfl
    | closing =>
      simp only [World.advance, hpoint]
      exact release_socket
    | done =>
      simp only [World.advance, hpoint]
    | _ =>
      rw [hpoint] at ha
      exact absurd ha.symm Bool.false_ne_true
  · rfl
  · rw [World.step]
    split <;> rfl
  · exact release_socket

end World

/-- **One endpoint.** In every run of calls of `bind` and of endpoints that are dropped, where each
step may fail, any process may be killed and the description may be inherited and closed at any
time, from whatever stood at the path: at most one endpoint is owned, the path holds the restricted
socket of that endpoint, and no step of another call removes or replaces it. -/
theorem one_endpoint (path : Option Node) (steps : List Step) :
    (∀ i j, ((run World.step (.init path) steps).point i).isLive →
      ((run World.step (.init path) steps).point j).isLive → i = j) ∧
    ∀ i, ((run World.step (.init path) steps).point i).isLive →
      (run World.step (.init path) steps).socket = some (.endpoint i true) ∧
      ∀ a : Step, a.call ≠ i →
        ((run World.step (.init path) steps).step a).socket = some (.endpoint i true) := by
  have h : (run World.step (.init path) steps).Sound :=
    invariant_run World.step (fun _ a h ↦ h.step a) (World.sound_init path) steps
  generalize run World.step (.init path) steps = w at h
  have hlock : ∀ i, (w.point i).isLive → (w.point i).hasLock :=
    fun i hi ↦ World.hasLock_of_hasSocket (World.hasSocket_of_isLive hi)
  constructor
  · intro i j hi hj
    exact h.eq (hlock i hi) (hlock j hj)
  · intro i hi
    refine ⟨h.restricted i hi, fun a ha ↦ ?_⟩
    -- the owner has the lock, so the call that steps is not past it
    have hother : (w.point a.call).hasLock = false :=
      Bool.eq_false_iff.mpr fun hcall ↦ ha (h.eq hcall (hlock i hi))
    rw [World.socket_step a hother]
    exact h.restricted i hi

/-- The process of call 0 is killed while a guardian holds the lock, call 1 is turned away, and call
2 takes over once the guardian has returned. -/
def exampleTakeover : List Step :=
  List.replicate 7 (.advance 0 true) ++ [.copies 0, .kill 0, .advance 0 true] ++
    List.replicate 4 (.advance 1 true) ++ [.closes 0] ++ List.replicate 8 (.advance 2 true)

theorem one_endpoint_exampleTakeover :
    (run World.step (.init none) exampleTakeover).socket = some (.endpoint 2 true) ∧
      ((run World.step (.init none) exampleTakeover).step (.closes 0)).socket =
        some (.endpoint 2 true) :=
  have hlive : ((run World.step (.init none) exampleTakeover).point 2).isLive := by decide
  ⟨((one_endpoint none exampleTakeover).2 2 hlive).1,
    ((one_endpoint none exampleTakeover).2 2 hlive).2 (.closes 0) (by decide)⟩

end TunnelDeck.Endpoint
