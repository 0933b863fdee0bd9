import TunnelDeck.Daemon.Isolation

/-!
# What an edit reports

An edit that runs alone has three stages that may fail: stopping the attempt, saving the replacement
and restarting the rule. Its reply is put together from the outcomes. Each reply is checked here
against the state in which the edit returns: the configuration in memory and on disk, the runtime
entry and the mark of a manual stop.

The proof is an outline of the edit, with one assertion for each of its program points. A section
started where its assertion holds establishes the assertion of the next point.

## Main results

* `edit_reported`: an edit that runs alone returns after at most nine more sections, and its reply
  agrees with the state.
-/

namespace TunnelDeck

open Json (Value)
open Concurrency

variable {crates : Crates} {managed : Bool} {env : Env} {d : Daemon}

/-! ## What replies say -/

/-- What the message of a failed edit may say. -/
inductive Phrase where
  | saved
  | applied
  | restored
  | unchanged
  | restarted
  | stopped
  deriving DecidableEq

def Phrase.text : Phrase → String
  | .saved => "new configuration saved"
  | .applied => "new configuration applied"
  | .restored => "old configuration restored"
  | .unchanged => "old configuration unchanged"
  | .restarted => "forwarding restarted"
  | .stopped => "forwarding stopped"

/-- A fixed part of a message contains the phrase. -/
def Phrase.isIn (phrase : Phrase) (fixed : List Char) : Bool :=
  Text.contains fixed phrase.text.toList

/-- The reply contains the phrase. What follows the first colon of a message quotes another error
and does not count. -/
def Phrase.saidBy (phrase : Phrase) : Reply → Bool
  | .ok _ => false
  | .error (_, message) => phrase.isIn (Text.head message)

/-- The fixed parts of the messages of failed edits, each with all that it says. -/
def failureTexts : List (String × List Phrase) :=
  [("stop failed; old configuration unchanged; forwarding state uncertain", [.unchanged]),
    ("new configuration saved; forwarding stopped after restart failure", [.saved, .stopped]),
    ("new configuration applied and forwarding restarted; persistence durability uncertain",
      [.applied, .restarted]),
    ("new configuration applied but durability uncertain; forwarding stopped after restart failure",
      [.applied, .stopped]),
    ("save failed; old configuration restored and forwarding restarted", [.restored, .restarted]),
    ("save failed; old configuration unchanged; forwarding stopped after restart failure",
      [.unchanged, .stopped])]

theorem failureTexts_spec {fixed : String} {phrases : List Phrase}
    (h : (fixed, phrases) ∈ failureTexts) : (∀ c ∈ fixed.toList, c ≠ ':') ∧
      ∀ phrase : Phrase, phrase.isIn fixed.toList = true → phrase ∈ phrases := by
  -- the check of the whole table, as a Boolean
  have htable : (failureTexts.all fun p ↦ p.1.toList.all (· != ':') &&
      [Phrase.saved, .applied, .restored, .unchanged, .restarted, .stopped].all fun phrase ↦
        !phrase.isIn p.1.toList || p.2.contains phrase) = true := by
    decide +kernel
  have hrow := List.all_eq_true.mp htable _ h
  rw [Bool.and_eq_true, List.all_eq_true, List.all_eq_true] at hrow
  refine ⟨fun c hc ↦ by simpa using hrow.1 c hc, fun phrase hin ↦ ?_⟩
  have hphrase := hrow.2 phrase (by cases phrase <;> simp)
  simpa [hin] using hphrase

/-- A message is its fixed part, a colon and a quoted error. It says what the fixed part says. -/
theorem Phrase.mem_of_saidBy {code : ErrorCode} {fixed rest : String} {phrases : List Phrase}
    (h : (fixed, phrases) ∈ failureTexts) (hrest : ∃ cs, rest.toList = ':' :: cs) {phrase : Phrase}
    (hsaid : phrase.saidBy (.error (code, fixed ++ rest)) = true) : phrase ∈ phrases := by
  obtain ⟨hcolon, hphrases⟩ := failureTexts_spec h
  rw [Phrase.saidBy, Text.head_append hcolon hrest] at hsaid
  exact hphrases phrase hsaid

/-! ## What replies mean -/

/-- The configuration in memory and on disk. -/
structure Holds (crates : Crates) (config : PersistedConfig) (s : State) : Prop where
  memory : s.persisted = config
  disk : stored crates s.directory = .ok config

theorem Holds.of_config {config : PersistedConfig} {s s' : State} (h : Holds crates config s)
    (hs : s'.config = s.config) : Holds crates config s' := by
  obtain ⟨hdirectory, hpersisted⟩ := Prod.mk.inj hs
  exact ⟨hpersisted.trans h.memory, by rw [hdirectory, h.disk]⟩

/-- The configuration of an edit that saved its replacement. -/
def Edit.replaced (edit : Edit) (before : PersistedConfig) : PersistedConfig :=
  (Change.put edit.replacement).apply before

def RuleView.Active (v : RuleView) : Prop := ∃ attempt, v.entry = some (.active attempt)

/-- What a phrase says about the state. -/
def Phrase.Means (crates : Crates) (edit : Edit) (before : PersistedConfig) (s : State) :
    Phrase → Prop
  | .saved | .applied => Holds crates (edit.replaced before) s
  | .restored | .unchanged => Holds crates before s
  | .restarted => (s.view edit.id).Active
  | .stopped => (s.view edit.id).entry = none

/-- The reply of an edit agrees with the state `s` in which it returns. The edit found the state
`before`, and `stop` is how its stop failed if it did. -/
structure Edit.Reported (crates : Crates) (edit : Edit) (before : State)
    (stop : Option ProcessError) (reply : Reply) (s : State) : Prop where
  success : ∀ value, reply = .ok value →
    Holds crates (edit.replaced before.persisted) s ∧ (s.view edit.id).Active
  phrase : ∀ phrase : Phrase, phrase.saidBy reply = true →
    phrase.Means crates edit before.persisted s
  stopFailed : stop ≠ none → Holds crates before.persisted s ∧
    (s.view edit.id).entry = some .failed ∧ s.directory = before.directory
  inactive : ¬ (s.view edit.id).Active → (s.view edit.id).stopped ∧
    ∀ due, (s.view edit.id).entry ≠ some (.reconnecting due)

theorem Edit.Reported.finish {edit : Edit} {before : State} {stop : Option ProcessError}
    {reply : Reply} {s : State} (h : edit.Reported crates before stop reply s) :
    edit.Reported crates before stop reply (finishEdit edit.id s) := by
  have hview : (finishEdit edit.id s).view edit.id = { s.view edit.id with editing := False } :=
    State.view_unreserve_self ..
  have hholds : ∀ config, Holds crates config s → Holds crates config (finishEdit edit.id s) :=
    fun config hconfig ↦ hconfig.of_config rfl
  refine ⟨fun value hvalue ↦ ?_, fun phrase hphrase ↦ ?_, fun hstop ↦ ?_, fun hinactive ↦ ?_⟩
  · rw [hview]
    exact ⟨hholds _ (h.success value hvalue).1, (h.success value hvalue).2⟩
  · have hmeans := h.phrase phrase hphrase
    cases phrase with
    | saved | applied | restored | unchanged => exact hholds _ hmeans
    | restarted | stopped =>
      rw [Phrase.Means, hview]
      exact hmeans
  · rw [hview]
    exact ⟨hholds _ (h.stopFailed hstop).1, (h.stopFailed hstop).2⟩
  · rw [hview] at hinactive ⊢
    exact h.inactive hinactive

/-! ## The last match -/

def Edit.chosen (edit : Edit) (before : PersistedConfig) (saved : Except StoreError Unit) :
    PersistedConfig :=
  if committed saved then edit.replaced before else before

theorem Edit.Reported.of_message {edit : Edit} {before s : State} {code : ErrorCode}
    {fixed rest : String} {first second : Phrase}
    (htext : (fixed, [first, second]) ∈ failureTexts) (hrest : ∃ cs, rest.toList = ':' :: cs)
    (hfirst : first.Means crates edit before.persisted s)
    (hsecond : second.Means crates edit before.persisted s)
    (hinactive : ¬ (s.view edit.id).Active → (s.view edit.id).stopped ∧
      ∀ due, (s.view edit.id).entry ≠ some (.reconnecting due)) :
    edit.Reported crates before none (.error (code, fixed ++ rest)) s := by
  refine ⟨fun _ hvalue ↦ (nomatch hvalue), fun phrase hsaid ↦ ?_, fun h ↦ absurd rfl h, hinactive⟩
  rcases List.mem_pair.mp (Phrase.mem_of_saidBy htext hrest hsaid) with rfl | rfl
  · exact hfirst
  · exact hsecond

theorem editReply_unsaved {error : StoreError} (herror : committed (.error error) = false)
    (id : Uuid) (restart : Reply) : editReply crates id (.error error) restart =
      match restart with
      | .ok _ => .error (saveErrorCode error,
          "save failed; old configuration restored and forwarding restarted" ++
            (": " ++ error.toString crates))
      | .error (_, restart) => .error (saveErrorCode error,
          "save failed; old configuration unchanged; forwarding stopped after restart failure" ++
            (": " ++ restart ++ "; save: " ++ error.toString crates)) := by
  cases error with
  | durabilityUncertain error => cases herror
  | io _ | decode _ | encode _ | unsupportedSchema _ | invalidRule _ | invalidRules _ =>
    rcases restart with ⟨code, restart⟩ | value <;> rfl

theorem exists_of_committed {error : StoreError} (h : committed (.error error) = true) :
    ∃ text, error = .durabilityUncertain text := by
  cases error with
  | durabilityUncertain text => exact ⟨text, rfl⟩
  | io _ | decode _ | encode _ | unsupportedSchema _ | invalidRule _ | invalidRules _ => cases h

/-- **The last match of an edit.** Its reply agrees with the state if the configuration is the one
that the save chose and the rule is active or stopped as the restart says. -/
theorem reported_editReply {edit : Edit} {before s : State} {saved : Except StoreError Unit}
    {restart : Reply} (hholds : Holds crates (edit.chosen before.persisted saved) s)
    (hok : ∀ value, restart = .ok value → (s.view edit.id).Active)
    (herror : ∀ failure, restart = .error failure → (s.view edit.id).entry = none ∧
      (s.view edit.id).stopped) :
    edit.Reported crates before none (editReply crates edit.id saved restart) s := by
  have hinactive : ¬ (s.view edit.id).Active → (s.view edit.id).stopped ∧
      ∀ due, (s.view edit.id).entry ≠ some (.reconnecting due) := by
    intro hnot
    cases restart with
    | ok value => exact absurd (hok value rfl) hnot
    | error failure =>
      obtain ⟨hentry, hstopped⟩ := herror failure rfl
      refine ⟨hstopped, fun due hdue ↦ ?_⟩
      cases hentry.symm.trans hdue
  have hcolon : ∀ rest : String, ∃ cs, (": " ++ rest).toList = ':' :: cs :=
    fun rest ↦ ⟨' ' :: rest.toList, by simp [String.toList_append]⟩
  have hcolon' : ∀ error rest : String, ∃ cs,
      (": " ++ error ++ "; save: " ++ rest).toList = ':' :: cs :=
    fun error rest ↦ ⟨' ' :: (error ++ "; save: " ++ rest).toList, by simp [String.toList_append]⟩
  have hrestarted : ∀ value, restart = .ok value →
      Phrase.restarted.Means crates edit before.persisted s := hok
  have hstopped : ∀ failure, restart = .error failure →
      Phrase.stopped.Means crates edit before.persisted s := fun failure h ↦ (herror failure h).1
  rcases saved with error | u
  · by_cases hcommitted : committed (.error error) = true
    · obtain ⟨text, rfl⟩ := exists_of_committed hcommitted
      have happlied : Phrase.applied.Means crates edit before.persisted s := hholds
      rcases restart with ⟨code, restart⟩ | value
      · exact .of_message (by simp [failureTexts]) (hcolon' ..) happlied (hstopped _ rfl) hinactive
      · exact .of_message (by simp [failureTexts]) (hcolon _) happlied (hrestarted _ rfl) hinactive
    · have hnot : committed (.error error) = false := by simpa using hcommitted
      rw [Edit.chosen, if_neg hcommitted] at hholds
      have hrestored : Phrase.restored.Means crates edit before.persisted s := hholds
      have hunchanged : Phrase.unchanged.Means crates edit before.persisted s := hholds
      rw [editReply_unsaved hnot]
      rcases restart with ⟨code, restart⟩ | value
      · exact .of_message (by simp [failureTexts]) (hcolon' ..) hunchanged (hstopped _ rfl)
          hinactive
      · exact .of_message (by simp [failureTexts]) (hcolon _) hrestored (hrestarted _ rfl) hinactive
  · have hsaved : Phrase.saved.Means crates edit before.persisted s := hholds
    rcases restart with ⟨code, restart⟩ | value
    · exact .of_message (by simp [failureTexts]) (hcolon _) hsaved (hstopped _ rfl) hinactive
    · exact ⟨fun _ _ ↦ ⟨hsaved, hok value rfl⟩, fun phrase hphrase ↦ (nomatch hphrase),
        fun hstop ↦ absurd rfl hstop, hinactive⟩

/-! ## The outline -/

/-- The edit runs alone and its rule is manually stopped: the configuration and the entry of the
rule. -/
structure Edit.Stage (crates : Crates) (edit : Edit) (config : PersistedConfig)
    (entry : Option Attempt) (s : State) : Prop where
  holds : Holds crates config s
  entry : (s.view edit.id).entry = entry
  stopped : (s.view edit.id).stopped

/-- The assertions at the points of an edit after its stop. The state before it was `before`, and
`stop` is how the stop failed if it did. -/
inductive Edit.Outline (crates : Crates) (edit : Edit) (before : State) (request : Request)
    (d : Daemon) : Option ProcessError → Pc → Prop
  | stopFailed {error : ProcessError} (h : edit.Stage crates before.persisted none d.state)
      (hdirectory : d.state.directory = before.directory) :
    Outline crates edit before request d (some error) (.edit request edit (.stopFailed error))
  | publishFailed {error : ProcessError}
      (h : edit.Stage crates before.persisted (some .failed) d.state)
      (hdirectory : d.state.directory = before.directory) :
    Outline crates edit before request d (some error) (.edit request edit (.publishFailed error))
  | publishStopped (h : edit.Stage crates before.persisted none d.state) :
    Outline crates edit before request d none (.edit request edit .publishStopped)
  | save (h : edit.Stage crates before.persisted none d.state) :
    Outline crates edit before request d none (.edit request edit .save)
  | enter {saved : Except StoreError Unit}
      (h : edit.Stage crates (edit.chosen before.persisted saved) none d.state) :
    Outline crates edit before request d none (.start (.edit request edit saved) .enter)
  | launch {saved : Except StoreError Unit} {launch : Launch} (hid : launch.id = edit.id)
      (h : edit.Stage crates (edit.chosen before.persisted saved)
        (some (.starting launch.attemptId)) d.state) :
    Outline crates edit before request d none (.start (.edit request edit saved) (.launch launch))
  | spawned {saved : Except StoreError Unit} {launch : Launch} {process : ℕ}
      (hid : launch.id = edit.id)
      (h : edit.Stage crates (edit.chosen before.persisted saved)
        (some (.starting launch.attemptId)) d.state) :
    Outline crates edit before request d none
      (.start (.edit request edit saved) (.spawned launch process))
  | failed {saved : Except StoreError Unit} {launch : Launch} {error : ProcessError}
      (hid : launch.id = edit.id)
      (h : edit.Stage crates (edit.chosen before.persisted saved)
        (some (.starting launch.attemptId)) d.state) :
    Outline crates edit before request d none
      (.start (.edit request edit saved) (.failed launch error))
  | launched {saved : Except StoreError Unit} {launch : Launch} {attempt : ManagedAttempt}
      (hid : launch.id = edit.id)
      (h : edit.Stage crates (edit.chosen before.persisted saved)
        (some (.starting launch.attemptId)) d.state) :
    Outline crates edit before request d none
      (.start (.edit request edit saved) (.launched launch (some attempt)))
  | publishStarted {saved : Except StoreError Unit} {event : String} {id : Uuid} {value : Value}
      (hholds : Holds crates (edit.chosen before.persisted saved) d.state)
      (hactive : (d.state.view edit.id).Active) :
    Outline crates edit before request d none
      (.start (.edit request edit saved) (.publish event id (.ok value)))
  | finish {stop : Option ProcessError} {reply : Reply}
      (h : edit.Reported crates before stop reply d.state) :
    Outline crates edit before request d stop (.edit request edit (.finish reply))
  | returned {stop : Option ProcessError} {reply : Reply}
      (h : edit.Reported crates before stop reply d.state) :
    Outline crates edit before request d stop (.returned request reply)

/-- How many sections are left at most. -/
def Pc.sectionsLeft : Pc → ℕ
  | .edit _ _ (.cleanup _) => 9
  | .edit _ _ .publishStopped => 8
  | .edit _ _ .save => 7
  | .start _ .enter => 6
  | .start _ (.launch _) => 5
  | .start _ (.spawned _ _) => 4
  | .start _ (.launched _ _) | .edit _ _ (.stopFailed _) => 3
  | .start _ (.failed _ _) | .start _ (.publish _ _ _) | .edit _ _ (.publishFailed _) => 2
  | .edit _ _ (.finish _) => 1
  | _ => 0

section Next

variable {edit : Edit} {before : State} {request : Request} {saved : Except StoreError Unit}
  {launch : Launch}

theorem findRule_chosen (hbefore : findRule before.rules edit.id = some edit.expected)
    (saved : Except StoreError Unit) :
    (findRule (edit.chosen before.persisted saved).rules edit.id).isSome = true := by
  have hsome : (findRule before.rules edit.id).isSome = true := by
    rw [hbefore]
    rfl
  unfold Edit.chosen
  split
  · have hreplaced := findRule_replaceRule_self edit.sameId hsome
    simp only [Edit.replaced, Change.apply, edit.sameId]
    exact Option.isSome_iff_exists.mpr ⟨_, hreplaced⟩
  · exact hsome

theorem Edit.Outline.of_error
    (h : edit.Stage crates (edit.chosen before.persisted saved) none d.state) (failure : Failure) :
    edit.Outline crates before request d none
      ((Caller.edit request edit saved).resume crates (.error failure)) :=
  .finish (reported_editReply h.holds (fun _ hvalue ↦ (nomatch hvalue))
    fun _ _ ↦ ⟨h.entry, h.stopped⟩)

/-- The restart of an edit finds its rule stopped, so it is refused because of the port or launches
the rule. -/
theorem Edit.Outline.enter_next (hcrates : crates.Faithful)
    (hbefore : findRule before.rules edit.id = some edit.expected)
    (h : edit.Stage crates (edit.chosen before.persisted saved) none d.state) :
    edit.Outline crates before request
        (exec crates true env d (.start (.edit request edit saved) .enter)).1 none
        (exec crates true env d (.start (.edit request edit saved) .enter)).2 ∧
      (exec crates true env d (.start (.edit request edit saved) .enter)).2.sectionsLeft < 6 := by
  have hentered := startEnter_entered crates false true (selectId crates edit.id) env.attemptId
    env.bind d.state
  have hconfig := config_startEnter crates false true (selectId crates edit.id) env.attemptId
    env.bind d.state
  have hid := ruleId_selectId hcrates edit.id d.state
  rcases hstart : startEnter crates false true (selectId crates edit.id) env.attemptId env.bind
    d.state with ⟨entry, s⟩
  rw [hstart] at hentered hconfig
  simp only [exec, execStart, Caller.automatic, Caller.editOwned, Caller.payload, hstart]
  cases hentered with
  | unresolved hid' => cases hid.symm.trans hid'
  | beingEdited hid' hediting howned => cases howned
  | stopped hid' hediting hautomatic => cases hautomatic
  | missing hid' hediting hstopped hrule =>
    obtain rfl := Except.ok.inj (hid.symm.trans hid')
    have hsome := findRule_chosen hbefore saved
    rw [← h.holds.memory] at hsome
    rw [State.persisted, hrule] at hsome
    cases hsome
  | running hid' hediting hstopped hrule hentry =>
    obtain rfl := Except.ok.inj (hid.symm.trans hid')
    cases h.entry.symm.trans hentry
  | refused hid' hediting hstopped hrule hentry hport hs =>
    obtain rfl := Except.ok.inj (hid.symm.trans hid')
    have hview : s.view edit.id = (d.state.view edit.id).clearFailed :=
      (congrArg (State.view · edit.id) hs).trans (State.view_clearFailed_self ..)
    refine ⟨.of_error ⟨h.holds.of_config hconfig, ?_, ?_⟩ _, show 1 < 6 by omega⟩
    · rw [Daemon.setState, hview, RuleView.clearFailed_of_idle (Or.inl h.entry)]
    · rw [Daemon.setState, hview]
      exact h.stopped
  | launch hid' hediting hstopped hrule hentry hport hs =>
    obtain rfl := Except.ok.inj (hid.symm.trans hid')
    have hview : s.view edit.id =
        { (d.state.view edit.id).clearFailed with entry := some (.starting env.attemptId) } := by
      refine (congrArg (State.view · edit.id) hs).trans ((State.view_setEntry_self ..).trans ?_)
      exact congrArg (fun v : RuleView ↦ { v with entry := some (.starting env.attemptId) })
        (State.view_clearFailed_self ..)
    refine ⟨.launch rfl ⟨h.holds.of_config hconfig, ?_, ?_⟩, show 5 < 6 by omega⟩
    · exact congrArg RuleView.entry hview
    · rw [Daemon.setState, hview]
      exact h.stopped

/-- The marker of the launch of an edit that runs alone is never lost. -/
theorem Edit.Stage.current {config : PersistedConfig} {s : State} (hid : launch.id = edit.id)
    (h : edit.Stage crates config (some (.starting launch.attemptId)) s) : launch.current s := by
  rw [Launch.current, hid]
  exact h.entry

theorem Edit.Outline.failed_next {error : ProcessError} (hid : launch.id = edit.id)
    (h : edit.Stage crates (edit.chosen before.persisted saved)
      (some (.starting launch.attemptId)) d.state) :
    edit.Outline crates before request
        (execStart crates true env d (.edit request edit saved) (.failed launch error)).1 none
        (execStart crates true env d (.edit request edit saved) (.failed launch error)).2 ∧
      (execStart crates true env d (.edit request edit saved)
        (.failed launch error)).2.sectionsLeft < 2 := by
  obtain ⟨hrecorded, hview, -⟩ := startFailed_of_current (h.current hid) true error env.now
  rw [Bool.not_true, Bool.and_false] at hrecorded
  rw [hid] at hview
  simp only [execStart, Caller.editOwned, hrecorded]
  refine ⟨.of_error ⟨h.holds.of_config (config_startFailed ..), ?_, ?_⟩ _, show 1 < 2 by omega⟩
  · rw [Daemon.setState, hview]
    simp [RuleView.launchFailed]
  · rw [Daemon.setState, hview, RuleView.launchFailed_stopped]
    exact h.stopped

theorem Edit.Outline.launched_next {attempt : ManagedAttempt} (hid : launch.id = edit.id)
    (h : edit.Stage crates (edit.chosen before.persisted saved)
      (some (.starting launch.attemptId)) d.state) :
    edit.Outline crates before request
        (execStart crates true env d (.edit request edit saved) (.launched launch (some attempt))).1
        none
        (execStart crates true env d (.edit request edit saved)
          (.launched launch (some attempt))).2 ∧
      (execStart crates true env d (.edit request edit saved)
        (.launched launch (some attempt))).2.sectionsLeft < 3 := by
  obtain ⟨hwanted, hview, -⟩ := startFinish_of_current (h.current hid) true (some attempt) env.now
  rw [hid] at hview
  simp only [execStart, Caller.editOwned, hwanted, if_true]
  refine ⟨.publishStarted (h.holds.of_config (config_startFinish ..)) ⟨attempt, ?_⟩,
    show 2 < 3 by omega⟩
  rw [Daemon.setState, hview]
  rfl

theorem Edit.Outline.save_next (hcrates : crates.Faithful)
    (hbefore : findRule before.rules edit.id = some edit.expected)
    (h : edit.Stage crates before.persisted none d.state) :
    edit.Outline crates before request (execEdit crates env d request edit .save).1 none
        (execEdit crates env d request edit .save).2 ∧
      (execEdit crates env d request edit .save).2.sectionsLeft < 7 := by
  have hsaved := editSave_spec hcrates env.save edit d.state
  rcases hsave : editSave crates env.save edit d.state with ⟨outcome, s⟩
  rw [hsave] at hsaved
  simp only [execEdit, hsave]
  have hrules : d.state.rules = before.rules := congrArg PersistedConfig.rules h.holds.memory
  cases hsaved with
  | missing hrule =>
    rw [hrules, hbefore] at hrule
    cases hrule
  | unsaved herror hrule hdirectory =>
    simp only [herror, Bool.false_eq_true, if_false]
    refine ⟨.enter ⟨?_, h.entry, h.stopped⟩, show 6 < 7 by omega⟩
    rw [Edit.chosen, if_neg (by simp [herror])]
    exact ⟨h.holds.memory, (stored_congr hdirectory).trans h.holds.disk⟩
  | committed houtcome hrule hvalid hstored =>
    have hreplaced : edit.replaced before.persisted =
        ⟨replaceRule edit.id edit.replacement d.state.rules, d.state.settings⟩ := by
      rw [Edit.replaced, Change.apply, edit.sameId, ← h.holds.memory]
      rfl
    simp only [houtcome, if_true]
    refine ⟨.enter ⟨?_, h.entry, h.stopped⟩, show 6 < 7 by omega⟩
    rw [Edit.chosen, if_pos houtcome, hreplaced]
    exact ⟨rfl, hstored⟩

/-- **The outline holds.** A section of the edit establishes the assertion of its next point. -/
theorem Edit.Outline.next (hcrates : crates.Faithful) (env : Env)
    (hbefore : findRule before.rules edit.id = some edit.expected) {stop : Option ProcessError}
    {p : Pc} (h : edit.Outline crates before request d stop p) (hedits : p.edits = some edit) :
    edit.Outline crates before request (exec crates true env d p).1 stop
        (exec crates true env d p).2 ∧
      (exec crates true env d p).2.sectionsLeft < p.sectionsLeft := by
  cases h with
  | stopFailed h hdirectory =>
    refine ⟨.publishFailed ⟨h.holds.of_config rfl, ?_, ?_⟩ hdirectory, show 2 < 3 by omega⟩
    · exact congrArg RuleView.entry (view_editStopFailed edit d.state)
    · exact (congrArg RuleView.stopped (view_editStopFailed edit d.state)).mpr h.stopped
  | @publishFailed error h hdirectory =>
    refine ⟨.finish ⟨fun _ hvalue ↦ (by cases hvalue), fun phrase hsaid ↦ ?_,
      fun _ ↦ ⟨h.holds, h.entry, hdirectory⟩, fun _ ↦ ⟨h.stopped, fun due hdue ↦ ?_⟩⟩,
      show 1 < 2 by omega⟩
    · have hmem : phrase ∈ [Phrase.unchanged] := Phrase.mem_of_saidBy (by simp [failureTexts])
        ⟨' ' :: error.toString.toList, by simp [String.toList_append]⟩ hsaid
      rw [List.mem_singleton.mp hmem]
      exact h.holds
    · cases h.entry.symm.trans hdue
  | publishStopped h => exact ⟨.save h, show 7 < 8 by omega⟩
  | save h => exact Edit.Outline.save_next hcrates hbefore h
  | enter h => exact Edit.Outline.enter_next hcrates hbefore h
  | launch hid h =>
    simp only [exec, execStart, if_true]
    split
    · exact ⟨.failed hid h, show 2 < 5 by omega⟩
    · exact ⟨.spawned hid h, show 4 < 5 by omega⟩
  | spawned hid h =>
    simp only [exec, execStart]
    split
    · exact ⟨.failed hid h, show 2 < 4 by omega⟩
    · exact ⟨.launched hid h, show 3 < 4 by omega⟩
  | failed hid h => exact Edit.Outline.failed_next hid h
  | launched hid h => exact Edit.Outline.launched_next hid h
  | publishStarted hholds hactive =>
    exact ⟨.finish (reported_editReply hholds (fun _ _ ↦ hactive)
      fun _ hfailure ↦ (by cases hfailure)), show 1 < 2 by omega⟩
  | finish h => exact ⟨.returned h.finish, show 0 < 1 by omega⟩
  | returned h => cases hedits

theorem Edit.Outline.returned_of_edits {stop : Option ProcessError} {p : Pc}
    (h : edit.Outline crates before request d stop p) (hedits : p.edits ≠ some edit) :
    ∃ reply, p = .returned request reply ∧ edit.Reported crates before stop reply d.state := by
  cases h with
  | returned h => exact ⟨_, rfl, h⟩
  | stopFailed | publishFailed | publishStopped | save | enter | launch | spawned | failed
  | launched | publishStarted | finish => exact absurd rfl hedits

end Next

/-! ## Runs of an edit alone -/

/-- The next section is one of the thread `t` in the middle of the edit. -/
def Solo (t : ℕ) (edit : Edit) (w : System) (b : Choice) : Prop :=
  b.1 = t ∧ (w.thread t).edits = some edit

instance (t : ℕ) (edit : Edit) (w : System) (b : Choice) : Decidable (Solo t edit w b) :=
  inferInstanceAs (Decidable (_ ∧ _))

theorem Edit.Outline.run (hcrates : crates.Faithful) {edit : Edit} {before : State}
    (hbefore : findRule before.rules edit.id = some edit.expected) {request : Request}
    {stop : Option ProcessError} {t : ℕ} {w : System}
    (h : edit.Outline crates before request w.shared stop (w.thread t)) {bs : List Choice}
    (hbs : Along (System.step crates true) (Solo t edit) w bs) {w' : System}
    (hw' : Concurrency.run (System.step crates true) w bs = w') :
    edit.Outline crates before request w'.shared stop (w'.thread t) ∧
      bs.length + (w'.thread t).sectionsLeft ≤ (w.thread t).sectionsLeft := by
  have hstep : ∀ w b, edit.Outline crates before request w.shared stop (w.thread t) →
      Solo t edit w b →
      edit.Outline crates before request (System.step crates true w b).shared stop
          ((System.step crates true w b).thread t) ∧
        ((System.step crates true w b).thread t).sectionsLeft < (w.thread t).sectionsLeft := by
    rintro w b h ⟨rfl, hedits⟩
    rw [World.step_thread_self]
    exact h.next hcrates b.2 hbefore hedits
  rw [← hw']
  exact ⟨invariant_along (System.step crates true)
      (I := fun w ↦ edit.Outline crates before request w.shared stop (w.thread t))
      (fun w b h hb ↦ (hstep w b h hb).1) h hbs,
    length_add_le_of_along (System.step crates true) (fun w ↦ (w.thread t).sectionsLeft)
      hstep h hbs⟩

theorem managed_of_stores (hcrates : crates.Faithful) {s : State} (hs : s.Idle)
    (as : List Choice) {id : Uuid} {attempt : ManagedAttempt}
    (hstores : (run (System.step crates managed) (System.opened s) as).shared.stores id attempt) :
    managed = true := by
  by_contra hmanaged
  obtain rfl : managed = false := by simpa using hmanaged
  have hnone := (Owned.opened hs).no_processes hcrates rfl as
  have howned : Owned (run (System.step crates false) (System.opened s) as) :=
    (Owned.opened hs).run hcrates as
  obtain ⟨process, hget, -⟩ := howned.consistent.shared.active id attempt hstores
  rw [hnone] at hget
  cases hget

/-- **What an edit reports.** Let a thread reserve its rule for an edit and go on alone, however the
stop, the save and the restart end. After at most nine sections it has returned, and its reply
agrees with the state. -/
theorem edit_reported (hcrates : crates.Faithful) {faults : OpenFaults} {directory : Directory}
    {s : State} (hopen : openState crates faults directory = .ok s) {as : List Choice} {w : System}
    (hw : run (System.step crates managed) (System.opened s) as = w) (a : Choice)
    {request : Request} (hthread : w.thread a.1 = .editEnter request) {edit : Edit}
    (hreserves : ((System.step crates managed w a).thread a.1).pending = some edit)
    (bs : List Choice) (hbs : Along (System.step crates managed) (Solo a.1 edit)
      (System.step crates managed w a) bs) {w' : System}
    (hw' : run (System.step crates managed) (System.step crates managed w a) bs = w') :
    ((w'.thread a.1).edits = some edit ∧ bs.length < 9) ∨
      ∃ reply, w'.thread a.1 = .returned request reply ∧
        edit.Reported crates w.shared.state (bs.head?.bind fun b ↦ b.2.cleanup) reply
          w'.shared.state := by
  rw [World.step_thread_self] at hreserves
  rcases exec_pending hreserves with
    ⟨hpending, -⟩ | ⟨r, attempt, hr, hrule, -, hentry, hstate, hnext⟩
  · rw [hthread] at hpending
    cases hpending
  · obtain rfl : request = r := by
      rw [hthread] at hr
      cases hr
      rfl
    obtain rfl : managed = true := by
      rw [← hw] at hentry
      exact managed_of_stores hcrates (idle_of_open hopen) as hentry
    have hpersisted : Persisted crates w.shared.state := by
      rw [← hw]
      exact invariant_run (System.step crates true) (I := fun w ↦ Persisted crates w.shared.state)
        (fun _ _ h ↦ h.next hcrates _) (.of_open hcrates hopen) as
    have hstage : edit.Stage crates w.shared.state.persisted none
        (System.step crates true w a).shared.state := by
      have hview : (System.step crates true w a).shared.state.view edit.id =
          (w.shared.state.view edit.id).reserve := by
        rw [World.step_shared, hstate]
        exact view_reserved ..
      refine ⟨⟨?_, ?_⟩, ?_, ?_⟩
      · rw [World.step_shared, hstate]
        rfl
      · rw [World.step_shared, hstate]
        exact hpersisted.stored
      · rw [hview]
        rfl
      · rw [hview]
        trivial
    have hcleanup : (System.step crates true w a).thread a.1 =
        .edit request edit (.cleanup attempt) := by
      rw [World.step_thread_self, hnext]
    cases bs with
    | nil =>
      refine Or.inl ⟨?_, by simp⟩
      rw [← hw', run_nil, hcleanup]
      rfl
    | cons b bs =>
      obtain ⟨⟨hb, -⟩, hrest⟩ := hbs
      -- the stop decides which of the two halves of the outline the run takes
      have hstop : edit.Outline crates w.shared.state request
            (System.step crates true (System.step crates true w a) b).shared b.2.cleanup
            ((System.step crates true (System.step crates true w a) b).thread a.1) ∧
          ((System.step crates true (System.step crates true w a) b).thread a.1).sectionsLeft
            ≤ 8 := by
        rw [← hb, World.step_thread_self, World.step_shared, hb, hcleanup]
        simp only [exec, execEdit]
        cases b.2.cleanup with
        | none => exact ⟨.publishStopped hstage, show 8 ≤ 8 by omega⟩
        | some error =>
          refine ⟨.stopFailed hstage ?_, show 3 ≤ 8 by omega⟩
          rw [Daemon.cleanup, World.step_shared, hstate]
          rfl
      obtain ⟨houtline, hlength⟩ := hstop.1.run hcrates hrule hrest hw'
      by_cases hedits : (w'.thread a.1).edits = some edit
      · have hleft := (houtline.next hcrates {} hrule hedits).2
        refine Or.inl ⟨hedits, ?_⟩
        rw [List.length_cons]
        omega
      · exact Or.inr (houtline.returned_of_edits hedits)

/-! ### An example -/

/-- The edit of the example rule stops its attempt and saves the replacement, but the port of the
replacement is taken. -/
def exampleUnstarted : List Choice :=
  [(1, {}), (1, {}), (1, {}),
    (1, { attemptId := 2, bind := some ⟨.addrInUse, "Address already in use"⟩ }), (1, {})]

/-- The edit has returned, and what it says is right. -/
theorem edit_reported_exampleUnstarted :
    ∃ request reply, (run (System.step exampleCrates true) (System.step exampleCrates true
        (run (System.step exampleCrates true) exampleOpened exampleServing) (1, {}))
        exampleUnstarted).thread 1 = .returned request reply ∧
      exampleEdit.Reported exampleCrates
        (run (System.step exampleCrates true) exampleOpened exampleServing).shared.state none reply
        (run (System.step exampleCrates true) (System.step exampleCrates true
          (run (System.step exampleCrates true) exampleOpened exampleServing) (1, {}))
          exampleUnstarted).shared.state := by
  rcases edit_reported exampleCrates_faithful exampleOpened_open
    (show run (System.step exampleCrates true) exampleOpened exampleServing = _ from rfl) (1, {})
    rfl (show _ = some exampleEdit by decide +kernel) exampleUnstarted (by decide +kernel) rfl with
    ⟨hedits, -⟩ | ⟨reply, hreturned, hreported⟩
  · exact absurd hedits (by decide +kernel)
  · exact ⟨_, reply, hreturned, hreported⟩

end TunnelDeck
