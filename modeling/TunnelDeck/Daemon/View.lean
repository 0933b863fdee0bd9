import TunnelDeck.Concurrency.Pointwise
import TunnelDeck.Daemon.Thread

/-!
# What a section does to one rule

Every section of the daemon is read here through `State.view`, one rule at a time. The updates
under one id leave the view of every other id alone; the sections are put together from them, and
each gets one lemma that lists its outcomes. The invariants are derived from these lists and do
not look at the sections again.
-/

namespace TunnelDeck

open Json (Value)

/-! ## Updates under one id -/

namespace RuleView

/-- The view with its diagnostics changed by `f`. -/
def withInfo (v : RuleView) (f : RuntimeInfo → RuntimeInfo) : RuleView :=
  { v with info := some (f (v.info.getD {})) }

def stop (v : RuleView) : RuleView := { v with entry := none, info := none, stopped := True }

def clearFailed (v : RuleView) : RuleView :=
  { v with entry := if v.entry = some .failed then none else v.entry }

theorem clearFailed_of_idle {v : RuleView} (h : v.entry = none ∨ v.entry = some .failed) :
    v.clearFailed = { v with entry := none } := by
  rcases h with h | h <;> simp [clearFailed, h]

/-- The view after a manual start has taken back the stop. -/
def release (v : RuleView) (manual : Bool) : RuleView :=
  { v with stopped := v.stopped ∧ ¬ manual }

/-- The view after the failure of a launch that was still wanted. -/
def launchFailed (v : RuleView) (editOwned : Bool) (launch : Launch) (error : ProcessError)
    (now : ℕ) : RuleView :=
  let diagnostic := classifyDiagnostic error.toString
  let v := v.withInfo fun info ↦
    { info with activeSince := none, lastError := some ⟨diagnostic.kind, diagnostic.message⟩ }
  if launch.rule.reconnect && diagnostic.retryable && !editOwned then
    let delay := fullJitter (v.info.getD {}).retryAttempt (uuidEntropy launch.attemptId)
    { v.withInfo RuntimeInfo.retry with entry := some (.reconnecting (now + delay)) }
  else { v with entry := if editOwned then none else some .failed }

/-- The view after the success of a launch that was still wanted. -/
def launched (v : RuleView) (editOwned : Bool) (entry : Attempt) (now : ℕ) : RuleView :=
  { v.withInfo fun info ↦ { info with activeSince := some now, lastError := none } with
    entry := some entry
    stopped := v.stopped ∧ ¬ editOwned }

/-- The view after the attempt was found to have ended. -/
def exit (v : RuleView) (now : ℕ) (attemptId : Uuid) : RuleView :=
  let enabled := v.rule.any Rule.reconnect
  let v := v.withInfo fun info ↦
    { info with
      activeSince := none
      lastError := some ⟨.unknown, "the SSH connection ended unexpectedly"⟩ }
  if enabled then
    let delay := fullJitter (v.info.getD {}).retryAttempt (uuidEntropy attemptId)
    { v.withInfo RuntimeInfo.retry with entry := some (.reconnecting (now + delay)) }
  else { v with entry := some .failed }

/-- The view after an attempt was found to run still. -/
def reset (v : RuleView) (now : ℕ) : RuleView :=
  { v with
    info := v.info.map fun info ↦
      if info.activeSince.any fun since ↦ resetAfter ≤ now - since then
        { info with retryAttempt := 0 }
      else info }

/-- The view after `maintain` has looked at the rule. -/
def scan (v : RuleView) (exited : ℕ → Bool) (now : ℕ) : RuleView :=
  match v.entry with
  | some (.active attempt) =>
    if exited attempt.process then v.exit now attempt.attemptId else v.reset now
  | some (.reconnecting due) => if due ≤ now then { v with entry := none } else v
  | _ => v

section Lemmas

variable (v : RuleView)

@[simp] theorem launchFailed_rule (editOwned : Bool) (launch : Launch) (error : ProcessError)
    (now : ℕ) : (v.launchFailed editOwned launch error now).rule = v.rule := by
  simp only [launchFailed]
  split <;> rfl

@[simp] theorem launchFailed_stopped (editOwned : Bool) (launch : Launch) (error : ProcessError)
    (now : ℕ) : (v.launchFailed editOwned launch error now).stopped = v.stopped := by
  simp only [launchFailed]
  split <;> rfl

@[simp] theorem launchFailed_editing (editOwned : Bool) (launch : Launch) (error : ProcessError)
    (now : ℕ) : (v.launchFailed editOwned launch error now).editing = v.editing := by
  simp only [launchFailed]
  split <;> rfl

@[simp] theorem exit_rule (now : ℕ) (attemptId : Uuid) : (v.exit now attemptId).rule = v.rule := by
  simp only [exit]
  split <;> rfl

@[simp] theorem exit_stopped (now : ℕ) (attemptId : Uuid) :
    (v.exit now attemptId).stopped = v.stopped := by
  simp only [exit]
  split <;> rfl

@[simp] theorem exit_editing (now : ℕ) (attemptId : Uuid) :
    (v.exit now attemptId).editing = v.editing := by
  simp only [exit]
  split <;> rfl

theorem scan_flags (exited : ℕ → Bool) (now : ℕ) :
    (v.scan exited now).rule = v.rule ∧ (v.scan exited now).stopped = v.stopped ∧
      (v.scan exited now).editing = v.editing := by
  unfold scan
  split
  · split
    · exact ⟨exit_rule .., exit_stopped .., exit_editing ..⟩
    · exact ⟨rfl, rfl, rfl⟩
  · split <;> exact ⟨rfl, rfl, rfl⟩
  · exact ⟨rfl, rfl, rfl⟩

@[simp] theorem scan_rule (exited : ℕ → Bool) (now : ℕ) : (v.scan exited now).rule = v.rule :=
  (v.scan_flags exited now).1

@[simp] theorem scan_stopped (exited : ℕ → Bool) (now : ℕ) :
    (v.scan exited now).stopped = v.stopped :=
  (v.scan_flags exited now).2.1

@[simp] theorem scan_editing (exited : ℕ → Bool) (now : ℕ) :
    (v.scan exited now).editing = v.editing :=
  (v.scan_flags exited now).2.2

theorem launchFailed_entry (editOwned : Bool) (launch : Launch) (error : ProcessError) (now : ℕ) :
    (∃ due, (v.launchFailed editOwned launch error now).entry = some (.reconnecting due)) ∨
      (v.launchFailed editOwned launch error now).entry = some .failed ∨
      (editOwned = true ∧ (v.launchFailed editOwned launch error now).entry = none) := by
  simp only [launchFailed]
  split
  · exact Or.inl ⟨_, rfl⟩
  · cases editOwned
    · exact Or.inr (Or.inl rfl)
    · exact Or.inr (Or.inr ⟨rfl, rfl⟩)

theorem exit_entry (now : ℕ) (attemptId : Uuid) :
    (∃ due, (v.exit now attemptId).entry = some (.reconnecting due)) ∨
      (v.exit now attemptId).entry = some .failed := by
  simp only [exit]
  split
  · exact Or.inl ⟨_, rfl⟩
  · exact Or.inr rfl

theorem scan_entry (exited : ℕ → Bool) (now : ℕ) :
    (v.scan exited now).entry = v.entry ∨
      (∃ attempt, v.entry = some (.active attempt) ∧ exited attempt.process = true ∧
        v.scan exited now = v.exit now attempt.attemptId) ∨
      ∃ due, v.entry = some (.reconnecting due) ∧ due ≤ now ∧
        v.scan exited now = { v with entry := none } := by
  unfold scan
  split
  · rename_i attempt hentry
    split
    · rename_i hexited
      exact Or.inr (Or.inl ⟨attempt, hentry, hexited, rfl⟩)
    · exact Or.inl rfl
  · rename_i due hentry
    split
    · rename_i hdue
      exact Or.inr (Or.inr ⟨due, hentry, hdue, rfl⟩)
    · exact Or.inl rfl
  · exact Or.inl rfl

variable {v}

theorem scan_of_none {exited : ℕ → Bool} {now : ℕ} (h : v.entry = none) :
    v.scan exited now = v := by
  simp [scan, h]

end Lemmas

end RuleView

namespace State

variable (s : State) {i j : Uuid}

@[simp] theorem view_setEntry_self (i : Uuid) (a : Attempt) :
    (s.setEntry i a).view i = { s.view i with entry := some a } := by
  simp [view, setEntry]

@[simp] theorem view_setEntry_of_ne (h : j ≠ i) (a : Attempt) :
    (s.setEntry i a).view j = s.view j := by
  simp [view, setEntry, AList.lookup_insert_ne h]

@[simp] theorem view_removeEntry_self (i : Uuid) :
    (s.removeEntry i).view i = { s.view i with entry := none } := by
  simp [view, removeEntry]

@[simp] theorem view_removeEntry_of_ne (h : j ≠ i) : (s.removeEntry i).view j = s.view j := by
  simp [view, removeEntry, AList.lookup_erase_ne h]

@[simp] theorem view_updateInfo_self (i : Uuid) (f : RuntimeInfo → RuntimeInfo) :
    (s.updateInfo i f).view i = (s.view i).withInfo f := by
  simp [view, updateInfo, RuleView.withInfo]

@[simp] theorem view_updateInfo_of_ne (h : j ≠ i) (f : RuntimeInfo → RuntimeInfo) :
    (s.updateInfo i f).view j = s.view j := by
  simp [view, updateInfo, AList.lookup_insert_ne h]

@[simp] theorem view_removeInfo_self (i : Uuid) :
    (s.removeInfo i).view i = { s.view i with info := none } := by
  simp [view, removeInfo]

@[simp] theorem view_removeInfo_of_ne (h : j ≠ i) : (s.removeInfo i).view j = s.view j := by
  simp [view, removeInfo, AList.lookup_erase_ne h]

@[simp] theorem view_markStopped_self (i : Uuid) :
    (s.markStopped i).view i = { s.view i with stopped := True } := by
  simp [view, markStopped]

@[simp] theorem view_markStopped_of_ne (h : j ≠ i) : (s.markStopped i).view j = s.view j := by
  simp [view, markStopped, h]

@[simp] theorem view_unmarkStopped_self (i : Uuid) :
    (s.unmarkStopped i).view i = { s.view i with stopped := False } := by
  simp [view, unmarkStopped]

@[simp] theorem view_unmarkStopped_of_ne (h : j ≠ i) : (s.unmarkStopped i).view j = s.view j := by
  simp [view, unmarkStopped, h]

@[simp] theorem view_reserve_self (i : Uuid) :
    (s.reserve i).view i = { s.view i with editing := True } := by
  simp [view, reserve]

@[simp] theorem view_reserve_of_ne (h : j ≠ i) : (s.reserve i).view j = s.view j := by
  simp [view, reserve, h]

@[simp] theorem view_unreserve_self (i : Uuid) :
    (s.unreserve i).view i = { s.view i with editing := False } := by
  simp [view, unreserve]

@[simp] theorem view_unreserve_of_ne (h : j ≠ i) : (s.unreserve i).view j = s.view j := by
  simp [view, unreserve, h]

@[simp] theorem view_release_self (manual : Bool) (i : Uuid) :
    (s.release manual i).view i = (s.view i).release manual := by
  cases manual <;> simp [release, RuleView.release]

@[simp] theorem view_release_of_ne (h : j ≠ i) (manual : Bool) :
    (s.release manual i).view j = s.view j := by
  cases manual <;> simp [release, h]

@[simp] theorem view_clearFailed_self (i : Uuid) :
    (s.clearFailed i).view i = (s.view i).clearFailed := by
  by_cases hfailed : s.running.lookup i = some .failed
  · simp [clearFailed, RuleView.clearFailed, view, removeEntry, hfailed]
  · simp [clearFailed, RuleView.clearFailed, view, hfailed]

@[simp] theorem view_clearFailed_of_ne (h : j ≠ i) : (s.clearFailed i).view j = s.view j := by
  by_cases hfailed : s.running.lookup i = some .failed <;> simp [clearFailed, hfailed, h]

@[simp] theorem rules_release (manual : Bool) (i : Uuid) :
    (s.release manual i).rules = s.rules := by
  cases manual <;> rfl

@[simp] theorem running_release (manual : Bool) (i : Uuid) :
    (s.release manual i).running = s.running := by
  cases manual <;> rfl

theorem lookup_clearFailed (i : Uuid) : (s.clearFailed i).running.lookup i =
    if s.running.lookup i = some .failed then none else s.running.lookup i :=
  congrArg RuleView.entry (s.view_clearFailed_self i)

theorem clearFailed_of_ne {i : Uuid} (h : s.running.lookup i ≠ some .failed) :
    s.clearFailed i = s :=
  if_neg h

end State

variable {crates : Crates}

/-! ## Starts -/

/-- How the first section of a start can end, with the state it leaves. -/
inductive Entered (crates : Crates) (automatic editOwned : Bool) (payload : Value)
    (attemptId : Uuid) (bind : Option IoError) (s : State) : StartEntry → State → Prop
  | unresolved {failure : Failure} (hid : ruleId crates payload s = .error failure) :
    Entered crates automatic editOwned payload attemptId bind s (.refused failure) s
  | beingEdited {id : Uuid} (hid : ruleId crates payload s = .ok id)
      (hediting : id ∈ s.editing) (howned : editOwned = false) :
    Entered crates automatic editOwned payload attemptId bind s (.refused ruleBeingEdited) s
  | stopped {id : Uuid} (hid : ruleId crates payload s = .ok id)
      (hediting : id ∈ s.editing → editOwned = true) (hautomatic : automatic = true)
      (hstopped : id ∈ s.manuallyStopped) :
    Entered crates automatic editOwned payload attemptId bind s (.unchanged id false) s
  | missing {id : Uuid} {s' : State} (hid : ruleId crates payload s = .ok id)
      (hediting : id ∈ s.editing → editOwned = true)
      (hstopped : automatic = true → id ∉ s.manuallyStopped)
      (hrule : findRule s.rules id = none) (hs' : s' = s.release (!automatic && !editOwned) id) :
    Entered crates automatic editOwned payload attemptId bind s (.refused ruleNotFound) s'
  | running {id : Uuid} {s' : State} {rule : Rule} {entry : Attempt}
      (hid : ruleId crates payload s = .ok id) (hediting : id ∈ s.editing → editOwned = true)
      (hstopped : automatic = true → id ∉ s.manuallyStopped)
      (hrule : findRule s.rules id = some rule) (hentry : s.running.lookup id = some entry)
      (hfailed : entry ≠ .failed) (hs' : s' = s.release (!automatic && !editOwned) id) :
    Entered crates automatic editOwned payload attemptId bind s (.unchanged id true) s'
  | refused {id : Uuid} {s' : State} {rule : Rule} {failure : Failure}
      (hid : ruleId crates payload s = .ok id) (hediting : id ∈ s.editing → editOwned = true)
      (hstopped : automatic = true → id ∉ s.manuallyStopped)
      (hrule : findRule s.rules id = some rule)
      (hentry : s.running.lookup id = none ∨ s.running.lookup id = some .failed)
      (hport : checkLocalPort bind rule = .error failure)
      (hs' : s' = (s.release (!automatic && !editOwned) id).clearFailed id) :
    Entered crates automatic editOwned payload attemptId bind s (.refused failure) s'
  | launch {id : Uuid} {s' : State} {rule : Rule}
      (hid : ruleId crates payload s = .ok id) (hediting : id ∈ s.editing → editOwned = true)
      (hstopped : automatic = true → id ∉ s.manuallyStopped)
      (hrule : findRule s.rules id = some rule)
      (hentry : s.running.lookup id = none ∨ s.running.lookup id = some .failed)
      (hport : checkLocalPort bind rule = .ok ())
      (hs' : s' = ((s.release (!automatic && !editOwned) id).clearFailed id).setEntry id
        (.starting attemptId)) :
    Entered crates automatic editOwned payload attemptId bind s (.launch ⟨id, rule, attemptId⟩) s'

theorem startEnter_entered (crates : Crates) (automatic editOwned : Bool) (payload : Value)
    (attemptId : Uuid) (bind : Option IoError) (s : State) :
    Entered crates automatic editOwned payload attemptId bind s
      (startEnter crates automatic editOwned payload attemptId bind s).1
      (startEnter crates automatic editOwned payload attemptId bind s).2 := by
  unfold startEnter
  split
  · rename_i hid
    exact .unresolved hid
  · rename_i id hid
    split
    · rename_i h
      exact .beingEdited hid h.1 (by simpa using h.2)
    · rename_i hediting
      have hediting : id ∈ s.editing → editOwned = true := by simpa using hediting
      split
      · rename_i h
        exact .stopped hid hediting h.1 h.2
      · rename_i hstopped
        have hstopped : automatic = true → id ∉ s.manuallyStopped := fun ha hs ↦ hstopped ⟨ha, hs⟩
        simp only [State.rules_release]
        split
        · rename_i hrule
          exact .missing hid hediting hstopped hrule rfl
        · rename_i rule hrule
          have hlookup : (((s.release (!automatic && !editOwned) id).clearFailed id).running.lookup
              id) = if s.running.lookup id = some .failed then none else s.running.lookup id := by
            rw [State.lookup_clearFailed, State.running_release]
          rw [hlookup]
          by_cases hfailed : s.running.lookup id = some .failed
          · rw [if_pos hfailed]
            simp only [Option.isSome_none, Bool.false_eq_true, if_false]
            split
            · rename_i hport
              exact .refused hid hediting hstopped hrule (Or.inr hfailed) hport rfl
            · rename_i hport
              exact .launch hid hediting hstopped hrule (Or.inr hfailed) hport rfl
          · rw [if_neg hfailed]
            split
            · rename_i hsome
              obtain ⟨entry, hentry⟩ := Option.isSome_iff_exists.mp hsome
              exact .running hid hediting hstopped hrule hentry
                (fun h ↦ hfailed (hentry.trans (congrArg some h)))
                (State.clearFailed_of_ne _ (by rwa [State.running_release]))
            · rename_i hnone
              have hentry : s.running.lookup id = none := by simpa using hnone
              split
              · rename_i hport
                exact .refused hid hediting hstopped hrule (Or.inl hentry) hport rfl
              · rename_i hport
                exact .launch hid hediting hstopped hrule (Or.inl hentry) hport rfl

theorem startFailed_of_not_current {editOwned : Bool} {launch : Launch} {error : ProcessError}
    {now : ℕ} {s : State} (h : ¬ launch.current s) :
    startFailed editOwned launch error now s = (none, s) := by
  simp [startFailed, h]

theorem startFailed_of_current {launch : Launch} {s : State} (h : launch.current s)
    (editOwned : Bool) (error : ProcessError) (now : ℕ) :
    (startFailed editOwned launch error now s).1 =
        some (launch.rule.reconnect && (classifyDiagnostic error.toString).retryable &&
          !editOwned) ∧
      (startFailed editOwned launch error now s).2.view launch.id =
        (s.view launch.id).launchFailed editOwned launch error now ∧
      ∀ j ≠ launch.id, (startFailed editOwned launch error now s).2.view j = s.view j := by
  have hinfo : ∀ f, ((s.updateInfo launch.id f).diagnostics.lookup launch.id) =
      ((s.view launch.id).withInfo f).info :=
    fun f ↦ congrArg RuleView.info (s.view_updateInfo_self launch.id f)
  rw [startFailed, if_pos h]
  by_cases hreconnect : (launch.rule.reconnect && (classifyDiagnostic error.toString).retryable &&
      !editOwned) = true
  · simp only [hreconnect, if_true]
    refine ⟨trivial, ?_, fun j hj ↦ by simp [hj]⟩
    simp only [RuleView.launchFailed, hreconnect, if_true, State.view_setEntry_self,
      State.view_updateInfo_self, hinfo]
  · simp only [hreconnect, Bool.false_eq_true, if_false]
    cases editOwned
    · refine ⟨rfl, ?_, fun j hj ↦ by simp [hj]⟩
      simp only [RuleView.launchFailed, hreconnect, Bool.false_eq_true, if_false,
        State.view_setEntry_self, State.view_updateInfo_self]
    · refine ⟨rfl, ?_, fun j hj ↦ by simp [hj]⟩
      simp only [RuleView.launchFailed, hreconnect, Bool.false_eq_true, if_false, if_true,
        State.view_removeEntry_self, State.view_updateInfo_self]

theorem startFinish_of_not_current {editOwned : Bool} {launch : Launch}
    {attempt : Option ManagedAttempt} {now : ℕ} {s : State} (h : ¬ launch.current s) :
    startFinish editOwned launch attempt now s = (false, s) := by
  simp [startFinish, h]

/-- The entry that a successful launch stores. Without processes it stays the marker. -/
def Launch.entry (launch : Launch) : Option ManagedAttempt → Attempt
  | some attempt => .active attempt
  | none => .starting launch.attemptId

theorem startFinish_of_current {launch : Launch} {s : State} (h : launch.current s)
    (editOwned : Bool) (attempt : Option ManagedAttempt) (now : ℕ) :
    (startFinish editOwned launch attempt now s).1 = true ∧
      (startFinish editOwned launch attempt now s).2.view launch.id =
        (s.view launch.id).launched editOwned (launch.entry attempt) now ∧
      ∀ j ≠ launch.id, (startFinish editOwned launch attempt now s).2.view j = s.view j := by
  rw [startFinish.eq_def, if_pos h]
  cases editOwned
  · refine ⟨rfl, ?_, fun j hj ↦ by simp [hj]⟩
    cases attempt <;>
      simp [RuleView.launched, RuleView.withInfo, Launch.entry]
  · refine ⟨rfl, ?_, fun j hj ↦ by simp [hj]⟩
    cases attempt <;>
      simp [RuleView.launched, RuleView.withInfo, Launch.entry]

/-! ## Stops and edits -/

/-- A stop is refused and changes nothing, or it takes the entry of its rule. -/
theorem stopEnter_spec {payload : Value} {s s' : State}
    {result : Except Failure (Uuid × Option Attempt)}
    (h : stopEnter crates payload s = (result, s')) :
    (∃ failure, result = .error failure ∧ s' = s) ∨
      ∃ id, ruleId crates payload s = .ok id ∧ id ∉ s.editing ∧
        (findRule s.rules id).isSome = true ∧ result = .ok (id, s.running.lookup id) ∧
        s' = ((s.markStopped id).removeInfo id).removeEntry id := by
  unfold stopEnter at h
  split at h
  · cases h
    exact Or.inl ⟨_, rfl, rfl⟩
  · rename_i id hid
    split at h
    · cases h
      exact Or.inl ⟨_, rfl, rfl⟩
    · rename_i hediting
      split at h
      · cases h
        exact Or.inl ⟨_, rfl, rfl⟩
      · rename_i hrule
        cases h
        refine Or.inr ⟨id, hid, hediting, ?_, rfl, rfl⟩
        rw [findRule, List.find?_isSome]
        simpa using hrule

theorem view_stopped (s : State) (id : Uuid) :
    (((s.markStopped id).removeInfo id).removeEntry id).view id = (s.view id).stop := by
  simp [RuleView.stop]

theorem view_stopped_of_ne (s : State) {id j : Uuid} (h : j ≠ id) :
    (((s.markStopped id).removeInfo id).removeEntry id).view j = s.view j := by
  simp [h]

theorem editReserve_spec {edit : Edit} {s s' : State} {result : Except Failure (Option Attempt)}
    (h : editReserve crates edit s = (result, s')) :
    (∃ failure, result = .error failure ∧ s' = s) ∨
      ∃ attempt, findRule s.rules edit.id = some edit.expected ∧ edit.id ∉ s.editing ∧
        s.running.lookup edit.id = some (.active attempt) ∧
        result = .ok (some (.active attempt)) ∧
        s' = (((s.reserve edit.id).markStopped edit.id).removeInfo edit.id).removeEntry
          edit.id := by
  unfold editReserve at h
  split at h
  · cases h
    exact Or.inl ⟨_, rfl, rfl⟩
  · rename_i current hcurrent
    split at h
    · cases h
      exact Or.inl ⟨_, rfl, rfl⟩
    · rename_i hexpected
      obtain ⟨hsame, hediting⟩ := not_or.mp hexpected
      split at h
      · cases h
        exact Or.inl ⟨_, rfl, rfl⟩
      · rename_i hactive
        split at h
        · cases h
          exact Or.inl ⟨_, rfl, rfl⟩
        · cases h
          have hany : (s.running.lookup edit.id).any Attempt.isActive = true := by
            simpa using hactive
          rcases hentry : s.running.lookup edit.id with _ | entry
          · rw [hentry] at hany
            cases hany
          · rw [hentry] at hany
            cases entry with
            | active attempt =>
              exact Or.inr ⟨attempt, hcurrent.trans (congrArg some (not_not.mp hsame)), hediting,
                rfl, rfl, rfl⟩
            | starting _ | reconnecting _ | failed => cases hany

def RuleView.reserve (v : RuleView) : RuleView := { v.stop with editing := True }

theorem view_reserved (s : State) (id : Uuid) :
    ((((s.reserve id).markStopped id).removeInfo id).removeEntry id).view id =
      (s.view id).reserve := by
  simp [RuleView.reserve, RuleView.stop]

theorem view_reserved_of_ne (s : State) {id j : Uuid} (h : j ≠ id) :
    ((((s.reserve id).markStopped id).removeInfo id).removeEntry id).view j = s.view j := by
  simp [h]

/-- The view after the failure of an edit to stop the attempt. -/
def RuleView.stopFailed (v : RuleView) : RuleView :=
  { v.withInfo fun info ↦
      { info with lastError := some ⟨.unknown, "stop failed; forwarding state uncertain"⟩ } with
    entry := some .failed }

theorem view_editStopFailed (edit : Edit) (s : State) :
    (editStopFailed edit s).view edit.id = (s.view edit.id).stopFailed := by
  simp [editStopFailed, RuleView.stopFailed, RuleView.withInfo]

theorem view_editStopFailed_of_ne (edit : Edit) (s : State) {j : Uuid} (h : j ≠ edit.id) :
    (editStopFailed edit s).view j = s.view j := by
  simp [editStopFailed, h]

/-! ## Maintenance -/

theorem pointwise_resetRetries (now : ℕ) :
    Concurrency.Pointwise State.view (resetRetries now) (RuleView.reset · now) := by
  intro s k j
  unfold resetRetries
  by_cases hj : j = k
  · subst hj
    rw [if_pos rfl]
    cases hlookup : s.diagnostics.lookup j with
    | none => simp [RuleView.reset, State.view, hlookup]
    | some info =>
      by_cases hsince : info.activeSince.any fun since ↦ resetAfter ≤ now - since
      · simp [RuleView.reset, State.view, State.updateInfo, hlookup, hsince]
      · simp [RuleView.reset, State.view, hlookup, hsince]
  · rw [if_neg hj]
    split
    · rfl
    · split
      · exact s.view_updateInfo_of_ne hj _
      · rfl

/-- The UUID from which the delay after the end of an entry is computed. -/
def RuleView.failedAttempt (v : RuleView) (fresh : Uuid) : Uuid :=
  match v.entry with
  | some (.active attempt) => attempt.attemptId
  | _ => fresh

theorem pointwise_recordExit (now : ℕ) (fresh : Uuid) :
    Concurrency.Pointwise State.view (recordExit now fresh)
      fun v ↦ v.exit now (v.failedAttempt fresh) := by
  intro s k j
  have hinfo : ∀ f, ((s.updateInfo k f).diagnostics.lookup k) = ((s.view k).withInfo f).info :=
    fun f ↦ congrArg RuleView.info (s.view_updateInfo_self k f)
  have hrule : reconnectEnabled s.rules k = (s.view k).rule.any Rule.reconnect := rfl
  by_cases hj : j = k
  · subst hj
    rw [if_pos rfl]
    by_cases henabled : (s.view j).rule.any Rule.reconnect = true
    · simp only [recordExit, hrule, RuleView.exit, henabled, if_true, State.view_setEntry_self,
        State.view_updateInfo_self, hinfo]
      rfl
    · simp only [recordExit, hrule, RuleView.exit, henabled, Bool.false_eq_true, if_false,
        State.view_setEntry_self, State.view_updateInfo_self]
  · rw [if_neg hj]
    by_cases henabled : reconnectEnabled s.rules k = true <;>
      simp [recordExit, henabled, hj]

theorem pointwise_takeRetry :
    Concurrency.Pointwise State.view takeRetry fun v ↦ { v with entry := none } := by
  intro s k j
  by_cases h : j = k
  · subst h
    simp [takeRetry]
  · simp [takeRetry, h]

theorem nodup_iterationOrder (order : List Uuid) (running : AList fun _ : Uuid ↦ Attempt) :
    (iterationOrder order running).Nodup := by
  unfold iterationOrder
  split
  · rename_i h
    exact h.nodup_iff.mpr running.keys_nodup
  · exact running.keys_nodup

theorem mem_iterationOrder {order : List Uuid} {running : AList fun _ : Uuid ↦ Attempt}
    {id : Uuid} : id ∈ iterationOrder order running ↔ (running.lookup id).isSome = true := by
  have hkeys : id ∈ running.keys ↔ (running.lookup id).isSome = true := by
    rw [AList.lookup_isSome, AList.mem_keys]
  unfold iterationOrder
  split
  · rename_i h
    rw [h.mem_iff, hkeys]
  · exact hkeys

theorem mem_filter_iterationOrder {order : List Uuid} {s : State} {kind : Attempt → Bool}
    {id : Uuid} :
    id ∈ (iterationOrder order s.running).filter
        (fun id ↦ (s.running.lookup id).any kind) ↔
      ∃ entry, (s.view id).entry = some entry ∧ kind entry = true := by
  rw [List.mem_filter, mem_iterationOrder]
  simp only [State.view]
  cases s.running.lookup id <;> simp

/-- **What `maintain` does to a rule.** -/
theorem view_maintainScan (order : List Uuid) (exited : ℕ → Bool) (now : ℕ) (fresh : Uuid)
    (s : State) (id : Uuid) :
    (maintainScan order exited now fresh s).2.view id = (s.view id).scan exited now := by
  have hnodup := nodup_iterationOrder order s.running
  simp only [maintainScan]
  rw [pointwise_takeRetry.foldl (hnodup.filter _), (pointwise_recordExit now fresh).foldl
    (hnodup.filter _), (pointwise_resetRetries now).foldl (hnodup.filter _)]
  simp only [mem_filter_iterationOrder, RuleView.scan]
  rcases hentry : (s.view id).entry with _ | entry
  · simp
  · cases entry with
    | active attempt =>
      cases hexited : exited attempt.process <;>
        simp [Attempt.stillRuns, Attempt.hasExited, Attempt.isDue, hexited, RuleView.failedAttempt,
          hentry]
    | reconnecting due =>
      simp [Attempt.stillRuns, Attempt.hasExited, Attempt.isDue]
    | starting attemptId => simp [Attempt.stillRuns, Attempt.hasExited, Attempt.isDue]
    | failed => simp [Attempt.stillRuns, Attempt.hasExited, Attempt.isDue]

end TunnelDeck
