import TunnelDeck.Application.Forwards
import TunnelDeck.Combinatorics.Screening

/-!
# The preview screens the directives

The loop of the preview is a screening of the forwardings it reads: a candidate is supported when
its forwarding is new, no existing rule blocks it and it is in conflict with no supported candidate
before it. Hence no two supported candidates forward the same or are in conflict, and none of them
is blocked, `PreviewScan.sound_ofText`.
-/

namespace TunnelDeck

open Screening (Screen Admits)

/-- An existing rule matches the forwarding or is in conflict with it. -/
def blockedBy (sshHostAlias : String) (existing : List Rule) (forwarding : ImportForwarding) :
    Bool :=
  existing.any fun rule ↦
    (rule.sshHostAlias.asStr = sshHostAlias && forwardingMatchesRule forwarding rule) ||
      forwardingConflictsRule sshHostAlias forwarding rule

theorem blockedBy_eq_false_iff {sshHostAlias : String} {existing : List Rule}
    {forwarding : ImportForwarding} :
    blockedBy sshHostAlias existing forwarding = false ↔
      ((existing.filter fun rule ↦ rule.sshHostAlias.asStr = sshHostAlias).find?
        (forwardingMatchesRule forwarding) = none) ∧
      existing.find? (forwardingConflictsRule sshHostAlias forwarding) = none := by
  simp only [blockedBy, List.any_eq_false, List.find?_eq_none, List.mem_filter]
  grind

/-- The forwarding that a line gives, if there is one. -/
def lineForwarding (localDefaultBind : String) (line : List Char) : Option ImportForwarding :=
  match directive localDefaultBind line with
  | some (_, .ok forwarding) => some forwarding
  | _ => none

/-- The forwarding of a supported candidate. -/
def ImportCandidate.offer (candidate : ImportCandidate) : Option ImportForwarding :=
  if candidate.classification = .supported then candidate.forwarding else none

theorem ImportCandidate.offer_of_supported {candidate : ImportCandidate}
    (h : candidate.classification = .supported) : candidate.offer = candidate.forwarding :=
  if_pos h

theorem ImportCandidate.offer_of_ne {candidate : ImportCandidate}
    (h : candidate.classification ≠ .supported) : candidate.offer = none :=
  if_neg h

/-- A supported candidate has a valid forwarding of its kind. -/
def ImportCandidate.Valid (candidate : ImportCandidate) : Prop :=
  candidate.classification = .supported →
    ∃ f, (ImportForwarding.ofForwarding f).kind = candidate.kind ∧
      candidate.forwarding = some (ImportForwarding.ofForwarding f)

namespace PreviewScan

def screen (scan : PreviewScan) : Screen ImportForwarding :=
  ⟨scan.seen.keys.toFinset, scan.accepted⟩

section

variable {sshHostAlias : String} {existing : List Rule} {running : Finset Uuid}

variable (running) in
/-- **What is supported.** A candidate is supported when the screen admits its forwarding. -/
theorem classify_eq_supported_iff (scan : PreviewScan) (forwarding : ImportForwarding) :
    classify sshHostAlias forwarding scan.seen scan.accepted existing running = .supported ↔
      Admits forwardsConflict (blockedBy sshHostAlias existing) scan.screen forwarding := by
  have hseen : forwarding ∉ scan.screen.seen ↔ scan.seen.lookup forwarding = none := by
    rw [screen, List.mem_toFinset, ← AList.mem_keys, AList.lookup_eq_none]
  rw [Admits, hseen, blockedBy_eq_false_iff, classify]
  cases hlookup : scan.seen.lookup forwarding with
  | some firstIndex => simp
  | none =>
    simp only [true_and]
    split
    · rename_i rule hrule
      simp [hrule]
    · rename_i hmatch
      split
      · rename_i hany
        obtain ⟨other, hmem, hconflict⟩ := List.any_eq_true.mp hany
        refine iff_of_false (fun h ↦ nomatch h) fun h ↦ ?_
        exact absurd hconflict (by simp [h.2 other hmem])
      · rename_i hany
        have hclear : ∀ other ∈ scan.accepted, forwardsConflict forwarding other = false := by
          simpa using hany
        split
        · rename_i rule hrule
          simp [hrule]
        · rename_i hconflict
          exact iff_of_true rfl ⟨⟨hmatch, hconflict⟩, hclear⟩

variable (running) in
theorem screen_push_error (scan : PreviewScan) (kind : DirectiveKind) (failure : ParseFailure) :
    (scan.push sshHostAlias existing running kind (.error failure)).screen = scan.screen := by
  cases failure <;> rfl

variable (running) in
theorem screen_push_ok (scan : PreviewScan) (kind : DirectiveKind)
    (forwarding : ImportForwarding) :
    (scan.push sshHostAlias existing running kind (.ok forwarding)).screen =
      Screening.next forwardsConflict (blockedBy sshHostAlias existing) scan.screen
        forwarding := by
  have hseen : (if forwarding ∈ scan.seen then scan.seen
      else scan.seen.insert forwarding scan.candidates.length).keys.toFinset =
        insert forwarding scan.seen.keys.toFinset := by
    split
    · rename_i hmem
      rw [Finset.insert_eq_of_mem (List.mem_toFinset.mpr (AList.mem_keys.mp hmem))]
    · rename_i hmem
      rw [AList.keys_insert, List.erase_of_not_mem fun h ↦ hmem (AList.mem_keys.mpr h),
        List.toFinset_cons]
  simp only [push, screen, Screening.next, hseen]
  congr 1
  exact if_congr (classify_eq_supported_iff running scan forwarding) rfl rfl

theorem screen_line (localDefaultBind : String) (scan : PreviewScan) (l : List Char) :
    (line sshHostAlias existing running localDefaultBind scan l).screen =
      Screening.run forwardsConflict (blockedBy sshHostAlias existing) scan.screen
        (lineForwarding localDefaultBind l).toList := by
  rw [line, lineForwarding]
  cases directive localDefaultBind l with
  | none => rfl
  | some read =>
    obtain ⟨kind, parsed⟩ := read
    cases parsed with
    | error failure => exact screen_push_error running scan kind failure
    | ok forwarding => exact screen_push_ok running scan kind forwarding

variable (sshHostAlias existing running) in
/-- **The preview screens the forwardings of its lines.** -/
theorem screen_lines (localDefaultBind : String) (scan : PreviewScan) (ls : List (List Char)) :
    (ls.foldl (line sshHostAlias existing running localDefaultBind) scan).screen =
      Screening.run forwardsConflict (blockedBy sshHostAlias existing) scan.screen
        (ls.filterMap (lineForwarding localDefaultBind)) := by
  induction ls generalizing scan with
  | nil => rfl
  | cons l ls ih =>
    rw [List.foldl_cons, ih, screen_line]
    cases h : lineForwarding localDefaultBind l with
    | none => rw [List.filterMap_cons_none h]; rfl
    | some forwarding => rw [List.filterMap_cons_some h]; rfl

variable (sshHostAlias existing running) in
theorem accepted_lines (localDefaultBind : String) (scan : PreviewScan) (ls : List (List Char)) :
    (ls.foldl (line sshHostAlias existing running localDefaultBind) scan).accepted =
      (Screening.run forwardsConflict (blockedBy sshHostAlias existing) scan.screen
        (ls.filterMap (lineForwarding localDefaultBind))).accepted :=
  congrArg Screen.accepted (screen_lines sshHostAlias existing running localDefaultBind scan ls)

/-! ## The candidates -/

/-- What holds of the candidates and of the screen behind them. -/
structure Sound (sshHostAlias : String) (existing : List Rule) (scan : PreviewScan) : Prop where
  screened : Screening.Sound forwardsConflict (blockedBy sshHostAlias existing) scan.screen
  offers : scan.candidates.filterMap ImportCandidate.offer = scan.accepted
  valid : ∀ candidate ∈ scan.candidates, candidate.Valid

theorem Sound.empty : Sound sshHostAlias existing PreviewScan.empty where
  screened := Screening.Sound.empty
  offers := rfl
  valid := fun _ h ↦ nomatch h

theorem Sound.append {scan : PreviewScan} (h : Sound sshHostAlias existing scan)
    {candidate : ImportCandidate} (hne : candidate.classification ≠ .supported) :
    Sound sshHostAlias existing { scan with candidates := scan.candidates ++ [candidate] } where
  screened := h.screened
  offers := by
    rw [List.filterMap_append, h.offers, List.filterMap_cons_none (ImportCandidate.offer_of_ne hne),
      List.filterMap_nil, List.append_nil]
  valid := by
    intro c hc
    rcases List.mem_append.mp hc with hc | hc
    · exact h.valid c hc
    · rw [List.mem_singleton.mp hc]
      exact fun hsupported ↦ absurd hsupported hne

theorem Sound.push {scan : PreviewScan} (h : Sound sshHostAlias existing scan)
    {kind : DirectiveKind} {parsed : Except ParseFailure ImportForwarding}
    (hparsed : ∀ forwarding, parsed = .ok forwarding →
      forwarding.kind = kind ∧ ∃ f, ImportForwarding.ofForwarding f = forwarding) :
    Sound sshHostAlias existing (scan.push sshHostAlias existing running kind parsed) := by
  cases parsed with
  | error failure =>
    cases failure with
    | unsupported reason => exact h.append fun heq ↦ nomatch heq
    | invalid reason => exact h.append fun heq ↦ nomatch heq
  | ok forwarding =>
    obtain ⟨hkind, f, hf⟩ := hparsed forwarding rfl
    refine ⟨?_, ?_, ?_⟩
    · rw [screen_push_ok]
      exact h.screened.next forwarding
    · simp only [PreviewScan.push, List.filterMap_append, h.offers]
      split
      · rename_i hsupported
        rw [List.filterMap_cons_some (ImportCandidate.offer_of_supported hsupported),
          List.filterMap_nil]
      · rename_i hsupported
        rw [List.filterMap_cons_none (ImportCandidate.offer_of_ne hsupported),
          List.filterMap_nil, List.append_nil]
    · intro c hc
      rcases List.mem_append.mp hc with hc | hc
      · exact h.valid c hc
      · rw [List.mem_singleton.mp hc]
        exact fun _ ↦ ⟨f, hf ▸ hkind, congrArg some hf.symm⟩

theorem Sound.line {scan : PreviewScan} (h : Sound sshHostAlias existing scan)
    {localDefaultBind : String} (hdefault : checkBindAddress localDefaultBind = .ok ())
    (l : List Char) :
    Sound sshHostAlias existing
      (PreviewScan.line sshHostAlias existing running localDefaultBind scan l) := by
  rw [PreviewScan.line]
  split
  · exact h
  · rename_i kind parsed hdirective
    refine h.push fun forwarding hparsed ↦ ?_
    obtain ⟨value, hvalue⟩ := directive_eq_some hdirective
    exact parseForward_valid hdefault (hvalue.symm.trans hparsed)

theorem Sound.lines {scan : PreviewScan} (h : Sound sshHostAlias existing scan)
    {localDefaultBind : String} (hdefault : checkBindAddress localDefaultBind = .ok ())
    (ls : List (List Char)) :
    Sound sshHostAlias existing
      (ls.foldl (PreviewScan.line sshHostAlias existing running localDefaultBind) scan) := by
  induction ls generalizing scan with
  | nil => exact h
  | cons l ls ih => exact ih (h.line hdefault l)

variable (sshHostAlias existing running) in
theorem length_candidates_le (localDefaultBind : String) (scan : PreviewScan)
    (ls : List (List Char)) :
    (ls.foldl (PreviewScan.line sshHostAlias existing running localDefaultBind)
      scan).candidates.length ≤ scan.candidates.length + ls.length := by
  have hpush (scan : PreviewScan) (kind : DirectiveKind)
      (parsed : Except ParseFailure ImportForwarding) :
      (scan.push sshHostAlias existing running kind parsed).candidates.length =
        scan.candidates.length + 1 := by
    cases parsed with
    | error failure => cases failure <;> exact List.length_append
    | ok forwarding => exact List.length_append
  induction ls generalizing scan with
  | nil => exact Nat.le_refl _
  | cons l ls ih =>
    have hrest := ih (PreviewScan.line sshHostAlias existing running localDefaultBind scan l)
    have hline : (PreviewScan.line sshHostAlias existing running localDefaultBind scan
        l).candidates.length ≤ scan.candidates.length + 1 := by
      rw [PreviewScan.line]
      split
      · exact Nat.le_succ _
      · rw [hpush]
    rw [List.foldl_cons, List.length_cons]
    omega

end

/-- **What the loop ends with.** -/
theorem sound_ofText (sshHostAlias : String) (existing : List Rule) (running : Finset Uuid)
    (text : String) : Sound sshHostAlias existing (ofText sshHostAlias existing running text) :=
  Sound.empty.lines (effectiveLocalDefaultBind_valid _) _

end PreviewScan

/-! ## The preview -/

section

variable {sshHostAlias : String} {output : ByteArray} {existing : List Rule}
  {runningRuleIds : List Uuid} {preview : ImportPreview}

theorem previewEffectiveForwards_eq_ok_iff :
    previewEffectiveForwards sshHostAlias output existing runningRuleIds = .ok preview ↔
      checkHostAlias sshHostAlias = .ok () ∧ ∃ text, String.fromUTF8? output = some text ∧
        preview = ⟨sshHostAlias,
          (PreviewScan.ofText sshHostAlias existing runningRuleIds.toFinset text).candidates⟩ := by
  rw [previewEffectiveForwards]
  cases checkHostAlias sshHostAlias with
  | error e => simp
  | ok _ =>
    cases String.fromUTF8? output with
    | none => simp
    | some text => simp [eq_comm]

/-- What holds of a preview against the rules it was made for. -/
structure ImportPreview.Sound (existing : List Rule) (preview : ImportPreview) : Prop where
  host : checkHostAlias preview.sshHostAlias = .ok ()
  valid : ∀ candidate ∈ preview.candidates, candidate.Valid
  free : ∀ candidate ∈ preview.candidates, ∀ forwarding ∈ candidate.offer,
    blockedBy preview.sshHostAlias existing forwarding = false
  apart : preview.candidates.Pairwise fun earlier candidate ↦
    ∀ other ∈ earlier.offer, ∀ forwarding ∈ candidate.offer,
      other ≠ forwarding ∧ forwardsConflict forwarding other = false

theorem ImportPreview.sound
    (h : previewEffectiveForwards sshHostAlias output existing runningRuleIds = .ok preview) :
    preview.Sound existing := by
  obtain ⟨hhost, text, -, rfl⟩ := previewEffectiveForwards_eq_ok_iff.mp h
  have hsound := PreviewScan.sound_ofText sshHostAlias existing runningRuleIds.toFinset text
  refine ⟨hhost, hsound.valid, fun c hc f hf ↦ ?_, ?_⟩
  · refine hsound.screened.free f ?_
    rw [PreviewScan.screen, ← hsound.offers]
    exact List.mem_filterMap.mpr ⟨c, hc, hf⟩
  · have hapart := hsound.screened.apart
    rw [PreviewScan.screen, ← hsound.offers] at hapart
    exact List.pairwise_filterMap.mp hapart

theorem ImportPreview.length_candidates_le
    (h : previewEffectiveForwards sshHostAlias output existing runningRuleIds = .ok preview) :
    preview.candidates.length ≤ output.size := by
  obtain ⟨-, text, htext, rfl⟩ := previewEffectiveForwards_eq_ok_iff.mp h
  have hlines := PreviewScan.length_candidates_le sshHostAlias existing runningRuleIds.toFinset
    (effectiveLocalDefaultBind text.toList) PreviewScan.empty (Text.lines text.toList)
  have hbytes := Text.length_lines_le_size text
  have houtput : text.toByteArray = output := by
    rw [String.fromUTF8?] at htext
    split at htext
    · cases htext
      rfl
    · nomatch htext
  rw [houtput] at hbytes
  exact Nat.le_trans hlines (by rw [PreviewScan.empty, List.length_nil]; omega)

end

end TunnelDeck
