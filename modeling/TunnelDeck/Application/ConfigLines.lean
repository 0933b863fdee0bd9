import TunnelDeck.Text.Lines

/-!
# The lines of an OpenSSH configuration

Host discovery joins the lines of a file that end in a backslash with the ones behind them, and cuts
what it gets into words. A comment is only known as one when the words are cut, so a comment line
that ends in a backslash has taken in the lines behind it by then.

## Main result

`configWords_comment_iff` says exactly which comment lines can be deleted. Where no continuation is
open, a comment matters only through the lines that it takes in, so it is inert when it does not end
in a backslash or when these lines hold no words. The other case is rare: a line ends in several
backslashes, and empty lines behind it, which do not end in a backslash, keep the continuation open.
There it depends on the pending text whether the number sign begins a comment at all: it does unless
a quote is open in it or it ends in an escape.
-/

namespace TunnelDeck

/-! ## The two passes -/

/-- The logical lines of the lines that follow what is `current`. -/
def logicalLinesFrom (current : List Char) : List (List Char) → List (List Char)
  | [] => if current = [] then [] else [current]
  | line :: rest =>
    if (current ++ line).getLast? = some '\\' then
      logicalLinesFrom (current ++ line).dropLast rest
    else (current ++ line) :: logicalLinesFrom [] rest

/-- `logical_lines`. -/
def logicalLines (text : List Char) : List (List Char) := logicalLinesFrom [] (Text.lines text)

/-- The words at the end of a line. -/
def finishWords (words : List (List Char)) (word : List Char) : List (List Char) :=
  if word = [] then words else words ++ [word]

/-- The loop of `split_words`, with its variables. A backslash at the end stands for itself. -/
def splitWordsFrom (words : List (List Char)) (word : List Char) (quote : Option Char)
    (escaped : Bool) : List Char → List (List Char)
  | [] => finishWords words (if escaped then word ++ ['\\'] else word)
  | c :: cs =>
    if escaped then splitWordsFrom words (word ++ [c]) quote false cs
    else if c = '\\' then splitWordsFrom words word quote true cs
    else if quote = some c then splitWordsFrom words word none false cs
    else if quote = none ∧ (c = '\x27' ∨ c = '"') then splitWordsFrom words word (some c) false cs
    else if quote = none ∧ c = '#' then finishWords words word
    else if quote = none ∧ (Text.isWhitespace c ∨ c = '=') then
      splitWordsFrom (finishWords words word) [] quote false cs
    else splitWordsFrom words (word ++ [c]) quote false cs

/-- `split_words`. -/
def splitWords (line : List Char) : List (List Char) := splitWordsFrom [] [] none false line

/-- The word lists of some logical lines, the empty ones left out. -/
def wordLists (lines : List (List Char)) : List (List (List Char)) :=
  (lines.map splitWords).filter fun words ↦ words ≠ []

/-- The word lists of a text, which host discovery goes through. -/
def configWords (text : List Char) : List (List (List Char)) := wordLists (logicalLines text)

example : configWords "Host first \\\n second\nInclude=\"conf.d/*.conf\" # ignored".toList =
    [["Host".toList, "first".toList, "second".toList],
      ["Include".toList, "conf.d/*.conf".toList]] := by decide

/-! ## Words -/

theorem splitWords_comment (cs : List Char) : splitWords ('#' :: cs) = [] := by
  simp [splitWords, splitWordsFrom, finishWords]

/-- A number sign behind the text begins a comment, or there is one in it already: no quote is open
and no escape. -/
def opensComment : Option Char → Bool → List Char → Bool
  | quote, escaped, [] => quote = none && !escaped
  | quote, escaped, c :: cs =>
    if escaped then opensComment quote false cs
    else if c = '\\' then opensComment quote true cs
    else if quote = some c then opensComment none false cs
    else if quote = none ∧ (c = '\x27' ∨ c = '"') then opensComment (some c) false cs
    else if quote = none ∧ c = '#' then true
    else opensComment quote false cs

theorem splitWordsFrom_comment {text : List Char} {quote : Option Char} {escaped : Bool}
    (h : opensComment quote escaped text = true) (words : List (List Char)) (word cs : List Char) :
    splitWordsFrom words word quote escaped (text ++ '#' :: cs) =
      splitWordsFrom words word quote escaped text := by
  induction text generalizing words word quote escaped with
  | nil =>
    obtain ⟨rfl, rfl⟩ : quote = none ∧ escaped = false := by simpa [opensComment] using h
    simp [splitWordsFrom]
  | cons c text ih =>
    rw [opensComment] at h
    rw [List.cons_append, splitWordsFrom, splitWordsFrom]
    split_ifs at h ⊢ <;> first | rfl | exact ih h _ _

/-- Behind such a text a comment has no words. -/
theorem splitWords_append_comment {text : List Char} (h : opensComment none false text = true)
    (cs : List Char) : splitWords (text ++ '#' :: cs) = splitWords text :=
  splitWordsFrom_comment h [] [] cs

theorem wordLists_append (lines lines' : List (List Char)) :
    wordLists (lines ++ lines') = wordLists lines ++ wordLists lines' := by
  simp [wordLists]

theorem wordLists_cons_of_nil {line : List Char} (h : splitWords line = [])
    (lines : List (List Char)) : wordLists (line :: lines) = wordLists lines := by
  simp [wordLists, h]

/-! ## Joining -/

def pendingAfter (current line : List Char) : List Char :=
  if (current ++ line).getLast? = some '\\' then (current ++ line).dropLast else []

def pending (current : List Char) (lines : List (List Char)) : List Char :=
  lines.foldl pendingAfter current

def emitted (current : List Char) : List (List Char) → List (List Char)
  | [] => []
  | line :: rest =>
    if (current ++ line).getLast? = some '\\' then emitted (current ++ line).dropLast rest
    else (current ++ line) :: emitted [] rest

theorem logicalLinesFrom_append (current : List Char) (lines lines' : List (List Char)) :
    logicalLinesFrom current (lines ++ lines') =
      emitted current lines ++ logicalLinesFrom (pending current lines) lines' := by
  induction lines generalizing current with
  | nil => rfl
  | cons line rest ih =>
    rw [List.cons_append, logicalLinesFrom, emitted, pending, List.foldl_cons, pendingAfter]
    split
    · exact ih _
    · rw [ih, List.cons_append]
      rfl

/-- Where nothing is pending, the lines before stand for themselves. -/
theorem logicalLinesFrom_append_of_pending {current : List Char} {lines : List (List Char)}
    (h : pending current lines = []) (lines' : List (List Char)) :
    logicalLinesFrom current (lines ++ lines') =
      logicalLinesFrom current lines ++ logicalLinesFrom [] lines' := by
  rw [logicalLinesFrom_append, h, ← List.append_nil lines, logicalLinesFrom_append,
    List.append_nil, h, logicalLinesFrom, if_pos rfl, List.append_nil]

/-- A shorter end of a text ends as the text does, unless it is empty. -/
theorem pendingAfter_suffix {current other : List Char} (h : other <:+ current)
    (line : List Char) : pendingAfter other line <:+ pendingAfter current line := by
  obtain ⟨front, rfl⟩ := h
  rw [pendingAfter, pendingAfter, List.append_assoc]
  generalize other ++ line = tail
  by_cases hempty : tail = []
  · rw [hempty]
    exact List.nil_suffix
  rw [List.getLast?_append_of_ne_nil _ hempty, List.dropLast_append_of_ne_nil hempty]
  split
  · exact List.suffix_append _ _
  · exact List.nil_suffix

theorem pending_suffix {current other : List Char} (h : other <:+ current)
    (lines : List (List Char)) : pending other lines <:+ pending current lines := by
  induction lines generalizing current other with
  | nil => exact h
  | cons line rest ih => exact ih (pendingAfter_suffix h line)

/-! ## Lines that a comment takes in -/

/-- The lines that are joined to what is pending: those up to the first that leaves nothing
pending. -/
def continued (current : List Char) : List (List Char) → List (List Char)
  | [] => []
  | line :: rest =>
    line :: if (current ++ line).getLast? = some '\\' then
      continued (current ++ line).dropLast rest else []

/-- A comment with the lines that it takes in is one logical line, which begins as the comment. What
comes behind them does not depend on whether the comment was there. -/
theorem exists_rest_of_continued (current comment : List Char) (lines : List (List Char)) :
    ∃ joined rest, lines = continued (current ++ '#' :: comment) lines ++ rest ∧
      logicalLinesFrom (current ++ '#' :: comment) lines =
        (current ++ '#' :: joined) :: logicalLinesFrom [] rest ∧
      (rest = [] ∨ pending (current ++ '#' :: comment)
        (continued (current ++ '#' :: comment) lines) = []) := by
  induction lines generalizing comment with
  | nil => exact ⟨comment, [], rfl, by simp [logicalLinesFrom], Or.inl rfl⟩
  | cons line lines ih =>
    have happend : current ++ '#' :: comment ++ line = current ++ '#' :: (comment ++ line) := by
      rw [List.append_assoc, List.cons_append]
    rw [continued, logicalLinesFrom, happend]
    split
    · next hends =>
      -- the backslash that is taken off is not the number sign
      have hne : comment ++ line ≠ [] := by
        intro hnil
        rw [hnil, List.getLast?_append_of_ne_nil _ (List.cons_ne_nil _ _)] at hends
        exact absurd hends (by decide)
      have hdrop : (current ++ '#' :: (comment ++ line)).dropLast =
          current ++ '#' :: (comment ++ line).dropLast := by
        rw [List.dropLast_append_of_ne_nil (List.cons_ne_nil _ _), List.dropLast_cons_of_ne_nil hne]
      rw [hdrop]
      obtain ⟨joined, rest, hlines, hlogical, hrest⟩ := ih (comment ++ line).dropLast
      refine ⟨joined, rest, congrArg (line :: ·) hlines, hlogical, hrest.imp_right fun h ↦ ?_⟩
      rw [pending, List.foldl_cons, pendingAfter, happend, if_pos hends, hdrop]
      exact h
    · next hends =>
      refine ⟨comment ++ line, lines, rfl, rfl, Or.inr ?_⟩
      rw [pending, List.foldl_cons, List.foldl_nil, pendingAfter, happend, if_neg hends]

/-- Where nothing is pending, a comment that ends in a backslash loses the words of the lines that
it takes in, and those only. -/
theorem wordLists_continued_iff (comment : List Char) (lines : List (List Char)) :
    wordLists (logicalLinesFrom ('#' :: comment) lines) = wordLists (logicalLinesFrom [] lines) ↔
      wordLists (logicalLinesFrom [] (continued ('#' :: comment) lines)) = [] := by
  obtain ⟨joined, rest, hlines, hlogical, hrest⟩ := exists_rest_of_continued [] comment lines
  simp only [List.nil_append] at hlines hlogical hrest
  have hwithout : logicalLinesFrom [] lines =
      logicalLinesFrom [] (continued ('#' :: comment) lines) ++ logicalLinesFrom [] rest := by
    rcases hrest with rfl | hpending
    · rw [List.append_nil] at hlines
      rw [← hlines, logicalLinesFrom, if_pos rfl, List.append_nil]
    · have hsettled : pending [] (continued ('#' :: comment) lines) = [] :=
        List.suffix_nil.mp (hpending ▸ pending_suffix List.nil_suffix _)
      conv_lhs => rw [hlines]
      exact logicalLinesFrom_append_of_pending hsettled rest
  rw [hlogical, wordLists_cons_of_nil (splitWords_comment joined), hwithout, wordLists_append]
  exact List.self_eq_append_left

/-! ## Comments behind an open continuation -/

/-- The lines up to the first that leaves nothing pending behind either text. -/
def untilSettled (current other : List Char) : List (List Char) → List (List Char)
  | [] => []
  | line :: rest =>
    line :: if pendingAfter current line = [] ∧ pendingAfter other line = [] then []
      else untilSettled (pendingAfter current line) (pendingAfter other line) rest

theorem exists_rest_of_untilSettled (current other : List Char) (lines : List (List Char)) :
    ∃ rest, lines = untilSettled current other lines ++ rest ∧
      (rest = [] ∨ pending current (untilSettled current other lines) = [] ∧
        pending other (untilSettled current other lines) = []) := by
  induction lines generalizing current other with
  | nil => exact ⟨[], rfl, Or.inl rfl⟩
  | cons line lines ih =>
    rw [untilSettled]
    split
    · next hsettled => exact ⟨lines, rfl, Or.inr hsettled⟩
    · obtain ⟨rest, hlines, hrest⟩ := ih (pendingAfter current line) (pendingAfter other line)
      exact ⟨rest, congrArg (line :: ·) hlines, hrest⟩

/-- Two pending texts in front of the same lines give the same words if they do so up to where
nothing is pending any more. -/
theorem wordLists_untilSettled_iff (current : List Char) (comment : List Char)
    (lines : List (List Char)) :
    wordLists (logicalLinesFrom current (comment :: lines)) =
        wordLists (logicalLinesFrom current lines) ↔
      wordLists (logicalLinesFrom current
          (comment :: untilSettled (pendingAfter current comment) current lines)) =
        wordLists (logicalLinesFrom current
          (untilSettled (pendingAfter current comment) current lines)) := by
  obtain ⟨rest, hlines, hrest⟩ :=
    exists_rest_of_untilSettled (pendingAfter current comment) current lines
  rcases hrest with rfl | ⟨hcomment, hcurrent⟩
  · rw [List.append_nil] at hlines
    rw [← hlines]
  · have hpending : pending current
        (comment :: untilSettled (pendingAfter current comment) current lines) = [] := hcomment
    have hwith := logicalLinesFrom_append_of_pending hpending rest
    have hwithout := logicalLinesFrom_append_of_pending hcurrent rest
    rw [List.cons_append, ← hlines] at hwith
    rw [← hlines] at hwithout
    rw [hwith, hwithout, wordLists_append, wordLists_append]
    exact List.append_left_inj _

/-- The lines that a comment behind a pending text takes in. -/
def hiddenLines (current comment : List Char) (lines : List (List Char)) : List (List Char) :=
  if comment.getLast? = some '\\' then continued (current ++ comment.dropLast) lines else []

/-- Where a comment begins behind what is pending, its words are the pending ones, and the lines
that it takes in are lost. -/
theorem wordLists_hidden {current : List Char} (h : opensComment none false current = true)
    (comment : List Char) (lines : List (List Char)) :
    wordLists (logicalLinesFrom current (('#' :: comment) :: lines)) =
      wordLists [current] ++ wordLists
        (logicalLinesFrom [] (lines.drop (hiddenLines current ('#' :: comment) lines).length)) := by
  have hwords (cs : List Char) (rest : List (List Char)) :
      wordLists ((current ++ '#' :: cs) :: rest) = wordLists [current] ++ wordLists rest := by
    rw [← List.singleton_append, wordLists_append]
    simp only [wordLists, List.map_singleton, splitWords_append_comment h]
  rw [logicalLinesFrom, List.getLast?_append_of_ne_nil _ (List.cons_ne_nil _ _), hiddenLines]
  split
  · next hends =>
    have hne : comment ≠ [] := by
      rintro rfl
      exact absurd hends (by decide)
    rw [List.dropLast_append_of_ne_nil (List.cons_ne_nil _ _), List.dropLast_cons_of_ne_nil hne]
    obtain ⟨joined, rest, hlines, hlogical, -⟩ :=
      exists_rest_of_continued current comment.dropLast lines
    have hdrop : (continued (current ++ '#' :: comment.dropLast) lines ++ rest).drop
        (continued (current ++ '#' :: comment.dropLast) lines).length = rest := List.drop_left
    rw [← hlines] at hdrop
    rw [hlogical, hwords, hdrop]
  · rw [hwords, List.length_nil, List.drop_zero]

/-! ## Deleting a comment line -/

/-- A comment line that can be deleted. Where the number sign begins a comment behind what is
pending, the lines behind it have the words that they have when the comment has ended the logical
line. Where it does not, it is text of a word, and the words are to be the same without it. -/
def CommentInert (before : List (List Char)) (comment : List Char) (after : List (List Char)) :
    Prop :=
  let current := pending [] before
  if current = [] then
    comment.getLast? = some '\\' →
      wordLists (logicalLinesFrom [] (continued comment.dropLast after)) = []
  else
    let block := untilSettled (pendingAfter current comment) current after
    if opensComment none false current then
      wordLists [current] ++ wordLists
          (logicalLinesFrom [] (block.drop (hiddenLines current comment block).length)) =
        wordLists (logicalLinesFrom current block)
    else
      wordLists (logicalLinesFrom current (comment :: block)) =
        wordLists (logicalLinesFrom current block)

theorem wordLists_comment_iff (comment : List Char) (lines : List (List Char)) :
    wordLists (logicalLinesFrom [] (('#' :: comment) :: lines)) =
        wordLists (logicalLinesFrom [] lines) ↔
      (('#' :: comment).getLast? = some '\\' →
        wordLists (logicalLinesFrom [] (continued ('#' :: comment).dropLast lines)) = []) := by
  rw [logicalLinesFrom, List.nil_append]
  split
  · next hends =>
    have hne : comment ≠ [] := by
      rintro rfl
      exact absurd hends (by decide)
    rw [List.dropLast_cons_of_ne_nil hne, wordLists_continued_iff]
    exact ⟨fun h _ ↦ h, fun h ↦ h hends⟩
  · next hends =>
    rw [wordLists_cons_of_nil (splitWords_comment comment)]
    exact iff_of_true rfl fun h ↦ absurd h hends

/-- A continuation is open behind a line without a backslash at its end only if the line is
empty. -/
theorem getLast?_of_pending {before : List (List Char)}
    (hbefore : ∀ line, before.getLast? = some line → line.getLast? ≠ some '\\')
    (hpending : pending [] before ≠ []) : before.getLast? = some [] := by
  rcases List.eq_nil_or_concat before with rfl | ⟨front, line, rfl⟩
  · exact absurd rfl hpending
  rw [List.concat_eq_append] at hbefore hpending ⊢
  rw [List.getLast?_concat]
  by_contra hne
  have hline : line ≠ [] := fun h ↦ hne (h ▸ rfl)
  rw [pending, List.foldl_append, List.foldl_cons, List.foldl_nil, pendingAfter,
    List.getLast?_append_of_ne_nil _ hline, if_neg (hbefore line List.getLast?_concat)] at hpending
  exact hpending rfl

/-- **Which comment lines are inert.** Deleting a line that begins with a number sign, behind a line
that does not end in a backslash, leaves the words of a text as they are exactly in these cases. The
second case of `CommentInert` only arises behind an empty line. -/
theorem configWords_comment_iff {text text' : List Char} {before after : List (List Char)}
    {comment : List Char} (htext : Text.lines text = before ++ comment :: after)
    (hcomment : comment.head? = some '#')
    (hbefore : ∀ line, before.getLast? = some line → line.getLast? ≠ some '\\')
    (htext' : Text.lines text' = before ++ after) :
    (configWords text = configWords text' ↔ CommentInert before comment after) ∧
      (pending [] before ≠ [] → before.getLast? = some []) := by
  refine ⟨?_, getLast?_of_pending hbefore⟩
  obtain ⟨comment, rfl⟩ : ∃ cs, comment = '#' :: cs := by
    cases comment with
    | nil => cases hcomment
    | cons c cs => exact ⟨cs, by rw [Option.some.inj hcomment]⟩
  rw [configWords, configWords, logicalLines, logicalLines, htext, htext',
    logicalLinesFrom_append, logicalLinesFrom_append, wordLists_append, wordLists_append,
    List.append_cancel_left_eq, CommentInert]
  simp only
  split
  · next hpending =>
    rw [hpending]
    exact wordLists_comment_iff comment after
  · rw [wordLists_untilSettled_iff]
    split
    · next hopens => rw [wordLists_hidden hopens]
    · exact Iff.rfl

/-- A comment that does not end in a backslash, between two hosts. -/
theorem configWords_comment_iff_note :
    configWords "Host db\n# note\nHost web".toList = configWords "Host db\nHost web".toList := by
  have htext : Text.lines "Host db\n# note\nHost web".toList =
      ["Host db".toList] ++ "# note".toList :: ["Host web".toList] := by decide
  have htext' : Text.lines "Host db\nHost web".toList =
      ["Host db".toList] ++ ["Host web".toList] := by decide
  refine (configWords_comment_iff htext rfl ?_ htext').1.mpr ?_
  · rintro line ⟨⟩
    decide
  · unfold CommentInert
    decide

/-- A comment that ends in a backslash hides the host behind it. -/
theorem configWords_comment_hides :
    Text.lines "# C:\\keys\\\nHost web".toList =
        [] ++ "# C:\\keys\\".toList :: ["Host web".toList] ∧
      Text.lines "Host web".toList = [] ++ ["Host web".toList] ∧
      configWords "# C:\\keys\\\nHost web".toList = [] ∧
      configWords "Host web".toList = [["Host".toList, "web".toList]] := by
  decide

end TunnelDeck
