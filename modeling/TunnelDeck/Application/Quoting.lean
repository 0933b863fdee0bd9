import TunnelDeck.Application.ConfigLines

/-!
# Writing words that are read back

A word can be put on a line with a backslash before each of its characters, or between double quotes
with a backslash before each double quote and each backslash in it. Between two words stands a
separator of spaces, tabs and equals signs.

The tokenizer keeps a word, an open quote and an escape. Each way of writing a word takes it from
one word boundary to the next, where no quote is open and no escape is pending, and adds the word to
what it has read of the present one. So a line is read word for word.

## Main result

`splitWords_written`: the words of a line are the words that were written on it.
-/

namespace TunnelDeck

/-! ## Writing -/

/-- The two ways of writing a word. -/
inductive Spelling where
  | escaped
  | quoted
  deriving DecidableEq

def escapeWord (word : List Char) : List Char := word.flatMap fun c ↦ ['\\', c]

def quoteBody (word : List Char) : List Char :=
  word.flatMap fun c ↦ if c = '"' ∨ c = '\\' then ['\\', c] else [c]

/-- A word with the way in which it is written. -/
structure WrittenWord where
  word : List Char
  spelling : Spelling
  ne_nil : word ≠ []

def WrittenWord.text (w : WrittenWord) : List Char :=
  match w.spelling with
  | .escaped => escapeWord w.word
  | .quoted => '"' :: (quoteBody w.word ++ ['"'])

/-- Any number of spaces, tabs and equals signs. -/
structure Blank where
  text : List Char
  separates : ∀ c ∈ text, c = ' ' ∨ c = '\t' ∨ c = '='

structure Separator extends Blank where
  ne_nil : text ≠ []

/-- The words of a line, where `between` gives the separator in front of the last words. -/
def joinWords (between : ℕ → Separator) : List WrittenWord → List Char
  | [] => []
  | [w] => w.text
  | w :: w' :: rest =>
    w.text ++ (between rest.length).text ++ joinWords between (w' :: rest)

/-! ## Reading a word -/

variable {words : List (List Char)} {word : List Char}

theorem splitWordsFrom_escapeWord (cs rest : List Char) :
    splitWordsFrom words word none false (escapeWord cs ++ rest) =
      splitWordsFrom words (word ++ cs) none false rest := by
  induction cs generalizing word with
  | nil => rw [escapeWord, List.flatMap_nil, List.nil_append, List.append_nil]
  | cons c cs ih =>
    have hread : splitWordsFrom words word none false ('\\' :: c :: (escapeWord cs ++ rest)) =
        splitWordsFrom words (word ++ [c]) none false (escapeWord cs ++ rest) := by
      simp [splitWordsFrom]
    rw [escapeWord, List.flatMap_cons, List.append_assoc]
    refine hread.trans ?_
    rw [ih, List.append_assoc]
    rfl

/-- Between the quotes a character stands for itself unless it is escaped, and then the next one
does. -/
theorem splitWordsFrom_quoteBody (cs rest : List Char) :
    splitWordsFrom words word (some '"') false (quoteBody cs ++ '"' :: rest) =
      splitWordsFrom words (word ++ cs) none false rest := by
  induction cs generalizing word with
  | nil => simp [quoteBody, splitWordsFrom]
  | cons c cs ih =>
    have hnext : splitWordsFrom words (word ++ [c]) (some '"') false (quoteBody cs ++ '"' :: rest) =
        splitWordsFrom words (word ++ c :: cs) none false rest := by
      rw [ih, List.append_assoc, List.singleton_append]
    rw [quoteBody, List.flatMap_cons, List.append_assoc]
    by_cases hc : c = '"' ∨ c = '\\'
    · rw [if_pos hc, ← hnext]
      simp [splitWordsFrom, quoteBody]
    · rw [if_neg hc, ← hnext]
      rw [not_or] at hc
      simp [splitWordsFrom, quoteBody, hc, Ne.symm hc.1]

/-- **A word is read as it was written.** -/
theorem splitWordsFrom_text (w : WrittenWord) (rest : List Char) :
    splitWordsFrom words word none false (w.text ++ rest) =
      splitWordsFrom words (word ++ w.word) none false rest := by
  rw [WrittenWord.text]
  cases w.spelling with
  | escaped => exact splitWordsFrom_escapeWord w.word rest
  | quoted =>
    have hopen : splitWordsFrom words word none false
        ('"' :: (quoteBody w.word ++ ['"']) ++ rest) =
        splitWordsFrom words word (some '"') false (quoteBody w.word ++ '"' :: rest) := by
      simp [splitWordsFrom]
    rw [hopen, splitWordsFrom_quoteBody]

/-! ## Reading a line -/

@[simp] theorem finishWords_nil (words : List (List Char)) : finishWords words [] = words :=
  if_pos rfl

theorem splitWordsFrom_blank (b : Blank) (hne : b.text ≠ [] ∨ word = []) (rest : List Char) :
    splitWordsFrom words word none false (b.text ++ rest) =
      splitWordsFrom (finishWords words word) [] none false rest := by
  obtain ⟨cs, hcs⟩ := b
  simp only at hne ⊢
  induction cs generalizing words word with
  | nil =>
    obtain rfl : word = [] := hne.resolve_left fun h ↦ h rfl
    rw [List.nil_append, finishWords_nil]
  | cons c cs ih =>
    have hread : splitWordsFrom words word none false (c :: (cs ++ rest)) =
        splitWordsFrom (finishWords words word) [] none false (cs ++ rest) := by
      rcases hcs c List.mem_cons_self with rfl | rfl | rfl <;>
        simp [splitWordsFrom, Text.isWhitespace]
    rw [List.cons_append, hread, ih (fun d hd ↦ hcs d (List.mem_cons_of_mem _ hd)) (Or.inr rfl),
      finishWords_nil]

/-- The end of a line ends its last word and adds none. -/
def Ends (rest : List Char) : Prop :=
  ∀ words word, splitWordsFrom words word none false rest = finishWords words word

theorem ends_nil : Ends [] := fun _ _ ↦ rfl

theorem ends_comment (text : List Char) : Ends ('#' :: text) := by
  intro words word
  simp [splitWordsFrom]

theorem Ends.blank {rest : List Char} (h : Ends rest) (b : Blank) : Ends (b.text ++ rest) := by
  intro words word
  by_cases hempty : b.text = []
  · rw [hempty]
    exact h words word
  · rw [splitWordsFrom_blank b (Or.inl hempty), h, finishWords_nil]

/-- From a word boundary on, the words of the line are added to those that were read. -/
theorem splitWordsFrom_joinWords (between : ℕ → Separator) (ws : List WrittenWord)
    {rest : List Char} (hrest : Ends rest) :
    splitWordsFrom words [] none false (joinWords between ws ++ rest) =
      words ++ ws.map WrittenWord.word := by
  have hfinish (words : List (List Char)) (w : WrittenWord) :
      finishWords words w.word = words ++ [w.word] := if_neg w.ne_nil
  fun_induction joinWords between ws generalizing words with
  | case1 =>
    rw [List.nil_append, hrest, finishWords_nil, List.map_nil, List.append_nil]
  | case2 w =>
    rw [splitWordsFrom_text, hrest, List.nil_append, hfinish]
    rfl
  | case3 w w' ws ih =>
    rw [List.append_assoc, List.append_assoc, splitWordsFrom_text, List.nil_append,
      splitWordsFrom_blank _ (Or.inl (between ws.length).ne_nil), hfinish, ih, List.map_cons,
      List.append_assoc]
    rfl

/-- **The words of a line are the words that were written on it**, whichever way each of them was
written and whatever stands between them and around them, and also with a comment at the end. -/
theorem splitWords_written (ws : List WrittenWord) (between : ℕ → Separator)
    (leading trailing : Blank) :
    splitWords (leading.text ++ joinWords between ws ++ trailing.text) =
        ws.map WrittenWord.word ∧
      ∀ (separator : Separator) (text : List Char),
        splitWords (leading.text ++ joinWords between ws ++ trailing.text ++ separator.text ++
          '#' :: text) = ws.map WrittenWord.word := by
  have hline : ∀ rest, Ends rest →
      splitWords (leading.text ++ (joinWords between ws ++ rest)) = ws.map WrittenWord.word := by
    intro rest hrest
    rw [splitWords, splitWordsFrom_blank leading (Or.inr rfl),
      splitWordsFrom_joinWords between ws hrest]
    rfl
  constructor
  · have hends := ends_nil.blank trailing
    rw [List.append_nil] at hends
    rw [List.append_assoc]
    exact hline _ hends
  · intro separator text
    rw [List.append_assoc, List.append_assoc, List.append_assoc]
    exact hline _ (((ends_comment text).blank separator.toBlank).blank trailing)

/-- A word of a quote, a backslash and two characters that would end a word. -/
example : splitWords (['\t'] ++ joinWords (fun _ ↦ ⟨⟨['='], by simp⟩, by simp⟩)
    [⟨['"', '\\', '#', ' '], .quoted, by simp⟩, ⟨['=', '"'], .escaped, by simp⟩] ++ [' ']) =
    [['"', '\\', '#', ' '], ['=', '"']] := by decide

end TunnelDeck
