import Mathlib.Data.List.Infix
import Mathlib.Tactic.Common

/-!
# Replacing one occurrence, line ends, and shell words

Text is a list of characters.  `replaceFirst` is Python's
`text.replace(find, replace, 1)`, `beforeFirst` the first part of
`text.split(find, 1)`; `universalNewlines` is what reading a file in text mode
does to its line ends; `splitWords` and `joinWords` are `shlex.split`
and `shlex.join`.
-/

namespace Text

variable {α : Type} [DecidableEq α]

/-- Replace the first occurrence of `find`.  The empty text occurs first of
all at the very start. -/
def replaceFirst (find replacement : List α) : List α → List α
  | [] => if find = [] then replacement else []
  | x :: rest =>
    if find <+: x :: rest then replacement ++ (x :: rest).drop find.length
    else x :: replaceFirst find replacement rest

variable {find text : List α}

theorem replaceFirst_of_infix (h : find <:+: text) (replacement : List α) :
    ∃ before after, text = before ++ find ++ after ∧
      replaceFirst find replacement text = before ++ replacement ++ after := by
  induction text with
  | nil =>
    have hnil : find = [] := List.infix_nil.mp h
    subst hnil
    exact ⟨[], [], rfl, by simp [replaceFirst]⟩
  | cons x rest ih =>
    by_cases hstart : find <+: x :: rest
    · refine ⟨[], (x :: rest).drop find.length, ?_, by simp [replaceFirst, hstart]⟩
      simpa using (List.prefix_iff_eq_append.mp hstart).symm
    · have hrest : find <:+: rest := (List.infix_cons_iff.mp h).resolve_left hstart
      obtain ⟨before, after, htext, hreplaced⟩ := ih hrest
      refine ⟨x :: before, after, by simp [htext], ?_⟩
      simp [replaceFirst, hstart, hreplaced]

theorem count_replaceFirst (h : find <:+: text) (replacement : List α) (x : α) :
    (replaceFirst find replacement text).count x + find.count x =
      text.count x + replacement.count x := by
  obtain ⟨before, after, htext, hreplaced⟩ := replaceFirst_of_infix h replacement
  rw [hreplaced, htext]
  simp only [List.count_append]
  omega

/-- `text.split(find, 1)[0]`, where the text has an occurrence to split at. -/
def beforeFirst (find : List α) : List α → Option (List α)
  | [] => if find = [] then some [] else none
  | x :: rest =>
    if find <+: x :: rest then some []
    else (beforeFirst find rest).map (x :: ·)

variable {before : List α}

theorem eq_append_of_beforeFirst (h : beforeFirst find text = some before) :
    ∃ after, text = before ++ find ++ after := by
  induction text generalizing before with
  | nil =>
    simp only [beforeFirst] at h
    split at h
    · next hnil =>
      cases h
      exact ⟨[], by simp [hnil]⟩
    · cases h
  | cons x rest ih =>
    simp only [beforeFirst] at h
    split at h
    · next hstart =>
      cases h
      exact ⟨_, (List.prefix_iff_eq_append.mp hstart).symm⟩
    · obtain ⟨before, hbefore, rfl⟩ := Option.map_eq_some_iff.mp h
      obtain ⟨after, rfl⟩ := ih hbefore
      exact ⟨after, rfl⟩

theorem beforeFirst_append (h : beforeFirst find text = some before) (after : List α) :
    beforeFirst find (before ++ find ++ after) = some before := by
  induction text generalizing before with
  | nil =>
    simp only [beforeFirst] at h
    split at h
    · next hnil =>
      cases h
      subst hnil
      cases after <;> simp [beforeFirst]
    · cases h
  | cons x rest ih =>
    simp only [beforeFirst] at h
    split at h
    · cases h
      cases find <;> cases after <;> simp [beforeFirst]
    · next hstart =>
      obtain ⟨before, hbefore, rfl⟩ := Option.map_eq_some_iff.mp h
      obtain ⟨tail, rfl⟩ := eq_append_of_beforeFirst hbefore
      -- an earlier occurrence would end before the part that was exchanged
      have hlater : ¬ find <+: x :: (before ++ find ++ after) := by
        intro hearlier
        have hwithin : x :: (before ++ find) <+: x :: (before ++ find ++ after) :=
          ⟨after, by simp⟩
        have hbegins : find <+: x :: (before ++ find) :=
          List.prefix_of_prefix_length_le hearlier hwithin (by simp; omega)
        exact hstart (hbegins.trans ⟨tail, by simp⟩)
      simp only [List.cons_append, beforeFirst, if_neg hlater, ih hbefore, Option.map_some]

/-- Line ends as text mode reads them: a carriage return, with the line feed
after it if there is one, becomes a line feed. -/
def universalNewlines : List Char → List Char
  | [] => []
  | '\r' :: '\n' :: rest => '\n' :: universalNewlines rest
  | '\r' :: rest => '\n' :: universalNewlines rest
  | c :: rest => c :: universalNewlines rest

theorem not_mem_universalNewlines (text : List Char) : '\r' ∉ universalNewlines text := by
  fun_induction universalNewlines text with
  | case1 => simp
  | case2 rest ih | case3 rest _ ih => simp [ih]
  | case4 c rest _ hc ih =>
    have hne : '\r' ≠ c := fun heq => hc heq.symm
    simp [ih, hne]

theorem universalNewlines_eq_self {text : List Char} (h : '\r' ∉ text) :
    universalNewlines text = text := by
  fun_induction universalNewlines text with
  | case1 => rfl
  | case2 rest ih | case3 rest _ ih => simp at h
  | case4 c rest _ _ ih =>
    rw [ih (fun hmem => h (List.mem_cons_of_mem _ hmem))]

/-- **Line ends survive a replacement** exactly when the file has no carriage return. -/
theorem replaceFirst_universalNewlines_iff {find text : List Char}
    (hfile : find <:+: text) (hread : find <:+: universalNewlines text)
    (replacement : List Char) :
    replaceFirst find replacement (universalNewlines text) =
        replaceFirst find replacement text ↔ '\r' ∉ text := by
  constructor
  · intro hsame
    -- count carriage returns: the reading has none, and the searched text,
    -- which occurs in the reading, has none either
    have hleft := count_replaceFirst hread replacement '\r'
    have hright := count_replaceFirst hfile replacement '\r'
    have hnone : (universalNewlines text).count '\r' = 0 :=
      List.count_eq_zero.mpr (not_mem_universalNewlines text)
    rw [hsame] at hleft
    exact List.count_eq_zero.mp (by omega)
  · intro hclean
    rw [universalNewlines_eq_self hclean]

/-- Where a splitter of shell words stands: between words, in a word, in a
quotation, or after a backslash. -/
inductive WordState where
  | between
  | inWord
  | inQuotes (quote : Char)
  | escapedInWord
  | escapedInQuotes

def isWordBreak (c : Char) : Bool := c == ' ' || c == '\t' || c == '\r' || c == '\n'

/-- Characters that open and close a quotation. -/
def isQuote (c : Char) : Bool := c == '\'' || c == '"'

/-- A command line as a POSIX shell splits it.  `quoted`: part of the word was quoted, so that it
counts when empty. -/
def splitWordsFrom : WordState → List Char → Bool → List Char →
    Except String (List (List Char))
  | .between, _, _, [] => .ok []
  | .inWord, token, quoted, [] => .ok (if token != [] || quoted then [token] else [])
  | .inQuotes _, _, _, [] => .error "No closing quotation"
  | .escapedInWord, _, _, [] => .error "No escaped character"
  | .escapedInQuotes, _, _, [] => .error "No escaped character"
  | .between, token, quoted, c :: rest =>
    if isWordBreak c then splitWordsFrom .between token quoted rest
    else if c == '\\' then splitWordsFrom .escapedInWord [] false rest
    else if isQuote c then splitWordsFrom (.inQuotes c) [] false rest
    else splitWordsFrom .inWord [c] false rest
  | .inWord, token, quoted, c :: rest =>
    if isWordBreak c then do
      let others ← splitWordsFrom .between [] false rest
      return if token != [] || quoted then token :: others else others
    else if isQuote c then splitWordsFrom (.inQuotes c) token quoted rest
    else if c == '\\' then splitWordsFrom .escapedInWord token quoted rest
    else splitWordsFrom .inWord (token ++ [c]) quoted rest
  | .inQuotes quote, token, _, c :: rest =>
    if c == quote then splitWordsFrom .inWord token true rest
    else if c == '\\' && quote == '"' then splitWordsFrom .escapedInQuotes token true rest
    else splitWordsFrom (.inQuotes quote) (token ++ [c]) true rest
  | .escapedInWord, token, quoted, c :: rest =>
    splitWordsFrom .inWord (token ++ [c]) quoted rest
  | .escapedInQuotes, token, quoted, c :: rest =>
    -- within quotes only the quote and the backslash can be escaped
    let kept := if c == '\\' || c == '"' then [c] else ['\\', c]
    splitWordsFrom (.inQuotes '"') (token ++ kept) quoted rest

def splitWords (text : List Char) : Except String (List (List Char)) :=
  splitWordsFrom .between [] false text

/-- Characters that need no quotes in a shell word. -/
def isSafeInWord (c : Char) : Bool :=
  ('a' ≤ c && c ≤ 'z') || ('A' ≤ c && c ≤ 'Z') || ('0' ≤ c && c ≤ '9') ||
    ['_', '@', '%', '+', '=', ':', ',', '.', '/', '-'].contains c

/-- A word as a shell reads it back. -/
def quoteWord (word : List Char) : List Char :=
  if word = [] then ['\'', '\'']
  else if word.all isSafeInWord then word
  else
    ['\''] ++ word.flatMap (fun c => if c == '\'' then ['\'', '"', '\'', '"', '\''] else [c]) ++
      ['\'']

/-- A command line that splits into the given words. -/
def joinWords (words : List (List Char)) : List Char :=
  [' '].intercalate (words.map quoteWord)

example : splitWords "a 'b c' \"\" d\\ e".toList =
    .ok ["a".toList, "b c".toList, [], "d e".toList] := by decide

end Text
