import OrbitalMesh.Base.Text

/-!
# Quoted words are read back

What `joinWords` writes, `splitWords` takes apart into the same words, whatever
characters they have.
-/

namespace Text

theorem not_special_of_safe {c : Char} (h : isSafeInWord c = true) :
    isWordBreak c = false ∧ isQuote c = false ∧ (c == '\\') = false := by
  have hne {d : Char} (hd : isSafeInWord d = false) : (c == d) = false := by
    refine beq_false_of_ne ?_
    rintro rfl
    rw [h] at hd
    cases hd
  refine ⟨?_, ?_, hne (by decide)⟩
  · simp only [isWordBreak, hne (d := ' ') (by decide), hne (d := '\t') (by decide),
      hne (d := '\r') (by decide), hne (d := '\n') (by decide), Bool.or_self]
  · simp only [isQuote, hne (d := '\'') (by decide), hne (d := '"') (by decide), Bool.or_self]

theorem splitWordsFrom_safe {word : List Char} (h : word.all isSafeInWord = true)
    (token : List Char) (quoted : Bool) (rest : List Char) :
    splitWordsFrom .inWord token quoted (word ++ rest) =
      splitWordsFrom .inWord (token ++ word) quoted rest := by
  induction word generalizing token with
  | nil => simp
  | cons c word ih =>
    obtain ⟨hc, hword⟩ := List.all_cons.symm.trans h |> Bool.and_eq_true_iff.mp
    obtain ⟨hbreak, hquote, hbackslash⟩ := not_special_of_safe hc
    rw [List.cons_append, splitWordsFrom]
    simp only [hbreak, hquote, hbackslash, Bool.false_eq_true, ↓reduceIte]
    rw [ih hword, List.append_assoc, List.singleton_append]

theorem splitWordsFrom_quoted (word token : List Char) (quoted : Bool) (rest : List Char) :
    splitWordsFrom (.inQuotes '\'') token quoted
        (word.flatMap (fun c => if c == '\'' then ['\'', '"', '\'', '"', '\''] else [c]) ++
          '\'' :: rest) =
      splitWordsFrom .inWord (token ++ word) true rest := by
  induction word generalizing token quoted with
  | nil => simp [splitWordsFrom]
  | cons c word ih =>
    rw [List.flatMap_cons]
    by_cases hc : c = '\''
    · subst hc
      simp only [beq_self_eq_true, ↓reduceIte, List.cons_append, List.nil_append,
        splitWordsFrom, isWordBreak, isQuote, Char.reduceBEq, Bool.or_false, Bool.or_true,
        Bool.false_and, Bool.false_eq_true, Bool.or_self]
      rw [ih, List.append_assoc, List.singleton_append]
    · have hplain : (c == '\'') = false := beq_false_of_ne hc
      simp only [hplain, Bool.false_eq_true, ↓reduceIte, List.cons_append, List.nil_append,
        splitWordsFrom, Char.reduceBEq, Bool.and_false]
      rw [ih, List.append_assoc, List.singleton_append]

theorem splitWordsFrom_quoteWord (word : List Char) (rest : List Char) :
    ∃ quoted, (word != [] || quoted) = true ∧
      splitWordsFrom .between [] false (quoteWord word ++ rest) =
        splitWordsFrom .inWord word quoted rest := by
  unfold quoteWord
  split
  · next hnil =>
    subst hnil
    exact ⟨true, rfl, by simp [splitWordsFrom, isWordBreak, isQuote]⟩
  · next hne =>
    split
    · next hsafe =>
      obtain ⟨c, word, rfl⟩ := List.exists_cons_of_ne_nil hne
      obtain ⟨hc, hword⟩ := List.all_cons.symm.trans hsafe |> Bool.and_eq_true_iff.mp
      obtain ⟨hbreak, hquote, hbackslash⟩ := not_special_of_safe hc
      refine ⟨false, by simp, ?_⟩
      rw [List.cons_append, splitWordsFrom]
      simp only [hbreak, hquote, hbackslash, Bool.false_eq_true, ↓reduceIte]
      exact splitWordsFrom_safe hword [c] false rest
    · refine ⟨true, by simp, ?_⟩
      have hquoted := splitWordsFrom_quoted word [] false rest
      simpa [splitWordsFrom, isWordBreak, isQuote] using hquoted

/-- **A joined command line splits into its words.** -/
theorem splitWords_joinWords (words : List (List Char)) :
    splitWords (joinWords words) = .ok words := by
  induction words with
  | nil => rfl
  | cons word words ih =>
    cases words with
    | nil =>
      obtain ⟨quoted, hcounts, hread⟩ := splitWordsFrom_quoteWord word []
      simp only [joinWords, List.map_cons, List.map_nil, List.intercalate_singleton, splitWords]
      rw [← List.append_nil (quoteWord word), hread]
      simp only [splitWordsFrom, hcounts, ↓reduceIte]
    | cons next words =>
      have hjoin : joinWords (word :: next :: words) =
          quoteWord word ++ ' ' :: joinWords (next :: words) := by
        simp [joinWords]
      obtain ⟨quoted, hcounts, hread⟩ :=
        splitWordsFrom_quoteWord word (' ' :: joinWords (next :: words))
      unfold splitWords at ih ⊢
      rw [hjoin, hread, splitWordsFrom]
      simp [isWordBreak, ih, hcounts, bind, Except.bind, pure, Except.pure]

end Text
