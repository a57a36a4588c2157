import Mathlib.Data.List.Basic

/-!
# Command lines are read as they are meant

A program with the usual long and short options reads its words one after the other.  A
word that begins with a dash is an option wherever it stands, unless an option before it
takes it as its value.  So a line that is put together from options that the program
knows and from operands is read as it is meant exactly where no operand looks like an
option.
-/

namespace CommandLine

/-- The options of a program.  Each has a name, and takes a value or not; a short option
has a letter for its name. -/
structure Options where
  long : String → Option Bool
  short : Char → Option (String × Bool)

inductive Reading where
  | operand (word : String)
  | flag (name : String)
  | option (name value : String)
deriving DecidableEq

/-- What a word is, before the next word is looked at. -/
inductive Word where
  | operand
  /-- `--`: what follows are operands -/
  | ending
  | complete (readings : List Reading)
  /-- the last option takes its value from the next word -/
  | wanting (readings : List Reading) (name : String)
  | unknown

/-- An option without a value stands before. -/
def Word.after (name : String) : Word → Word
  | .complete readings => .complete (.flag name :: readings)
  | .wanting readings last => .wanting (.flag name :: readings) last
  | word => word

/-- What follows two dashes. -/
def classifyLong (options : Options) (body : List Char) : Word :=
  let name := String.ofList (body.takeWhile (· ≠ '='))
  match options.long name, body.dropWhile (· ≠ '=') with
  | none, _ => .unknown
  | some _, _ :: value => .complete [.option name (String.ofList value)]
  | some true, [] => .wanting [] name
  | some false, [] => .complete [.flag name]

def classifyShort (options : Options) : List Char → Word
  | [] => .complete []
  | letter :: rest =>
    match options.short letter with
    | none => .unknown
    | some (name, takesValue) =>
      match rest, takesValue with
      | '=' :: c :: value, _ => .complete [.option name (String.ofList (c :: value))]
      | [], true => .wanting [] name
      | c :: value, true => .complete [.option name (String.ofList (c :: value))]
      | rest, false => (classifyShort options rest).after name

def classify (options : Options) (word : String) : Word :=
  match word.toList with
  | ['-', '-'] => .ending
  | '-' :: '-' :: body => classifyLong options body
  | '-' :: letter :: rest => classifyShort options (letter :: rest)
  | _ => .operand

/-- The words of a command line, as the program reads them; nothing where it refuses an
option. -/
def read (options : Options) : List String → Option (List Reading)
  | [] => some []
  | word :: rest =>
    match classify options word with
    | .operand => (read options rest).map (.operand word :: ·)
    | .ending => some (rest.map .operand)
    | .complete readings => (read options rest).map (readings ++ ·)
    | .wanting readings name =>
      match rest with
      | [] => none
      | value :: rest => (read options rest).map (readings ++ .option name value :: ·)
    | .unknown => none

/-- A word that does not look like an option: it does not begin with a dash, or is a
dash. -/
def plain (word : String) : Bool :=
  match word.toList with
  | '-' :: _ :: _ => false
  | _ => true

variable {options : Options} {word : String}

theorem classify_of_plain (h : plain word = true) : classify options word = .operand := by
  unfold plain at h
  unfold classify
  split at h
  · cases h
  · next hdash =>
    split
    · next heq => exact absurd heq (hdash _ _)
    · next heq => exact absurd heq (hdash _ _)
    · next heq => exact absurd heq (hdash _ _)
    · rfl

def Word.IsOption : Word → Prop
  | .complete readings => ∃ first rest, readings = first :: rest ∧ ∀ word, first ≠ .operand word
  | .wanting readings _ => ∀ first rest, readings = first :: rest → ∀ word, first ≠ .operand word
  | .unknown => True
  | .operand | .ending => False

theorem classifyLong_isOption (options : Options) (body : List Char) :
    (classifyLong options body).IsOption := by
  unfold classifyLong
  dsimp only
  split <;> simp [Word.IsOption]

theorem classifyShort_isOption (options : Options) (letter : Char) (rest : List Char) :
    (classifyShort options (letter :: rest)).IsOption := by
  have hgoes (letters : List Char) : classifyShort options letters ≠ .operand ∧
      classifyShort options letters ≠ .ending := by
    induction letters with
    | nil => simp [classifyShort]
    | cons letter rest ih =>
      unfold classifyShort
      split
      · simp
      · split
        · simp
        · simp
        · simp
        · cases h : classifyShort options rest <;> simp_all [Word.after]
  unfold classifyShort
  split
  · trivial
  · split
    · simp [Word.IsOption]
    · simp [Word.IsOption]
    · simp [Word.IsOption]
    · cases h : classifyShort options rest with
      | operand => exact absurd h (hgoes rest).1
      | ending => exact absurd h (hgoes rest).2
      | _ => simp [Word.after, Word.IsOption]

theorem classify_isOption (h : plain word = false) (hending : word ≠ "--") :
    (classify options word).IsOption := by
  unfold classify
  split
  · next heq => exact absurd (String.toList_inj.mp heq) hending
  · exact classifyLong_isOption options _
  · exact classifyShort_isOption options _ _
  · next hdash =>
    unfold plain at h
    split at h
    · next letter rest heq => exact absurd heq (hdash letter rest)
    · cases h

theorem read_of_plain (h : plain word = true) (rest : List String) :
    read options (word :: rest) = (read options rest).map (.operand word :: ·) := by
  rw [read, classify_of_plain h]

theorem read_of_not_plain (h : plain word = false) (hending : word ≠ "--")
    (rest : List String) (operand : String) (readings : List Reading) :
    read options (word :: rest) ≠ some (.operand operand :: readings) := by
  have hoption : (classify options word).IsOption := classify_isOption h hending
  intro hread
  rw [read] at hread
  split at hread
  · next hword => rwa [hword] at hoption
  · next hword => rwa [hword] at hoption
  · next found hword =>
    rw [hword] at hoption
    obtain ⟨first, others, rfl, hfirst⟩ := hoption
    obtain ⟨tail, -, heq⟩ := Option.map_eq_some_iff.mp hread
    exact hfirst operand (List.cons.inj heq).1
  · next found name hword =>
    rw [hword] at hoption
    split at hread
    · cases hread
    · obtain ⟨tail, -, heq⟩ := Option.map_eq_some_iff.mp hread
      cases found with
      | nil => cases heq
      | cons first others => exact hoption first others rfl operand (List.cons.inj heq).1
  · cases hread

/-- A part of a command line, with what is meant by it. -/
inductive Piece where
  | operand (word : String)
  /-- `--name value` -/
  | long (name value : String)
  /-- `-l value` -/
  | short (letter : Char) (name value : String)
  /-- `--name=value` -/
  | joined (name value : String)
  /-- `--name` -/
  | flag (name : String)

namespace Piece

def words : Piece → List String
  | .operand word => [word]
  | .long name value => ["--" ++ name, value]
  | .short letter _ value => [String.ofList ['-', letter], value]
  | .joined name value => ["--" ++ name ++ "=" ++ value]
  | .flag name => ["--" ++ name]

def meant : Piece → Reading
  | .operand word => .operand word
  | .long name value | .short _ name value | .joined name value => .option name value
  | .flag name => .flag name

/-- A name of an option has characters, and no equals sign among them. -/
def named (name : String) : Bool := decide (name.toList ≠ []) && decide ('=' ∉ name.toList)

def Known (options : Options) : Piece → Prop
  | .operand _ => True
  | .long name _ => named name = true ∧ options.long name = some true
  | .short letter name _ => letter ≠ '-' ∧ options.short letter = some (name, true)
  | .joined name _ => named name = true ∧ (options.long name).isSome
  | .flag name => named name = true ∧ options.long name = some false

/-- An operand does not look like an option. -/
def isPlain : Piece → Bool
  | .operand word => plain word
  | _ => true

end Piece

variable {name : List Char} {pieces : List Piece}

theorem span_named (h : '=' ∉ name) (rest : List Char) :
    (name ++ '=' :: rest).takeWhile (· ≠ '=') = name ∧
      (name ++ '=' :: rest).dropWhile (· ≠ '=') = '=' :: rest := by
  induction name with
  | nil => simp
  | cons c name ih =>
    obtain ⟨hc, hname⟩ := List.ne_and_not_mem_of_not_mem_cons h
    have hc : c ≠ '=' := hc.symm
    simpa [hc] using ih hname

theorem span_of_named (h : '=' ∉ name) :
    name.takeWhile (· ≠ '=') = name ∧ name.dropWhile (· ≠ '=') = [] := by
  induction name with
  | nil => simp
  | cons c name ih =>
    obtain ⟨hc, hname⟩ := List.ne_and_not_mem_of_not_mem_cons h
    have hc : c ≠ '=' := hc.symm
    simpa [hc] using ih hname

theorem classify_long {options : Options} {name : String} (h : Piece.named name = true)
    (tail : String) :
    classify options ("--" ++ name ++ tail) =
      classifyLong options (name.toList ++ tail.toList) := by
  simp only [Piece.named, Bool.and_eq_true, decide_eq_true_eq] at h
  obtain ⟨c, body, hbody⟩ := List.exists_cons_of_ne_nil h.1
  unfold classify
  simp [hbody]

theorem classify_named {name : String} (h : Piece.named name = true) :
    classify options ("--" ++ name) =
      match options.long name with
      | none => .unknown
      | some true => .wanting [] name
      | some false => .complete [.flag name] := by
  have hword := @classify_long options name h ""
  simp only [Piece.named, Bool.and_eq_true, decide_eq_true_eq] at h
  simp only [String.append_empty, String.toList_empty, List.append_nil] at hword
  rw [hword, classifyLong, (span_of_named h.2).1, (span_of_named h.2).2, String.ofList_toList]
  cases options.long name with
  | none => rfl
  | some takesValue => cases takesValue <;> rfl

theorem classify_joined {name value : String} (h : Piece.named name = true)
    (hknown : (options.long name).isSome = true) :
    classify options ("--" ++ name ++ "=" ++ value) = .complete [.option name value] := by
  have hword := @classify_long options name h ("=" ++ value)
  simp only [Piece.named, Bool.and_eq_true, decide_eq_true_eq] at h
  rw [← String.append_assoc] at hword
  rw [hword]
  have htail : ("=" ++ value).toList = '=' :: value.toList := by simp
  rw [htail, classifyLong, (span_named h.2 _).1, (span_named h.2 _).2, String.ofList_toList]
  obtain ⟨takesValue, htakes⟩ := Option.isSome_iff_exists.mp hknown
  simp [htakes]

theorem read_known {piece : Piece} (hknown : piece.Known options) (hplain : piece.isPlain = true)
    (rest : List String) :
    read options (piece.words ++ rest) = (read options rest).map (piece.meant :: ·) := by
  cases piece with
  | operand word => exact read_of_plain hplain rest
  | long name value =>
    obtain ⟨hnamed, htakes⟩ := hknown
    simp [Piece.words, read, classify_named hnamed, htakes, Piece.meant]
  | short letter name value =>
    obtain ⟨hdash, htakes⟩ := hknown
    have hword : classify options (String.ofList ['-', letter]) = .wanting [] name := by
      unfold classify
      simp [classifyShort, htakes, hdash]
    simp only [Piece.words, List.cons_append, List.nil_append, read, hword, Piece.meant]
  | joined name value =>
    obtain ⟨hnamed, hsome⟩ := hknown
    simp [Piece.words, read, classify_joined hnamed hsome, Piece.meant]
  | flag name =>
    obtain ⟨hnamed, htakes⟩ := hknown
    simp [Piece.words, read, classify_named hnamed, htakes, Piece.meant]

theorem length_words_of_operands {words : List String}
    (h : words.map Reading.operand = pieces.map Piece.meant) :
    (pieces.flatMap Piece.words).length = words.length := by
  induction pieces generalizing words with
  | nil => simp [List.map_eq_nil_iff.mp h]
  | cons piece pieces ih =>
    cases words with
    | nil => cases h
    | cons word words =>
      obtain ⟨hpiece, hrest⟩ := List.cons.inj h
      cases piece with
      | operand operand => simp [Piece.words, ih hrest]
      | _ => cases hpiece

/-- **A command line is read as it is meant** exactly where no operand looks like an
option. -/
theorem read_eq_meant_iff (hknown : ∀ piece ∈ pieces, piece.Known options) :
    read options (pieces.flatMap Piece.words) = some (pieces.map Piece.meant) ↔
      ∀ piece ∈ pieces, piece.isPlain = true := by
  induction pieces with
  | nil => simp [read]
  | cons piece pieces ih =>
    have ih := ih fun other hother => hknown other (List.mem_cons_of_mem _ hother)
    rw [List.flatMap_cons, List.map_cons]
    by_cases hplain : piece.isPlain = true
    · rw [read_known (hknown piece List.mem_cons_self) hplain]
      simp [hplain, ih]
    · simp only [List.forall_mem_cons, hplain, false_and, iff_false, Bool.false_eq_true]
      cases piece with
      | operand word =>
        by_cases hending : word = "--"
        · subst hending
          intro hread
          have hread := Option.some.inj hread
          -- as many words as pieces, and one more
          cases hwords : pieces.flatMap Piece.words with
          | nil => simp [hwords] at hread
          | cons first others =>
            rw [hwords] at hread
            have hcount := length_words_of_operands (List.cons.inj hread).2
            rw [hwords] at hcount
            simp at hcount
        · exact read_of_not_plain (by simpa [Piece.isPlain] using hplain) hending _ word _
      | _ => exact absurd rfl hplain

end CommandLine
