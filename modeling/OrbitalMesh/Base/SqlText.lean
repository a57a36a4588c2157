import Mathlib.Data.List.Basic

/-!
# SQL texts

The lexical structure of SQL, as PostgreSQL has it: words, quoted names, strings with and
without escapes, dollar quotes, comments that nest, and the signs that the structure of a
text hangs on.  A text is read character by character.  Of the statements themselves only
this much is looked at: where one ends, and how an `EXPLAIN` begins.
-/

namespace SqlText

/-- A token.  Words are in lower case; a sign is anything that is not told apart. -/
inductive Token where
  | word (text : String)
  | name (text : String)
  /-- a name with Unicode escapes, which may stand for any name -/
  | escapedName
  | text
  | openParen
  | closeParen
  | comma
  | terminator
  | sign
deriving DecidableEq

/-- Where the reading of a text stands. -/
inductive Mode where
  | outside
  /-- the characters of the word so far, the last first -/
  | word (reversed : List Char)
  | text (escapes : Bool)
  | afterBackslash
  /-- after a quote that ends the text, unless another quote follows -/
  | textQuote (escapes : Bool)
  | name (escaped : Bool) (reversed : List Char)
  | nameQuote (escaped : Bool) (reversed : List Char)
  /-- after `u&` -/
  | unicode
  | dash
  | slash
  | lineComment
  | blockComment (depth : Nat)
  | blockSlash (depth : Nat)
  | blockStar (depth : Nat)
  /-- after a dollar sign: the tag so far, the last character first -/
  | tag (reversed : List Char)
  /-- in a dollar quote: its last line so far, the last character first -/
  | dollar (tag reversed : List Char)

variable (reversed : List Char) (c : Char)

def isSpace : Bool := c ∈ [' ', '\t', '\n', '\r', '\x0b', '\x0c']

/-- A character that a name can begin with. -/
def isStart : Bool := c.isAlpha || c == '_' || 128 ≤ c.toNat

def isWordChar : Bool := isStart c || c.isDigit || c == '$'

def wordOf : Token :=
  .word (String.ofList (reversed.reverse.map Char.toLower))

/-- The next character, between tokens. -/
def outsideStep : List Token × Mode :=
  if isSpace c then ([], .outside)
  else if isStart c || c.isDigit then ([], .word [c])
  else if c = '\'' then ([], .text false)
  else if c = '"' then ([], .name false [])
  else if c = '-' then ([], .dash)
  else if c = '/' then ([], .slash)
  else if c = '$' then ([], .tag [])
  else if c = '(' then ([.openParen], .outside)
  else if c = ')' then ([.closeParen], .outside)
  else if c = ',' then ([.comma], .outside)
  else if c = ';' then ([.terminator], .outside)
  else ([.sign], .outside)

def outsideAfter (tokens : List Token) (c : Char) : List Token × Mode :=
  ((tokens ++ (outsideStep c).1), (outsideStep c).2)

def wordStep : List Token × Mode :=
  if isWordChar c then ([], .word (c :: reversed))
  else if c = '\'' && (reversed == ['e'] || reversed == ['E']) then ([], .text true)
  else if c = '&' && (reversed == ['u'] || reversed == ['U']) then ([], .unicode)
  else outsideAfter [wordOf reversed] c

def step : Mode → Char → List Token × Mode
  | .outside, c => outsideStep c
  | .word reversed, c => wordStep reversed c
  | .text escapes, c =>
    if c = '\'' then ([], .textQuote escapes)
    else if escapes && c = '\\' then ([], .afterBackslash)
    else ([], .text escapes)
  | .afterBackslash, _ => ([], .text true)
  | .textQuote escapes, c =>
    if c = '\'' then ([], .text escapes) else outsideAfter [.text] c
  | .name escaped reversed, c =>
    if c = '"' then ([], .nameQuote escaped reversed) else ([], .name escaped (c :: reversed))
  | .nameQuote escaped reversed, c =>
    if c = '"' then ([], .name escaped (c :: reversed))
    else outsideAfter [if escaped then .escapedName else .name (String.ofList reversed.reverse)] c
  | .unicode, c =>
    if c = '"' then ([], .name true [])
    else if c = '\'' then ([], .text false)
    else outsideAfter [.word "u", .sign] c
  | .dash, c => if c = '-' then ([], .lineComment) else outsideAfter [.sign] c
  | .slash, c => if c = '*' then ([], .blockComment 0) else outsideAfter [.sign] c
  | .lineComment, c => ([], if c = '\n' || c = '\r' then .outside else .lineComment)
  | .blockComment depth, c =>
    ([], if c = '/' then .blockSlash depth else if c = '*' then .blockStar depth
      else .blockComment depth)
  | .blockSlash depth, c =>
    ([], if c = '*' then .blockComment (depth + 1) else if c = '/' then .blockSlash depth
      else .blockComment depth)
  | .blockStar depth, c =>
    ([], if c = '/' then (match depth with
        | 0 => .outside
        | depth + 1 => .blockComment depth)
      else if c = '*' then .blockStar depth else .blockComment depth)
  | .tag reversed, c =>
    if c = '$' then ([], .dollar reversed.reverse [])
    else if isStart c || (c.isDigit && reversed ≠ []) then ([], .tag (c :: reversed))
    else if reversed = [] then outsideAfter [.sign] c
    else ((.sign :: (wordStep reversed c).1), (wordStep reversed c).2)
  | .dollar tag reversed, c =>
    if (('$' :: tag.reverse) ++ ['$']).isPrefixOf (c :: reversed) then ([.text], .outside)
    else ([], .dollar tag (c :: reversed))

/-- The tokens that are open at the end of a text; nothing where it ends too early. -/
def finish : Mode → Option (List Token)
  | .outside | .lineComment => some []
  | .word reversed => some [wordOf reversed]
  | .textQuote _ => some [.text]
  | .nameQuote escaped reversed =>
    some [if escaped then .escapedName else .name (String.ofList reversed.reverse)]
  | .unicode => some [.word "u", .sign]
  | .dash | .slash => some [.sign]
  | .tag reversed => some (.sign :: if reversed = [] then [] else [wordOf reversed])
  | .text _ | .afterBackslash | .name _ _ | .blockComment _ | .blockSlash _ | .blockStar _
  | .dollar _ _ => none

def lex : Mode → List Char → Option (List Token)
  | mode, [] => finish mode
  | mode, c :: rest => (lex (step mode c).2 rest).map ((step mode c).1 ++ ·)

def tokens (text : String) : Option (List Token) := lex .outside text.toList

def oneStatement (tokens : List Token) : Bool :=
  (tokens.dropWhile (· ≠ .terminator)).all (· = .terminator)

def optionNames : Bool → List Token → List Token
  | _, [] => []
  | _, .closeParen :: _ => []
  | _, .comma :: rest => optionNames true rest
  | true, token :: rest => token :: optionNames false rest
  | false, _ :: rest => optionNames false rest

/-- The name of the option that executes the statement. -/
def isAnalyze (token : Token) : Bool :=
  token ∈ [.word "analyze", .word "analyse", .name "analyze", .escapedName]

/-- What follows `EXPLAIN` asks for `ANALYZE`: as its first word, or in a list of options.
What begins with a parenthesis and a query is no such list. -/
def asksAnalyze : List Token → Bool
  | .word text :: _ => text ∈ ["analyze", "analyse"]
  | .openParen :: rest =>
    match rest with
    | .openParen :: _ => false
    | .word text :: _ =>
      text ∉ ["select", "values", "with", "table"] && (optionNames true rest).any isAnalyze
    | rest => (optionNames true rest).any isAnalyze
  | _ => false

/-- A plain `EXPLAIN`: one statement, whose query is not executed. -/
def plainExplain : List Token → Bool
  | .word "explain" :: rest => oneStatement rest && !asksAnalyze rest
  | _ => false

theorem tokens_explain (rest : String) :
    tokens ("EXPLAIN " ++ rest) = (tokens rest).map (.word "explain" :: ·) := by
  unfold tokens
  simp [lex, step, outsideStep, outsideAfter, wordStep, wordOf, isSpace, isStart, isWordChar]
  cases lex .outside rest.toList <;> rfl

end SqlText
