import OrbitalMesh.Base.CommandLine
import OrbitalMesh.Base.SqlText
import OrbitalMesh.Decision.Guards
import OrbitalMesh.Investigation.Harness

/-!
# The read-only tools

Two packs of the harness run a program: one `kubectl` with a verb that reads, one `psql`
with a text of SQL.  What the planner supplies goes into the words of the command, or into
the text.
-/

namespace OrbitalMesh.Investigation

open OrbitalMesh.Decision CommandLine

def argField (type : String) (required : Bool) : Dict :=
  [("type", .str type), ("required", .bool required)]

def nullableField (type : String) : Dict :=
  [("type", .str type), ("required", .bool false), ("nullable", .bool true)]

def baseArgsSchema : Dict :=
  [("context", .obj (nullableField "str")), ("namespace", .obj (nullableField "str"))]

def kubectlDefinitions : List ToolDefinition :=
  [("kubectl_get", baseArgsSchema ++ [("resource_type", .obj (argField "str" true)),
      ("name", .obj (nullableField "str")), ("label_selector", .obj (nullableField "str")),
      ("output_wide", .obj (argField "bool" false)), ("show_labels", .obj (argField "bool" false)),
      ("all_namespaces", .obj (argField "bool" false))]),
    ("kubectl_describe", baseArgsSchema ++ [("resource_type", .obj (argField "str" true)),
      ("name", .obj (argField "str" true))]),
    ("kubectl_logs", baseArgsSchema ++ [("name", .obj (argField "str" true)),
      ("container", .obj (nullableField "str")), ("tail_lines", .obj (argField "int" false)),
      ("previous", .obj (argField "bool" false))])].map
    fun (name, schema) => { name := name, domain := "kubectl", argsSchema := schema }

def postgresDefinitions : List ToolDefinition :=
  [("pg_describe_table", [("table_name", .obj (argField "str" true))]),
    ("pg_explain_query", [("query", .obj (argField "str" true))]),
    ("pg_active_queries", [("min_duration_seconds", .obj (argField "int" false)),
      ("limit", .obj (argField "int" false))])].map
    fun (name, schema) =>
      { name := name, domain := "postgres", argsSchema := schema, budgetCost := 3 / 2 }

/-- `args.get(key) or default`, as a text, where it is true. -/
def textOrDefault (args : Dict) (key : String) (default : Option String) : Option String :=
  if truthyAt args key then some (textOrEmpty args key)
  else default.filter (· ≠ "")

def withValue (option : String) (value : Option String) : List String :=
  match value with
  | some value => [option, value]
  | none => []

/-- `tail_lines`, if it is a positive number. -/
def tailLines (args : Dict) : String :=
  match args.get? "tail_lines" with
  | some (.int n) => if 0 < n then toString n else "200"
  | some (.bool true) => "True"
  | _ => "200"

variable (toolName : String)

def buildArgv (args : Dict) (defaultContext defaultNamespace : Option String) :
    Option (List String) :=
  let base := withValue "--context" (textOrDefault args "context" defaultContext)
  let namespaceName := textOrDefault args "namespace" defaultNamespace
  let resourceType := pyStrip (textOrEmpty args "resource_type")
  let name := pyStrip (textOrEmpty args "name")
  match toolName with
  | "kubectl_get" =>
    if resourceType = "" then none
    else some (base ++ ["get", resourceType] ++
      (if truthyAt args "name" then [textOrEmpty args "name"] else []) ++
      (if truthyAt args "all_namespaces" then ["--all-namespaces"]
        else withValue "-n" namespaceName) ++
      withValue "-l" (textOrDefault args "label_selector" none) ++
      (if truthyAt args "output_wide" then ["-o", "wide"] else []) ++
      (if truthyAt args "show_labels" then ["--show-labels"] else []))
  | "kubectl_describe" =>
    if resourceType = "" ∨ name = "" then none
    else some (base ++ ["describe", resourceType, name] ++ withValue "-n" namespaceName)
  | "kubectl_logs" =>
    if name = "" then none
    else some (base ++ ["logs", name] ++ withValue "-n" namespaceName ++
      withValue "-c" (textOrDefault args "container" none) ++ ["--tail", tailLines args] ++
      (if truthyAt args "previous" then ["--previous"] else []))
  | _ => none

/-- What the regular expressions and `upper` know of the characters. -/
structure UnicodeTables where
  upper : Char → List Char
  /-- `\w` -/
  isWord : Char → Bool

/-- `re.search(rf"\b{verb}\b", text)`, where the character before the text is given to be
one of a word or not. -/
def hasVerb (isWord : Char → Bool) (verb : List Char) : Bool → List Char → Bool
  | _, [] => false
  | after, c :: rest =>
    (!after && verb.isPrefixOf (c :: rest) &&
      !((((c :: rest).drop verb.length).head?.map isWord).getD false)) ||
    hasVerb isWord verb (isWord c) rest

def blockedVerbs : List String :=
  ["INSERT", "UPDATE", "DELETE", "DROP", "ALTER", "TRUNCATE", "GRANT", "REVOKE", "CREATE"]

def hasBlockedVerb (unicode : UnicodeTables) (query : String) : Bool :=
  blockedVerbs.any fun verb =>
    hasVerb unicode.isWord verb.toList false (query.toList.flatMap unicode.upper)

/-- `[a-zA-Z_][a-zA-Z0-9_]*`. -/
def isIdentifier : List Char → Bool
  | [] => false
  | c :: rest => (c.isAlpha || c == '_') && rest.all fun c => c.isAlphanum || c == '_'

def isQualified (text : List Char) : Bool :=
  match text.dropWhile (· ≠ '.') with
  | [] => isIdentifier text
  | _ :: second => isIdentifier (text.takeWhile (· ≠ '.')) && isIdentifier second

/-- `_PG_IDENT_RE.match`; the end of the pattern may be before a last line break. -/
def pgIdentMatch (text : List Char) : Bool :=
  isQualified text || (text.getLast? == some '\n' && isQualified text.dropLast)

/-- The fixed query of `pg_active_queries`. -/
def activeQueries (minSeconds limit : Int) : String :=
  "SELECT pid, state, age(clock_timestamp(), query_start) AS duration, query " ++
    "FROM pg_stat_activity " ++
    "WHERE state = 'active' AND age(clock_timestamp(), query_start) > interval '" ++
    toString minSeconds ++ " seconds' " ++ "ORDER BY duration DESC LIMIT " ++ toString limit

/-- `int(args.get(key) or default)`. -/
def wholeOrDefault (reading : TextReading) (args : Dict) (key : String) (default : Int) :
    Except PyError Int :=
  match args.get? key with
  | some value => if truthy value then pyInt reading value else .ok default
  | none => .ok default

def buildSql (reading : TextReading) (unicode : UnicodeTables) (toolName : String) (args : Dict) :
    Except PyError (Option String) :=
  match toolName with
  | "pg_describe_table" =>
    let table := pyStrip (textOrEmpty args "table_name")
    if pgIdentMatch table.toList then .ok (some ("\\d+ " ++ table)) else .ok none
  | "pg_explain_query" =>
    let query := pyStrip (textOrEmpty args "query")
    if query = "" then .ok none
    else if hasBlockedVerb unicode query then .ok none
    else .ok (some ("EXPLAIN " ++ query))
  | "pg_active_queries" => do
    let minSeconds ← wholeOrDefault reading args "min_duration_seconds" 5
    let limit ← wholeOrDefault reading args "limit" 20
    return some (activeQueries minSeconds (max 1 (min limit 100)))
  | _ => .ok none

def valuePieces (piece : String → Piece) (value : Option String) : List Piece :=
  (value.map piece).toList

def pieceIf (condition : Bool) (piece : Piece) : List Piece := if condition then [piece] else []

def argvPieces (args : Dict)
    (defaultContext defaultNamespace : Option String) : Option (List Piece) :=
  let base := valuePieces (.long "context") (textOrDefault args "context" defaultContext)
  let namespaceName := valuePieces (.short 'n' "namespace")
    (textOrDefault args "namespace" defaultNamespace)
  let resourceType := pyStrip (textOrEmpty args "resource_type")
  let name := pyStrip (textOrEmpty args "name")
  match toolName with
  | "kubectl_get" =>
    if resourceType = "" then none
    else some (base ++ [.operand "get", .operand resourceType] ++
      pieceIf (truthyAt args "name") (.operand (textOrEmpty args "name")) ++
      (if truthyAt args "all_namespaces" then [.flag "all-namespaces"] else namespaceName) ++
      valuePieces (.short 'l' "selector") (textOrDefault args "label_selector" none) ++
      pieceIf (truthyAt args "output_wide") (.short 'o' "output" "wide") ++
      pieceIf (truthyAt args "show_labels") (.flag "show-labels"))
  | "kubectl_describe" =>
    if resourceType = "" ∨ name = "" then none
    else some (base ++ [.operand "describe", .operand resourceType, .operand name] ++
      namespaceName)
  | "kubectl_logs" =>
    if name = "" then none
    else some (base ++ [.operand "logs", .operand name] ++ namespaceName ++
      valuePieces (.short 'c' "container") (textOrDefault args "container" none) ++
      [.long "tail" (tailLines args)] ++ pieceIf (truthyAt args "previous") (.flag "previous"))
  | _ => none

def verbOf : String → String
  | "kubectl_describe" => "describe"
  | "kubectl_logs" => "logs"
  | _ => "get"

/-- What stands among the words without an option before it. -/
def bareWords (args : Dict) : List String :=
  let resourceType := pyStrip (textOrEmpty args "resource_type")
  let name := pyStrip (textOrEmpty args "name")
  match toolName with
  | "kubectl_get" =>
    if resourceType = "" then []
    else resourceType :: if truthyAt args "name" then [textOrEmpty args "name"] else []
  | "kubectl_describe" =>
    if resourceType = "" ∨ name = "" then [] else [resourceType, name]
  | "kubectl_logs" => [name]
  | _ => []

/-- The options that the pack relies on: `kubectl verb` knows them, with a value or
without. -/
structure KubectlOptions (kubectl : String → Options) : Prop where
  context : ∀ verb ∈ ["get", "describe", "logs"], (kubectl verb).long "context" = some true
  namespaceName : ∀ verb ∈ ["get", "describe", "logs"],
    (kubectl verb).short 'n' = some ("namespace", true)
  allNamespaces : (kubectl "get").long "all-namespaces" = some false
  selector : (kubectl "get").short 'l' = some ("selector", true)
  output : (kubectl "get").short 'o' = some ("output", true)
  showLabels : (kubectl "get").long "show-labels" = some false
  container : (kubectl "logs").short 'c' = some ("container", true)
  tail : (kubectl "logs").long "tail" = some true
  previous : (kubectl "logs").long "previous" = some false

section

variable {kubectl : String → Options} {toolName : String} {args : Dict}
  {defaultContext defaultNamespace : Option String}

theorem words_long (name : String) (value : Option String) :
    (valuePieces (.long name) value).flatMap Piece.words = withValue ("--" ++ name) value := by
  cases value <;> rfl

theorem words_short (letter : Char) (name : String) (value : Option String) :
    (valuePieces (.short letter name) value).flatMap Piece.words =
      withValue (String.ofList ['-', letter]) value := by
  cases value <;> rfl

variable (condition : Bool)

theorem words_pieceIf (piece : Piece) :
    (pieceIf condition piece).flatMap Piece.words = if condition then piece.words else [] := by
  cases condition <;> simp [pieceIf]

theorem buildArgv_eq :
    buildArgv toolName args defaultContext defaultNamespace =
      (argvPieces toolName args defaultContext defaultNamespace).map
        (·.flatMap Piece.words) := by
  unfold buildArgv argvPieces
  split
  · rw [apply_ite (Option.map _)]
    simp only [Option.map_none, Option.map_some, List.flatMap_append, words_long, words_short,
      words_pieceIf, apply_ite (List.flatMap Piece.words)]
    rfl
  · rw [apply_ite (Option.map _)]
    simp only [Option.map_none, Option.map_some, List.flatMap_append, words_long, words_short]
    rfl
  · rw [apply_ite (Option.map _)]
    simp only [Option.map_none, Option.map_some, List.flatMap_append, words_long, words_short,
      words_pieceIf]
    rfl
  · rfl

variable {property : Piece → Prop}

theorem forall_mem_valuePieces {piece : String → Piece} (value : Option String)
    (h : ∀ text, property (piece text)) : ∀ other ∈ valuePieces piece value, property other := by
  cases value <;> simp [valuePieces, h]

theorem forall_mem_pieceIf {piece : Piece} :
    (∀ other ∈ pieceIf condition piece, property other) ↔ (condition = true → property piece) := by
  cases condition <;> simp [pieceIf]

theorem forall_mem_ite (pieces others : List Piece) :
    (∀ other ∈ if condition = true then pieces else others, property other) ↔
      if condition = true then ∀ other ∈ pieces, property other
      else ∀ other ∈ others, property other := by
  split <;> rfl

variable {pieces : List Piece}

theorem argvPieces_known (hkubectl : KubectlOptions kubectl)
    (h : argvPieces toolName args defaultContext defaultNamespace = some pieces) :
    ∀ piece ∈ pieces, piece.Known (kubectl (verbOf toolName)) := by
  have hverb : verbOf toolName ∈ ["get", "describe", "logs"] := by
    unfold verbOf
    split <;> decide
  have hcontext : ∀ piece ∈ valuePieces (.long "context")
      (textOrDefault args "context" defaultContext), piece.Known (kubectl (verbOf toolName)) :=
    forall_mem_valuePieces _ fun _ => ⟨by decide, hkubectl.context _ hverb⟩
  have hnamespace : ∀ piece ∈ valuePieces (.short 'n' "namespace")
      (textOrDefault args "namespace" defaultNamespace),
      piece.Known (kubectl (verbOf toolName)) :=
    forall_mem_valuePieces _ fun _ => ⟨by decide, hkubectl.namespaceName _ hverb⟩
  unfold argvPieces at h
  split at h
  · obtain ⟨-, hpieces⟩ := Option.ite_none_left_eq_some.mp h
    cases hpieces
    have hselector : ∀ piece ∈ valuePieces (.short 'l' "selector")
        (textOrDefault args "label_selector" none), piece.Known (kubectl "get") :=
      forall_mem_valuePieces _ fun _ => ⟨by decide, hkubectl.selector⟩
    have houtput : Piece.Known (kubectl "get") (.short 'o' "output" "wide") :=
      ⟨by decide, hkubectl.output⟩
    have hlabels : Piece.Known (kubectl "get") (.flag "show-labels") :=
      ⟨by decide, hkubectl.showLabels⟩
    have hall : Piece.Known (kubectl "get") (.flag "all-namespaces") :=
      ⟨by decide, hkubectl.allNamespaces⟩
    simp only [List.forall_mem_append, forall_mem_pieceIf, forall_mem_ite, List.forall_mem_cons]
    refine ⟨⟨⟨⟨⟨⟨hcontext, trivial, trivial, nofun⟩, fun _ => trivial⟩, ?_⟩, hselector⟩,
      fun _ => houtput⟩, fun _ => hlabels⟩
    split
    · exact ⟨hall, nofun⟩
    · exact hnamespace
  · obtain ⟨-, hpieces⟩ := Option.ite_none_left_eq_some.mp h
    cases hpieces
    simp only [List.forall_mem_append, List.forall_mem_cons]
    exact ⟨⟨hcontext, trivial, trivial, trivial, nofun⟩, hnamespace⟩
  · obtain ⟨-, hpieces⟩ := Option.ite_none_left_eq_some.mp h
    cases hpieces
    have hcontainer : ∀ piece ∈ valuePieces (.short 'c' "container")
        (textOrDefault args "container" none), piece.Known (kubectl "logs") :=
      forall_mem_valuePieces _ fun _ => ⟨by decide, hkubectl.container⟩
    have htail (lines : String) : Piece.Known (kubectl "logs") (.long "tail" lines) :=
      ⟨by decide, hkubectl.tail⟩
    have hprevious : Piece.Known (kubectl "logs") (.flag "previous") :=
      ⟨by decide, hkubectl.previous⟩
    simp only [List.forall_mem_append, forall_mem_pieceIf, List.forall_mem_cons]
    exact ⟨⟨⟨⟨⟨hcontext, trivial, trivial, nofun⟩, hnamespace⟩, hcontainer⟩, htail _, nofun⟩,
      fun _ => hprevious⟩
  · cases h

theorem argvPieces_plain_iff
    (h : argvPieces toolName args defaultContext defaultNamespace = some pieces) :
    (∀ piece ∈ pieces, piece.isPlain = true) ↔
      ∀ word ∈ bareWords toolName args, plain word = true := by
  have hlong (name : String) (value : Option String) :
      (∀ piece ∈ valuePieces (.long name) value, piece.isPlain = true) ↔ True :=
    iff_true_intro (forall_mem_valuePieces _ fun _ => rfl)
  have hshort (letter : Char) (name : String) (value : Option String) :
      (∀ piece ∈ valuePieces (.short letter name) value, piece.isPlain = true) ↔ True :=
    iff_true_intro (forall_mem_valuePieces _ fun _ => rfl)
  have hverbs : plain "get" = true ∧ plain "describe" = true ∧ plain "logs" = true := by decide
  unfold argvPieces at h
  unfold bareWords
  split at h
  · obtain ⟨hne, hpieces⟩ := Option.ite_none_left_eq_some.mp h
    cases hpieces
    rw [if_neg hne]
    simp only [List.forall_mem_append, forall_mem_pieceIf, forall_mem_ite, List.forall_mem_cons,
      hlong, hshort]
    cases truthyAt args "name" <;> simp [Piece.isPlain, hverbs]
  · obtain ⟨hne, hpieces⟩ := Option.ite_none_left_eq_some.mp h
    cases hpieces
    rw [if_neg hne]
    simp only [List.forall_mem_append, List.forall_mem_cons, hlong, hshort]
    simp [Piece.isPlain, hverbs]
  · obtain ⟨hne, hpieces⟩ := Option.ite_none_left_eq_some.mp h
    cases hpieces
    simp only [List.forall_mem_append, forall_mem_pieceIf, List.forall_mem_cons, hlong, hshort]
    simp [Piece.isPlain, hverbs]
  · cases h

theorem bareWords_of_none
    (h : argvPieces toolName args defaultContext defaultNamespace = none) :
    ∀ word ∈ bareWords toolName args, plain word = true := by
  unfold argvPieces at h
  unfold bareWords
  split at h
  · rw [if_pos (by simpa using h)]
    nofun
  · rw [if_pos (by simpa [or_iff_not_imp_left] using h)]
    nofun
  · have hempty : pyStrip (textOrEmpty args "name") = "" := by simpa using h
    rw [hempty]
    decide
  · nofun

end

/-- A text for `psql` that executes nothing: `\d+` of one name, a plain `EXPLAIN`, or the fixed
query. -/
inductive HarmlessSql (sql : String) : Prop where
  | describe (name : String) (hname : isQualified name.toList = true) (hsql : sql = "\\d+ " ++ name)
  | explain (query : String) (hsql : sql = "EXPLAIN " ++ query)
      (hplain : ∀ tokens ∈ SqlText.tokens sql, SqlText.plainExplain tokens = true)
  | active (minSeconds limit : Int) (hone : 1 ≤ limit) (hmany : limit ≤ 100)
      (hsql : sql = activeQueries minSeconds limit)

variable (query : String)

/-- The query alone: one statement, which does not begin with what asks for `ANALYZE`. -/
def PlainQuery : Prop :=
  ∀ tokens ∈ SqlText.tokens query,
    SqlText.oneStatement tokens = true ∧ SqlText.asksAnalyze tokens = false

instance (query : String) : Decidable (PlainQuery query) :=
  inferInstanceAs (Decidable (∀ tokens ∈ SqlText.tokens query, _))

theorem getLast?_pyStrip_ne (text : String) : (pyStrip text).toList.getLast? ≠ some '\n' := by
  intro hlast
  have hhead := List.head?_dropWhile_not isPySpace (text.toList.dropWhile isPySpace).reverse
  rw [pyStrip, String.toList_ofList, List.getLast?_reverse] at hlast
  rw [hlast] at hhead
  exact absurd hhead (by decide)

theorem plainExplain_iff :
    (∀ tokens ∈ SqlText.tokens ("EXPLAIN " ++ query), SqlText.plainExplain tokens = true) ↔
      PlainQuery query := by
  rw [SqlText.tokens_explain]
  unfold PlainQuery
  cases SqlText.tokens query <;> simp [SqlText.plainExplain]

theorem head?_activeQueries (minSeconds limit : Int) :
    (activeQueries minSeconds limit).toList.head? = some 'S' := by
  unfold activeQueries
  simp only [String.toList_append, List.append_assoc]
  rw [List.head?_append, Option.or_of_isSome (by decide +kernel)]
  decide +kernel

theorem harmless_explain_iff : HarmlessSql ("EXPLAIN " ++ query) ↔ PlainQuery query := by
  rw [← plainExplain_iff]
  constructor
  · rintro (⟨name, -, hsql⟩ | ⟨other, hsql, hplain⟩ | ⟨minSeconds, limit, -, -, hsql⟩)
    · have hfirst := congrArg (fun text => text.toList.head?) hsql
      simp at hfirst
    · exact hplain
    · have hfirst := congrArg (fun text => text.toList.head?) hsql
      simp [head?_activeQueries] at hfirst
  · exact fun hplain => .explain query rfl hplain

/-- What a call of the packs may do: a `kubectl` whose words are read as they are meant, or
a text that executes nothing. -/
structure ReadOnly (kubectl : String → Options) (reading : TextReading) (unicode : UnicodeTables)
    (defaultContext defaultNamespace : Option String) (call : ToolCall) : Prop where
  words : call.domain = "kubectl" →
    ∀ argv ∈ buildArgv call.toolName call.args defaultContext defaultNamespace,
      ∃ pieces ∈ argvPieces call.toolName call.args defaultContext defaultNamespace,
        argv = pieces.flatMap Piece.words ∧
          read (kubectl (verbOf call.toolName)) argv = some (pieces.map Piece.meant)
  text : call.domain = "postgres" →
    ∀ sql, buildSql reading unicode call.toolName call.args = .ok (some sql) → HarmlessSql sql

/-- No word of the planner looks like an option, and no query is more than explained. -/
structure Tame (unicode : UnicodeTables) (call : ToolCall) : Prop where
  words : call.domain = "kubectl" → ∀ word ∈ bareWords call.toolName call.args, plain word = true
  query : call.domain = "postgres" → call.toolName = "pg_explain_query" →
    let query := pyStrip (textOrEmpty call.args "query")
    query = "" ∨ hasBlockedVerb unicode query = true ∨ PlainQuery query

/-- The other two texts are harmless, whatever the arguments. -/
theorem harmless_of_buildSql {reading : TextReading} {unicode : UnicodeTables} {toolName : String}
    {args : Dict} {sql : String} (hother : toolName ≠ "pg_explain_query")
    (h : buildSql reading unicode toolName args = .ok (some sql)) : HarmlessSql sql := by
  unfold buildSql at h
  split at h
  · dsimp only at h
    split at h
    · next hmatch =>
      cases h
      refine .describe _ ?_ rfl
      simp only [pgIdentMatch, Bool.or_eq_true, Bool.and_eq_true, beq_iff_eq] at hmatch
      exact hmatch.resolve_right fun hlast => getLast?_pyStrip_ne _ hlast.1
    · cases h
  · exact absurd rfl hother
  · obtain ⟨minSeconds, -, h⟩ := bind_ok h
    obtain ⟨limit, -, h⟩ := bind_ok h
    cases h
    exact .active minSeconds _ (by omega) (by omega) rfl
  · cases h

def readOptions (_verb : String) : Options where
  long name :=
    if name ∈ ["context", "namespace", "tail", "kubeconfig", "server", "selector"] then some true
    else if name ∈ ["all-namespaces", "show-labels", "previous"] then some false
    else none
  short letter :=
    [('n', ("namespace", true)), ('l', ("selector", true)), ('o', ("output", true)),
      ('c', ("container", true))].lookup letter

theorem readOptions_spec : KubectlOptions readOptions where
  context := by decide
  namespaceName := by decide
  allNamespaces := by decide
  selector := by decide
  output := by decide
  showLabels := by decide
  container := by decide
  tail := by decide
  previous := by decide

def asciiTables : UnicodeTables where
  upper c := [c.toUpper]
  isWord c := c.isAlphanum || c == '_'

def packCritic : LoopCritic where
  registry :=
    { tools := (kubectlDefinitions ++ postgresDefinitions).map fun definition =>
        (definition, fun _ => .ok {}) }

def explainCall : ToolCall where
  callId := "call_1"
  toolName := "pg_explain_query"
  domain := "postgres"
  args := [("query", .str query)]

def getCall (name : String) : ToolCall where
  callId := "call_2"
  toolName := "kubectl_get"
  domain := "kubectl"
  args := [("resource_type", .str "pods"), ("name", .str name)]

end OrbitalMesh.Investigation
