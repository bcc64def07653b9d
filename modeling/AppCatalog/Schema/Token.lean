import AppCatalog.Text.Repetition

/-!
# Tokens of a definition

The text with which a table, an index, a view or a trigger was defined, cut into tokens. Blanks and
comments are dropped, but a token remembers what was before it, so that a part of the text can be
given back as it was written. A character that starts no token, and a token that is not ended, are
tokens of their own: they are noticed only if somebody gets there.
-/

namespace AppCatalog

/-- What a token is. -/
inductive TokenKind where
  /-- A name, in quotes or not. -/
  | name
  /-- A word with a meaning of its own, in capital letters. -/
  | word (word : String)
  | string
  | bytes
  | integer
  | float
  | variable
  | symbol
  /-- What is no token. -/
  | illegal
  /-- The end of the text. -/
  | stop
  deriving Repr, DecidableEq

/-- A token. -/
structure Token where
  kind : TokenKind
  text : String
  /-- The blanks and comments before it. -/
  lead : String := ""
  deriving Repr, DecidableEq

namespace Token

/-! ## Words -/

/-- Words that are never names. -/
def reserved : List String :=
  ["ADD", "ALL", "ALTER", "AND", "AS", "AUTOINCREMENT", "BETWEEN", "CASE", "CHECK", "COLLATE",
    "COMMIT", "CONSTRAINT", "CREATE", "DEFAULT", "DEFERRABLE", "DELETE", "DISTINCT", "DROP",
    "ELSE", "ESCAPE", "EXCEPT", "EXISTS", "FOREIGN", "FROM", "GROUP", "HAVING", "IN", "INDEX",
    "INSERT", "INTERSECT", "INTO", "IS", "ISNULL", "JOIN", "LIMIT", "NOT", "NOTHING", "NOTNULL",
    "NULL", "ON", "OR", "ORDER", "PRIMARY", "REFERENCES", "RETURNING", "SELECT", "SET", "TABLE",
    "THEN", "TO", "TRANSACTION", "UNION", "UNIQUE", "UPDATE", "USING", "VALUES", "WHEN", "WHERE"]

/-- Words that join tables, or say with which index; they are names of things, but not of
types. -/
def joining : List String :=
  ["CROSS", "FULL", "INDEXED", "INNER", "LEFT", "NATURAL", "OUTER", "RIGHT"]

/-- Words that are names where they have no meaning of their own. -/
def yielding : List String :=
  ["ABORT", "ACTION", "AFTER", "ALWAYS", "ANALYZE", "ASC", "ATTACH", "BEFORE", "BEGIN", "BY",
    "CASCADE", "CAST", "COLUMN", "CONFLICT", "CURRENT", "CURRENT_DATE", "CURRENT_TIME",
    "CURRENT_TIMESTAMP", "DATABASE", "DEFERRED", "DESC", "DETACH", "DO", "EACH", "END", "EXCLUDE",
    "EXCLUSIVE", "EXPLAIN", "FAIL", "FIRST", "FOLLOWING", "FOR", "GENERATED", "GLOB", "GROUPS",
    "IF", "IGNORE", "IMMEDIATE", "INITIALLY", "INSTEAD", "KEY", "LAST", "LIKE", "MATCH",
    "MATERIALIZED", "NO", "NULLS", "OF", "OFFSET", "OTHERS", "PARTITION", "PLAN", "PRAGMA",
    "PRECEDING", "QUERY", "RAISE", "RANGE", "RECURSIVE", "REGEXP", "REINDEX", "RELEASE", "RENAME",
    "REPLACE", "RESTRICT", "ROLLBACK", "ROW", "ROWS", "SAVEPOINT", "TEMP", "TEMPORARY", "TIES",
    "TRIGGER", "UNBOUNDED", "VACUUM", "VIEW", "VIRTUAL", "WITH", "WITHOUT"]

/-- What a word is. -/
def kindOfWord (text : String) : TokenKind :=
  let word := text.toUpper
  if reserved.contains word || joining.contains word || yielding.contains word then .word word
  else .name

/-- Whether a token is a word. -/
def isWord (word : String) (token : Token) : Bool := token.kind = .word word

/-- Whether a token is a symbol. -/
def isSymbol (text : String) (token : Token) : Bool := token.kind = .symbol && token.text = text

/-- Whether a token can be a name in any place. -/
def isPlainName (token : Token) : Bool :=
  match token.kind with
  | .name => true
  | .word word => yielding.contains word
  | _ => false

/-- Whether a token can be the name of a thing. -/
def isName (token : Token) : Bool :=
  match token.kind with
  | .string => true
  | .word word => yielding.contains word || joining.contains word
  | kind => kind = .name

/-! ## Quotes -/

/-- Takes doubled quotes for single ones up to a quote that is not doubled. -/
def untilQuote (quote : Char) : List Char → List Char
  | [] => []
  | [c] => if c = quote then [] else [c]
  | c :: d :: rest =>
    if c ≠ quote then c :: untilQuote quote (d :: rest)
    else if d = quote then c :: untilQuote quote rest
    else []

/-- A name or a string without its quotes, if it has any. -/
def unquote (text : String) : String :=
  match text.toList with
  | [] => text
  | c :: rest =>
    if c = '"' ∨ c = '\'' ∨ c = '\x60' then String.ofList (untilQuote c rest)
    else if c = '[' then String.ofList (rest.takeWhile (· ≠ ']'))
    else text

/-- The name that a token is. -/
def value (token : Token) : String := unquote token.text

/-- Whether a name stands in double quotes. -/
def isDoubleQuoted (token : Token) : Bool := token.text.toList.head? = some '"'

/-! ## Characters -/

/-- Whether a character ends blanks no more than it starts them. -/
def isBlank (c : Char) : Bool := c = ' ' || ('\x09' ≤ c && c ≤ '\x0d')

/-- Whether a character can start blanks. -/
def startsBlank (c : Char) : Bool := isBlank c && c ≠ '\x0b'

/-- Whether a character can be part of a name. -/
def isNameChar (c : Char) : Bool := c.isAlphanum || c = '_' || c = '$' || '\x7f' < c

/-- Whether a character can start a name. -/
def startsName (c : Char) : Bool := c.isAlpha || c = '_' || '\x7f' < c

/-- Whether a character is a hexadecimal digit. -/
def isHex (c : Char) : Bool := c.isDigit || ('a' ≤ c && c ≤ 'f') || ('A' ≤ c && c ≤ 'F')

/-! ## Scanning -/

/-- How many characters there are up to the end of a comment. -/
def commentEnd : List Char → Nat
  | '*' :: '/' :: _ => 2
  | _ :: rest => commentEnd rest + 1
  | [] => 0

/-- How many characters there are up to a quote that is not doubled, if there is one. -/
def quoteEnd (quote : Char) : List Char → Option Nat
  | [] => none
  | [c] => if c = quote then some 1 else none
  | c :: d :: rest =>
    if c ≠ quote then (quoteEnd quote (d :: rest)).map (· + 1)
    else if d = quote then (quoteEnd quote rest).map (· + 2)
    else some 1

/-- The number of digits at the front. -/
def digits (cs : List Char) : Nat := (cs.takeWhile fun c => c.isDigit || c = '_').length

/-- The number of characters of an exponent at the front. -/
def exponent (cs : List Char) : Nat :=
  match cs with
  | e :: c :: rest =>
    if e ≠ 'e' ∧ e ≠ 'E' then 0
    else if c.isDigit then 1 + digits (c :: rest)
    else if (c = '+' ∨ c = '-') ∧ (rest.head?.any Char.isDigit) then 2 + digits rest
    else 0
  | _ => 0

/-- The number at the front: what it is, and its number of characters. -/
def number (cs : List Char) : TokenKind × Nat :=
  let hex := match cs with
    | '0' :: x :: rest =>
      if (x = 'x' ∨ x = 'X') ∧ rest.head?.any isHex then
        some (2 + (rest.takeWhile fun c => isHex c || c = '_').length)
      else none
    | _ => none
  let (kind, size) : TokenKind × Nat := match hex with
    | some size => (.integer, size)
    | none =>
      let whole := digits cs
      let point := match cs.drop whole with
        | '.' :: rest => 1 + digits rest
        | _ => 0
      let power := exponent (cs.drop (whole + point))
      (if point + power = 0 then .integer else .float, whole + point + power)
  let more := ((cs.drop size).takeWhile isNameChar).length
  if more = 0 then (kind, size) else (.illegal, size + more)

/-- The characters of the name of a variable: two colons in a row and a suffix in parentheses are
part of it. The answer is their number, and whether the variable is complete. -/
def variableFrom : (named : Bool) → List Char → Nat × Bool
  | named, [] => (0, named)
  | named, c :: rest =>
    if isNameChar c then
      let (size, isWhole) := variableFrom true rest
      (size + 1, isWhole)
    else if c = '(' ∧ named then
      let inner := (rest.takeWhile fun c => !isBlank c && c ≠ ')').length
      match rest.drop inner with
      | ')' :: _ => (inner + 2, true)
      | _ => (inner + 1, false)
    else
      match c, rest with
      | ':', ':' :: rest =>
        let (size, isWhole) := variableFrom named rest
        (size + 2, isWhole)
      | _, _ => (0, named)

/-- Symbols of two and three characters; no symbol is the start of one before it. -/
def longSymbols : List String := ["->>", "->", "==", "<=", "<>", "<<", ">=", ">>", "!=", "||"]

/-- Symbols of one character. -/
def shortSymbols : List Char :=
  ['(', ')', ';', '+', '-', '*', '/', '%', '=', '<', '>', '|', ',', '&', '~', '.']

/-- A token in quotes at the front. -/
def quotedToken (quote : Char) (rest : List Char) : TokenKind × Nat :=
  match quoteEnd quote rest with
  | some size => (if quote = '\'' then .string else .name, size + 1)
  | none => (.illegal, rest.length + 1)

/-- Plain bytes, written in hexadecimal digits, behind the letter that starts them. -/
def bytesToken (rest : List Char) : TokenKind × Nat :=
  let size := ((rest.drop 1).takeWhile isHex).length
  match rest.drop (size + 1) with
  | '\'' :: _ =>
    if size % 2 = 0 then (.bytes, size + 3) else (.illegal, size + 3)
  | more =>
    let bad := (more.takeWhile (· ≠ '\'')).length
    (.illegal, min (size + bad + 3) (rest.length + 1))

/-- The token at the front of a text that does not start with a blank: what it is, and its number
of characters. -/
def scan (cs : List Char) : TokenKind × Nat :=
  match cs with
  | [] => (.stop, 0)
  | c :: rest =>
    let next := rest.headD ' '
    if c.isDigit ∨ (c = '.' ∧ next.isDigit) then number cs
    else if (c = 'x' ∨ c = 'X') ∧ next = '\'' then bytesToken rest
    else if startsName c then
      let size := (cs.takeWhile isNameChar).length
      (kindOfWord (String.ofList (cs.take size)), size)
    else if c = '"' ∨ c = '\'' ∨ c = '\x60' then quotedToken c rest
    else if c = '[' then
      let size := (rest.takeWhile (· ≠ ']')).length
      if size < rest.length then (.name, size + 2) else (.illegal, size + 1)
    else if c = '?' then (.variable, 1 + (rest.takeWhile Char.isDigit).length)
    else if c = '$' ∨ c = '@' ∨ c = '#' ∨ c = ':' then
      let (size, isWhole) := variableFrom false rest
      (if isWhole then .variable else .illegal, size + 1)
    else
      match longSymbols.find? fun symbol => symbol.toList.isPrefixOf cs with
      | some symbol => (.symbol, symbol.length)
      | none => if shortSymbols.contains c then (.symbol, 1) else (.illegal, 1)

/-- The number of characters of a blank or comment at the front, zero if there is none. -/
def blankSize (cs : List Char) : Nat :=
  match cs with
  | '-' :: '-' :: rest => 2 + (rest.takeWhile (· ≠ '\n')).length
  | '/' :: '*' :: c :: rest => 3 + min (commentEnd (c :: rest) - 1) rest.length
  | '\uFEFF' :: _ => 1
  | c :: rest => if startsBlank c then 1 + (rest.takeWhile isBlank).length else 0
  | [] => 0

/-- Cuts a text into tokens, the last of which is the end of the text. -/
def cut : (rounds : Nat) → (lead : List Char) → List Char → List Token
  | 0, _, _ => [⟨.stop, "", ""⟩]
  | rounds + 1, lead, cs =>
    let blank := blankSize cs
    if blank ≠ 0 then cut rounds (lead ++ cs.take blank) (cs.drop blank)
    else
      let (kind, size) := scan cs
      let token : Token := ⟨kind, String.ofList (cs.take size), String.ofList lead⟩
      if size = 0 then [token] else token :: cut rounds [] (cs.drop size)

/-- The tokens of a text. -/
def ofText (text : String) : List Token :=
  let cs := text.toList
  cut (2 * cs.length + 1) [] cs

/-- The text of tokens as it was written, without the blanks before the first one. -/
def written : List Token → String
  | [] => ""
  | first :: tokens => tokens.foldl (fun text token => text ++ token.lead ++ token.text) first.text

end Token
end AppCatalog
