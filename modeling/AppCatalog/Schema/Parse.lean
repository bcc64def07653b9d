import AppCatalog.Schema.Expression
import AppCatalog.Schema.Token

/-!
# Reading tokens

How a definition is read: token by token, always deciding by the next one. What cannot go on with
the next token complains about just that token, so the complaint is about the first token with
which no definition can start like this.
-/

namespace AppCatalog

/-- Reads something off the front of tokens, or complains. -/
abbrev Parse : Type → Type := StateT (List Token) (Except String)

namespace Parse

/-- The end of all tokens. -/
def stop : Token := ⟨.stop, "", ""⟩

/-- The next token. -/
def peek : Parse Token := return (← get).headD stop

/-- The token after some others. -/
def peekAfter (count : Nat) : Parse Token := return (← get).getD count stop

/-- What is said about a token that must not be where it is. -/
def complaint (token : Token) : String :=
  match token.kind with
  | .illegal => "unrecognized token: \"" ++ token.text ++ "\""
  | .stop => "incomplete input"
  | _ => "near \"" ++ token.text ++ "\": syntax error"

/-- Complains about the next token. -/
def fail {α : Type} : Parse α := do throw (complaint (← peek))

/-- Objects to what was read. A next token that is none at all is noticed before. -/
def object {α : Type} (objection : String) : Parse α := do
  if (← peek).kind = .illegal then fail else throw objection

/-- Takes the next token. -/
def next : Parse Token := do
  let token ← peek
  modify List.tail
  return token

/-- Takes the next token if it is some word; the answer says whether it is. -/
def acceptWord (word : String) : Parse Bool := do
  if (← peek).isWord word then
    modify List.tail
    return true
  else return false

/-- Takes the next token if it is some symbol; the answer says whether it is. -/
def acceptSymbol (text : String) : Parse Bool := do
  if (← peek).isSymbol text then
    modify List.tail
    return true
  else return false

/-- Takes a word that must come next. -/
def word (word : String) : Parse Unit := do
  unless ← acceptWord word do fail

/-- Takes a symbol that must come next. -/
def symbol (text : String) : Parse Unit := do
  unless ← acceptSymbol text do fail

/-- Takes one of some words, if one comes next. -/
def acceptAny (words : List String) : Parse (Option String) := do
  match (← peek).kind with
  | .word word =>
    if words.contains word then
      modify List.tail
      return some word
    else return none
  | _ => return none

/-- Takes one of some words, which must come next. -/
def anyWord (words : List String) : Parse String := do
  match ← acceptAny words with
  | some word => return word
  | none => fail

/-- Takes the name of a thing. -/
def name : Parse String := do
  if (← peek).isName then return (← next).value else fail

/-- Takes a name or a string. -/
def label : Parse String := do
  let token ← peek
  if token.isPlainName || token.kind = .string then return (← next).value else fail

/-- Takes a name or a string, if one comes next. -/
def label? : Parse (Option String) := do
  let token ← peek
  if token.isPlainName || token.kind = .string then return some (← next).value else return none

/-- Takes a name, and the name of its database if it stands before it. -/
def qualifiedName : Parse (Option String × String) := do
  let first ← name
  if ← acceptSymbol "." then return (some first, ← name) else return (none, first)

/-- Takes things with commas between them, at most so many. -/
def separated {α : Type} (item : Parse α) : (rounds : Nat) → Parse (List α)
  | 0 => fail
  | rounds + 1 => do
    let first ← item
    if ← acceptSymbol "," then return first :: (← separated item rounds) else return [first]

/-- Takes things with commas between them. -/
def list {α : Type} (item : Parse α) : Parse (List α) := do
  separated item (← get).length

/-- Takes things with commas between them in parentheses. -/
def parenthesized {α : Type} (item : Parse α) : Parse (List α) := do
  symbol "("
  let items ← list item
  symbol ")"
  return items

/-- Takes something together with its text. -/
def withText {α : Type} (item : Parse α) : Parse (α × String) := do
  let before ← get
  let found ← item
  let count := before.length - (← get).length
  return (found, Token.written (before.take count))

/-- Takes the name of a type, perhaps with one or two numbers; it may be missing. -/
def typeName : Parse String := do
  let before ← get
  let mut isNamed := false
  for _ in before do
    match ← label? with
    | some _ => isNamed := true
    | none => break
  if isNamed then
    if ← acceptSymbol "(" then
      signedNumber
      if ← acceptSymbol "," then signedNumber
      symbol ")"
  let count := before.length - (← get).length
  return Token.unquote (Token.written (before.take count))
where
  /-- Takes a number with or without a sign. -/
  signedNumber : Parse Unit := do
    unless ← acceptSymbol "+" do discard (acceptSymbol "-")
    let token ← peek
    if token.kind = .integer ∨ token.kind = .float then discard next else fail

/-- What a word says about conflicts. -/
def onConflictOf : String → OnConflict
  | "ROLLBACK" => .rollback
  | "FAIL" => .fail
  | "IGNORE" => .ignore
  | "REPLACE" => .replace
  | _ => .abort

/-- Takes what is to be done on a conflict. -/
def resolution : Parse OnConflict := do
  return onConflictOf (← anyWord ["ROLLBACK", "ABORT", "FAIL", "IGNORE", "REPLACE"])

/-- Takes what is to be done on a conflict, if that is said. -/
def onConflict? : Parse (Option OnConflict) := do
  if ← acceptWord "ON" then
    word "CONFLICT"
    return some (← resolution)
  else return none

/-- Takes a direction of an order; the answer says whether it descends. -/
def direction : Parse Bool := do
  return (← acceptAny ["ASC", "DESC"]) = some "DESC"

/-- Reads all of some tokens; a semicolon may end them, and more may stand behind it. -/
def runAll {α : Type} (item : Parse α) (tokens : List Token) : Except String α := do
  let (found, rest) ← item.run tokens
  match rest with
  | [] => return found
  | token :: more =>
    if token.isSymbol ";" then
      match more.head? with
      | some token => if token.kind = .illegal then throw (complaint token) else return found
      | none => return found
    else if token.kind = .stop then return found
    else throw (complaint token)

end Parse
end AppCatalog
