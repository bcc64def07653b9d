import AppCatalog.Text.Digit
import AppCatalog.Text.Repetition

/-!
# TOML lexemes

Blanks, comments and line ends; the four kinds of quoted text; keys and dotted keys. Every
reader takes its lexeme off the front of the characters or declines.
-/

namespace AppCatalog.Toml

/-- A reader takes a lexeme off the front of the characters, or declines. -/
abbrev Reader (α : Type) : Type := Text.Step Char α

/-! ## Blanks, comments, line ends -/

/-- A space or a tab. -/
def isBlank (c : Char) : Bool :=
  c = ' ' || c = '\t'

/-- A character that may stand anywhere in a line: a tab, or no control. -/
def isPlain (c : Char) : Bool :=
  c = '\t' || (0x20 ≤ c.toNat && c.toNat ≠ 0x7F)

/-- Drops spaces and tabs. -/
def skipBlanks (s : List Char) : List Char :=
  s.dropWhile isBlank

/-- Drops a comment, up to the end of its line. -/
def skipComment : List Char → List Char
  | '#' :: s => s.dropWhile isPlain
  | s => s

/-- A line feed, alone or after a carriage return. -/
def newline : List Char → Option (List Char)
  | '\n' :: s => some s
  | '\r' :: '\n' :: s => some s
  | _ => none

/-- What may follow the last lexeme of a line: blanks, a comment, and a newline or the end of
the document. -/
def lineEnd (s : List Char) : Option (List Char) :=
  match skipComment (skipBlanks s) with
  | [] => some []
  | s => newline s

/-- Drops blanks, newlines and comments, as may stand between the items of an array. -/
def skipVoid : (inComment : Bool) → List Char → List Char
  | _, [] => []
  | _, '\n' :: s => skipVoid false s
  | _, '\r' :: '\n' :: s => skipVoid false s
  | true, c :: s => if isPlain c then skipVoid true s else c :: s
  | false, '#' :: s => skipVoid true s
  | false, c :: s => if isBlank c then skipVoid false s else c :: s

/-! ## Escapes -/

/-- The character with that code point, unless it is a surrogate or too large. -/
def scalar? (n : Nat) : Option Char :=
  if n < 0xD800 ∨ (0xDFFF < n ∧ n < 0x110000) then some (Char.ofNat n) else none

/-- The character whose code point the first `count` characters write in hexadecimal. -/
def codePoint (count : Nat) (s : List Char) : Option (Char × List Char) := do
  let digits ← (s.take count).mapM fun c => Text.digit? 16 c.toNat
  if digits.length = count then
    return (← scalar? (Text.ofDigits 16 digits), s.drop count)
  else
    none

/-- The character that an escape stands for, after its backslash. -/
def escaped : Reader Char
  | 'b' :: s => some ('\x08', s)
  | 't' :: s => some ('\t', s)
  | 'n' :: s => some ('\n', s)
  | 'f' :: s => some ('\x0c', s)
  | 'r' :: s => some ('\r', s)
  | '"' :: s => some ('"', s)
  | '\\' :: s => some ('\\', s)
  | 'u' :: s => codePoint 4 s
  | 'U' :: s => codePoint 8 s
  | _ => none

/-! ## Texts on one line -/

/-- One character of a basic text. -/
def basicChar : Reader Char
  | '"' :: _ => none
  | '\\' :: s => escaped s
  | c :: s => if isPlain c then some (c, s) else none
  | [] => none

/-- A basic text, after its quotation mark. -/
def basicBody (s : List Char) : Option (String × List Char) :=
  match Text.Step.many basicChar s with
  | (chars, '"' :: rest) => some (String.ofList chars, rest)
  | _ => none

/-- A literal text, after its apostrophe: nothing is escaped. -/
def literalBody (s : List Char) : Option (String × List Char) :=
  let inside (c : Char) : Bool := isPlain c && c ≠ '\''
  match s.dropWhile inside with
  | '\'' :: rest => some (String.ofList (s.takeWhile inside), rest)
  | _ => none

/-! ## Texts on several lines -/

/-- Drops blanks and newlines, as after a backslash that ends a line. -/
def skipFold : List Char → List Char
  | '\n' :: s => skipFold s
  | '\r' :: '\n' :: s => skipFold s
  | c :: s => if isBlank c then skipFold s else c :: s
  | [] => []

/-- A piece of a text on several lines, with the quote that delimits it: a newline, one or two
quotes that do not end the text, a character, or with `escapes` an escape or a folded line
end. -/
def piece (quote : Char) (escapes : Bool) : Reader (List Char)
  | [] => none
  | c :: s =>
    if c = quote then
      let quotes := (c :: s).takeWhile (· = quote)
      if quotes.length ≤ 2 then some (quotes, (c :: s).dropWhile (· = quote)) else none
    else
      match newline (c :: s) with
      | some rest => some (['\n'], rest)
      | none =>
        if escapes ∧ c = '\\' then
          match newline (skipBlanks s) with
          | some rest => some ([], skipFold rest)
          | none => (escaped s).map fun (char, rest) => ([char], rest)
        else if isPlain c then some ([c], s)
        else none

/-- A text on several lines, after its three quotes. A newline right after them is dropped, and
of up to five quotes at the end all but three belong to the text. -/
def longBody (quote : Char) (escapes : Bool) (s : List Char) : Option (String × List Char) :=
  let (pieces, rest) := Text.Step.many (piece quote escapes) ((newline s).getD s)
  let quotes := rest.takeWhile (· = quote)
  if 3 ≤ quotes.length then
    let extra := min (quotes.length - 3) 2
    some (String.ofList (pieces.flatten ++ quotes.take extra), rest.drop (extra + 3))
  else
    none

/-- A text in any of the four notations. -/
def text : Reader String
  | '"' :: '"' :: '"' :: s => longBody '"' true s
  | '\'' :: '\'' :: '\'' :: s => longBody '\'' false s
  | '"' :: s => basicBody s
  | '\'' :: s => literalBody s
  | _ => none

/-! ## Keys -/

/-- A character of a bare key. -/
def isBare (c : Char) : Bool :=
  c.isAlphanum || c = '-' || c = '_'

/-- One part of a key: quoted on one line, or bare. -/
def keyPart : Reader String
  | '"' :: s => basicBody s
  | '\'' :: s => literalBody s
  | s =>
    match s.takeWhile isBare with
    | [] => none
    | chars => some (String.ofList chars, s.dropWhile isBare)

/-- One part of a key with the blanks around it. -/
def spacedPart (s : List Char) : Option (String × List Char) := do
  let (part, rest) ← keyPart (skipBlanks s)
  return (part, skipBlanks rest)

/-- A further part of a dotted key. -/
def dottedPart : Reader String
  | '.' :: s => spacedPart s
  | _ => none

/-- The depth that neither dotted keys nor nested values reach. -/
def depthLimit : Nat := 80

/-- A key of one or more parts between dots. -/
def dottedKey (s : List Char) : Option (List String × List Char) := do
  let (first, rest) ← spacedPart s
  let (more, rest) := Text.Step.many dottedPart rest
  if more.length + 1 < depthLimit then some (first :: more, rest) else none

end AppCatalog.Toml
