import AppCatalog.Query.Format

/-!
# Structured texts

Values made of lists and of members with labels, as texts write them between brackets and braces.
Numbers and texts are kept as they are written, together with how they are written, so that nothing
is lost when a value is written again.
-/

namespace AppCatalog

/-- How the characters of a text are written. -/
inductive TextForm where
  /-- As they are, with nothing that would have to be written in another way. -/
  | plain
  /-- Some of them behind a backslash. -/
  | escaped
  /-- Some of them in a way that only lenient readers know. -/
  | lenient
  /-- As they are, whatever they are. -/
  | raw
  deriving Repr, DecidableEq

/-- A text in a structured text. -/
structure Label where
  form : TextForm
  bytes : Bytes
  deriving Repr, DecidableEq

/-- A structured text. -/
inductive JsonTree where
  | null
  | yes
  | no
  /-- A number: whether it has a point or an exponent, and whether only lenient readers know how it
  is written. -/
  | number (isReal isLenient : Bool) (bytes : Bytes)
  | text (label : Label)
  | list (items : List JsonTree)
  | members (members : List (Label × JsonTree))

instance : Inhabited JsonTree := ⟨.null⟩

namespace JsonTree

/-- A text as it is. -/
def ofBytes (bytes : Bytes) : JsonTree := .text ⟨.raw, bytes⟩

/-- The value of a whole number from here on that is greater than all others. -/
def endless (negative : Bool) : JsonTree :=
  .number true false (Utf8.encode (if negative then "-9e999" else "9e999"))

/-- Whether it is a list or has members. -/
def isContainer : JsonTree → Bool
  | list _ => true
  | members _ => true
  | _ => false

/-- The name of its kind. -/
def kindName : JsonTree → String
  | null => "null"
  | yes => "true"
  | no => "false"
  | number isReal _ _ => if isReal then "real" else "integer"
  | text _ => "text"
  | list _ => "array"
  | members _ => "object"

/-- Whether a byte is a digit to base sixteen. -/
def isHexDigit (byte : Nat) : Bool :=
  (48 ≤ byte ∧ byte ≤ 57) ∨ (65 ≤ byte ∧ byte ≤ 70) ∨ (97 ≤ byte ∧ byte ≤ 102)

/-- The number that a digit to base sixteen writes. -/
def hexDigit (byte : Nat) : Nat :=
  if byte ≤ 57 then byte - 48 else if byte ≤ 70 then byte - 55 else byte - 87

/-- The number that digits to base sixteen write. -/
def hexValue (digits : Bytes) : Nat :=
  digits.foldl (fun value byte => value * 16 + hexDigit byte.toNat) 0

end JsonTree

/-! ## The characters of a text -/

namespace Label

/-- How many bytes stand at the front that only break a line behind a backslash. -/
def skipped : (rounds : Nat) → Bytes → Nat
  | 0, _ => 0
  | rounds + 1, bytes =>
    match bytes with
    | 92 :: 13 :: 10 :: rest => 3 + skipped rounds rest
    | 92 :: 13 :: rest => 2 + skipped rounds rest
    | 92 :: 10 :: rest => 2 + skipped rounds rest
    | 92 :: 226 :: 128 :: 168 :: rest => 4 + skipped rounds rest
    | 92 :: 226 :: 128 :: 169 :: rest => 4 + skipped rounds rest
    | _ => 0

/-- The code point of the character that starts with a backslash, if it is one, and the bytes
behind it. -/
def unescape : (rounds : Nat) → Bytes → Option Nat × Bytes
  | 0, _ => (none, [])
  | rounds + 1, bytes =>
    match bytes with
    | 92 :: 117 :: rest =>
      if rest.length < 4 then (none, [])
      else
        let high := JsonTree.hexValue (rest.take 4)
        match rest.drop 4 with
        | 92 :: 117 :: more =>
          let low := JsonTree.hexValue (more.take 4)
          if high / 1024 = 54 ∧ 4 ≤ more.length ∧ low / 1024 = 55 then
            (some (high % 1024 * 1024 + low % 1024 + 0x10000), more.drop 4)
          else (some high, rest.drop 4)
        | more => (some high, more)
    | 92 :: 120 :: rest =>
      if rest.length < 2 then (none, []) else (some (JsonTree.hexValue (rest.take 2)), rest.drop 2)
    | 92 :: byte :: rest =>
      match Char.ofNat byte.toNat with
      | 'b' => (some 8, rest)
      | 'f' => (some 12, rest)
      | 'n' => (some 10, rest)
      | 'r' => (some 13, rest)
      | 't' => (some 9, rest)
      | 'v' => (some 11, rest)
      | '0' => (some 0, rest)
      | '\'' | '"' | '/' | '\\' => (some byte.toNat, rest)
      | _ =>
        let count := skipped bytes.length bytes
        let behind := bytes.drop count
        if count = 0 then
          (none, if byte = 226 ∨ byte = 13 ∨ byte = 10 then [] else rest)
        else
          match behind with
          | [] => (some 0, [])
          | 92 :: _ => unescape rounds behind
          | first :: _ =>
            let character := (Value.characters behind).headD [first]
            let point := (Encoding.points character).headD 0
            (some point, behind.drop character.length)
    | _ => (none, [])

/-- The bytes of a text without backslashes. -/
def plainFrom : (rounds : Nat) → Bytes → Bytes
  | 0, _ => []
  | _, [] => []
  | rounds + 1, byte :: rest =>
    if byte = 92 then
      let (point?, behind) := unescape (rest.length + 1) (byte :: rest)
      ((point?.map Encoding.narrow).getD []) ++ plainFrom rounds behind
    else byte :: plainFrom rounds rest

/-- Whether no character of a text stands behind a backslash. -/
def isPlain (label : Label) : Bool := label.form = .plain || label.form = .raw

/-- The bytes that a text means. -/
def meant (label : Label) : Bytes :=
  if label.isPlain then label.bytes else plainFrom (label.bytes.length + 1) label.bytes

/-- Whether two texts are the same. -/
def same (a b : Label) : Bool := a.meant = b.meant

end Label
end AppCatalog
