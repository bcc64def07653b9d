import AppCatalog.Database.Error
import AppCatalog.Json.Path

/-!
# Functions on structured values

Functions that read, take apart, change and put together structured values. A text counts as a
structured value only where one is asked for, or if another of these functions made it; therefore
values are marked that were made so.
-/

namespace AppCatalog

/-- A value, and whether a function made it as a structured one. -/
structure Marked where
  value : Value
  isJson : Bool := false

namespace JsonTree

/-- The complaint about what is no structured value. -/
def malformed : SqlError := .senseless "malformed JSON"

/-- The complaint about plain bytes that are no structured value. -/
def notHeld : SqlError := .senseless "JSON cannot hold BLOB values"

/-- The complaint about a path. -/
def badPath (encoding : Encoding) (path : Value) : SqlError :=
  let shown := Value.formatted encoding (.ofString encoding "bad JSON path: %Q") [path]
  .senseless (Utf8.decodeLossy (shown.bytesOf encoding))

/-! ## Values as structured ones -/

/-- The bytes of a text up to its first zero. -/
def textOf (encoding : Encoding) (value : Value) : Bytes := Value.untilZero (value.bytesOf encoding)

/-- The plain bytes of a value, if they look like a structured one. -/
def binaryOf? : Value → Option Bytes
  | .blob bytes => if isBinary bytes.toList then some bytes.toList else none
  | _ => none

/-- The structured value that an argument is; none if it is nothing at all. -/
def ofArgument (encoding : Encoding) (value : Value) : Except SqlError (Option JsonTree) :=
  if value.isNull then .ok none
  else
    let found? := match binaryOf? value with
      | some bytes => ofBinary? bytes
      | none => ofText? (textOf encoding value)
    match found? with
    | some json => .ok (some json)
    | none => .error malformed

/-- The text of a floating-point number. -/
def realBytes (number : Double) : Bytes :=
  let form : Directive := { isFull := true, isPadded := true, precision? := some 15 }
  form.real .either false number

/-- A value as it is written in a structured one. -/
def writeValue (encoding : Encoding) (marked : Marked) : Except SqlError Bytes :=
  match marked.value with
  | .null => .ok (Utf8.encode "null")
  | .integer n => .ok (Utf8.encode (toString n))
  | .real bits => .ok (realBytes (.ofBits bits))
  | .text _ =>
    let bytes := marked.value.bytesOf encoding
    .ok (if marked.isJson then bytes else quotedBytes bytes)
  | .blob bytes =>
    match binaryOf? (.blob bytes) with
    | none => .error notHeld
    | some bytes =>
      match (ofBinary? bytes).bind write? with
      | some bytes => .ok bytes
      | none => .error malformed

/-- A value that becomes part of a structured one. -/
def ofMarked (encoding : Encoding) (marked : Marked) : Except SqlError JsonTree :=
  match marked.value with
  | .null => .ok null
  | .integer n => .ok (number false false (Utf8.encode (toString n)))
  | .real bits =>
    match Double.ofBits bits with
    | .infinite negative => .ok (endless negative)
    | _ => .ok (number true false (Utf8.encode marked.value.shown))
  | .text _ =>
    let bytes := marked.value.bytesOf encoding
    if marked.isJson then
      match ofText? bytes with
      | some json => .ok json
      | none => .error malformed
    else .ok (ofBytes bytes)
  | .blob bytes =>
    match (binaryOf? (.blob bytes)).bind ofBinary? with
    | some json => .ok json
    | none => .error notHeld

/-! ## Structured values as values -/

/-- The whole number that bytes write, in one of the ways of numbers, if it has 64 bits. -/
def integerOf? (bytes : Bytes) : Option (Except Double Int) :=
  let isBelow := bytes.head? = some 45
  let digits := if isBelow then bytes.drop 1 else bytes
  match digits with
  | 48 :: mark :: rest =>
    if (mark = 120 ∨ mark = 88) ∧ !rest.isEmpty ∧ rest.all (isHexDigit ·.toNat) then
      let value := hexValue rest
      if value < 0x8000000000000000 then some (.ok (if isBelow then -(value : Int) else value))
      else if value < 0x10000000000000000 then
        some (.error (.ofInt (if isBelow then -(value : Int) else value)))
      else none
    else decimal isBelow digits
  | digits => decimal isBelow digits
where
  /-- The number that decimal digits write. -/
  decimal (isBelow : Bool) (digits : Bytes) : Option (Except Double Int) :=
    if digits.isEmpty || !digits.all Numeral.isDigit then none
    else
      let value : Int := Numeral.valueOf digits
      let value := if isBelow then -value else value
      if Value.minInteger ≤ value ∧ value ≤ Value.maxInteger then some (.ok value)
      else (Numeral.ofBytes? digits).map fun numeral =>
        .error (if isBelow then numeral.toDouble.negate else numeral.toDouble)

/-- What a part of a structured value is as a plain one. Lists and members stay structured. -/
def toMarked (encoding : Encoding) (asBinary : Bool) (json : JsonTree) : Except SqlError Marked :=
  match json with
  | null => .ok { value := .null }
  | yes => .ok { value := .integer 1 }
  | no => .ok { value := .integer 0 }
  | number false _ bytes =>
    match integerOf? bytes with
    | some (.ok n) => .ok { value := .integer n }
    | some (.error great) => .ok { value := .ofDouble great }
    | none => .error malformed
  | number true _ bytes =>
    match Numeral.ofBytes? bytes with
    | some numeral =>
      if numeral.isAll then .ok { value := .ofDouble numeral.toDouble } else .error malformed
    | none => .error malformed
  | text label => .ok { value := .ofBytes encoding label.meant }
  | json =>
    if asBinary then .ok { value := .blob json.toBinary.toArray }
    else
      match json.write? with
      | some bytes => .ok { value := .ofBytes encoding bytes, isJson := true }
      | none => .error malformed

/-- A structured value as a function gives it back. -/
def given (encoding : Encoding) (asBinary : Bool) (json : JsonTree) : Except SqlError Marked :=
  if asBinary then .ok { value := .blob json.toBinary.toArray }
  else
    match json.write? with
    | some bytes => .ok { value := .ofBytes encoding bytes, isJson := true }
    | none => .error malformed

/-- A text of a structured value as a function gives it back. -/
def givenText (encoding : Encoding) (asBinary : Bool) (bytes : Bytes) : Except SqlError Marked :=
  if asBinary then
    match ofText? bytes with
    | some json => .ok { value := .blob json.toBinary.toArray }
    | none => .error malformed
  else .ok { value := .ofBytes encoding bytes, isJson := true }

/-- Nothing at all. -/
def nothing : Except SqlError Marked := .ok { value := .null }

/-! ## Taking apart -/

/-- The steps of a path behind its first character, which stands for the whole value. -/
def stepsOf? (encoding : Encoding) (path : Value) : Option Bytes :=
  match textOf encoding path with
  | 36 :: steps => some steps
  | _ => none

/-- The part of a value to which a path leads, if it leads anywhere. -/
def partAt (encoding : Encoding) (json : JsonTree) (path : Value) : Except SqlError (Option JsonTree) :=
  match stepsOf? encoding path with
  | none => .error (badPath encoding path)
  | some steps =>
    match lookUp (maxSteps steps) steps json with
    | .ok part => .ok (some part)
    | .error .notFound => .ok none
    | .error .senseless => .error (badPath encoding path)

/-- The path that the right side of an arrow stands for. -/
def arrowSteps (encoding : Encoding) (path : Value) : Bytes :=
  let bytes := textOf encoding path
  match path, bytes with
  | _, 36 :: steps => steps
  | .integer _, bytes => 91 :: bytes ++ [93]
  | _, bytes =>
    if bytes.all (isAlnum ·.toNat) then 46 :: bytes
    else if bytes.head? = some 91 ∧ 3 ≤ bytes.length ∧ bytes.getLast? = some 93 then bytes
    else [46, 34] ++ bytes ++ [34]

/-- What an arrow makes of its sides: a structured value, or a plain one. -/
def arrow (encoding : Encoding) (isPlain : Bool) (value path : Value) : Except SqlError Marked := do
  let some json ← ofArgument encoding value | nothing
  if path.isNull then nothing
  else
    let steps := arrowSteps encoding path
    match lookUp (maxSteps steps) steps json with
    | .ok part =>
      if isPlain then return { ← toMarked encoding false part with isJson := false }
      else given encoding false part
    | .error .notFound => nothing
    | .error .senseless => throw (badPath encoding path)

/-- The parts of a value to which paths lead: the one alone, or a list of several. -/
def extract (encoding : Encoding) (asBinary : Bool) (value : Value) (paths : List Value) :
    Except SqlError Marked := do
  if paths.isEmpty then nothing
  else
    let some json ← ofArgument encoding value | nothing
    match paths with
    | [path] =>
      if path.isNull then nothing
      else
        match ← partAt encoding json path with
        | none => nothing
        | some part => toMarked encoding asBinary part
    | paths =>
      let mut parts : List Bytes := []
      for path in paths do
        if path.isNull then return { value := .null }
        let part := (← partAt encoding json path).getD null
        match part.write? with
        | some bytes => parts := parts ++ [bytes]
        | none => throw malformed
      givenText encoding asBinary (91 :: separatedBytes parts ++ [93])

/-- The number of items of a list. -/
def listLength (encoding : Encoding) (value : Value) (path? : Option Value) :
    Except SqlError Marked := do
  let some json ← ofArgument encoding value | nothing
  let part? ← match path? with
    | none => pure (some json)
    | some path =>
      if path.isNull then pure none
      else
        match textOf encoding path with
        | 36 :: _ => partAt encoding json path
        | _ => throw (badPath encoding path)
  match part? with
  | none => nothing
  | some (list items) => return { value := .integer items.length }
  | some _ => return { value := .integer 0 }

/-- The kind of a part of a value. -/
def kindAt (encoding : Encoding) (value : Value) (path? : Option Value) :
    Except SqlError Marked := do
  let some json ← ofArgument encoding value | nothing
  let part? ← match path? with
    | none => pure (some json)
    | some path => if path.isNull then pure none else partAt encoding json path
  match part? with
  | none => nothing
  | some part => return { value := .ofString encoding part.kindName }

/-! ## Checking -/

/-- Whether a value is a structured one; `flags` say in which way. -/
def isValid (encoding : Encoding) (value : Value) (flags : Nat) : Bool :=
  match binaryOf? value with
  | some bytes =>
    if flags / 4 % 2 = 1 then true
    else flags / 8 % 2 = 1 && ((ofBinary? bytes).bind write?).isSome
  | none =>
    let found := read (textOf encoding value)
    flags % 4 ≠ 0 && found.json?.isSome && (flags / 2 % 2 = 1 || !found.isLenient)

/-- Whether a value is a structured one. -/
def valid (encoding : Encoding) (value : Value) (flags? : Option Value) :
    Except SqlError Marked := do
  let flags := (flags?.map (Value.toInteger encoding)).getD 1
  if flags < 1 ∨ 15 < flags then
    throw (.senseless "FLAGS parameter to json_valid() must be between 1 and 15")
  else if value.isNull then nothing
  else return { value := .ofTruth (some (isValid encoding value flags.toNat)) }

/-- Where a text breaks off that should be a structured value, counted from one; zero if it does
not. -/
def flawAt (encoding : Encoding) (value : Value) : Except SqlError Marked := do
  if value.isNull then nothing
  else
    let place : Nat := match binaryOf? value with
      | some bytes => if ((ofBinary? bytes).bind write?).isSome then 0 else 1
      | none =>
        let bytes := textOf encoding value
        let found := read bytes
        if found.json?.isSome then 0
        else ((bytes.take found.flaw).filter (!Value.continues ·)).length + 1
    return { value := .integer place }

/-! ## Putting together -/

/-- A list of values. -/
def listOf (encoding : Encoding) (asBinary : Bool) (values : List Marked) :
    Except SqlError Marked := do
  let items ← values.mapM (writeValue encoding)
  givenText encoding asBinary (91 :: separatedBytes items ++ [93])

/-- The members that labels and values make, by turns. -/
def membersOf (encoding : Encoding) : List Marked → Except SqlError (List Bytes)
  | label :: value :: rest => do
    match label.value with
    | .text _ =>
      let name := quotedBytes (label.value.bytesOf encoding)
      return (name ++ 58 :: (← writeValue encoding value)) :: (← membersOf encoding rest)
    | _ => throw (.senseless "json_object() labels must be TEXT")
  | _ => return []

/-- A value with members. -/
def object (encoding : Encoding) (asBinary : Bool) (values : List Marked) :
    Except SqlError Marked := do
  if values.length % 2 = 1 then
    throw (.senseless "json_object() requires an even number of arguments")
  else
    let items ← membersOf encoding values
    givenText encoding asBinary (123 :: separatedBytes items ++ [125])

/-- A member as a function of all rows writes it. -/
def memberBytes (encoding : Encoding) (label value : Marked) : Except SqlError Bytes := do
  let name := if label.value.isNull then [] else quotedBytes (textOf encoding label.value)
  return name ++ 58 :: (← writeValue encoding value)

/-- A value with members of which each row has a label and a value. -/
def groupedObject (encoding : Encoding) (asBinary : Bool) (rows : List (List Marked)) :
    Except SqlError Marked := do
  let part (row : List Marked) (n : Nat) : Marked := row.getD n { value := .null }
  let items ← rows.mapM fun row => memberBytes encoding (part row 0) (part row 1)
  givenText encoding asBinary (123 :: separatedBytes items ++ [125])

/-! ## Changing -/

/-- Changes a value at paths, each with the value that is put there. -/
def changedAt (encoding : Encoding) (editing : Editing) (json : JsonTree) :
    List Marked → Except SqlError JsonTree
  | path :: value :: rest => do
    if path.value.isNull then changedAt encoding editing json rest
    else
      match stepsOf? encoding path.value with
      | none => throw (badPath encoding path.value)
      | some steps =>
        let new ← ofMarked encoding value
        match edit editing new (maxSteps steps) steps json with
        | .ok changed => changedAt encoding editing (changed.getD json) rest
        | .error .notFound => changedAt encoding editing json rest
        | .error .senseless => throw (badPath encoding path.value)
  | _ => return json

/-- Changes a value at paths, as a function of that name. -/
def changed (encoding : Encoding) (asBinary : Bool) (title : String) (editing : Editing)
    (arguments : List Marked) : Except SqlError Marked := do
  match arguments with
  | [] => nothing
  | value :: changes =>
    if changes.length % 2 = 1 then
      throw (.senseless ("json_" ++ title ++ "() needs an odd number of arguments"))
    else
      let some json ← ofArgument encoding value.value | nothing
      given encoding asBinary (← changedAt encoding editing json changes)

/-- Removes parts of a value; nothing is left if the whole is removed. -/
def removedAt (encoding : Encoding) (json : JsonTree) : List Value → Except SqlError (Option JsonTree)
  | [] => .ok (some json)
  | path :: rest =>
    if path.isNull then .ok none
    else
      match stepsOf? encoding path with
      | none => .error (badPath encoding path)
      | some [] => .ok none
      | some steps =>
        match edit .remove null (maxSteps steps) steps json with
        | .ok changed => removedAt encoding (changed.getD json) rest
        | .error .notFound => removedAt encoding json rest
        | .error .senseless => .error (badPath encoding path)

/-- A value without some of its parts. -/
def removed (encoding : Encoding) (asBinary : Bool) (arguments : List Value) :
    Except SqlError Marked := do
  match arguments with
  | [] => nothing
  | value :: paths =>
    let some json ← ofArgument encoding value | nothing
    match ← removedAt encoding json paths with
    | none => nothing
    | some json => given encoding asBinary json

/-- A value changed by another one. -/
def patched (encoding : Encoding) (asBinary : Bool) (target patch : Value) :
    Except SqlError Marked := do
  let some json ← ofArgument encoding target | nothing
  let some changes ← ofArgument encoding patch | nothing
  given encoding asBinary (merged json changes)

/-- A value with each item on a line of its own. -/
def pretty (encoding : Encoding) (value : Value) (indent? : Option Value) :
    Except SqlError Marked := do
  let some json ← ofArgument encoding value | nothing
  let indent := match indent? with
    | none => List.replicate 4 32
    | some indent => if indent.isNull then List.replicate 4 32 else textOf encoding indent
  match json.writeLines? indent 0 with
  | some bytes => return { value := .ofBytes encoding bytes }
  | none => throw malformed

/-! ## By name -/

/-- What a function of structured values makes of its arguments, if there is one of that name. -/
def call? (encoding : Encoding) (name : String) (arguments : List Marked) :
    Option (Except SqlError Marked) :=
  let asBinary := name.startsWith "jsonb"
  let name := if asBinary then "json" ++ (name.drop 5).toString else name
  let values := arguments.map (·.value)
  match name, values with
  | "json", _ => some (removed encoding asBinary values)
  | "json_remove", _ => some (removed encoding asBinary values)
  | "json_array", _ => some (listOf encoding asBinary arguments)
  | "json_object", _ => some (object encoding asBinary arguments)
  | "json_array_length", value :: path => some (listLength encoding value path.head?)
  | "json_error_position", [value] => some (flawAt encoding value)
  | "json_extract", value :: paths => some (extract encoding asBinary value paths)
  | "json_extract", [] => some nothing
  | "->", [value, path] => some (arrow encoding false value path)
  | "->>", [value, path] => some (arrow encoding true value path)
  | "json_insert", _ => some (changed encoding asBinary "insert" .insert arguments)
  | "json_replace", _ => some (changed encoding asBinary "replace" .replace arguments)
  | "json_set", _ => some (changed encoding asBinary "set" .set arguments)
  | "json_patch", [target, patch] => some (patched encoding asBinary target patch)
  | "json_pretty", value :: indent => some (pretty encoding value indent.head?)
  | "json_quote", _ =>
    match arguments with
    | [argument] => some do
      return { value := .ofBytes encoding (← writeValue encoding argument), isJson := true }
    | _ => none
  | "json_type", value :: path => some (kindAt encoding value path.head?)
  | "json_valid", value :: flags => some (valid encoding value flags.head?)
  | _, _ => none

end JsonTree
end AppCatalog
