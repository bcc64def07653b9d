import AppCatalog.Records.Affinity
import AppCatalog.Schema.Function

/-!
# Terms

Expressions whose names are looked up: a name stands for a column of a certain source of rows, and
a selection inside of an expression is told by its number. What a term makes of values that it is
compared with, and the order of texts that it asks for, are seen from the term alone.
-/

namespace AppCatalog

/-- A column of a source of rows. -/
structure Field where
  /-- The number of the source. -/
  cursor : Nat
  /-- The place of the column; none for the number of the row. -/
  column? : Option Nat
  name : String
  affinity? : Option Affinity := none
  collation? : Option Collation := none
  /-- Whether the column must have a value. -/
  isBound : Bool := false
  /-- Whether there may be no row of the source. -/
  isOuter : Bool := false
  /-- Whether the source is one of those that a selection goes through, not a row that is given. -/
  isScanned : Bool := true
  deriving Repr, DecidableEq

/-- The rows around a row, without what they are ordered by. -/
structure FrameShape where
  unit : FrameUnit := .range
  exclusion : FrameExclusion := .nothing
  /-- Whether nothing was said about them. -/
  isImplicit : Bool := true
  deriving Repr, DecidableEq

mutual

/-- An expression whose names are looked up. -/
inductive Term where
  | constant (value : Value)
  | truth (value : Bool)
  /-- A number to base sixteen with too many digits. -/
  | tooLong (text : String)
  | parameter
  | field (field : Field)
  /-- An operand that texts are ordered for; this may be implied by a column that it stands for. -/
  | collate (operand : Term) (collation : Collation) (isWritten : Bool)
  | cast (operand : Term) (type : String)
  | unary (op : Unary) (operand : Term)
  | binary (op : Binary) (left right : Term)
  /-- Whether an operand is true or false; nothing is neither. -/
  | isTruth (operand : Term) (truth negated : Bool)
  | isNull (operand : Term)
  | notNull (operand : Term)
  | between (operand low high : Term)
  | inList (operand : Term) (items : List Term)
  | inQuery (operand : Term) (query : Nat)
  | exists (query : Nat)
  | scalar (query : Nat)
  /-- One of the values of the first row of a selection that must have so many. -/
  | item (query count place : Nat)
  | row (items : List Term)
  | case (operand? : Option Term) (branches : List (Term × Term)) (otherwise? : Option Term)
  | call (function : String) (arguments : List Term)
  /-- A function of the rows of a selection, which is told by its number. -/
  | aggregate (owner? : Option Nat) (function : String) (isDistinct : Bool)
      (arguments : List Term) (order : List TermOrder) (filter? : Option Term)
  | window (function : String) (arguments : List Term) (filter? : Option Term) (pane : Pane)
  /-- Ends the statement, or what a trigger does with a row. -/
  | raise (action : OnConflict) (message : String)
  /-- An operand, unless there is no row of a source. -/
  | unlessVacant (cursor : Nat) (operand : Term)
  /-- A column that is known to have the value of a constant. -/
  | fixed (field : Field) (value : Term)

/-- What rows are ordered by: a term, whether backwards, whether rows without a value are moved to
the other end, and the column of the result that it is, if it is one. -/
inductive TermOrder where
  | mk (term : Term) (descending movesNull : Bool) (place? : Option Nat)

/-- An end of the rows around a row. -/
inductive PaneEdge where
  | unboundedPreceding
  | preceding (distance : Term)
  | currentRow
  | following (distance : Term)
  | unboundedFollowing

/-- The rows around a row. -/
inductive Pane where
  | mk (partition : List Term) (order : List TermOrder) (shape : FrameShape)
      (start stop : PaneEdge)

end

instance : Inhabited Term := ⟨.constant .null⟩

instance : Inhabited TermOrder := ⟨.mk default false false none⟩

namespace TermOrder

/-- What is ordered. -/
def term : TermOrder → Term
  | mk term _ _ _ => term

/-- Whether it is ordered backwards. -/
def descending : TermOrder → Bool
  | mk _ descending _ _ => descending

/-- Whether rows without a value are moved to the other end. -/
def movesNull : TermOrder → Bool
  | mk _ _ movesNull _ => movesNull

/-- The column of the result that it is, if it is one. -/
def place? : TermOrder → Option Nat
  | mk _ _ _ place? => place?

/-- The same order of another term. -/
def withTerm (term : Term) : TermOrder → TermOrder
  | mk _ descending movesNull place? => mk term descending movesNull place?

end TermOrder

namespace Term

/-! ## Parts -/

mutual

/-- A term with other terms in place of some of its parts, from the outside, where `before` gives
some: these are not looked into. All other parts are changed by `after`, from the inside. -/
def transform (before : Term → Option Term) (after : Term → Term) (term : Term) : Term :=
  match before term with
  | some new => new
  | none =>
    after <| match term with
    | .collate operand collation isWritten =>
      .collate (transform before after operand) collation isWritten
    | .cast operand type => .cast (transform before after operand) type
    | .unary op operand => .unary op (transform before after operand)
    | .binary op left right =>
      .binary op (transform before after left) (transform before after right)
    | .isTruth operand wanted negated =>
      .isTruth (transform before after operand) wanted negated
    | .isNull operand => .isNull (transform before after operand)
    | .notNull operand => .notNull (transform before after operand)
    | .between operand low high =>
      .between (transform before after operand) (transform before after low)
        (transform before after high)
    | .inList operand items =>
      .inList (transform before after operand) (transformAll before after items)
    | .inQuery operand query => .inQuery (transform before after operand) query
    | .row items => .row (transformAll before after items)
    | .case operand? branches otherwise? =>
      .case (transformOption before after operand?) (transformBranches before after branches)
        (transformOption before after otherwise?)
    | .call function arguments => .call function (transformAll before after arguments)
    | .aggregate owner? function isDistinct arguments order filter? =>
      .aggregate owner? function isDistinct (transformAll before after arguments)
        (transformOrder before after order) (transformOption before after filter?)
    | .window function arguments filter? pane =>
      .window function (transformAll before after arguments)
        (transformOption before after filter?) (transformPane before after pane)
    | .unlessVacant cursor operand => .unlessVacant cursor (transform before after operand)
    | .fixed column value => .fixed column (transform before after value)
    | term => term

/-- Changes parts of terms. -/
def transformAll (before : Term → Option Term) (after : Term → Term) : List Term → List Term
  | [] => []
  | term :: rest => transform before after term :: transformAll before after rest

/-- Changes parts of a term, if there is one. -/
def transformOption (before : Term → Option Term) (after : Term → Term) :
    Option Term → Option Term
  | none => none
  | some term => some (transform before after term)

/-- Changes parts of the branches of a case distinction. -/
def transformBranches (before : Term → Option Term) (after : Term → Term) :
    List (Term × Term) → List (Term × Term)
  | [] => []
  | (condition, value) :: rest =>
    (transform before after condition, transform before after value)
      :: transformBranches before after rest

/-- Changes parts of what rows are ordered by. -/
def transformOrder (before : Term → Option Term) (after : Term → Term) :
    List TermOrder → List TermOrder
  | [] => []
  | .mk term descending movesNull place? :: rest =>
    .mk (transform before after term) descending movesNull place?
      :: transformOrder before after rest

/-- Changes parts of an end of the rows around a row. -/
def transformEdge (before : Term → Option Term) (after : Term → Term) : PaneEdge → PaneEdge
  | .preceding distance => .preceding (transform before after distance)
  | .following distance => .following (transform before after distance)
  | edge => edge

/-- Changes parts of what says which rows are around a row. -/
def transformPane (before : Term → Option Term) (after : Term → Term) : Pane → Pane
  | .mk partition order shape start stop =>
    .mk (transformAll before after partition) (transformOrder before after order) shape
      (transformEdge before after start) (transformEdge before after stop)

end

/-- A term with other terms in place of some of its parts, from the outside. What is put in place is
not looked into. -/
def replace (f : Term → Option Term) (term : Term) : Term := transform f id term

/-- Replaces parts of what rows are ordered by. -/
def replaceOrder (f : Term → Option Term) (order : List TermOrder) : List TermOrder :=
  transformOrder f id order

mutual

/-- What is found in a term and its parts, from the outside in and first to last. -/
def collect {α : Type} (f : Term → List α) (term : Term) : List α :=
  f term ++
  match term with
  | .collate operand _ _ => collect f operand
  | .cast operand _ => collect f operand
  | .unary _ operand => collect f operand
  | .binary _ left right => collect f left ++ collect f right
  | .isTruth operand _ _ => collect f operand
  | .isNull operand => collect f operand
  | .notNull operand => collect f operand
  | .between operand low high => collect f operand ++ collect f low ++ collect f high
  | .inList operand items => collect f operand ++ collectAll f items
  | .inQuery operand _ => collect f operand
  | .row items => collectAll f items
  | .case operand? branches otherwise? =>
    collectOption f operand? ++ collectBranches f branches ++ collectOption f otherwise?
  | .call _ arguments => collectAll f arguments
  | .aggregate _ _ _ arguments order filter? =>
    collectAll f arguments ++ collectOrder f order ++ collectOption f filter?
  | .window _ arguments filter? pane =>
    collectAll f arguments ++ collectOption f filter? ++ collectPane f pane
  | .unlessVacant _ operand => collect f operand
  | .fixed _ value => collect f value
  | _ => []

/-- What is found in terms. -/
def collectAll {α : Type} (f : Term → List α) : List Term → List α
  | [] => []
  | term :: rest => collect f term ++ collectAll f rest

/-- What is found in a term, if there is one. -/
def collectOption {α : Type} (f : Term → List α) : Option Term → List α
  | none => []
  | some term => collect f term

/-- What is found in the branches of a case distinction. -/
def collectBranches {α : Type} (f : Term → List α) : List (Term × Term) → List α
  | [] => []
  | (condition, value) :: rest =>
    collect f condition ++ collect f value ++ collectBranches f rest

/-- What is found in what rows are ordered by. -/
def collectOrder {α : Type} (f : Term → List α) : List TermOrder → List α
  | [] => []
  | .mk term _ _ _ :: rest => collect f term ++ collectOrder f rest

/-- What is found in what says which rows are around a row. -/
def collectPane {α : Type} (f : Term → List α) : Pane → List α
  | .mk partition order _ start stop =>
    collectAll f partition ++ collectOrder f order ++ collectEdge f start ++ collectEdge f stop

/-- What is found in an end of the rows around a row. -/
def collectEdge {α : Type} (f : Term → List α) : PaneEdge → List α
  | .preceding distance => collect f distance
  | .following distance => collect f distance
  | _ => []

end

/-- Whether something holds of a term or one of its parts. -/
def any (p : Term → Bool) (term : Term) : Bool :=
  !(term.collect fun part => if p part then [()] else []).isEmpty

/-- The columns in a term. -/
def fields (term : Term) : List Field :=
  term.collect fun part =>
    match part with
    | .field column => [column]
    | _ => []

/-- The selections in a term. -/
def queries (term : Term) : List Nat :=
  term.collect fun part =>
    match part with
    | .inQuery _ query => [query]
    | .exists query => [query]
    | .scalar query => [query]
    | .item query _ _ => [query]
    | _ => []

/-- A term without orders of texts and hints about likelihood that are said outermost. -/
def bare : Term → Term
  | .collate operand _ _ => bare operand
  | .call function (operand :: rest) =>
    if ["likely", "unlikely", "likelihood"].contains function.toLower then bare operand
    else .call function (operand :: rest)
  | term => term

/-- A term without orders of texts that are said outermost. -/
def uncollated : Term → Term
  | .collate operand _ _ => uncollated operand
  | term => term

/-! ## What terms make of values -/

/-- What a term makes of values that it is compared with. The first values of selections are known
by `inner`. -/
def affinity? (inner : Nat → Nat → Option Affinity) : Term → Option Affinity
  | .field column => column.affinity?
  | .scalar query => inner query 0
  | .item query _ place => inner query place
  | .cast _ type => some (Affinity.ofCast type)
  | .row (first :: _) => affinity? inner first
  | .collate operand _ _ => affinity? inner operand
  | .unlessVacant _ operand => affinity? inner operand
  | .fixed column _ => column.affinity?
  | _ => none

/-- What kinds of values a term can have: numbers, texts and plain bytes. -/
structure Kinds where
  number : Bool := false
  text : Bool := false
  bytes : Bool := false
  deriving Repr, DecidableEq

/-- Kinds of either. -/
def Kinds.union (a b : Kinds) : Kinds :=
  ⟨a.number || b.number, a.text || b.text, a.bytes || b.bytes⟩

/-- The kinds of values of a term that is like a column. -/
def Kinds.ofAffinity : Option Affinity → Kinds
  | some .text => ⟨false, true, true⟩
  | some .blob => ⟨true, true, true⟩
  | some _ => ⟨true, false, true⟩
  | none => ⟨true, true, true⟩

mutual

/-- What kinds of values a term can have. -/
def kinds (inner : Nat → Nat → Option Affinity) (term : Term) : Kinds :=
  match term with
  | .collate operand _ _ => kinds inner operand
  | .unlessVacant _ operand => kinds inner operand
  | .unary .plus operand => kinds inner operand
  | .constant .null => {}
  | .constant (.text _) => { text := true }
  | .constant (.blob _) => { bytes := true }
  | .binary .concat _ _ => { text := true, bytes := true }
  | .parameter => ⟨true, true, true⟩
  | .call .. => ⟨true, true, true⟩
  | .aggregate .. => ⟨true, true, true⟩
  | .window .. => ⟨true, true, true⟩
  | .field column => .ofAffinity column.affinity?
  | .scalar query => .ofAffinity (inner query 0)
  | .item query _ place => .ofAffinity (inner query place)
  | .cast _ type => .ofAffinity (some (Affinity.ofCast type))
  | .row (first :: _) => .ofAffinity (first.affinity? inner)
  | .fixed column _ => .ofAffinity column.affinity?
  | .case _ branches otherwise? =>
    (branchKinds inner branches).union
      (match otherwise? with
        | none => {}
        | some otherwise => kinds inner otherwise)
  | _ => { number := true }

/-- What kinds of values the branches of a case distinction can have. -/
def branchKinds (inner : Nat → Nat → Option Affinity) : List (Term × Term) → Kinds
  | [] => {}
  | (_, value) :: rest => (kinds inner value).union (branchKinds inner rest)

end

/-! ## Orders of texts -/

mutual

/-- Whether an order of texts is written in a term. -/
def isCollated : Term → Bool
  | .collate _ _ isWritten => isWritten
  | .cast operand _ => isCollated operand
  | .unary _ operand => isCollated operand
  | .binary _ left right => isCollated left || isCollated right
  | .isTruth operand _ _ => isCollated operand
  | .isNull operand => isCollated operand
  | .notNull operand => isCollated operand
  | .between operand low high => isCollated operand || isCollated low || isCollated high
  | .inList operand items => isCollated operand || (collatedOf? items).isSome
  | .inQuery operand _ => isCollated operand
  | .row items => (collatedOf? items).isSome
  | .case operand? branches otherwise? =>
    (match operand? with
      | none => false
      | some operand => isCollated operand)
    || (collatedBranch? branches).isSome
    || (match otherwise? with
      | none => false
      | some otherwise => isCollated otherwise)
  | .call _ arguments => (collatedOf? arguments).isSome
  | .aggregate _ _ _ arguments _ _ => (collatedOf? arguments).isSome
  | .window _ arguments _ _ => (collatedOf? arguments).isSome
  | _ => false

/-- The first term in which an order of texts is written. -/
def collatedOf? : List Term → Option Term
  | [] => none
  | term :: rest => if isCollated term then some term else collatedOf? rest

/-- The first term of the branches of a case distinction in which an order of texts is written. -/
def collatedBranch? : List (Term × Term) → Option Term
  | [] => none
  | (condition, value) :: rest =>
    if isCollated condition then some condition
    else if isCollated value then some value
    else collatedBranch? rest

end

/-- The part of a term in which an order of texts is written that is the one of the term. -/
def collatedPart? : Term → Option Term
  | .unary _ operand => some operand
  | .binary _ left right => some (if left.isCollated then left else right)
  | .isTruth operand _ _ => some operand
  | .isNull operand => some operand
  | .notNull operand => some operand
  | .between operand low high =>
    if operand.isCollated then some operand else if low.isCollated then some low else some high
  | .inList operand items => if operand.isCollated then some operand else collatedOf? items
  | .inQuery operand _ => some operand
  | .case operand? branches otherwise? =>
    (operand?.filter isCollated).orElse fun _ =>
      (collatedBranch? branches).orElse fun _ => otherwise?
  | .call _ arguments => collatedOf? arguments
  | .aggregate _ _ _ arguments _ _ => collatedOf? arguments
  | .window _ arguments _ _ => collatedOf? arguments
  | _ => none

/-- The order of texts that a term asks for, found in so many rounds. -/
def collationIn : (rounds : Nat) → Term → Option Collation
  | 0, _ => none
  | rounds + 1, term =>
    match term with
    | .field column => column.collation?
    | .fixed column _ => column.collation?
    | .cast operand _ => collationIn rounds operand
    | .unary .plus operand => collationIn rounds operand
    | .row (first :: _) => collationIn rounds first
    | .collate _ collation _ => some collation
    | term =>
      if term.isCollated then (collatedPart? term).bind (collationIn rounds) else none

/-- The greatest depth of a term. -/
def maxDepth : Nat := 4000

/-- The order of texts that a term asks for. -/
def collation? (term : Term) : Option Collation := collationIn maxDepth term

/-- The order of texts by which two terms are compared: one that is written before one of a column,
and the first before the second. -/
def commonCollation? (left right : Term) : Option Collation :=
  if left.isCollated then left.collation?
  else if right.isCollated then right.collation?
  else left.collation?.orElse fun _ => right.collation?

/-! ## Comparing terms -/

/-- How far two terms are the same. -/
inductive Likeness where
  | same
  /-- But for an order of texts. -/
  | nearly
  | different
  deriving Repr, DecidableEq

/-- The same only if two pairs are. -/
def Likeness.all (parts : List Likeness) : Likeness :=
  if parts.all (· = .same) then .same else .different

/-- Compares items of two lists by some rule. -/
def Likeness.ofLists {α : Type} (f : α → α → Likeness) : List α → List α → Likeness
  | [], [] => .same
  | a :: as, b :: bs => if f a b = .same then ofLists f as bs else .different
  | _, _ => .different

/-- Compares items that may be missing. -/
def Likeness.ofOptions {α : Type} (f : α → α → Likeness) : Option α → Option α → Likeness
  | none, none => .same
  | some a, some b => f a b
  | _, _ => .different

/-- Compares two terms of at most some depth. Terms with selections in them, and those that end a
statement, are always different. -/
def likenessIn : (rounds : Nat) → Term → Term → Likeness
  | 0, _, _ => .different
  | rounds + 1, a, b =>
    let like := likenessIn rounds
    let likeOrder (a b : TermOrder) : Likeness :=
      if a.descending = b.descending ∧ a.movesNull = b.movesNull then like a.term b.term
      else .different
    let likeEdge (a b : PaneEdge) : Likeness :=
      match a, b with
      | .unboundedPreceding, .unboundedPreceding => .same
      | .currentRow, .currentRow => .same
      | .unboundedFollowing, .unboundedFollowing => .same
      | .preceding a, .preceding b => like a b
      | .following a, .following b => like a b
      | _, _ => .different
    let likePane (a b : Pane) : Likeness :=
      match a, b with
      | .mk partition order shape start stop, .mk partition' order' shape' start' stop' =>
        if shape.unit = shape'.unit ∧ shape.exclusion = shape'.exclusion then
          .all [.ofLists like partition partition', .ofLists likeOrder order order',
            likeEdge start start', likeEdge stop stop']
        else .different
    let off : Likeness :=
      match a, b with
      | .collate a _ _, b => if like a b = .different then .different else .nearly
      | a, .collate b _ _ => if like a b = .different then .different else .nearly
      | _, _ => .different
    match a, b with
    | .constant a, .constant b => if a = b then .same else .different
    | .truth a, .truth b => if a = b then .same else .different
    | .tooLong a, .tooLong b => if a = b then .same else .different
    | .parameter, .parameter => .same
    | .field a, .field b =>
      if a.cursor = b.cursor ∧ a.column? = b.column? then .same else .different
    | .collate a collation _, .collate b collation' _ =>
      if collation = collation' then .all [like a b] else .different
    | .cast a type, .cast b type' => if type = type' then .all [like a b] else .different
    | .unary op a, .unary op' b => if op = op' then .all [like a b] else .different
    | .binary op a b, .binary op' a' b' =>
      if op = op' then .all [like a a', like b b'] else .different
    | .isTruth a wanted negated, .isTruth b wanted' negated' =>
      if wanted = wanted' ∧ negated = negated' then .all [like a b] else .different
    | .isNull a, .isNull b => .all [like a b]
    | .notNull a, .notNull b => .all [like a b]
    | .between a b c, .between a' b' c' => .all [like a a', like b b', like c c']
    | .inList a items, .inList b items' => .all [like a b, .ofLists like items items']
    | .row items, .row items' => .ofLists like items items'
    | .case operand? branches otherwise?, .case operand?' branches' otherwise?' =>
      .all [.ofOptions like operand? operand?',
        .ofLists (fun a b => .all [like a.1 b.1, like a.2 b.2]) branches branches',
        .ofOptions like otherwise? otherwise?']
    | .call function arguments, .call function' arguments' =>
      if function.toLower = function'.toLower then .ofLists like arguments arguments'
      else .different
    | .aggregate owner? function isDistinct arguments order filter?,
        .aggregate owner?' function' isDistinct' arguments' order' filter?' =>
      if owner? = owner?' ∧ function.toLower = function'.toLower ∧ isDistinct = isDistinct' then
        .all [.ofLists like arguments arguments', .ofLists likeOrder order order',
          .ofOptions like filter? filter?']
      else .different
    | .window function arguments filter? pane, .window function' arguments' filter?' pane' =>
      if function.toLower = function'.toLower then
        .all [.ofLists like arguments arguments', .ofOptions like filter? filter?',
          likePane pane pane']
      else .different
    | .unlessVacant cursor a, .unlessVacant cursor' b =>
      if cursor = cursor' then .all [like a b] else .different
    | .fixed a value, .fixed b value' =>
      if a.cursor = b.cursor ∧ a.column? = b.column? then .all [like value value']
      else .different
    | _, _ => off

/-- Compares two terms. -/
def likeness (a b : Term) : Likeness := likenessIn maxDepth a b

/-- Whether two terms are the same. -/
def isSame (a b : Term) : Bool := likeness a b = .same

/-- Whether two terms are the same but for orders of texts that are said outermost. -/
def isSameBare (a b : Term) : Bool := isSame a.bare b.bare

/-! ## Constant terms -/

/-- Whether a function gives the same value for the same arguments throughout a statement. -/
def isSteadyCall (function : String) (count : Nat) : Bool :=
  (FunctionRule.find? function count).any fun rule => rule.isSteady && !rule.isAggregate

/-- Whether a part of a term can be part of one that is always the same; columns of some sources
cannot. -/
def isSteadyPart (isFixed : Nat → Bool) : Term → Bool
  | .field column => !column.isScanned || isFixed column.cursor
  | .inQuery .. => false
  | .exists _ => false
  | .scalar _ => false
  | .item .. => false
  | .call function arguments => isSteadyCall function arguments.length
  | .aggregate .. => false
  | .window .. => false
  | .raise .. => false
  | .unlessVacant .. => false
  | _ => true

/-- Whether a term has the same value for all rows. -/
def isConstant (term : Term) : Bool := !term.any (!isSteadyPart (fun _ => false) ·)

/-- Whether a term has the same value for all rows, also where it calls no function at all. -/
def isPlainConstant (term : Term) : Bool :=
  term.isConstant && !term.any fun part =>
    match part with
    | .call .. => true
    | _ => false

/-- Whether a term has the same value for all rows of other sources than one. -/
def isConstantFor (cursor : Nat) (term : Term) : Bool :=
  !term.any (!isSteadyPart (· = cursor) ·)

/-- The whole number that a term is, if it is written as one. -/
def wholeNumber? : Term → Option Int
  | .constant (.integer n) => some n
  | .unary .plus operand => wholeNumber? operand
  | .unary .minus operand => (wholeNumber? operand).map fun n => -n
  | _ => none

/-- Whether a term may have no value. -/
def mayBeNull : Term → Bool
  | .unary .plus operand => mayBeNull operand
  | .unary .minus operand => mayBeNull operand
  | .constant value => value.isNull
  | .field column => !column.isScanned || column.isOuter || !column.isBound
  | _ => true

/-- The number of values that a term stands for. Those of selections are known by `inner`. -/
def width (inner : Nat → Nat) : Term → Nat
  | .row items => items.length
  | .scalar query => inner query
  | _ => 1

/-- Whether a term is plainly false. -/
def isPlainlyFalse : Term → Bool
  | .constant (.integer 0) => true
  | .truth false => true
  | _ => false

end Term
end AppCatalog
