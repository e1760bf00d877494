import ShardQuery.Query.Syntax
import ShardQuery.Binary.Literal
import ShardQuery.Error

namespace ShardQuery

inductive Expectation where
  | token (t : Token)
  | name
  | comparison
  | literal
  | limit
deriving DecidableEq, Repr

def Expectation.shown : Expectation → String
  | token t => t.shown
  | name => "identifier"
  | comparison => "comparison operator"
  | literal => "literal"
  | limit => "number after LIMIT"

/-- Why a text is no query. -/
inductive SyntaxError where
  | lexical (e : LexicalError)
  | unexpected (wanted : Expectation) (found : Token)
  | trailing (found : Token)
  | invalidNumber (digits : String)
  | invalidLimit (digits : String)
deriving DecidableEq, Repr

def SyntaxError.message : SyntaxError → String
  | lexical e => e.message
  | unexpected wanted found => "Expected " ++ wanted.shown ++ ", found " ++ found.shown
  | trailing found => "Unexpected token after query: " ++ found.shown
  | invalidNumber digits => "Invalid number: " ++ digits
  | invalidLimit digits => "Invalid LIMIT: " ++ digits

namespace Parser

def current (ts : List Token) : Token := ts.headD .eof

def fail (wanted : Expectation) (ts : List Token) : Except SyntaxError α :=
  .error (.unexpected wanted (current ts))

def expect (t : Token) (ts : List Token) : Except SyntaxError (List Token) :=
  if current ts = t then .ok ts.tail else fail (.token t) ts

def readName : List Token → Except SyntaxError (String × List Token)
  | .name n :: ts => .ok (n, ts)
  | ts => fail .name ts

def readNames : List Token → Except SyntaxError (List String × List Token)
  | .name n :: .comma :: ts => do
    let (ns, ts) ← readNames ts
    .ok (n :: ns, ts)
  | .name n :: ts => .ok ([n], ts)
  | ts => fail .name ts

def readProjection : List Token → Except SyntaxError (Projection × List Token)
  | .star :: ts => .ok (.all, ts)
  | ts => do
    let (ns, ts) ← readNames ts
    .ok (.columns ns, ts)

def comparison? : Token → Option Comparison
  | .equal => some .eq
  | .notEqual => some .ne
  | .less => some .lt
  | .lessEqual => some .le
  | .greater => some .gt
  | .greaterEqual => some .ge
  | _ => none

def readInt64? (cs : List Char) : Option Int :=
  Decimal.toIntWithin? (-9223372036854775808) 9223372036854775807 cs

/-- The constant of a number's text: one with a point is a double, else an integer. -/
def number (digits : String) : Except SyntaxError Literal :=
  let cs := digits.toList
  if '.' ∈ cs then
    match Binary.read? Binary.double cs with
    | some bits => .ok (.real bits)
    | none => .error (.invalidNumber digits)
  else
    match readInt64? cs with
    | some i => .ok (.integer i)
    | none => .error (.invalidNumber digits)

def readLiteral : List Token → Except SyntaxError (Literal × List Token)
  | .minus :: .number digits :: ts => (number ("-" ++ digits)).map (·, ts)
  | .minus :: ts => fail .literal ts
  | .number digits :: ts => (number digits).map (·, ts)
  | .text s :: ts => .ok (.text s, ts)
  | .trueWord :: ts => .ok (.truth true, ts)
  | .falseWord :: ts => .ok (.truth false, ts)
  | ts => fail .literal ts

def readPredicate (ts : List Token) : Except SyntaxError (Predicate × List Token) := do
  let (column, ts) ← readName ts
  match comparison? (current ts) with
  | none => fail .comparison ts
  | some op =>
    let (value, ts) ← readLiteral ts.tail
    .ok (⟨column, op, value⟩, ts)

/-- Reads comparisons joined by `AND`; each takes a token, so their number bounds the steps. -/
def readPredicates : Nat → List Token → Except SyntaxError (List Predicate × List Token)
  | 0, ts => fail .name ts
  | fuel + 1, ts => do
    let (p, ts) ← readPredicate ts
    match ts with
    | .and :: ts => do
      let (ps, ts) ← readPredicates fuel ts
      .ok (p :: ps, ts)
    | ts => .ok ([p], ts)

def readSelection : List Token → Except SyntaxError (List Predicate × List Token)
  | .whereWord :: ts => readPredicates (ts.length + 1) ts
  | ts => .ok ([], ts)

/-- Limits are eight-byte numbers. -/
def readCount? (cs : List Char) : Option Nat := Decimal.toNatBelow? UInt64.size cs

def readLimit : List Token → Except SyntaxError (Option Nat × List Token)
  | .limit :: .number digits :: ts =>
    match readCount? digits.toList with
    | some n => .ok (some n, ts)
    | none => .error (.invalidLimit digits)
  | .limit :: ts => fail .limit ts
  | ts => .ok (none, ts)

def skipSemicolon : List Token → List Token
  | .semicolon :: ts => ts
  | ts => ts

/--
Reads a whole query:

    SELECT * | column [, column]... FROM table
        [WHERE column op literal [AND column op literal]...] [LIMIT n] [;]
-/
def readQuery (ts : List Token) : Except SyntaxError SelectQuery := do
  let ts ← expect .select ts
  let (projection, ts) ← readProjection ts
  let ts ← expect .fromWord ts
  let (table, ts) ← readName ts
  let (selection, ts) ← readSelection ts
  let (limit, ts) ← readLimit ts
  let last := current (skipSemicolon ts)
  if last = .eof then .ok ⟨projection, table, selection, limit⟩ else .error (.trailing last)

end Parser

def SelectQuery.read (text : String) : Except SyntaxError SelectQuery :=
  match tokenize text with
  | .error e => .error (.lexical e)
  | .ok ts => Parser.readQuery ts

def parseQuery (text : String) : Except QueryError SelectQuery :=
  (SelectQuery.read text).mapError fun e => .parse e.message

end ShardQuery
