import ShardQuery.Query.Token
import ShardQuery.Binary.Layout

namespace ShardQuery

inductive Comparison where
  | eq
  | ne
  | lt
  | le
  | gt
  | ge
deriving DecidableEq, Repr

namespace Comparison

def symbol : Comparison → String
  | eq => "="
  | ne => "!="
  | lt => "<"
  | le => "<="
  | gt => ">"
  | ge => ">="

def holds (c : Comparison) (o : Ordering) : Bool :=
  match c with
  | eq => o = .eq
  | ne => o ≠ .eq
  | lt => o = .lt
  | le => o ≠ .gt
  | gt => o = .gt
  | ge => o ≠ .lt

end Comparison

inductive Literal where
  | integer (i : Int)
  /-- The bit pattern of a double. -/
  | real (bits : Nat)
  | text (s : String)
  | truth (b : Bool)
deriving DecidableEq, Repr

/-- The text between single quotes, those inside doubled. -/
def quoteText (s : String) : String :=
  String.ofList ('\'' :: (s.toList.flatMap (fun c => if c = '\'' then ['\'', '\''] else [c])
    ++ ['\'']))

def Literal.shown : Literal → String
  | integer i => Decimal.intText i
  | real bits => Binary.plainLayout.write Binary.double bits
  | text s => quoteText s
  | truth b => if b then "true" else "false"

/-- `column op literal`. -/
structure Predicate where
  column : String
  op : Comparison
  value : Literal
deriving DecidableEq, Repr

def Predicate.shown (p : Predicate) : String :=
  p.column ++ " " ++ p.op.symbol ++ " " ++ p.value.shown

/-- Which columns a query gives. -/
inductive Projection where
  | all
  | columns (names : List String)
deriving DecidableEq, Repr

structure SelectQuery where
  projection : Projection
  table : String
  selection : List Predicate
  limit : Option Nat
deriving DecidableEq, Repr

end ShardQuery
