import ShardQuery.Table.Reference

namespace ShardQuery

structure Range where
  start : Nat
  len : Nat
deriving DecidableEq, Repr

namespace Range

def stop (r : Range) : Nat := r.start + r.len

def isEmpty (r : Range) : Bool := r.len = 0

/-- Ranges of the given lengths, one after the other. -/
def layOut (start : Nat) : List Nat → List Range
  | [] => []
  | len :: lens => ⟨start, len⟩ :: layOut (start + len) lens

theorem length_layOut (start : Nat) (lens : List Nat) :
    (layOut start lens).length = lens.length := by
  induction lens generalizing start with
  | nil => rfl
  | cons len lens ih => simp [layOut, ih]

end Range

/-- A participant's share of a table's files. -/
structure Slice where
  table : TableReference
  offset : Range
  /-- The worker that a mapping names for the share. -/
  worker : Option String
deriving DecidableEq, Repr

namespace Slice

def isEmpty (s : Slice) : Bool := s.table.locations.isEmpty

def schemaOnly (t : TableReference) (n : Nat) : List Slice :=
  List.replicate n ⟨t.schemaOnly, ⟨0, 0⟩, none⟩

/-- Lengths of `n` shares: each takes the whole part of what is left over the shares left. -/
def evenLengths (total : Nat) : Nat → List Nat
  | 0 => []
  | n + 1 => total / (n + 1) :: evenLengths (total - total / (n + 1)) n

def checkParts (n : Nat) : Except QueryError Unit :=
  if n = 0 then .error (.partition "Cannot plan slices for zero participants") else .ok ()

/-- Splits the files of a table evenly, in order; the larger shares come last. -/
def planEvenly (t : TableReference) (n : Nat) : Except QueryError (List Slice) := do
  checkParts n
  t.validate
  if t.locations.isEmpty then .ok (schemaOnly t n)
  else
    .ok ((Range.layOut 0 (evenLengths t.locations.length n)).map fun r =>
      ⟨t.restrict r.start r.len, r, none⟩)

/-- The share of one entry of a mapping. -/
def ofEntry (t : TableReference) (entry : WorkerFiles) (offset : Range) : Slice :=
  ⟨t.withLocations entry.files, offset, some entry.worker⟩

/-- One share for each entry of the table's mapping, shares without files if it has none. -/
def planMapped (t : TableReference) (n : Nat) : Except QueryError (List Slice) := do
  checkParts n
  t.validate
  match t.mapping with
  | none | some [] => .ok (schemaOnly t n)
  | some entries =>
    let offsets := Range.layOut 0 (entries.map (·.files.length))
    .ok (List.zipWith (ofEntry t) entries offsets)

end Slice

/-- Divides tables among a fixed number of participants. -/
structure Planner where
  participants : Nat
deriving DecidableEq, Repr

namespace Planner

def create (participants : Nat) : Except QueryError Planner :=
  if participants = 0 then
    .error (.partition "A partition plan needs at least one participant")
  else .ok ⟨participants⟩

/-- Slices a table: by its mapping, which must fit the participants, or else evenly. -/
def planTable (p : Planner) (t : TableReference) : Except QueryError (List Slice) :=
  match t.mapping with
  | none | some [] => Slice.planEvenly t p.participants
  | some _ => do
    let slices ← Slice.planMapped t p.participants
    if slices.length = p.participants then .ok slices
    else
      .error (.partition ("Worker mapping for '" ++ t.name ++ "' has " ++
        Decimal.natText slices.length ++ " entries but the cluster has " ++
        Decimal.natText p.participants ++ " participants"))

end Planner

/-- The quotient rounded up. -/
def ceilDiv (a b : Nat) : Nat := (a + (b - 1)) / b

/-- Divides rows into ranges of the quotient rounded up; the last ones get what is left. -/
def planRowRanges (total parts : Nat) : Except QueryError (List Range) :=
  if parts = 0 then .error (.partition "Cannot split rows across zero participants")
  else
    let chunk := ceilDiv total parts
    .ok ((List.range parts).map fun i =>
      let start := min (i * chunk) total
      ⟨start, min ((i + 1) * chunk) total - start⟩)

namespace Batch

/-- The rows of a range, which must lie in the batch. -/
def cut (b : Batch) (r : Range) : Except QueryError Batch :=
  if b.size < r.stop then
    .error (.partition ("Row range " ++ Decimal.natText r.start ++ ".." ++
      Decimal.natText r.stop ++ " exceeds batch of " ++ Decimal.natText b.size ++ " rows"))
  else .ok (b.slice r.start r.len)

def split (b : Batch) (parts : Nat) : Except QueryError (List Batch) := do
  let ranges ← planRowRanges b.size parts
  ranges.mapM b.cut

end Batch

end ShardQuery
