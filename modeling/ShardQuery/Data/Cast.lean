import ShardQuery.Data.Conversion
import ShardQuery.Error

namespace ShardQuery

open Calendar (TimeUnit)

namespace Cast

open Conversion

/-- The offset of a zone from universal time, none if its name does not tell. -/
def zoneOffset? (zone : String) : Option Int := Calendar.Moment.readOffset? zone.toList

/-- Conversions from integers. Dates are cast from the two wide signed types only. -/
def ofInteger? (t : IntegerType) : DataType → Option Conversion
  | .integer u => some (onInt (fitted u))
  | .float .half => none
  | .float p => some (onInt fun i => .float (p.format.ofInt i))
  | .boolean => some (onInt fun i => .bool (i ≠ 0))
  | .text _ => some (onInt fun i => ofChars (Decimal.ofInt i))
  | .binary => some (onInt (byteText t))
  | .decimal _ p s => some (onInt (scaledUp p s))
  | .timestamp _ _ => some (onInt (fitted int64))
  | .duration _ => some (onInt (fitted int64))
  | .date => if t = int32 ∨ t = int64 then some (onInt (fitted int32)) else none
  | .dateTime =>
    if t = int32 then some (onInt fun i => .int (i * 86400000))
    else if t = int64 then some (onInt .int)
    else none
  | .timeOfDay u => if t = clockInteger u then some same else none
  | _ => none

/-- Conversions from floats; the shortest ones are only shown and tested. -/
def ofFloat? (p : Precision) (target : DataType) : Option Conversion :=
  match p, target with
  | _, .boolean => some (onFloat fun b => .bool (!p.format.isZero b))
  | _, .text _ => some (onFloat fun b => .text (p.text b))
  | .half, _ => none
  | _, .float .half => none
  | _, .integer t => some (onFloat fun b => optional (fitted t) (p.format.truncate? b))
  | _, .float q => some (onFloat fun b => .float (q.format.convert p.format b))
  | _, .decimal _ d s => some (onFloat fun b => optional .int (floatDecimal? p.format d s b))
  | _, .timestamp _ _ => some (onFloat fun b => optional (fitted int64) (p.format.truncate? b))
  | _, .duration _ => some (onFloat fun b => optional (fitted int64) (p.format.truncate? b))
  | _, _ => none

def ofBoolean? : DataType → Option Conversion
  | .integer _ => some (onBool fun b => .int (if b then 1 else 0))
  | .float p => some (onBool fun b => .float (p.format.ofInt (if b then 1 else 0)))
  | .text _ => some (onBool fun b => .text (boolText b))
  | _ => none

def ofText? : DataType → Option Conversion
  | .integer t => some (onText fun cs => optional .int (readInteger? t cs))
  | .float .half => none
  | .float p => some (onText fun cs => optional .float (Binary.read? p.format cs))
  | .boolean => some (onText fun cs => optional .bool (readTruth? cs))
  | .text _ => some same
  | .binary => some same
  | .date => some (onText fun cs => optional .int (Calendar.readDay? cs))
  | .dateTime => some (onText fun cs => optional .int (readDateTime? cs))
  | .timeOfDay u => some (onText fun cs => optional .int (readTimeOfDay? u cs))
  | .timestamp u none => some (onText fun cs => optional .int (castTimestamp? u 0 cs))
  | .timestamp u (some zone) => (zoneOffset? zone).map fun offset =>
    onText fun cs => optional .int (castTimestamp? u offset cs)
  | .interval u => some (onText fun cs => optional .int (Calendar.readInterval? u cs))
  | .decimal _ p s => if s < 0 then none else some (onText (readDecimal p s.toNat))
  | _ => none

def ofDate? : DataType → Option Conversion
  | .integer t => if t = int32 ∨ t = int64 then some (onInt .int) else none
  | .text _ => some (showing dayText?)
  | .dateTime => some (onInt fun i => .int (i * 86400000))
  | .timestamp u none => some (onInt (midnight u))
  | _ => none

def ofDateTime? : DataType → Option Conversion
  | .integer t => if t = int32 ∨ t = int64 then some (onInt (fitted t)) else none
  | .text _ => some (showing (momentText? .millisecond))
  | .date => some (onInt dayOfMilliseconds)
  | .timestamp u none => some (onInt (ofMilliseconds u))
  | _ => none

def ofTimeOfDay? (u : TimeUnit) : DataType → Option Conversion
  | .integer t => if t = clockInteger u then some same else none
  | .text _ => some (showing (Calendar.clockText? u))
  | .timeOfDay v => some (onInt (changeClock u v))
  | _ => none

/-- Conversions from timestamps. What a clock shows depends on its zone. -/
def ofTimestamp? (u : TimeUnit) (zone : Option String) : DataType → Option Conversion
  | .integer t => some (onInt (fitted t))
  | .float .half => none
  | .float p => some (onInt fun i => .float (p.format.ofInt i))
  | .decimal _ p s => some (onInt (scaledUp p s))
  | .text _ => match zone with
    | none => some (showing (momentText? u))
    | some z => (zoneOffset? z).map fun offset => showing (zonedText? u offset)
  | .date => (zone.elim (some 0) zoneOffset?).map fun offset =>
    tryInt fun i => (moment? u i).map fun m => .int (m.shifted offset).day
  | .timeOfDay v => (zone.elim (some 0) zoneOffset?).map fun offset =>
    tryInt fun i => (moment? u i).map fun m => .int (Calendar.clockOf v (m.shifted offset))
  | .dateTime => some (onInt (changeUnit u .millisecond))
  | .timestamp v target => match zone, target with
    | none, some z => (zoneOffset? z).map fun offset =>
      onInt fun i => placed v offset (changeUnit u v i)
    | _, _ => some (onInt (changeUnit u v))
  | _ => none

def ofDuration? (u : TimeUnit) : DataType → Option Conversion
  | .integer t => some (onInt (fitted t))
  | .float .half => none
  | .float p => some (onInt fun i => .float (p.format.ofInt i))
  | .decimal _ p s => some (onInt (scaledUp p s))
  | .text _ => some (onInt fun i => ofChars (Calendar.spanText i u))
  | .duration v => some (onInt (changeUnit u v))
  | _ => none

/-- Conversions from decimals. Their integers are reached only where digits follow the point. -/
def ofDecimal? (precision : Nat) (scale : Int) : DataType → Option Conversion
  | .null => some nulls
  | .integer t =>
    if scale < 0 then none else some (onInt fun i => fitted t (Int.tdiv i (10 ^ scale.toNat)))
  | .float .half => none
  | .float p => some (onInt fun i => .float (decimalFloat p.format scale i))
  | .text _ => some (onInt fun i => ofChars (Decimal.fixedText precision scale i))
  | .decimal _ p s => some (onInt fun i => within p (Decimal.rescale i scale s))
  | .timestamp _ _ =>
    if scale < 0 then none else some (onInt fun i => fitted int64 (Int.tdiv i (10 ^ scale.toNat)))
  | .duration _ =>
    if scale < 0 then none else some (onInt fun i => fitted int64 (Int.tdiv i (10 ^ scale.toNat)))
  | _ => none

/-- The conversion between two different types that are no lists. -/
def ofPlain? (source target : DataType) : Option Conversion :=
  match source with
  | .null => if target = .float .half then none else some nulls
  | .integer t => ofInteger? t target
  | .float p => ofFloat? p target
  | .boolean => ofBoolean? target
  | .text _ => ofText? target
  | .binary => match target with
    | .text _ => some same
    | _ => none
  | .date => ofDate? target
  | .dateTime => ofDateTime? target
  | .timeOfDay u => ofTimeOfDay? u target
  | .timestamp u zone => ofTimestamp? u zone target
  | .duration u => ofDuration? u target
  | .interval _ => none
  | .decimal _ p s => ofDecimal? p s target
  | .integerList => none

/--
The conversion between two different types. A cell becomes a list of itself where it can be an item,
and a list can only be shown.
-/
def between? (source target : DataType) : Option Conversion :=
  match source, target with
  | .null, .integerList => some nulls
  | .integerList, .text .small => some same
  | .integerList, .text .large => some same
  | _, .integerList =>
    let item := DataType.integer int32
    (if source = item then some same else ofPlain? source item).map fun convert c =>
      (convert c).map listed
  | _, _ => ofPlain? source target

def needsZone : DataType → DataType → Bool
  | .timestamp _ (some _), .text _ => true
  | .timestamp _ (some _), .date => true
  | .timestamp _ (some _), .timeOfDay _ => true
  | .timestamp _ none, .timestamp _ (some _) => true
  | .text _, .timestamp _ (some _) => true
  | _, _ => false

/-- The conversion from one type to another, none if there is no cast. -/
def of? (source target : DataType) : Option Conversion :=
  if source = target then some same else between? source target

/-- The error where there is no conversion. One that needs a zone lacks only its offset. -/
def refusal (source target : DataType) : QueryError :=
  if needsZone source target then .unreadableField else .noCast

def column (source target : DataType) (cells : List Cell) : Except QueryError (List Cell) :=
  match of? source target with
  | none => .error (refusal source target)
  | some convert =>
    match cells.mapM convert with
    | some converted => .ok converted
    | none => .error .noCast

theorem of?_self (t : DataType) : of? t t = some same := by simp [of?]

theorem mapM_same (cells : List Cell) : cells.mapM same = some cells := by
  induction cells with
  | nil => rfl
  | cons c cells ih =>
    rw [List.mapM_cons, ih]
    rfl

theorem column_self (t : DataType) (cells : List Cell) : column t t cells = .ok cells := by
  simp [column, of?_self, mapM_same]

theorem length_of_mapM {convert : Conversion} {cells converted : List Cell}
    (h : cells.mapM convert = some converted) : converted.length = cells.length := by
  induction cells generalizing converted with
  | nil => simp_all
  | cons c cells ih =>
    simp only [List.mapM_cons, Option.bind_eq_bind, Option.pure_def, Option.bind_eq_some_iff,
      Option.some.injEq] at h
    obtain ⟨d, _, ds, hds, rfl⟩ := h
    simp [ih hds]

theorem length_of_column {source target : DataType} {cells converted : List Cell}
    (h : column source target cells = .ok converted) : converted.length = cells.length := by
  unfold column at h
  split at h
  · simp at h
  · split at h
    · rename_i hm
      simp only [Except.ok.injEq] at h
      subst h
      exact length_of_mapM hm
    · simp at h

end Cast

end ShardQuery
