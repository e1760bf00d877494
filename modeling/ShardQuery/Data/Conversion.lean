import ShardQuery.Data.Batch
import ShardQuery.Binary.Layout
import ShardQuery.Binary.Literal
import ShardQuery.Decimal.Fixed
import ShardQuery.Calendar.Clock

namespace ShardQuery

open Calendar (TimeUnit Moment Date)
open Binary (Format Layout)

def Precision.format : Precision → Format
  | half => Binary.half
  | single => Binary.single
  | double => Binary.double

def Precision.text (p : Precision) (bits : Nat) : String :=
  match p with
  | half => Binary.plainLayout.write Binary.single (Binary.single.convert Binary.half bits)
  | single => Binary.singleLayout.write Binary.single bits
  | double => Binary.doubleLayout.write Binary.double bits

abbrev Conversion := Cell → Option Cell

namespace Conversion

/-- The cell of an integer that a type holds, null for another. -/
def fitted (t : IntegerType) (i : Int) : Cell := if t.holds i then .int i else .null

def within (precision : Nat) (i : Int) : Cell :=
  if Decimal.isWithin precision i then .int i else .null

def optional (f : α → Cell) : Option α → Cell
  | some a => f a
  | none => .null

def tryInt (f : Int → Option Cell) : Conversion
  | .int i => f i
  | _ => some .null

def onInt (f : Int → Cell) : Conversion := tryInt fun i => some (f i)

def onFloat (f : Nat → Cell) : Conversion
  | .float b => some (f b)
  | _ => some .null

def onBool (f : Bool → Cell) : Conversion
  | .bool b => some (f b)
  | _ => some .null

def onText (f : List Char → Cell) : Conversion
  | .text s => some (f s.toList)
  | _ => some .null

/-- The cells of another type that are held alike. -/
def same : Conversion := some

def nulls : Conversion := fun _ => some .null

def ofChars (cs : List Char) : Cell := .text (String.ofList cs)

def showing (f : Int → Option (List Char)) : Conversion := tryInt fun i => (f i).map ofChars

def listed (c : Cell) : Cell :=
  match c with
  | .int i => ofChars ('[' :: Decimal.ofInt i ++ [']'])
  | _ => .text "[]"

def boolText (b : Bool) : String := if b then "true" else "false"

def readTruth? (cs : List Char) : Option Bool :=
  let word := Text.trim (Text.lowerAscii (String.ofList cs))
  if ["t", "tr", "tru", "true", "y", "ye", "yes", "on", "1"].contains word then some true
  else if ["f", "fa", "fal", "fals", "false", "n", "no", "of", "off", "0"].contains word then
    some false
  else none

def readInteger? (t : IntegerType) (cs : List Char) : Option Int :=
  (Decimal.toInt? cs).filter t.holds

def readTimestamp? (u : TimeUnit) (cs : List Char) : Option Int :=
  ((Moment.read? cs).map (·.count u)).filter int64.holds

/-- The count, if it and the whole seconds in that unit have eight bytes. -/
def heldCount? (u : TimeUnit) (m : Moment) : Option Int :=
  if int64.holds (m.seconds * u.perSecond) && int64.holds (m.count u) then some (m.count u)
  else none

/-- The same of a text that is read at an offset from universal time. -/
def castTimestamp? (u : TimeUnit) (offset : Int) (cs : List Char) : Option Int :=
  (Moment.readAt? offset cs).bind (heldCount? u)

/-- Milliseconds since 1970 of a date, or of a date with a time. -/
def readDateTime? (cs : List Char) : Option Int :=
  if Date.isLong cs then (Moment.read? cs).map (·.count .millisecond)
  else (Date.readShort? cs).map fun d => d.toDays * 86400000

/-- The time of day that a text writes, or its bare count. -/
def readTimeOfDay? (u : TimeUnit) (cs : List Char) : Option Int :=
  (Calendar.readTimeCount? u cs).or (readInteger? (clockInteger u) cs)

/-- The decimal that a text writes, with white space around it. -/
def readDecimal (precision scale : Nat) (cs : List Char) : Cell :=
  optional (within precision) (Decimal.readRounded? scale (Text.trimEnd (Text.trimStart cs)))

/-- A count in another unit; a coarser one drops the rest toward zero. -/
def changeUnit (source target : TimeUnit) (i : Int) : Cell :=
  if target.perSecond ≤ source.perSecond then
    .int (Int.tdiv i (source.perSecond / target.perSecond : Nat))
  else fitted int64 (i * (target.perSecond / source.perSecond : Nat))

/-- An integer of eight bytes, wrapping around. -/
def wrapped (i : Int) : Cell := .int (Int.bmod i UInt64.size)

/-- A time of day in another unit, wrapping around in the bytes of that unit. -/
def changeClock (source target : TimeUnit) (i : Int) : Cell :=
  let count := if target.perSecond ≤ source.perSecond then
      Int.tdiv i (source.perSecond / target.perSecond : Nat)
    else i * (target.perSecond / source.perSecond : Nat)
  .int (Int.bmod count (2 ^ (clockInteger target).width.bits))

/-- An integer as a decimal; places before the point that are not kept are cut off. -/
def scaledUp (precision : Nat) (scale : Int) (i : Int) : Cell :=
  within precision (if scale < 0 then Int.tdiv i (10 ^ scale.natAbs) else i * 10 ^ scale.natAbs)

/-- Milliseconds in another unit, wrapping around in eight bytes. -/
def ofMilliseconds (target : TimeUnit) (i : Int) : Cell :=
  match target with
  | .second => .int (Int.tdiv i 1000)
  | u => wrapped (i * (u.perSecond / 1000 : Nat))

/-- Days to the first moment of the day, wrapping around in eight bytes. -/
def midnight (u : TimeUnit) (days : Int) : Cell := wrapped (days * 86400 * u.perSecond)

def dayOfMilliseconds (i : Int) : Cell := .int (Int.bmod (Int.tdiv i 86400000) UInt32.size)

/-- The moment of a timestamp, if its day can be shown. -/
def moment? (u : TimeUnit) (i : Int) : Option Moment :=
  let m := Moment.ofCount i u
  if Date.isShown m.day then some m else none

def dayText? (days : Int) : Option (List Char) :=
  if Date.isShown days then some (Date.ofDays days).text else none

def momentText? (u : TimeUnit) (i : Int) : Option (List Char) := (moment? u i).map Moment.text

/-- The same at an offset from universal time, which stands after it. -/
def zonedText? (u : TimeUnit) (offset : Int) (i : Int) : Option (List Char) :=
  (moment? u i).map fun m => (m.shifted offset).text ++ Moment.offsetText offset

/-- The count of a timestamp in a zone whose clocks show what one without a zone shows. -/
def placed (u : TimeUnit) (offset : Int) : Cell → Cell
  | .int i => optional .int ((moment? u i).bind fun m => heldCount? u (m.shifted (-offset)))
  | c => c

/-- The bytes of an integer, the lowest first, as a text if they are one. -/
def byteText (t : IntegerType) (i : Int) : Cell :=
  let bytes := (List.range (t.width.bits / 8)).map fun k =>
    UInt8.ofNat ((i % 2 ^ t.width.bits).toNat / 256 ^ k)
  optional .text (String.fromUTF8? ⟨bytes.toArray⟩)

/-- The float of a decimal: the integer is rounded, and then its quotient by the power of ten. -/
def decimalFloat (f : Format) (scale : Int) (unscaled : Int) : Nat :=
  f.convert Binary.double
    (Binary.double.div (Binary.double.ofInt unscaled) (Binary.double.tenPower scale))

/-- The decimal of a float: its product with the power of ten to the nearest integer, a half away
from zero. -/
def floatDecimal? (f : Format) (precision : Nat) (scale : Int) (bits : Nat) : Option Int :=
  let scaled := Binary.double.mul (Binary.double.tenPower scale) (Binary.double.convert f bits)
  match Binary.double.decode scaled with
  | .finite negative m e =>
    let n : Int := if 0 ≤ e then m * 2 ^ e.toNat else Decimal.divHalfAway m (2 ^ (-e).toNat)
    let i := if negative then -n else n
    if Decimal.isWithin precision i then some i else none
  | _ => none

end Conversion

end ShardQuery
