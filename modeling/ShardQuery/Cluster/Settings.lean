import ShardQuery.Json.Decode

namespace ShardQuery

structure Settings where
  /-- The transport between caches; it is only passed on. -/
  protocol : String := "UCX"
  bindIp : String := "0.0.0.0"
  /-- The coordinator's port; the workers have the ports after it. -/
  basePort : Nat := 4000
  /-- How long each participant may take for its part; without it they are waited for. -/
  timeoutMs : Option Nat := some 30000
  /-- How many requests may wait at a worker. -/
  capacity : Nat := 64
deriving DecidableEq, Repr

namespace Settings

def default : Settings := {}

def fieldNames : List String :=
  ["protocol", "bind_ip", "base_port", "operation_timeout_ms", "channel_capacity"]

def toJson (s : Settings) : Json :=
  .object [
    ("protocol", .text s.protocol),
    ("bind_ip", .text s.bindIp),
    ("base_port", .ofNat s.basePort),
    ("operation_timeout_ms", .ofOption Json.ofNat s.timeoutMs),
    ("channel_capacity", .ofNat s.capacity)]

def ofJson? (j : Json) : Option Settings := do
  let fs ← j.leadingFields? fieldNames
  some {
    protocol := ← fs.defaulted 0 default.protocol Json.text?
    bindIp := ← fs.defaulted 1 default.bindIp Json.text?
    basePort := ← fs.defaulted 2 default.basePort (Json.natBelow? UInt16.size)
    timeoutMs := ← fs.defaulted 3 default.timeoutMs (Json.option? Json.word?)
    capacity := ← fs.defaulted 4 default.capacity Json.word? }

/-- The settings with a limit given in microseconds, of which whole milliseconds count. -/
def withTimeout (s : Settings) (micros : Nat) : Settings :=
  { s with timeoutMs := some (micros / 1000) }

end Settings

end ShardQuery
