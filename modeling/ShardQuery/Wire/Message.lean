import ShardQuery.Wire.Form

namespace ShardQuery

/-- What the coordinator asks of a worker. -/
inductive Request where
  /-- To start an engine as a member of the cluster. -/
  | createContext (self : ParticipantId) (members : Membership)
  /-- To register the partition that waits under a message id. -/
  | createTable (name : String) (id : MessageId)
  /-- To load a slice of a table's files. -/
  | createFromSource (slice : Slice)
  | dropTable (name : String)
  /-- To run a query and send its result under a message id. -/
  | runQuery (token : CorrelationToken) (id : MessageId) (query : String)
deriving DecidableEq, Repr

/-- What a worker answers. -/
inductive Reply where
  | contextCreated
  | tableCreated
  | tableDropped
  | queryRan (token : CorrelationToken) (id : MessageId)
  | failed (reason : String)
deriving DecidableEq, Repr

namespace ParticipantId

def toJson (p : ParticipantId) : Json := .ofNat p.number

def ofJson? (j : Json) : Option ParticipantId := (j.natBelow? UInt32.size).map mk

end ParticipantId

namespace CorrelationToken

def toJson (t : CorrelationToken) : Json := .ofNat t.number

def ofJson? (j : Json) : Option CorrelationToken := j.word?.map mk

end CorrelationToken

namespace MessageId

def toJson (id : MessageId) : Json := .text id.text

def ofJson? (j : Json) : Option MessageId := j.text?.map mk

end MessageId

namespace Request

def operation : Request → String
  | createContext .. => "createBlazingContext"
  | createTable .. => "createTable"
  | createFromSource .. => "createTableFromSource"
  | dropTable .. => "dropTable"
  | runQuery .. => "runQuery"

def fields : Request → List (String × Json)
  | createContext self members => [("ralId", self.toJson), ("clusterMetadata", members.toJson)]
  | createTable name id => [("tableName", .text name), ("messageId", id.toJson)]
  | createFromSource slice => [("slice", slice.toJson)]
  | dropTable name => [("tableName", .text name)]
  | runQuery token id query =>
    [("correlationToken", token.toJson), ("messageId", id.toJson), ("query", .text query)]

def ofFields? (operation : String) (body : Json) : Option Request :=
  if operation = "createBlazingContext" then do
    let fs ← body.fields? ["ralId", "clusterMetadata"]
    some (createContext (← fs.required 0 ParticipantId.ofJson?)
      (← fs.required 1 Membership.ofJson?))
  else if operation = "createTable" then do
    let fs ← body.fields? ["tableName", "messageId"]
    some (createTable (← fs.required 0 Json.text?) (← fs.required 1 MessageId.ofJson?))
  else if operation = "createTableFromSource" then do
    let fs ← body.fields? ["slice"]
    some (createFromSource (← fs.required 0 Slice.ofJson?))
  else if operation = "dropTable" then do
    let fs ← body.fields? ["tableName"]
    some (dropTable (← fs.required 0 Json.text?))
  else if operation = "runQuery" then do
    let fs ← body.fields? ["correlationToken", "messageId", "query"]
    some (runQuery (← fs.required 0 CorrelationToken.ofJson?)
      (← fs.required 1 MessageId.ofJson?) (← fs.required 2 Json.text?))
  else none

/-- The reply of a worker that did what it was asked. -/
def success : Request → Reply
  | createContext .. => .contextCreated
  | createTable .. => .tableCreated
  | createFromSource _ => .tableCreated
  | dropTable _ => .tableDropped
  | runQuery token id _ => .queryRan token id

end Request

namespace Reply

def operation : Reply → String
  | contextCreated => "blazingContextCreated"
  | tableCreated => "tableCreated"
  | tableDropped => "tableDropped"
  | queryRan .. => "queryRan"
  | failed _ => "failed"

def fields : Reply → List (String × Json)
  | queryRan token id => [("correlationToken", token.toJson), ("messageId", id.toJson)]
  | failed reason => [("reason", .text reason)]
  | _ => []

def ofFields? (operation : String) (body : Json) : Option Reply :=
  if operation = "blazingContextCreated" then some contextCreated
  else if operation = "tableCreated" then some tableCreated
  else if operation = "tableDropped" then some tableDropped
  else if operation = "queryRan" then do
    let fs ← body.fields? ["correlationToken", "messageId"]
    some (queryRan (← fs.required 0 CorrelationToken.ofJson?)
      (← fs.required 1 MessageId.ofJson?))
  else if operation = "failed" then do
    let fs ← body.fields? ["reason"]
    some (failed (← fs.required 0 Json.text?))
  else none

end Reply

end ShardQuery
