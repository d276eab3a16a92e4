import BrokerFleet.Declaration.Constraint
import BrokerFleet.Json.Decoder

/-! # Declared queue settings

Every setting is optional, and an absent one is not written. -/

namespace BrokerFleet

open Json

structure QueueSettings where
  ignoreIfExists : Option Bool := none
  routingType : Option String := none
  filterString : Option String := none
  durable : Option Bool := none
  user : Option String := none
  maxConsumers : Option Int32 := none
  exclusive : Option Bool := none
  groupRebalance : Option Bool := none
  groupBuckets : Option Int32 := none
  lastValue : Option Bool := none
  lastValueKey : Option String := none
  nonDestructive : Option Bool := none
  purgeOnNoConsumers : Option Bool := none
  enabled : Option Bool := none
  consumersBeforeDispatch : Option Int32 := none
  delayBeforeDispatch : Option Int64 := none
  consumerPriority : Option Int32 := none
  autoDelete : Option Bool := none
  autoDeleteDelay : Option Int64 := none
  autoDeleteMessageCount : Option Int64 := none
  ringSize : Option Int64 := none
  configurationManaged : Option Bool := none
  temporary : Option Bool := none
  autoCreateAddress : Option Bool := none
  deriving DecidableEq

namespace QueueSettings

/-- Every setting by its name, in order of declaration. -/
def fields (q : QueueSettings) : List (String × Option Json) :=
  let flag := Option.map bool
  let text := Option.map str
  let word := Option.map fun (n : Int32) => int n.toInt
  let long := Option.map fun (n : Int64) => int n.toInt
  [("ignoreIfExists", flag q.ignoreIfExists), ("routingType", text q.routingType),
    ("filterString", text q.filterString), ("durable", flag q.durable), ("user", text q.user),
    ("maxConsumers", word q.maxConsumers), ("exclusive", flag q.exclusive),
    ("groupRebalance", flag q.groupRebalance), ("groupBuckets", word q.groupBuckets),
    ("lastValue", flag q.lastValue), ("lastValueKey", text q.lastValueKey),
    ("nonDestructive", flag q.nonDestructive), ("purgeOnNoConsumers", flag q.purgeOnNoConsumers),
    ("enabled", flag q.enabled), ("consumersBeforeDispatch", word q.consumersBeforeDispatch),
    ("delayBeforeDispatch", long q.delayBeforeDispatch),
    ("consumerPriority", word q.consumerPriority), ("autoDelete", flag q.autoDelete),
    ("autoDeleteDelay", long q.autoDeleteDelay),
    ("autoDeleteMessageCount", long q.autoDeleteMessageCount), ("ringSize", long q.ringSize),
    ("configurationManaged", flag q.configurationManaged), ("temporary", flag q.temporary),
    ("autoCreateAddress", flag q.autoCreateAddress)]

def toJson (q : QueueSettings) : Json := present q.fields

def ofJson? (v : Json) : Option QueueSettings := do
  let v ← record (({} : QueueSettings).fields.map (·.1)) 0 v
  some {
    ignoreIfExists := ← optional asBool "ignoreIfExists" v
    routingType := ← optional asStr "routingType" v
    filterString := ← optional asStr "filterString" v
    durable := ← optional asBool "durable" v
    user := ← optional asStr "user" v
    maxConsumers := ← optional asInt32 "maxConsumers" v
    exclusive := ← optional asBool "exclusive" v
    groupRebalance := ← optional asBool "groupRebalance" v
    groupBuckets := ← optional asInt32 "groupBuckets" v
    lastValue := ← optional asBool "lastValue" v
    lastValueKey := ← optional asStr "lastValueKey" v
    nonDestructive := ← optional asBool "nonDestructive" v
    purgeOnNoConsumers := ← optional asBool "purgeOnNoConsumers" v
    enabled := ← optional asBool "enabled" v
    consumersBeforeDispatch := ← optional asInt32 "consumersBeforeDispatch" v
    delayBeforeDispatch := ← optional asInt64 "delayBeforeDispatch" v
    consumerPriority := ← optional asInt32 "consumerPriority" v
    autoDelete := ← optional asBool "autoDelete" v
    autoDeleteDelay := ← optional asInt64 "autoDeleteDelay" v
    autoDeleteMessageCount := ← optional asInt64 "autoDeleteMessageCount" v
    ringSize := ← optional asInt64 "ringSize" v
    configurationManaged := ← optional asBool "configurationManaged" v
    temporary := ← optional asBool "temporary" v
    autoCreateAddress := ← optional asBool "autoCreateAddress" v }

/-- The violations of queue settings: -1 consumers means any number, and less means nothing. -/
def violations (q : QueueSettings) : List Violation :=
  Violation.atField "routing_type" (q.routingType.bind Constraint.routing) ++
    Violation.atField "max_consumers" (q.maxConsumers.bind fun n =>
      if n.toInt < -1 then some .consumerRange else none)

end QueueSettings

end BrokerFleet
