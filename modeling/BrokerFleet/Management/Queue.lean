import BrokerFleet.Declaration.Address
import BrokerFleet.Json.Writer

/-! # The queue configuration sent to a broker

A compact JSON object whose keys are written in kebab case and stand in order. -/

namespace BrokerFleet

/-- A queue configuration, and whether an existing queue is left as it is. -/
structure QueuePayload where
  config : String
  ignoreIfExists : Bool
  deriving DecidableEq, Repr

namespace QueuePayload

/-- The routing of an address or a queue that declares none. -/
def defaultRouting : String := "MULTICAST"

/-- A name in camel case written in kebab case. -/
def kebabCase (camel : String) : String :=
  String.ofList (camel.toList.flatMap fun c => if c.isUpper then ['-', c.toLower] else [c])

/-- The settings in force: routing falls back to that of the address and then to the default, and a
queue is managed by its configuration unless it says otherwise. -/
def effective (spec : AddressSpec) : QueueSettings :=
  let q := spec.queueConfiguration.getD {}
  { q with
    routingType := q.routingType.or (some (spec.routingType.getD defaultRouting))
    configurationManaged := q.configurationManaged.or (some true) }

/-- The fields of a queue configuration in the order of their keys. -/
def fields (queue : String) (spec : AddressSpec) : Dict String Json :=
  let settings := { effective spec with ignoreIfExists := none }
  .ofList ([("name", .str queue), ("address", .str spec.addressName)] ++
    settings.fields.filterMap fun e => e.2.map (kebabCase e.1, ·))

/-- The configuration of the declared queue, if there is one. -/
def ofSpec? (spec : AddressSpec) : Option QueuePayload :=
  spec.queue?.map fun queue => {
    config := (Json.ofDict (fields queue spec) id).render
    ignoreIfExists := (effective spec).ignoreIfExists.getD false }

end QueuePayload

end BrokerFleet
