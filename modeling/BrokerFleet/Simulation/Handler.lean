import BrokerFleet.Handler.Basic

/-! # A config handler that reports -/

namespace BrokerFleet.Simulation

/-- Whether an entry of a list of clusters means a cluster: any, one by its name, or one by its
key. -/
def means (cluster : ObjectKey) (entry : String) : Bool :=
  entry == "*" || entry == cluster.name || entry == cluster.render

/-- A handler for the listed clusters, whose arguments are the given ones and then a report of what
it was asked. -/
def reportingHandler (clusters arguments : List String) : ConfigHandler where
  appliesTo key := clusters.any (means key)
  arguments inits dir version profile :=
    arguments ++ ["out=" ++ dir, "version=" ++ version, "profile=" ++ profile,
      "init=" ++ "|".intercalate (inits.map (·.name))]

end BrokerFleet.Simulation
