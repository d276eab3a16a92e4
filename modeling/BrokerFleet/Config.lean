import BrokerFleet.Failure
import BrokerFleet.Pattern.Reader

/-! # Settings of the operator

Empty texts stand for absent settings. -/

namespace BrokerFleet

/-- A pattern with the text that wrote it. -/
structure SyntaxCheck where
  text : String
  pattern : Pattern

def SyntaxCheck.accepts (c : SyntaxCheck) (content : String) : Bool := c.pattern.isMatch content

structure Config where
  /-- The namespace to watch; without one, all of them. -/
  ns : Option String := none
  resyncMillis : Nat := 30000
  clusterDomain : String := "cluster.local"
  /-- What a mounted login configuration has to match, if anything. -/
  jaasSyntax : Option SyntaxCheck := none
  managementTimeoutMillis : Nat := 30000
  managementConnectTimeoutMillis : Nat := 10000
  managementPort : Nat := 8161
  managementCaCert : Option String := none
  managementInsecure : Bool := false

namespace Config

def nonEmpty? (text : String) : Option String := if text = "" then none else some text

/-- Watches a namespace, or all of them when the text is empty. -/
def withNamespace (c : Config) (ns : String) : Config := { c with ns := nonEmpty? ns }

/-- Takes a domain, unless the text is empty. -/
def withClusterDomain (c : Config) (domain : String) : Config :=
  { c with clusterDomain := (nonEmpty? domain).getD c.clusterDomain }

/-- Trusts the certificates of a file, or of none when the text is empty. -/
def withCaCert (c : Config) (path : String) : Config :=
  { c with managementCaCert := nonEmpty? path }

/-- Takes a pattern for login configurations; a blank text turns the check off. -/
def withJaasSyntax (c : Config) (text : String) : Except Failure Config :=
  if Text.trim text = "" then .ok { c with jaasSyntax := none }
  else match Pattern.parse? text with
    | some pattern => .ok { c with jaasSyntax := some ⟨text, pattern⟩ }
    | none => .error (.invalidConfig ("JAAS syntax pattern: " ++ text))

end Config

end BrokerFleet
