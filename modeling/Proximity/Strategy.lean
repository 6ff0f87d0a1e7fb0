import Proximity.Medium.Set

/-!
# Strategies

A strategy is the topology of a nearby connection: one peer to one peer, a star around
one peer, or a cluster of peers. Only a point-to-point connection refuses a second
connection, and a cluster cannot run over Wi-Fi Direct.

A strategy is read from a token: the token is trimmed, upper-cased (ASCII) and its
hyphens become underscores; then one leading `P2P_` may go, and what is left must be
`POINT_TO_POINT`, `STAR` or `CLUSTER`. An unreadable token is kept as written in the
error.
-/

namespace Proximity

/-- The topology of a nearby connection. -/
inductive Strategy where
  | pointToPoint
  | star
  | cluster
  deriving DecidableEq, Repr, Inhabited

namespace Strategy

/-- Every strategy. -/
def all : List Strategy := [pointToPoint, star, cluster]

/-- The name a strategy is written with. -/
def name : Strategy → String
  | pointToPoint => "P2P_POINT_TO_POINT"
  | star => "P2P_STAR"
  | cluster => "P2P_CLUSTER"

/-- Whether a peer may hold more than one connection. -/
def allowsMultipleConnections : Strategy → Bool
  | pointToPoint => false
  | star => true
  | cluster => true

/-- The mediums a strategy can run over: all of them, except Wi-Fi Direct for a cluster. -/
def compatibleMediums : Strategy → MediumSet
  | pointToPoint => MediumSet.full
  | star => MediumSet.full
  | cluster => MediumSet.full.set .wifiDirect false

/-- Whether a strategy can run over a medium. -/
def isMediumCompatible (t : Strategy) (m : Medium) : Bool :=
  t.compatibleMediums.get m

/-- The strategy a bare token names. -/
def ofBareName? : String → Option Strategy
  | "POINT_TO_POINT" => some pointToPoint
  | "STAR" => some star
  | "CLUSTER" => some cluster
  | _ => none

/-- A normalized token without one leading `P2P_`. -/
def dropTopologyTag (s : String) : String :=
  match s.toList with
  | 'P' :: '2' :: 'P' :: '_' :: rest => String.ofList rest
  | _ => s

/-- A token that names no strategy, kept as it was written. -/
structure InvalidStrategy where
  token : String
  deriving DecidableEq, Repr

/-- The text of an invalid-strategy error. -/
def InvalidStrategy.message (e : InvalidStrategy) : String :=
  "Invalid strategy: '" ++ e.token ++ "'. Expected P2P_POINT_TO_POINT, P2P_STAR or P2P_CLUSTER."

/-- The failure an invalid strategy stands for. -/
def InvalidStrategy.failure (e : InvalidStrategy) : Failure := ⟨e.message, .invalidStrategy e.token⟩

/-- Reads a strategy from a token. -/
def parse (s : String) : Except InvalidStrategy Strategy :=
  match ofBareName? (dropTopologyTag (Medium.normalizeToken s)) with
  | some t => .ok t
  | none => .error ⟨s⟩

end Strategy

end Proximity
