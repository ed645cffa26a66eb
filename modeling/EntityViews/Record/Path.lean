import EntityViews.Record
import EntityViews.Fetch.Registry

/-!
The records at the end of a path of relations: strictly, where every relation on the way has to be there, and loosely.
-/

namespace EntityViews

namespace Store

/-- The parts of a node that is gone through in turn: the items of a collection, the keys of a record, the characters of
a text. -/
def parts (s : Store) : Node → Except Fault (List Node)
  | .list items | .tuple items | .set items => .ok items
  | .record id => .ok ((s.entries id).map fun e => .ofKey e.1)
  | .scalar (.text t) => .ok (t.toList.map fun c => .scalar (.text c.toString))
  | .scalar (.columnKind k) => .ok (k.word.toList.map fun c => .scalar (.text c.toString))
  | .scalar _ => .error .mistyped

def ask (s : Store) (n : Node) (key : String) : Except Fault (Option Node) :=
  match n with
  | .record id => .ok (s.get? id (.text key))
  | _ => .error .absentMember

/-- What a record leads to by a relation; `here` is the path so far. -/
def follow (s : Store) (path here : String) (r : RelationSource) (record : Node) : Except Fault (List Node) := do
  let related ← s.ask record r.populate
  match r.cardinality with
  | .toOne =>
    match related with
    | some n => if s.isPresent n then return [n] else .error (.path (.notPopulated here) path)
    | none => .error (.path (.notPopulated here) path)
  | .toMany =>
    match related with
    | none | some .null => .error (.path (.notPopulated here) path)
    | some n => s.parts n
  | .other word => .error (.path (.unknownCardinality here word) path)

def followAll (s : Store) (path here : String) (r : RelationSource) (records : List Node) : Except Fault (List Node) := do
  let found ← records.mapM (s.follow path here r)
  return found.flatten

/-- Walks the rest of a path; `walked` are the segments behind. -/
def walk (s : Store) (graph : Graph) (path : String) (fields : EntityFields) (walked : List String)
    (records : List Node) : List String → Except Fault (List Node)
  | [] => .ok records
  | segment :: rest => do
    let walked := walked ++ [segment]
    let here := Text.joinDots walked
    match fields.forSegment? segment with
    | none => .error (.path (.noSource here) path)
    | some (.relation r) =>
      let found ← s.followAll path here r records
      if rest.isEmpty then return found
      else
        let target ← graph r.target
        s.walk graph path target walked found rest
    | some source => .error (.path (.notRelation here source.word) path)

/-- The records at the end of a path, grouped by where they come from; one reached in several ways appears as often. -/
def resolve (s : Store) (graph : Graph) (fields : EntityFields) (path : String) (roots : List Node) :
    Except Fault (List Node) :=
  if path = "" then .ok roots else s.walk graph path fields [] roots (Text.segments path)

/-- The entities whose fields a walk along a path asks for, in turn, up to where it fails. -/
def walkVisits (s : Store) (graph : Graph) (path : String) (fields : EntityFields) (walked : List String)
    (records : List Node) : List String → List String
  | [] => []
  | segment :: rest =>
    let walked := walked ++ [segment]
    match fields.forSegment? segment with
    | some (.relation r) =>
      match s.followAll path (Text.joinDots walked) r records with
      | .error _ => []
      | .ok found =>
        if rest.isEmpty then []
        else r.target :: (match graph r.target with
          | .ok target => s.walkVisits graph path target walked found rest
          | .error _ => [])
    | _ => []

def resolveVisits (s : Store) (graph : Graph) (fields : EntityFields) (path : String) (roots : List Node) :
    List String :=
  if path = "" then [] else s.walkVisits graph path fields [] roots (Text.segments path)

/-- What a record leads to by a key: the items of a list, a record itself, nothing else. -/
def reach (s : Store) (key : String) (record : Node) : Except Fault (List Node) := do
  match ← s.ask record key with
  | some (.list items) => return items
  | some (.record id) => return [.record id]
  | _ => return []

/-- Nodes with later mentions of a record left out. -/
def distinctRecords (nodes : List Node) : List Node :=
  nodes.foldl (fun seen n => match n with
    | .record id => if seen.any (fun m => match m with | .record k => k == id | _ => false) then seen else seen ++ [n]
    | n => seen ++ [n]) []

/-- The records that can be reached along a chain of keys. -/
def reachAll (s : Store) (records : List Node) : List String → Except Fault (List Node)
  | [] => .ok records
  | key :: rest => do
    let found ← records.mapM (s.reach key)
    s.reachAll found.flatten rest

/-- The distinct records at the end of a path, as far as it is populated. -/
def recordsAt (s : Store) (roots : List Node) (path : String) : Except Fault (List Node) := do
  let found ← if path = "" then pure roots else s.reachAll roots (Text.segments path)
  return distinctRecords found

end Store

end EntityViews
