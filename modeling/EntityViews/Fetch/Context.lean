import EntityViews.Fault

/-!
For whom data is fetched.
-/

namespace EntityViews

/-- A learner who is logged in; what belongs to a learner is keyed by the profile. -/
structure User where
  id : Int
  username : String
  profile : Int

inductive Viewer
  | nobody
  | anonymous
  | learner (user : User)

/-- What filters and annotators get to see: the viewer, whether there is a database, and further values by key. -/
structure Context where
  viewer : Viewer
  hasDatabase : Bool
  extra : List (Value × Value)

namespace Context

def isAuthenticated (c : Context) : Bool :=
  match c.viewer with
  | .learner _ => true
  | _ => false

/-- The learner, who is required for something. -/
def requireUser (c : Context) (what : String) : Except Fault User :=
  match c.viewer with
  | .learner user => .ok user
  | _ => .error (.unauthenticated what)

def get (c : Context) (key : String) (absent : Value) : Value := (lookup? (.text key) c.extra).getD absent

end Context

end EntityViews
