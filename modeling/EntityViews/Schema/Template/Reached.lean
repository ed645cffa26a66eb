import EntityViews.Schema.Template.MemberTable
import EntityViews.Text.Quoted
import EntityViews.Number.Text

/-!
What a placeholder reaches on its way from a text through members and items: texts, classes, and the members of both.
-/

namespace EntityViews

/-- Something that a placeholder reaches. -/
inductive Reached
  | text (s : String)
  | nothing
  | number (n : Int)
  | tuple (items : List Reached)
  | cls (name : String)
  /-- All members that a class holds itself. -/
  | holdings (owner : String)
  /-- A member apart from any instance. -/
  | loose (m : Member)
  /-- A member of something. -/
  | bound (m : Member) (on : Reached)

namespace Reached

def className : Reached → String
  | text _ => "str"
  | nothing => "NoneType"
  | number _ => "int"
  | tuple _ => "tuple"
  | cls _ => "type"
  | holdings _ => "mappingproxy"
  | loose m =>
    match m.form with
    | .slot => "wrapper_descriptor"
    | .computed => "getset_descriptor"
    | .stored => "member_descriptor"
    | .ofClass => "classmethod_descriptor"
    | _ => "method_descriptor"
  | bound m _ => if m.form = .slot then "method-wrapper" else "builtin_function_or_method"

def ofText? : Option String → Reached
  | some s => .text s
  | none => .nothing

/-- A class and those that it is built on. -/
def lineage (name : String) : List String := if name = "object" then [name] else [name, "object"]

def member? (cls name : String) : Option Member :=
  (lineage cls).findSome? fun owner => members.find? fun m => m.owner == owner && m.name == name

def qualified (owner : String) (m : Member) : String := owner ++ "." ++ m.name

/-- The description of a class; those without one hold a member in its place. -/
def description (name : String) : Reached :=
  match memberClasses.find? (·.name == name) with
  | some ⟨_, _, _, some s⟩ => .text s
  | _ =>
    match members.find? fun m => m.owner == name && m.name == "__doc__" with
    | some m => if m.form = .computed then .loose m else .nothing
    | none => .nothing

/-- The values that are worked out for a class. -/
def ofClass? (cls name : String) : Option Reached :=
  let size := fun (i : Nat) => ((memberClasses.find? (·.name == cls)).bind fun c => c.sizes[i]?).map Reached.number
  match name with
  | "__name__" | "__qualname__" => some (.text cls)
  | "__module__" => some (.text "builtins")
  | "__class__" => some (.cls "type")
  | "__bases__" => some (.tuple ((lineage cls).drop 1 |>.map .cls))
  | "__mro__" => some (.tuple ((lineage cls).map .cls))
  | "__base__" => some (((lineage cls)[1]?.map Reached.cls).getD .nothing)
  | "__dict__" => some (.holdings cls)
  | "__doc__" => some (description cls)
  | "__text_signature__" => some (ofText? ((memberClasses.find? (·.name == cls)).bind (·.signature)))
  | "__basicsize__" => size 0
  | "__itemsize__" => size 1
  | "__flags__" => size 2
  | "__weakrefoffset__" => size 3
  | "__dictoffset__" => size 4
  | _ => none

/-- The values that are worked out for a member of its own class, `on` being what it is bound to. -/
def ofMember? (m : Member) (on : Option Reached) (name : String) : Option Reached :=
  match name with
  | "__name__" => some (.text m.name)
  | "__doc__" => some (ofText? m.description)
  | "__text_signature__" => some (ofText? m.signature)
  | "__objclass__" => some (.cls m.owner)
  | "__self__" => on
  | "__module__" => some .nothing
  | "__qualname__" =>
    match on with
    | some .nothing => some (.text (qualified m.owner m))
    | some (.cls c) => some (.text (qualified (if m.form = .slot then m.owner else c) m))
    | some o => some (.text (qualified (if m.form = .slot then m.owner else o.className) m))
    | none => some (.text (qualified m.owner m))
  | _ => none

/-- The value that is worked out for an instance. -/
def computed? (o : Reached) (name : String) : Option Reached :=
  if name = "__class__" then some (.cls o.className)
  else match o with
    | cls c => ofClass? c name
    | loose m => ofMember? m none name
    | bound m on => ofMember? m (some on) name
    | _ => none

/-- What a function of the class alone is: the one that makes instances is bound to the class, others to nothing. -/
def fixed (m : Member) : Reached := .bound m (if m.name = "__new__" then .cls m.owner else .nothing)

/-- What a member is on an instance. -/
def bindTo (o : Reached) (m : Member) : Option Reached :=
  match m.form with
  | .method | .slot => some (.bound m o)
  | .computed | .stored => computed? o m.name
  | .ofClass => some (.bound m (.cls o.className))
  | .fixed => some (fixed m)
  | .text | .nothing => some (ofText? m.description)

/-- What a member is on the class that holds it or one built on that. -/
def bindToClass (cls : String) (m : Member) : Reached :=
  match m.form with
  | .method | .slot | .computed | .stored => .loose m
  | .ofClass => .bound m (.cls cls)
  | .fixed => fixed m
  | .text | .nothing => ofText? m.description

/-- The member of a name. On a class, what is worked out for it comes first, then its own members, then those that it has
as an instance. -/
def attribute? (o : Reached) (name : String) : Option Reached :=
  match o with
  | cls c =>
    let general := member? "type" name
    if general.any fun m => m.form = .computed || m.form = .stored then computed? o name
    else match member? c name with
      | some m => some (bindToClass c m)
      | none => general.bind (bindTo o)
  | o => (member? o.className name).bind (bindTo o)

def held (m : Member) : Reached :=
  match m.form with
  | .ofClass => .loose m
  | _ => bindToClass m.owner m

/-- A member apart from instances, by its kind, its name and its class. -/
def looseText (m : Member) : String :=
  let kind := match m.form with
    | .slot => "slot wrapper"
    | .computed => "attribute"
    | .stored => "member"
    | _ => "method"
  "<" ++ kind ++ " '" ++ m.name ++ "' of '" ++ m.owner ++ "' objects>"

/-- What a class holds under a name, in quotes if it is a text. Where a place in memory would tell two of a kind apart it
is left out. -/
def heldText (m : Member) : String :=
  match m.form with
  | .text | .nothing => (m.description.map Text.quoted).getD "None"
  | .fixed => "<built-in method " ++ m.name ++ " of type object>"
  | _ => looseText m

/-- The members that a class holds, as a map. -/
def holdingsText (owner : String) : String :=
  let own := (members.filter (·.owner == owner)).toList
  "\x7b" ++ ", ".intercalate (own.map fun m => Text.quoted m.name ++ ": " ++ heldText m) ++ "\x7d"

def quoted : Reached → String
  | text s => Text.quoted s
  | nothing => "None"
  | number n => intText n
  | tuple [] => "()"
  | tuple [item] => "(" ++ quoted item ++ ",)"
  | tuple items => "(" ++ ", ".intercalate (items.map quoted) ++ ")"
  | cls name => "<class '" ++ name ++ "'>"
  | holdings owner => "mappingproxy(" ++ holdingsText owner ++ ")"
  | loose m => looseText m
  | bound m on =>
    (if m.form = .slot then "<method-wrapper '" ++ m.name ++ "' of " else "<built-in method " ++ m.name ++ " of ") ++
      on.className ++ " object>"

def shown : Reached → String
  | text s => s
  | holdings owner => holdingsText owner
  | o => o.quoted

end Reached

end EntityViews
