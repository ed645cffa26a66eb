import EntityViews.Text.Literal
import EntityViews.Text.Picture
import EntityViews.Text.Printed
import EntityViews.Text.Style
import EntityViews.Text.Table.WordPart

/-!
Texts with style tags in square brackets. A tag opens with a lower-case letter or one of three marks, closing tags with a
slash; a backslash in front takes a tag for text. Behind an equals sign a tag has parameters. Tags that open with `@` name
actions; their parameters have to be literals when they are closed.
-/

namespace EntityViews.Markup

/-- A tag: its name, and the parameters behind an equals sign. -/
structure Tag where
  name : String
  parameters : Option String

inductive Piece
  | plain (text : List Char)
  | tag (t : Tag)

inductive MarkupFault
  /-- A tag closes what is not open, or its parameters are no literal. -/
  | tag
  /-- A style has a number that cannot be read. -/
  | numeral (fault : NumeralFault)

def opensTag (c : Char) : Bool := ('a' ≤ c && c ≤ 'z') || c == '#' || c == '/' || c == '@'

/-- The inside of a tag and what follows it, for the text after an opening bracket. -/
def tag? (cs : List Char) : Option (List Char × List Char) :=
  match cs with
  | c :: rest =>
    let inside := rest.takeWhile fun c => c != '[' && c != ']'
    match rest.drop inside.length with
    | ']' :: after => if opensTag c then some (c :: inside, after) else none
    | _ => none
  | [] => none

def Tag.ofInside (inside : List Char) : Tag :=
  let name := inside.takeWhile (· != '=')
  ⟨String.ofList name, match inside.drop name.length with
    | _ :: rest => some (String.ofList rest)
    | [] => none⟩

/-- Brackets that a backslash takes for text, without that backslash. -/
def unescape : List Char → List Char
  | '\\' :: '[' :: rest => '[' :: unescape rest
  | c :: rest => c :: unescape rest
  | [] => []

/-- The pieces of a text with some plain characters collected before, in reverse; every step uses up some of `fuel`. -/
def pieces : Nat → List Char → List Char → List Piece
  | 0, before, _ => [.plain (unescape before.reverse)]
  | fuel + 1, before, cs =>
    let slashes := cs.takeWhile (· = '\\')
    match cs.drop slashes.length with
    | [] => [.plain (unescape (slashes ++ before).reverse)]
    | c :: rest =>
      match if c = '[' then tag? rest else none with
      | none => pieces fuel (c :: slashes ++ before) rest
      | some (inside, after) =>
        let kept := Piece.plain (List.replicate (slashes.length / 2) '\\')
        let own := if slashes.length % 2 = 1 then Piece.plain (unescape ('[' :: inside ++ [']']))
          else .tag (.ofInside inside)
        .plain (unescape before.reverse) :: kept :: own :: pieces fuel [] after

/-- A part of a text that a tag was put around: where it starts and ends, and what the tag asks for. -/
structure Span where
  start : Nat
  stop : Nat
  tag : Tag

/-- The printed text so far, the tags that are open with where they were opened, the last one first, and the parts that
had a tag. -/
structure Progress where
  text : List Char
  opened : List (Nat × Tag)
  spans : List Span

/-- Whether the parameters of an action can be read. Behind a name of the action they are in round brackets. -/
def actionHolds (parameters : String) : Bool :=
  let cs := Text.trimBy Text.isBlank parameters.toList
  let isNameChar := fun c => c = '.' || Text.inRanges Text.wordParts c
  match cs.dropWhile isNameChar with
  | [] => true
  | '(' :: rest =>
    isLiteral (if rest.getLast? = some ')' && !rest.contains '\n' then '(' :: rest else cs)
  | _ => isLiteral cs

/-- The open tags without the last one of a name, and that one. -/
def close? (name : String) : List (Nat × Tag) → Option ((Nat × Tag) × List (Nat × Tag))
  | [] => none
  | t :: rest => if t.2.name = name then some (t, rest) else (close? name rest).map fun r => (r.1, t :: r.2)

/-- Takes a tag in. -/
def Progress.withTag (p : Progress) (tag : Tag) : Except MarkupFault Progress :=
  match tag.name.toList with
  | '/' :: name => do
    let name := Text.trimBy Text.isBlank name
    let closed ← if name.isEmpty then pure (p.opened.head?.map fun t => (t, p.opened.drop 1))
      else do
        let name ← (Style.normalize (String.ofList name)).mapError .numeral
        pure (close? name p.opened)
    match closed with
    | none => throw .tag
    | some ((start, tag), opened) =>
      let isAction := tag.name.toList.head? = some '@'
      if isAction && !(tag.parameters.all fun s => s = "" || actionHolds s) then throw .tag
      return { p with opened, spans := if isAction then p.spans else ⟨start, p.text.length, tag⟩ :: p.spans }
  | _ => do
    let name ← (Style.normalize tag.name).mapError .numeral
    return { p with opened := (p.text.length, { tag with name }) :: p.opened }

def Progress.withPiece (p : Progress) : Piece → Except MarkupFault Progress
  | .plain cs => .ok { p with text := p.text ++ Text.withoutControls (Text.pictured cs) }
  | .tag tag => p.withTag tag

def Tag.style (t : Tag) : String :=
  match t.parameters with
  | some s => t.name ++ " " ++ s
  | none => t.name

/-- The fault of a style that cannot be looked up. A style that no character has is not looked up where a text is taken
apart, at its line breaks and tabs. -/
def Span.fault? (text : List Char) (s : Span) : Option MarkupFault :=
  if s.start = s.stop && (text.contains '\n' || text.contains '\t') then none
  else match Style.ofText s.tag.style with
    | .error (.numeral f) => some (.numeral f)
    | _ => none

def text (markup : String) : Except MarkupFault String := do
  let cs := markup.toList
  if !cs.contains '[' then return String.ofList (Text.withoutControls (Text.pictured cs))
  let p ← (pieces cs.length [] cs).foldlM Progress.withPiece ⟨[], [], []⟩
  let unclosed := p.opened.map fun t => ⟨t.1, p.text.length, t.2⟩
  match (p.spans ++ unclosed).findSome? (Span.fault? p.text) with
  | some fault => throw fault
  | none => return String.ofList p.text

end EntityViews.Markup
