import EntityViews.Text.Classes
import EntityViews.Text.Split
import EntityViews.Text.Table.Pictures

/-!
Codes of pictures in texts: the name of a picture between colons. Behind the name a hyphen and a word may ask for the
form of a text or of a picture.
-/

namespace EntityViews.Text

/-- The picture of a name among names and pictures in turn. -/
def pictureIn? (name : String) : List String → Option String
  | n :: picture :: rest => if n = name then some picture else pictureIn? name rest
  | _ => none

def picture? (name : String) : Option String :=
  match taggedFlags.find? (·.1 == name) with
  | some (_, codes) => some (String.ofList (codes.map Char.ofNat))
  | none =>
    let among := fun (lines : Array String) => lines.findSome? fun line => pictureIn? name (splitAt ' ' line)
    among pictureLinesA <|> among pictureLinesB <|> among pictureLinesC <|> among pictureLinesD

/-- What may end a name, and the selector that it asks for. -/
def pictureEnds : List (List Char × List Char) :=
  [(":".toList, []), ("-emoji:".toList, ['\ufe0f']), ("-text:".toList, ['\ufe0e'])]

/-- The shortest name that something ends, the selector, the text of the end, and what follows; a name holds no blanks. -/
def pictureCode? (name : List Char) : List Char → Option (List Char × List Char × List Char × List Char)
  | [] => none
  | c :: rest =>
    match pictureEnds.find? fun e => e.1.isPrefixOf (c :: rest) with
    | some (ending, selector) => some (name.reverse, selector, ending, (c :: rest).drop ending.length)
    | none => if isBlank c then none else pictureCode? (c :: name) rest

/-- A text with pictures in place of their codes; a name of no picture stays as it is. Every step uses up some of
`fuel`. -/
def replacePictures : Nat → List Char → List Char
  | 0, cs => cs
  | _ + 1, [] => []
  | fuel + 1, c :: rest =>
    match if c = ':' then pictureCode? [] rest else none with
    | none => c :: replacePictures fuel rest
    | some (name, selector, ending, after) =>
      let own := match picture? (toLower (String.ofList name)) with
        | some picture => picture.toList ++ selector
        | none => ':' :: name ++ ending
      own ++ replacePictures fuel after

def pictured (cs : List Char) : List Char := replacePictures cs.length cs

end EntityViews.Text
