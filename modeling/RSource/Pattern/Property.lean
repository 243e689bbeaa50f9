import RSource.Pattern.Property.Age
import RSource.Pattern.Property.Segment

/-! # Properties by name

The sets of characters that a pattern asks for by the name of a property, as in `\p{Lu}` and
`\p{Script=Greek}`. Names are matched loosely: case, blanks, hyphens and underscores do not count,
nor does an `is` at the start. -/

namespace RSource.Pattern.Property

/-- The name without what does not count in it. The short name of the property of comments keeps its
start, since what is left of it would name a category. -/
def looseName (name : List Char) : String :=
  let lower := name.map Char.toLower
  let hasIs := "is".toList.isPrefixOf lower
  let rest := (if hasIs then lower.drop 2 else lower).filter fun c =>
    c.toNat < 128 && c != ' ' && c != '_' && c != '-'
  if hasIs && rest == ['c'] then "isc" else String.ofList rest

/-- The set named alone: a property that characters have or lack, a general category or a script.
Where a name has two meanings, it is the category. -/
def alone? (name : List Char) : Option CharSet :=
  let name := looseName name
  named? traits name <|> named? categories name <|> script? name

def valued? (property value : List Char) : Option CharSet :=
  let value := looseName value
  match looseName property with
  | "gc" | "generalcategory" => named? categories value
  | "sc" | "script" => script? value
  | "scx" | "scriptextensions" => scriptExtension? value
  | "age" => age? value
  | "gcb" | "graphemeclusterbreak" => named? Grapheme.parts value
  | "wb" | "wordbreak" => named? Word.parts value
  | "sb" | "sentencebreak" => named? Sentence.parts value
  | _ => none

def splitAt? (mark : List Char) : List Char → Option (List Char × List Char)
  | [] => none
  | c :: s =>
    if mark.isPrefixOf (c :: s) then some ([], (c :: s).drop mark.length)
    else (splitAt? mark s).map fun (before, behind) => (c :: before, behind)

/-- What is written for a property: a name alone, or a name and a value with `!=`, `:` or `=`
between them. The set is that of the property; whether it is asked to lack it comes apart, since the
set may have to be closed under case first. -/
def read? (written : List Char) : Option (CharSet × Bool) :=
  match splitAt? ['!', '='] written with
  | some (property, value) => (valued? property value).map (·, true)
  | none =>
    match splitAt? [':'] written <|> splitAt? ['='] written with
    | some (property, value) => (valued? property value).map (·, false)
    | none => (alone? written).map (·, false)

end RSource.Pattern.Property
