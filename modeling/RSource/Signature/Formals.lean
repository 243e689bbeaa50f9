import RSource.Grammar.Parse
import RSource.Signature
import RSource.Text.Trim
import RSource.Tree.Call

/-! # Signatures in source text

A function definition declares its parameters in an argument list. Signatures are read off the
definitions that stand at the top level of a text, one for every name a definition is assigned to,
or off a list of formals alone. -/

namespace RSource

namespace Signature

/-- The parameter that an argument of a list of formals declares: a name, with a default if one is
written; anything else declares none. -/
def formal? (argument : Tree) (source : Text) : Option Parameter :=
  match argument.argumentName? source with
  | some name =>
    some (.of name (argument.argumentValue?.map fun v =>
      String.ofList (Text.trim (v.text source))))
  | none =>
    (argument.argumentValue?.filter fun v => v.kind == .identifier).map fun v =>
      .of (v.unquotedText source)

def formals (function : Tree) (source : Text) : List Parameter :=
  match function.children with
  | list :: _ => list.arguments.filterMap fun a => formal? a source
  | [] => []

def withoutParens (formals : Text) : Text :=
  match formals with
  | '(' :: rest => (Text.dropFinal? ')' rest).getD formals
  | _ => formals

/-- The signature with the given name and formals such as `(x, y = 1)`; the parentheses may be left
out. -/
def ofFormals (name : String) (written : String) : Signature :=
  let inner := withoutParens (Text.trim written.toList)
  let source := "function(".toList ++ inner ++ ") NULL".toList
  match (Grammar.parse source).nodes.find? fun t => t.kind == .functionDefinition with
  | some function => ⟨name, formals function source, none⟩
  | none => ⟨name, [], none⟩

/-- The definitions that the expression makes, when the values of the assignments around it go to
`names`: a function definition defines each of the names, an assignment adds its target, and
parentheses add nothing. -/
def definitions (source : Text) (names : List String) : Tree → List Signature
  | .node .functionDefinition span children =>
    names.map fun name => ⟨name, formals (.node .functionDefinition span children) source, none⟩
  | .node (.binary op) _ [left, right] =>
    match String.ofList (source.sliceD op.start op.stop) with
    | "<-" | "<<-" | "=" =>
      if left.isAtom then definitions source (names ++ [left.unquotedText source]) right else []
    | "->" | "->>" =>
      if right.isAtom then definitions source (names ++ [right.unquotedText source]) left else []
    | _ => []
  | .node .parenthesized _ (inner :: _) => definitions source names inner
  | _ => []

def extract (source : Text) : List Signature :=
  (Grammar.parse source).children.flatMap fun statement =>
    match statement with
    | .node .expressionStatement _ (expression :: _) => definitions source [] expression
    | _ => []

end Signature

end RSource
