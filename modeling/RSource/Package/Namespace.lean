import RSource.Grammar.Parse
import RSource.Pattern.Read
import RSource.Tree.Call

/-! # Namespaces

A package's namespace file is source text that consists of directive calls. Those that export names
are collected wherever they stand, also inside conditions; all others are ignored. -/

namespace RSource.Package

structure Namespace where
  exports : List String := []
  patterns : List String := []
  methods : List String := []
  deriving DecidableEq, Repr, Inhabited

namespace Namespace

/-- The body of a string literal with its escapes resolved: `\n` and `\t` stand for control
characters, and a backslash before anything else is dropped. -/
def unescape : Text → Text
  | [] => []
  | '\\' :: 'n' :: cs => '\n' :: unescape cs
  | '\\' :: 't' :: cs => '\t' :: unescape cs
  | '\\' :: c :: cs => c :: unescape cs
  | c :: cs => c :: unescape cs

def nameOf? (value : Tree) (source : Text) : Option String :=
  let text := value.text source
  match value.kind with
  | .identifier => some (String.ofList (unquote text))
  | .literal =>
    if text.head? = some '"' ∨ text.head? = some '\'' then
      some (String.ofList (unescape (unquote text)))
    else none
  | _ => none

/-- The names given to a directive call by its unnamed arguments. -/
def directiveNames (call : Tree) (source : Text) : List String :=
  match call.callParts? with
  | none => []
  | some (_, list) =>
    let unnamed := list.arguments.filter fun a => (a.argumentName? source).isNone
    let names := unnamed.filterMap fun a => a.argumentValue?.bind fun v => nameOf? v source
    names.filter fun n => !n.isEmpty

def addCall (source : Text) (ns : Namespace) (call : Tree) : Namespace :=
  let names := directiveNames call source
  match call.calleeName? source with
  | some "export" => { ns with exports := ns.exports ++ names }
  | some "exportPattern" => { ns with patterns := ns.patterns ++ names }
  | some "S3method" =>
    match names with
    | generic :: cls :: _ => { ns with methods := ns.methods ++ [generic ++ "." ++ cls] }
    | _ => ns
  | _ => ns

def parse (source : Text) : Namespace :=
  ((Grammar.parse source).nodes.filter fun t => t.kind == .call).foldl (addCall source) {}

end Namespace

/-- A language of patterns: what a pattern says of a text, if it can be read. -/
class Matcher where
  read? : Text → Option (Text → Bool)

instance : Matcher where
  read? pattern := (Pattern.read? pattern).map Pattern.isMatch

namespace Namespace

def readPatterns [Matcher] (ns : Namespace) : List (Text → Bool) :=
  ns.patterns.filterMap fun p => Matcher.read? p.toList

def isExported (ns : Namespace) (patterns : List (Text → Bool)) (name : String) : Bool :=
  ns.exports.contains name || ns.methods.contains name
    || patterns.any fun isMatch => isMatch name.toList

end Namespace

end RSource.Package
