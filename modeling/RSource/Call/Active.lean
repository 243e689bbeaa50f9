import RSource.Call.Binding
import RSource.Call.Site

/-! # The active parameter

Of several signatures the one that the written arguments fit best is chosen, the earliest on a tie;
the active parameter is the one to which the argument at the caret is bound. -/

namespace RSource.Call

def slotOf (separators : List Nat) (offset : Nat) : Nat :=
  (separators.filter (· < offset)).length

def writtenArguments (list : Tree) (source : Text) : List Argument :=
  list.arguments.map fun a =>
    ⟨slotOf list.separators a.span.start, a.argumentName? source, a.span.start⟩

/-- The index of the first element for which no other is better. -/
def bestIndex (better : α → α → Bool) : List α → Option (Nat × α)
  | [] => none
  | a :: as =>
    some ((as.zipIdx 1).foldl (fun best b => if better b.1 best.2 then (b.2, b.1) else best) (0, a))

structure Active where
  signature : Nat
  parameter : Nat
  deriving DecidableEq, Repr, Inhabited

/-- The arguments of the call with one for the caret, and the index of the caret's argument. A slot
in which nothing is written yet counts as an unnamed argument. -/
def argumentsAt (site : Site) (source : Text) (caret : Nat) : List Argument × Nat :=
  let slot := slotOf site.arguments.separators caret
  let written := writtenArguments site.arguments source
  match written.findIdx? (·.slot == slot) with
  | some i => (written, i)
  | none => (written ++ [⟨slot, none, caret⟩], written.length)

def parameterAt? (s : Signature) (o : Outcome) (arguments : List Argument) (i caret : Nat) :
    Option Nat :=
  match arguments[i]?, o.bindings[i]? with
  | some a, some b =>
    if s.parameters.isEmpty then none
    else if a.slot = 0 ∧ caret < a.start then some 0
    else
      match b with
      | .parameter p => some p
      | .ambiguous => attributed? s o
      | .unmatched => if a.name?.isSome then attributed? s o else none
  | _, _ => none

def activeAt? (site : Site) (source : Text) (caret : Nat) (signatures : List Signature)
    (allowBeginnings : Bool) : Option Active :=
  let (arguments, i) := argumentsAt site source caret
  let outcomes := signatures.map fun s => (s, bind s arguments allowBeginnings)
  (bestIndex (fun a b => (misfit a.1 a.2).less (misfit b.1 b.2)) outcomes).bind
    fun (index, s, o) => (parameterAt? s o arguments i caret).map fun p => ⟨index, p⟩

def active? (t : Tree) (source : Text) (caret : Nat) (signatures : List Signature)
    (allowBeginnings : Bool) : Option Active :=
  (find? t caret).bind fun site => activeAt? site source caret signatures allowBeginnings

end RSource.Call
