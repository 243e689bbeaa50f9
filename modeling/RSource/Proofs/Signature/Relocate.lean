import Mathlib.Data.List.Basic
import RSource.Proofs.Tree.Relocate
import RSource.Signature.Formals

/-!
# Signatures at other offsets

The signatures of a tree depend on its offsets only through the texts under them. So a tree whose offsets lie
in its text (`Tree.Within`) gives the same signatures at other offsets of another text, if the same texts
stand there (`definitions_relocate`).
-/

namespace RSource

namespace Tree

variable {bound : Nat} {t u : Tree} {k : Kind} {s : Span} {ts : List Tree}

/-- Moves what lies beyond `bound`, and nothing else. -/
def beyond (bound offset : Nat) : Nat :=
  if offset ≤ bound then offset else offset + 1

theorem strictMono_beyond (bound : Nat) : StrictMono (beyond bound) := by
  intro a b hab
  unfold beyond
  split <;> split <;> omega

theorem beyond_eq_iff {offset : Nat} : beyond bound offset = offset ↔ offset ≤ bound := by
  unfold beyond
  split <;> omega

/-- No offset in the tree lies beyond `bound`. -/
def Within (bound : Nat) (t : Tree) : Prop :=
  t.relocate (beyond bound) = t

theorem Within.stop_le (h : t.Within bound) : t.span.stop ≤ bound := by
  have hspan := congrArg Tree.span h
  rw [span_relocate] at hspan
  exact beyond_eq_iff.1 (congrArg Span.stop hspan)

theorem Within.child (h : t.Within bound) (hu : u ∈ t.children) : u.Within bound := by
  have hchildren := congrArg Tree.children h
  rw [children_relocate] at hchildren
  exact List.map_inj_left.1 (hchildren.trans (List.map_id _).symm) u hu

theorem Within.operator_le {op : Span} (h : (node (.binary op) s ts).Within bound) : op.stop ≤ bound := by
  have hkind := congrArg Tree.kind h
  rw [kind_relocate] at hkind
  exact beyond_eq_iff.1 (congrArg Span.stop (Kind.binary.inj hkind))

end Tree

namespace Signature
open RSource.Tree

variable {source source' : Text} {f : Nat → Nat} {bound : Nat} {t : Tree}

theorem argumentValue?_relocate (f : Nat → Nat) (t : Tree) :
    (t.relocate f).argumentValue? = t.argumentValue?.map (relocate f) := by
  have hfilter : ∀ o : Option Tree, (o.map (relocate f)).filter (fun v => !v.kind.isError) =
      (o.filter fun v => !v.kind.isError).map (relocate f) := by
    rintro (_ | v)
    · rfl
    · rw [Option.map_some, Option.filter_some, Option.filter_some, isError_relocate]
      split <;> rfl
  unfold argumentValue?
  rw [kind_relocate, children_relocate, ← hfilter]
  cases t.kind with
  | argument named => cases named <;> simp [Kind.relocate]
  | _ => rfl

theorem arguments_relocate (f : Nat → Nat) (t : Tree) :
    (t.relocate f).arguments = t.arguments.map (relocate f) := by
  have hkind : (t.relocate f).kind.isArgumentList = t.kind.isArgumentList := by
    rw [kind_relocate]
    cases t.kind <;> rfl
  rw [arguments, arguments, hkind, children_relocate]
  split <;> rfl

theorem isAtom_relocate (f : Nat → Nat) (t : Tree) : (t.relocate f).isAtom = t.isAtom := by
  rw [isAtom, isAtom, kind_relocate]
  cases t.kind <;> rfl

theorem value_mem_children {v : Tree} (h : t.argumentValue? = some v) : v ∈ t.children := by
  have hvalue := (Option.filter_eq_some_iff.1 h).1
  split at hvalue
  · exact List.mem_of_getElem? hvalue
  · exact List.mem_of_getElem? hvalue
  · cases hvalue

theorem mem_children_of_arguments {u : Tree} (h : u ∈ t.arguments) : u ∈ t.children := by
  unfold arguments at h
  split at h
  · exact h
  · cases h

section

variable (hslice : ∀ i j, j ≤ bound → source'.sliceD (f i) (f j) = source.sliceD i j)

include hslice

theorem text_relocate (h : t.Within bound) : (t.relocate f).text source' = t.text source := by
  rw [Tree.text, span_relocate]
  exact hslice _ _ h.stop_le

theorem unquotedText_relocate (h : t.Within bound) :
    (t.relocate f).unquotedText source' = t.unquotedText source := by
  rw [unquotedText, text_relocate hslice h, unquotedText]

theorem argumentName?_relocate (h : t.Within bound) :
    (t.relocate f).argumentName? source' = t.argumentName? source := by
  unfold argumentName?
  rw [kind_relocate, children_relocate]
  cases hk : t.kind with
  | argument named =>
    cases named with
    | false => rfl
    | true =>
      cases hc : t.children with
      | nil => rfl
      | cons name rest =>
        have hname : name.Within bound := h.child (by rw [hc]; exact List.mem_cons_self)
        exact congrArg some (unquotedText_relocate hslice hname)
  | _ => rfl

theorem formal?_relocate (h : t.Within bound) : formal? (t.relocate f) source' = formal? t source := by
  unfold formal?
  rw [argumentName?_relocate hslice h, argumentValue?_relocate]
  cases hv : t.argumentValue? with
  | none => rfl
  | some v =>
    have hwithin := h.child (value_mem_children hv)
    have hkind : ((v.relocate f).kind == .identifier) = (v.kind == .identifier) := by
      rw [kind_relocate]
      cases v.kind <;> rfl
    simp only [Option.map_some, text_relocate hslice hwithin, Option.filter_some, hkind]
    split
    · rfl
    · split
      · simp [unquotedText_relocate hslice hwithin]
      · rfl

theorem formals_relocate (h : t.Within bound) : formals (t.relocate f) source' = formals t source := by
  unfold formals
  rw [children_relocate]
  cases hc : t.children with
  | nil => rfl
  | cons list rest =>
    have hlist : list.Within bound := h.child (by rw [hc]; exact List.mem_cons_self)
    simp only [List.map_cons, arguments_relocate, List.filterMap_map]
    refine List.filterMap_congr fun a ha => ?_
    exact formal?_relocate hslice (hlist.child (mem_children_of_arguments ha))

/-- The definitions follow the tree down through assignments and parentheses. -/
theorem definitions_relocate (t : Tree) (names : List String) (h : t.Within bound) :
    definitions source' names (t.relocate f) = definitions source names t := by
  match t with
  | .node k s cs =>
    rw [relocate_node]
    cases k with
    | functionDefinition =>
      have hformals := formals_relocate hslice h
      rw [relocate_node] at hformals
      exact congrArg (fun ps => names.map fun name => (⟨name, ps, none⟩ : Signature)) hformals
    | binary op =>
      match cs with
      | [left, right] =>
        have hleft : left.Within bound := h.child List.mem_cons_self
        have hright : right.Within bound := h.child (List.mem_cons_of_mem _ List.mem_cons_self)
        have hop : source'.sliceD (op.relocate f).start (op.relocate f).stop =
            source.sliceD op.start op.stop := hslice _ _ h.operator_le
        have hintoRight := definitions_relocate right (names ++ [left.unquotedText source]) hright
        have hintoLeft := definitions_relocate left (names ++ [right.unquotedText source]) hleft
        simp only [Kind.relocate, List.map_cons, List.map_nil, definitions, hop, isAtom_relocate,
          unquotedText_relocate hslice hleft, unquotedText_relocate hslice hright, hintoRight, hintoLeft]
      | [] => rfl
      | [_] => rfl
      | _ :: _ :: _ :: _ => rfl
    | parenthesized =>
      cases cs with
      | nil => rfl
      | cons inner rest =>
        have hinner := definitions_relocate inner names (h.child List.mem_cons_self)
        simpa only [Kind.relocate, List.map_cons, definitions] using hinner
    | _ => simp only [Kind.relocate, definitions]

end

def ofStatement (source : Text) (statement : Tree) : List Signature :=
  match statement with
  | .node .expressionStatement _ (expression :: _) => definitions source [] expression
  | _ => []

theorem extract_eq (source : Text) :
    extract source = (Grammar.parse source).children.flatMap (ofStatement source) :=
  rfl

theorem ofStatement_relocate (hslice : ∀ i j, j ≤ bound → source'.sliceD (f i) (f j) = source.sliceD i j)
    (h : t.Within bound) : ofStatement source' (t.relocate f) = ofStatement source t := by
  obtain ⟨k, s, cs⟩ := t
  rw [relocate_node]
  cases k with
  | expressionStatement =>
    cases cs with
    | nil => rfl
    | cons e rest => exact definitions_relocate hslice e [] (h.child List.mem_cons_self)
  | _ => rfl

end Signature

end RSource
