import Mathlib.Data.List.Basic
import Mathlib.Data.List.TakeWhile
import RSource.Package.Description
import RSource.Proofs.OrderedMap
import RSource.Proofs.Text.Lines

/-!
# Descriptions read back

A description is written entry by entry, and lines that belong to no entry may stand between the entries
(`Item`, `write`). Reading it gives every name the value of its last entry, and the lines that belong to no
entry leave no trace (`get?_parse_write`).
-/

namespace RSource

theorem OrderedMap.insertEntry_insertEntry {α : Type} (k : String) (a b : α) (es : List (String × α)) :
    insertEntry k b (insertEntry k a es) = insertEntry k b es := by
  induction es with
  | nil => simp [insertEntry]
  | cons e es ih =>
    by_cases he : e.1 = k
    · simp [insertEntry, he]
    · simp [insertEntry, he, ih]

@[simp] theorem OrderedMap.insert_insert {α : Type} (m : OrderedMap α) (k : String) (a b : α) :
    (m.insert k a).insert k b = m.insert k b :=
  congrArg OrderedMap.mk (insertEntry_insertEntry k a b m.entries)

namespace Package.Description

/-- A line that is indented by a space or a tab. -/
structure Indented where
  indent : Char
  text : Text
  indent_blank : indent = ' ' ∨ indent = '\t'
  newline_not_mem : '\n' ∉ text

/-- A field: its name, the text behind the colon and the lines that continue it. -/
structure Entry where
  name : Text
  value : Text
  more : List Indented
  name_ne_nil : name ≠ []
  colon_not_mem : ':' ∉ name
  space_not_mem : ' ' ∉ name
  newline_not_mem_name : '\n' ∉ name
  tab_not_first : name.head? ≠ some '\t'
  newline_not_mem : '\n' ∉ value

/-- A line that neither continues a field nor starts one: it has no colon, or no name before the colon, or a
name with a space. -/
structure Stray where
  text : Text
  space_not_first : text.head? ≠ some ' '
  tab_not_first : text.head? ≠ some '\t'
  newline_not_mem : '\n' ∉ text
  not_field : ':' ∉ text ∨ text.head? = some ':' ∨ ' ' ∈ text.takeWhile (· != ':')

/-- A part of a description file: an entry, or a stray line with indented lines behind it. -/
inductive Item where
  | entry (e : Entry)
  | aside (s : Stray) (more : List Indented)

def Indented.line (l : Indented) : Text :=
  l.indent :: l.text

def Item.lines : Item → List Text
  | entry e => (e.name ++ ':' :: e.value) :: e.more.map Indented.line
  | aside s more => s.text :: more.map Indented.line

/-- The text of a file, with or without a line break at its end. -/
def write (ended : Bool) (items : List Item) : Text :=
  ['\n'].intercalate (items.flatMap Item.lines) ++ if ended then ['\n'] else []

/-- The entries without what stands between them. -/
def entries (items : List Item) : List Entry :=
  items.filterMap fun
    | .entry e => some e
    | .aside .. => none

/-- The pieces of an entry: what is left of each of its lines when it is trimmed, unless that is nothing. -/
def Entry.pieces (e : Entry) : List String :=
  ((e.value :: e.more.map Indented.text).map fun t => String.ofList (Text.trim t)).filter (· ≠ "")

/-- The value of an entry: its pieces with single spaces between them. -/
def Entry.joined (e : Entry) : String :=
  " ".intercalate e.pieces

/-! ### Lines -/

section Lines

variable {name value line : Text} {p : Progress}

theorem field?_eq_none (h : ':' ∉ line) : field? line = none := by
  have hall : line.takeWhile (· != ':') = line := by
    rw [List.takeWhile_eq_self_iff]
    intro c hc
    rw [bne_iff_ne]
    rintro rfl
    exact h hc
  rw [field?, hall, if_neg (by simp)]

theorem takeWhile_colon (h : ':' ∉ name) (value : Text) :
    (name ++ ':' :: value).takeWhile (· != ':') = name := by
  rw [List.takeWhile_append_of_pos]
  · simp
  · intro c hc
    rw [bne_iff_ne]
    rintro rfl
    exact h hc

theorem field?_append (h : ':' ∉ name) (value : Text) :
    field? (name ++ ':' :: value) = if name ≠ [] ∧ ' ' ∉ name then
      some (String.ofList name, String.ofList (Text.trim value)) else none := by
  have hdrop : (name ++ ':' :: value).drop (name.length + 1) = value := by
    rw [← List.drop_drop, List.drop_left]
    rfl
  rw [field?, takeWhile_colon h, hdrop]
  simp

theorem field?_stray (s : Stray) : field? s.text = none := by
  by_cases hcolon : ':' ∈ s.text
  · obtain ⟨name, value, hs, hname⟩ := List.eq_append_cons_of_mem hcolon
    have hfield := s.not_field
    rw [hs, takeWhile_colon hname] at hfield
    rw [hs, field?_append hname, if_neg]
    rintro ⟨hne, hspace⟩
    rcases hfield with hnone | hfirst | hmem
    · exact hnone (by simp)
    · rw [List.head?_append_of_ne_nil _ hne] at hfirst
      exact hname (List.mem_of_head? hfirst)
    · exact hspace hmem
  · exact field?_eq_none hcolon

theorem addLine_stray (p : Progress) (s : Stray) : addLine p s.text = { p with current? := none } := by
  rw [addLine, if_neg (by simp [s.space_not_first, s.tab_not_first]), field?_stray]

theorem addLine_name (p : Progress) (e : Entry) :
    addLine p (e.name ++ ':' :: e.value) =
      ⟨p.fields.insert (String.ofList e.name) (String.ofList (Text.trim e.value)), some (String.ofList e.name)⟩ := by
  rw [addLine, if_neg, field?_append e.colon_not_mem, if_pos ⟨e.name_ne_nil, e.space_not_mem⟩]
  rw [List.head?_append_of_ne_nil _ e.name_ne_nil]
  rintro (hspace | htab)
  · exact e.space_not_mem (List.mem_of_head? hspace)
  · exact e.tab_not_first htab

theorem Indented.isBlank_indent (l : Indented) : Text.isBlank l.indent = true := by
  rcases l.indent_blank with h | h <;> rw [h] <;> decide

/-- An indented line goes to the field that was last set. -/
theorem addLine_indented (m : OrderedMap String) (name value : String) (l : Indented) :
    addLine ⟨m.insert name value, some name⟩ l.line = ⟨m.insert name (continued value l.text), some name⟩ := by
  have hmore : continued value l.line = continued value l.text := by
    rw [continued, Indented.line, Text.trim_cons l.isBlank_indent, continued]
  rw [addLine, if_pos (by simpa [Indented.line] using l.indent_blank)]
  simp [hmore]

theorem addLine_indented_of_none (hp : p.current? = none) (l : Indented) : addLine p l.line = p := by
  rw [addLine, if_pos (by simpa [Indented.line] using l.indent_blank), hp]
  rfl

/-- A carriage return at the end of a line is no part of what the line says. -/
theorem addLine_return (p : Progress) (line : Text) : addLine p (line ++ ['\r']) = addLine p line := by
  have hblank : Text.isBlank '\r' = true := by decide
  have hfield : field? (line ++ ['\r']) = field? line := by
    by_cases hcolon : ':' ∈ line
    · obtain ⟨name, value, rfl, hname⟩ := List.eq_append_cons_of_mem hcolon
      rw [List.append_assoc, List.cons_append, field?_append hname, field?_append hname,
        Text.trim_concat hblank]
    · rw [field?_eq_none hcolon, field?_eq_none (by simpa using hcolon)]
  cases line with
  | nil => rfl
  | cons c line =>
    have hcontinued : ∀ value, continued value (c :: (line ++ ['\r'])) = continued value (c :: line) := by
      intro value
      rw [← List.cons_append, continued, Text.trim_concat hblank, continued]
    rw [addLine, addLine, hfield]
    simp only [List.cons_append, hcontinued, List.head?_cons]
    rfl

end Lines

/-! ### Entries -/

/-- What is joined from pieces that are not empty is empty only if there is no piece. -/
theorem intercalate_ne_empty {piece : String} {pieces : List String} (h : piece ≠ "") :
    " ".intercalate (piece :: pieces) ≠ "" := by
  cases pieces with
  | nil => rwa [String.intercalate_singleton]
  | cons next pieces =>
    rw [String.intercalate_cons_cons]
    simp [h]

theorem continued_intercalate {pieces : List String} (h : ∀ piece ∈ pieces, piece ≠ "") (line : Text) :
    continued (" ".intercalate pieces) line =
      " ".intercalate (pieces ++ [String.ofList (Text.trim line)].filter (· ≠ "")) := by
  by_cases hmore : String.ofList (Text.trim line) = ""
  · rw [continued, hmore]
    simp
  · rw [continued, if_neg (by simpa using hmore), List.filter_cons_of_pos (by simpa using hmore), List.filter_nil]
    cases pieces with
    | nil => simp
    | cons piece pieces =>
      have hne : " ".intercalate (piece :: pieces) ≠ "" := intercalate_ne_empty (h piece List.mem_cons_self)
      rw [if_neg (by simpa using hne), String.intercalate_append_of_ne_nil (List.cons_ne_nil _ _) (List.cons_ne_nil _ _),
        String.intercalate_singleton]

theorem foldl_indented (m : OrderedMap String) (name : String) {pieces : List String}
    (h : ∀ piece ∈ pieces, piece ≠ "") (more : List Indented) :
    (more.map Indented.line).foldl addLine ⟨m.insert name (" ".intercalate pieces), some name⟩ =
      ⟨m.insert name (" ".intercalate (pieces ++
        ((more.map Indented.text).map fun t => String.ofList (Text.trim t)).filter (· ≠ ""))), some name⟩ := by
  induction more generalizing pieces with
  | nil => simp
  | cons l more ih =>
    have hpieces : ∀ piece ∈ pieces ++ [String.ofList (Text.trim l.text)].filter (· ≠ ""), piece ≠ "" := by
      simp only [List.mem_append, List.mem_filter, decide_eq_true_eq]
      rintro piece (hpiece | ⟨-, hpiece⟩)
      · exact h piece hpiece
      · exact hpiece
    rw [List.map_cons, List.foldl_cons, addLine_indented, continued_intercalate h, ih hpieces, List.append_assoc,
      ← List.filter_append]
    rfl

theorem foldl_entry (p : Progress) (e : Entry) :
    (Item.entry e).lines.foldl addLine p =
      ⟨p.fields.insert (String.ofList e.name) e.joined, some (String.ofList e.name)⟩ := by
  have hfirst : String.ofList (Text.trim e.value) =
      " ".intercalate ([String.ofList (Text.trim e.value)].filter (· ≠ "")) := by
    rw [List.filter_cons]
    split
    · simp
    · next hempty => simpa using hempty
  rw [Item.lines, List.foldl_cons, addLine_name, hfirst, foldl_indented _ _ (by simp), ← List.filter_append]
  rfl

/-- The lines that belong to no entry leave only the last field behind. -/
theorem foldl_aside (p : Progress) (s : Stray) (more : List Indented) :
    (Item.aside s more).lines.foldl addLine p = { p with current? := none } := by
  rw [Item.lines, List.foldl_cons, addLine_stray]
  induction more with
  | nil => rfl
  | cons l more ih => rw [List.map_cons, List.foldl_cons, addLine_indented_of_none rfl, ih]

theorem fields_foldl_items (p : Progress) (items : List Item) :
    ((items.flatMap Item.lines).foldl addLine p).fields =
      (entries items).foldl (fun m e => m.insert (String.ofList e.name) e.joined) p.fields := by
  induction items generalizing p with
  | nil => rfl
  | cons item items ih =>
    rw [List.flatMap_cons, List.foldl_append, ih]
    cases item with
    | entry e => rw [foldl_entry]; rfl
    | aside s more => rw [foldl_aside]; rfl

/-- The last entry of a name decides its value. -/
theorem get?_foldl_insert (m : OrderedMap String) (es : List Entry) (name : String) :
    (es.foldl (fun m e => m.insert (String.ofList e.name) e.joined) m).get? name =
      ((es.reverse.find? fun e => String.ofList e.name = name).map Entry.joined).or (m.get? name) := by
  induction es generalizing m with
  | nil => rfl
  | cons e es ih =>
    rw [List.foldl_cons, ih, List.reverse_cons, List.find?_append, Option.map_or, Option.or_assoc,
      OrderedMap.get?_insert]
    congr 1
    by_cases he : String.ofList e.name = name
    · simp [he]
    · simp [he, Ne.symm he]

/-! ### Texts -/

theorem addLine_dropFinal (p : Progress) (line : Text) :
    addLine p ((Text.dropFinal? '\r' line).getD line) = addLine p line := by
  rw [Text.dropFinal?]
  split
  · next hlast =>
    obtain ⟨line, rfl⟩ := List.getLast?_eq_some_iff.1 hlast
    rw [List.dropLast_concat, Option.getD_some, addLine_return]
  · rfl

/-- What is dropped from the lines has no part in the fields: a carriage return, or an empty last line. -/
theorem fields_parse (source : Text) :
    (parse source).fields = ((Text.splitAll (· == '\n') source).foldl addLine {}).fields := by
  obtain ⟨ls, last, hls⟩ := (List.eq_nil_or_concat _).resolve_left (Text.splitAll_ne_nil (· == '\n') source)
  have hlines : Text.lines source = ls.map (fun l => (Text.dropFinal? '\r' l).getD l) ++
      if last = [] then [] else [last] := by
    rw [Text.lines, hls, List.concat_eq_append, List.dropLast_concat, List.getLast?_concat]
    cases last <;> simp
  rw [parse, hlines, hls, List.concat_eq_append, List.foldl_append, List.foldl_append, List.foldl_map]
  simp only [addLine_dropFinal]
  split
  · next hlast => rw [hlast]; rfl
  · rfl

theorem newline_not_mem_line (l : Indented) : '\n' ∉ l.line := by
  rw [Indented.line, List.mem_cons]
  rintro (hindent | htext)
  · rcases l.indent_blank with h | h <;> rw [h] at hindent <;> cases hindent
  · exact l.newline_not_mem htext

theorem newline_not_mem_lines {item : Item} {line : Text} (h : line ∈ item.lines) : '\n' ∉ line := by
  cases item with
  | entry e =>
    rw [Item.lines, List.mem_cons, List.mem_map] at h
    rcases h with rfl | ⟨l, -, rfl⟩
    · simp [e.newline_not_mem_name, e.newline_not_mem]
    · exact newline_not_mem_line l
  | aside s more =>
    rw [Item.lines, List.mem_cons, List.mem_map] at h
    rcases h with rfl | ⟨l, -, rfl⟩
    · exact s.newline_not_mem
    · exact newline_not_mem_line l

/-- The pieces of a written text are its lines, and an empty one at most. -/
theorem splitAll_write (ended : Bool) (items : List Item) :
    ∃ rest : List Text, Text.splitAll (· == '\n') (write ended items) = items.flatMap Item.lines ++ rest ∧
      ∀ line ∈ rest, line = [] := by
  generalize hls : items.flatMap Item.lines = ls
  have hfree : ∀ l ∈ ls, ∀ d ∈ l, ¬ (d == '\n') = true := by
    intro l hl d hd hnewline
    rw [← hls, List.mem_flatMap] at hl
    obtain ⟨item, -, hl⟩ := hl
    exact newline_not_mem_lines hl (beq_iff_eq.1 hnewline ▸ hd)
  rw [write, hls]
  by_cases hne : ls = []
  · subst hne
    cases ended
    · exact ⟨[[]], rfl, by simp⟩
    · exact ⟨[[], []], rfl, by simp⟩
  · have hjoin := Text.splitAll_join (c := '\n') rfl hne hfree
    cases ended
    · exact ⟨[], by simpa using hjoin, nofun⟩
    · refine ⟨[[]], ?_, by simp⟩
      rw [if_pos rfl, Text.splitAll_append_cons rfl, hjoin]
      rfl

theorem fields_foldl_nil {rest : List Text} (h : ∀ line ∈ rest, line = []) (p : Progress) :
    (rest.foldl addLine p).fields = p.fields := by
  induction rest generalizing p with
  | nil => rfl
  | cons line rest ih =>
    obtain rfl := h line List.mem_cons_self
    rw [List.foldl_cons, ih fun l hl => h l (List.mem_cons_of_mem _ hl)]
    rfl

theorem fields_parse_write (ended : Bool) (items : List Item) :
    (parse (write ended items)).fields =
      (entries items).foldl (fun m e => m.insert (String.ofList e.name) e.joined) .empty := by
  obtain ⟨rest, hsplit, hrest⟩ := splitAll_write ended items
  rw [fields_parse, hsplit, List.foldl_append, fields_foldl_nil hrest, fields_foldl_items]

theorem entries_map_entry (es : List Entry) : entries (es.map .entry) = es := by
  simp [entries, List.filterMap_map]

/-- Every name has the value of its last entry, and what stands between the entries can be left out. -/
theorem get?_parse_write (ended : Bool) (items : List Item) :
    (∀ name, (parse (write ended items)).get? name =
        ((entries items).reverse.find? fun e => String.ofList e.name = name).map Entry.joined) ∧
      parse (write ended items) = parse (write ended ((entries items).map .entry)) := by
  constructor
  · intro name
    rw [get?, fields_parse_write, get?_foldl_insert]
    exact Option.or_none
  · have hfields := fields_parse_write ended items
    rw [← entries_map_entry (entries items), ← fields_parse_write ended] at hfields
    exact congrArg Description.mk hfields

/-- The second title goes on over a tab and an empty line; the line behind the space belongs to no field, as the
line before it has none. -/
theorem get?_parse_write_aside :
    let early : Entry := ⟨"Title".toList, " Old".toList, [], by decide, by decide, by decide, by decide, by decide, by decide⟩
    let late : Entry := ⟨"Title".toList, [], [⟨'\t', "New ".toList, .inr rfl, by decide⟩, ⟨' ', [], .inl rfl, by decide⟩,
      ⟨' ', "a: b".toList, .inl rfl, by decide⟩], by decide, by decide, by decide, by decide, by decide, by decide⟩
    let stray : Stray := ⟨"no field: here".toList, by decide, by decide, by decide, .inr (.inr (by decide))⟩
    let items : List Item := [.entry early, .aside stray [⟨' ', "Title: None".toList, .inl rfl, by decide⟩], .entry late]
    (parse (write true items)).get? "Title" = some "New a: b" ∧
      parse (write true items) = parse (write true [.entry early, .entry late]) := by
  intro early late stray items
  obtain ⟨hget, hsame⟩ := get?_parse_write true items
  exact ⟨(hget "Title").trans (by decide +kernel), hsame⟩

end Package.Description

end RSource
