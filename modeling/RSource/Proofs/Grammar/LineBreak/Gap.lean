import RSource.Proofs.Grammar.Copy.Expression
import RSource.Proofs.Grammar.Coverage

/-!
# A line break that has no say

A `Gap` is a stretch of text between two lexemes, and `Gap.join` takes the line break in it away from the
lexeme behind. A part of the grammar looks at the line break only while the gap lies behind the first lexeme of
what it reads and the lexeme behind the gap is not yet passed. So what is read does not depend on the line
break if the gap lies elsewhere, or if the context makes nothing of line breaks where the gap is (`Gap.Calm`).

That the innermost node around the gap is a group says the latter of the whole program. It comes down to the
parts: what is calm together is calm one after the other (`Gap.Calm.left`, `Gap.Calm.right`), what is calm as a
node is calm as the list of its children (`Gap.Calm.children`), and inside brackets everything is calm
(`Gap.Calm.inner`).
-/

namespace RSource.Grammar
open RSource.Tree Cursor

variable {eof : Nat} {all : List Lexeme} {s s' s₁ s₂ : Cursor} {x y : Lexeme} {xs : List Lexeme} {t u v : Tree}
  {ts us : List Tree} {context : Context} {power : Nat} {stops : Lexeme → Bool} {sub : Reader}

theorem InOrder.nodup {last : Nat} (h : InOrder eof last xs) (hpos : ∀ x ∈ xs, x.span.start < x.span.stop) :
    xs.Nodup := by
  induction xs generalizing last with
  | nil => exact List.nodup_nil
  | cons x xs ih =>
    obtain ⟨hx, hxs⟩ := List.forall_mem_cons.1 hpos
    refine List.nodup_cons.2 ⟨fun hmem => ?_, ih h.2.2 hxs⟩
    have hle := h.2.2.le_start_of_mem hmem
    omega

/-! ### Gaps -/

/-- A stretch of text between two lexemes, of which `next` is the second one. -/
structure Gap (eof : Nat) (all : List Lexeme) where
  span : Span
  next : Lexeme
  start_lt_stop : span.start < span.stop
  next_mem : next ∈ all
  stop_le : span.stop ≤ next.span.start
  apart : ∀ x ∈ all, x.span.stop ≤ span.start ∨ next.span.start ≤ x.span.start
  inOrder : InOrder eof 0 all
  nonempty : ∀ x ∈ all, x.span.start < x.span.stop

namespace Gap

variable {g : Gap eof all}

/-- The lexemes, without a line break before the one behind the gap. -/
def copy (g : Gap eof all) : Copy where
  all := all
  tail := []
  newTail := []
  eof := eof
  newEof := eof
  move := id
  keeps x := decide (x ≠ g.next)
  inOrder := g.inOrder
  suffix := List.nil_suffix
  ends := isBarrier_of_mem_nil
  newEnds := isBarrier_of_mem_nil
  semicolon _ := nofun
  monotone := monotone_id
  touch _ _ _ _ := rfl

theorem isLast_copy (g : Gap eof all) : g.copy.IsLast :=
  ⟨rfl, rfl, rfl⟩

theorem lexeme_of_ne (h : x ≠ g.next) : g.copy.lexeme x = x :=
  (Copy.lexeme_of_keeps (decide_eq_true h)).trans rfl

/-- The lexeme behind the gap is still to come, and not as the very next one. -/
def Ahead (g : Gap eof all) (s : Cursor) : Prop :=
  g.next ∈ s.rest.tail

theorem Ahead.of_suffix (h : g.Ahead s') (hs : s'.rest <:+ s.rest) : g.Ahead s := by
  obtain ⟨ys, hys⟩ := hs
  rw [Ahead, ← hys]
  cases ys with
  | nil => exact h
  | cons y ys => exact List.mem_append_right ys (List.mem_of_mem_tail h)

theorem Ahead.mem (h : g.Ahead s) : g.next ∈ s.rest :=
  List.mem_of_mem_tail h

theorem nodup (g : Gap eof all) (hs : s.PlaceOf all) : s.rest.Nodup :=
  (g.inOrder.nodup g.nonempty).sublist hs.suffix.sublist

theorem ahead_of_lt (hs : s.PlaceOf all) (hrest : s.rest = x :: xs) (h : x.span.start < g.next.span.start) :
    g.Ahead s := by
  rw [Ahead, hrest]
  have hnext := g.nonempty g.next g.next_mem
  have hle := (hs.ordered g.inOrder).next hrest
  have hlast := (hs.ordered g.inOrder).lastStop_le_reach
  rcases hs.mem_or_stop_le g.inOrder g.next_mem with hmem | hstop
  · rw [hrest] at hmem
    rcases List.mem_cons.1 hmem with heq | hmem
    · rw [heq] at h
      exact absurd h (Nat.lt_irrefl _)
    · exact hmem
  · omega

/-- A lexeme before the one behind the gap ends before the gap. -/
theorem stop_le_start (hy : y ∈ all) (h : y.span.stop ≤ g.next.span.start) : y.span.stop ≤ g.span.start := by
  have hpos := g.nonempty y hy
  rcases g.apart y hy with hbefore | hbehind
  · exact hbefore
  · omega

/-- Behind a lexeme that ends behind the gap, the gap has been passed. -/
theorem not_mem_of_stop_le (hs : s.PlaceOf all) (h : g.span.stop ≤ s.lastStop) : g.next ∉ s.rest := by
  intro hmem
  have hle := (hs.ordered g.inOrder).le_start_of_mem hmem
  have hgap := g.start_lt_stop
  rcases hs.lastStop_eq with hzero | ⟨y, hy, hstop⟩
  · omega
  · rw [← hstop] at h hle
    have hbefore := stop_le_start hy hle
    omega

theorem stop_le_eof (g : Gap eof all) : g.span.stop ≤ eof := by
  have hnext := g.nonempty g.next g.next_mem
  have hstop := g.inOrder.stop_le_of_mem g.next_mem
  have hle := g.stop_le
  omega

/-- Behind a node around the gap, the gap has been passed. -/
theorem not_mem_of_bounds (h : Passage eof all s ts s') (ht : t ∈ ts) (hv : v ∈ t.nodes)
    (hbounds : v.Bounds g.span) : g.next ∉ s'.rest := by
  cases hrest : s'.rest with
  | nil => exact List.not_mem_nil
  | cons x xs =>
    have hreach : s'.reach eof = s'.lastStop := if_neg (by simp [hrest])
    have hspan := h.reads.forest.span_of_mem_nodes ht hv
    have hle := hbounds.span_le
    rw [← hrest]
    exact not_mem_of_stop_le h.end (by omega)

/-! ### Calm -/

/-- The context makes nothing of a line break in the gap: the innermost node around the gap is a group, if
there is one in the trees, and otherwise the context is a bracket. -/
structure Quiet (g : Gap eof all) (context : Context) (ts : List Tree) : Prop where
  isGroup : Everywhere (fun u => u.IsInnermost g.span → u.kind.isGroup = true) ts
  isBracket : Everywhere (fun u => ¬ u.Bounds g.span) ts → context = .bracket

/-- The line break in the gap has no say in reading the trees from one place to the other. -/
def Calm (g : Gap eof all) (context : Context) (s : Cursor) (ts : List Tree) (s' : Cursor) : Prop :=
  g.Ahead s → g.Ahead s' ∨ g.Quiet context ts

theorem exists_lexeme_of_isGroup (hall : InOrder eof 0 all) (h : Form eof all u) (hu : u.kind.isGroup = true) :
    ∃ x ∈ all, x.span.start = u.span.start := by
  cases h with
  | @expression n _ _ _ _ h =>
    cases h with
    | operand hs hrest h =>
      have hsub : (reader eof n).InOrder eof := inOrder_reader eof n
      have hstands := stands_operand hsub ((hs.ordered hall).next hrest).2 h
      exact ⟨_, hs.mem hrest, hstands.start_eq.symm⟩
    | call | index | binary => cases hu
  | list hs hrest => exact ⟨_, hs.mem hrest, rfl⟩
  | argument | statement | error => cases hu
  | leaf hs hrest hk => rcases hk with rfl | rfl | rfl <;> cases hu

/-- A group around the gap lies ahead as long as its opener does. -/
theorem ahead_of_bounds (h : Passage eof all s ts s') (ht : t ∈ ts) (hv : v ∈ t.nodes)
    (hbounds : v.Bounds g.span) (hgroup : v.kind.isGroup = true) : g.Ahead s := by
  obtain ⟨x, hx, hstart⟩ := exists_lexeme_of_isGroup g.inOrder (h.yields.forms t ht v hv) hgroup
  have hordered := h.place.ordered g.inOrder
  have hspan := h.reads.forest.span_of_mem_nodes ht hv
  have hlast := hordered.lastStop_le_reach
  have hpos := g.nonempty x hx
  have hgap := g.start_lt_stop
  have hstop := g.stop_le
  have hle := hbounds.span_le
  rcases h.place.mem_or_stop_le g.inOrder hx with hmem | hbefore
  · obtain ⟨y, ys, hrest⟩ := List.exists_cons_of_ne_nil (List.ne_nil_of_mem hmem)
    have hfirst : y.span.start ≤ x.span.start := by
      rw [hrest] at hmem
      rcases List.mem_cons.1 hmem with rfl | hmem
      · exact Nat.le_refl _
      · obtain ⟨-, hy⟩ := hordered.next hrest
        exact Nat.le_trans hy.start_le_stop (hy.ordered.le_start_of_mem hmem)
    exact ahead_of_lt h.place hrest (by omega)
  · omega

namespace Calm

theorem left (h : g.Calm context s (ts ++ us) s₂) (h₂ : Passage eof all s₁ us s₂) : g.Calm context s ts s₁ := by
  intro hs
  rcases h hs with hahead | hquiet
  · exact .inl (hahead.of_suffix h₂.suffix)
  · by_cases hnone : Everywhere (fun u => ¬ u.Bounds g.span) us
    · exact .inr ⟨fun t ht => hquiet.isGroup t (List.mem_append_left _ ht),
        fun hts => hquiet.isBracket (hts.append hnone)⟩
    · -- the innermost node around the gap is a group that is still to come
      simp only [Everywhere, not_forall, not_not] at hnone
      obtain ⟨t, ht, v, hv, hbounds⟩ := hnone
      obtain ⟨u, hu, hinner⟩ := exists_isInnermost ⟨v, hv, hbounds⟩
      have hgroup := hquiet.isGroup t (List.mem_append_right _ ht) u hu hinner
      exact .inl (ahead_of_bounds h₂ ht hu hinner.1 hgroup)

theorem right (h : g.Calm context s (ts ++ us) s₂) (h₁ : Passage eof all s ts s₁) :
    g.Calm context s₁ us s₂ := by
  intro hs
  refine (h (hs.of_suffix h₁.suffix)).imp_right fun hquiet =>
    ⟨fun t ht => hquiet.isGroup t (List.mem_append_right _ ht), fun hus => ?_⟩
  refine hquiet.isBracket (Everywhere.append (fun t ht v hv hbounds => ?_) hus)
  exact not_mem_of_bounds h₁ ht hv hbounds hs.mem

theorem head (h : g.Calm context s (t :: us) s₂) (h₂ : Passage eof all s₁ us s₂) : g.Calm context s [t] s₁ :=
  (show g.Calm context s ([t] ++ us) s₂ from h).left h₂

theorem tail (h : g.Calm context s (t :: us) s₂) (h₁ : Passage eof all s [t] s₁) : g.Calm context s₁ us s₂ :=
  (show g.Calm context s ([t] ++ us) s₂ from h).right h₁

theorem behind (h : g.Calm context s us s₂) (h₁ : Passage eof all s [] s₁) : g.Calm context s₁ us s₂ :=
  (show g.Calm context s ([] ++ us) s₂ from h).right h₁

theorem children (h : g.Calm context s [t] s') (ht : t.kind.bounds = false) :
    g.Calm context s t.children s' := by
  refine fun hs => (h hs).imp_right fun hquiet => ⟨fun c hc u hu => ?_, fun hnone => ?_⟩
  · exact hquiet.isGroup t List.mem_cons_self u (mem_nodes.2 (.inr ⟨c, hc, hu⟩))
  · refine hquiet.isBracket (everywhere_singleton (fun hbounds => ?_) hnone)
    have hkind := hbounds.1
    rw [ht] at hkind
    cases hkind

/-- Inside brackets all is calm, whatever part of the trees is read there. -/
theorem inner (h : g.Calm context s ts s') (hs : s₁.rest <:+ s.rest) (hs' : s'.rest <:+ s₂.rest)
    (hus : ∀ u ∈ us, ∃ t ∈ ts, u ∈ t.nodes) : g.Calm .bracket s₁ us s₂ := by
  intro hahead
  refine (h (hahead.of_suffix hs)).imp (·.of_suffix hs') fun hquiet => ⟨fun u hu v hv => ?_, fun _ => rfl⟩
  obtain ⟨t, ht, hut⟩ := hus u hu
  exact hquiet.isGroup t ht v (nodes_subset hut hv)

theorem below (h : g.Calm context s ts s') (ht : t ∈ ts) (hs : s₁.rest <:+ s.rest) (hs' : s'.rest <:+ s₂.rest)
    (hus : us ⊆ t.children) : g.Calm .bracket s₁ us s₂ :=
  h.inner hs hs' fun u hu => ⟨t, ht, mem_nodes.2 (.inr ⟨u, hus hu, mem_nodes.2 (.inl rfl)⟩)⟩

/-- Where line breaks count, the lexeme behind the gap is not the one that reading stops at. -/
theorem ne_next (h : g.Calm context s ts s') (hcontext : context ≠ .bracket) (hp : Passage eof all s ts s')
    (hless : s'.remaining < s.remaining) (hrest : s'.rest = x :: xs) : x ≠ g.next := by
  rintro rfl
  have hahead : g.Ahead s := by
    obtain ⟨ys, hys⟩ := hp.suffix
    cases ys with
    | nil =>
      have hsame : s'.rest = s.rest := hys
      simp [remaining, hsame] at hless
    | cons y ys =>
      rw [Ahead, ← hys, hrest]
      simp
  rcases h hahead with hbehind | hquiet
  · have hnodup := g.nodup hp.end
    rw [hrest] at hnodup
    rw [Ahead, hrest] at hbehind
    exact (List.nodup_cons.1 hnodup).1 hbehind
  · refine hcontext (hquiet.isBracket fun t ht v hv hbounds => ?_)
    exact not_mem_of_bounds hp ht hv hbounds (by simp [hrest])

/-- Where line breaks count, recovery does not look at the lexeme behind the gap. -/
theorem ne_of_skipped {P : List Lexeme} {unclosed : Bool} {a : Span}
    (h : g.Calm context s [.leaf (.error unclosed) a] s') (hcontext : context ≠ .bracket) (hs : s.PlaceOf all)
    (hrest : s.rest = x :: (P ++ s'.rest.tail)) : ∀ y ∈ P, y ≠ g.next := by
  rintro _ hy rfl
  have hahead : g.Ahead s := by
    rw [Ahead, hrest]
    exact List.mem_append_left _ hy
  rcases h hahead with hbehind | hquiet
  · have hnodup := g.nodup hs
    rw [hrest] at hnodup
    exact (List.nodup_append.1 (List.nodup_cons.1 hnodup).2).2.2 _ hy _ hbehind rfl
  · -- an error is no group, and there is nothing below it
    refine hcontext (hquiet.isBracket (everywhere_singleton (fun hbounds => ?_) everywhere_nil))
    have hgroup := hquiet.isGroup _ List.mem_cons_self _ (mem_nodes.2 (.inl rfl)) ⟨hbounds, List.forall_mem_nil _⟩
    cases hgroup

end Calm

/-! ### Blocks -/

variable {n : Nat}

/-- A gap behind the opener of a block, but not in the block, lies behind its closer. -/
theorem ahead_of_not_bounds_block (hx : x.span.start ≤ g.span.start) (hs₁ : s₁.PlaceOf all)
    (hend : s₁.rest = [] ∨ ∃ y ys, s₁.rest = y :: ys ∧ some .closeBrace = some y.kind)
    (hout : ¬ (finish eof .block x.span.start (s₁.isAt .closeBrace) ts
      (if s₁.isAt .closeBrace then s₁.advance else s₁)).Bounds g.span) : g.Ahead s₁ := by
  rcases hend with hnil | ⟨y, ys, hrest, hclose⟩
  · have hopen : s₁.isAt .closeBrace = false := by simp [isAt, hnil]
    rw [hopen] at hout
    exact (hout (bounds_iff.2 ⟨rfl, hx, g.stop_le_eof⟩)).elim
  · have hclosed : s₁.isAt .closeBrace = true := by
      have hkind : y.kind = .closeBrace := (Option.some.inj hclose).symm
      simp [isAt, hrest, hkind]
    rw [hclosed, if_pos rfl, advance_of_cons hrest] at hout
    have hstop : y.span.stop < g.span.stop := by
      refine Nat.lt_of_not_le fun hle => hout (bounds_iff.2 ⟨rfl, hx, ?_⟩)
      show g.span.stop ≤ max (max y.span.stop _) _
      omega
    have hy := g.nonempty y (hs₁.mem hrest)
    have hnext := g.stop_le
    exact ahead_of_lt hs₁ hrest (by omega)

/-- What is calm as a block is calm as the list of its statements. -/
theorem calm_block (hs : s.PlaceOf all) (hrest : s.rest = x :: xs)
    (hcalm : g.Calm context s [(block eof (reader eof n) x ⟨xs, x.span.stop⟩).1]
      (block eof (reader eof n) x ⟨xs, x.span.stop⟩).2) :
    g.Calm .brace ⟨xs, x.span.stop⟩
      (statements eof (reader eof n) .brace (some .closeBrace) ⟨xs, x.span.stop⟩).1
      (statements eof (reader eof n) .brace (some .closeBrace) ⟨xs, x.span.stop⟩).2 := by
  intro hahead
  have hbehind := passage_next hs g.inOrder hrest
  have hstatements := passage_statements n hbehind.end g.inOrder .brace (some .closeBrace)
  have hend := (reads_statements (inOrder_reader eof n) (hbehind.end.ordered g.inOrder) .brace
    (some .closeBrace)).2
  unfold block at hcalm
  dsimp only at hcalm
  generalize statements eof (reader eof n) .brace (some .closeBrace) ⟨xs, x.span.stop⟩ = r at *
  obtain ⟨ts, s₁⟩ := r
  dsimp only at *
  have hsuffix : (if s₁.isAt .closeBrace then s₁.advance else s₁).rest <:+ s₁.rest := by
    split
    · exact suffix_advance s₁
    · exact List.suffix_rfl
  rcases hcalm (hahead.of_suffix hbehind.suffix) with hlater | hquiet
  · exact .inl (hlater.of_suffix hsuffix)
  by_cases hnone : Everywhere (fun u => ¬ u.Bounds g.span) ts
  · -- a block is no group, so it is not the innermost node around the gap
    have hout : ¬ (finish eof .block x.span.start (s₁.isAt .closeBrace) ts
        (if s₁.isAt .closeBrace then s₁.advance else s₁)).Bounds g.span := by
      intro hbounds
      have hinner : IsInnermost g.span _ := ⟨hbounds, by rw [children_finish]; exact hnone⟩
      have hgroup := hquiet.isGroup _ List.mem_cons_self _ (mem_nodes.2 (.inl rfl)) hinner
      cases hclosed : s₁.isAt .closeBrace <;> rw [hclosed] at hgroup <;> cases hgroup
    have hnext : x.span.stop ≤ g.next.span.start :=
      (hbehind.end.ordered g.inOrder).le_start_of_mem hahead.mem
    have hx := g.nonempty x (hs.mem hrest)
    have hbefore := stop_le_start (hs.mem hrest) hnext
    exact .inl (ahead_of_not_bounds_block (by omega) hstatements.end hend hout)
  · refine .inr ⟨fun c hc u hu => ?_, fun h => absurd h hnone⟩
    refine hquiet.isGroup _ List.mem_cons_self u (mem_nodes.2 (.inr ⟨c, ?_, hu⟩))
    rwa [children_finish]

/-! ### The condition for the copy -/

/-- A copy without the line break is read alike where all is calm. -/
def guard (g : Gap eof all) : g.copy.Guard where
  Holds _ context s ts s' := g.Calm context s ts s'
  le _ := Nat.zero_le _
  succ h := h
  nil _ _ := fun hahead => .inl hahead
  left := Calm.left
  right := Calm.right
  children := Calm.children
  inner h hs hs' hus := h.inner hs hs' fun u hu => ⟨u, hus hu, mem_nodes.2 (.inl rfl)⟩
  below h := h.below List.mem_cons_self
  block := calm_block
  last _ _ := g.isLast_copy
  next h hcontext hp hless hrest := decide_eq_true (h.ne_next hcontext hp hless hrest)
  skipped h hcontext hs hrest y hy := decide_eq_true (h.ne_of_skipped hcontext hs hrest y hy)

end Gap

end RSource.Grammar
