import RSource.Proofs.Package.Session

/-!
# Lookups that overlap

A lookup that finds no answer remembered notes the generation, searches, and gives its answer to the
memory together with the generation that it noted. Any number of lookups may be under way, and between
the steps of one the others go on, scans are made and packages are registered.

A scan raises the generation, so that no answer found before it is remembered after it. A registration
only empties the memory. An answer that was found before a registration and is given to the memory after
it is remembered although it does not know the registered package (`not_forall_steps_true`). If no
package is registered while a lookup stands between its search and its end, all that is remembered is
what a search would find (`steps_calm_true`).
-/

namespace RSource.Package

/-- A lookup under way: the name, the generation in which it began and the answer once it is found. -/
structure Pending where
  name : String
  generation : Nat
  answer? : Option (List Signature)

structure Lookups (μ : Type := Memo (List Signature)) where
  index : Index μ
  pending : List Pending

namespace Lookups

variable {μ : Type} [Memory μ (List Signature)]

/-- An index that has not been scanned, and no lookup. -/
def new (libraryPaths : List Path) (memoSize : Nat) : Lookups μ :=
  ⟨.new libraryPaths memoSize, []⟩

variable [Matcher]

/-- A step of a lookup, a scan, or a registration at a moment that `admits` allows. -/
inductive Step (disk : Disk) (admits : List Pending → Prop) : Lookups μ → Lookups μ → Prop
  | start {i : Index μ} {ps : List Pending} (name : String) (h : (i.remembered? name).1 = none) :
    Step disk admits ⟨i, ps⟩ ⟨(i.remembered? name).2, ps ++ [⟨name, i.generation, none⟩]⟩
  | search {i : Index μ} (front back : List Pending) (name : String) (generation : Nat) :
    Step disk admits ⟨i, front ++ ⟨name, generation, none⟩ :: back⟩
      ⟨(i.search disk name).2, front ++ ⟨name, generation, some (i.search disk name).1⟩ :: back⟩
  | finish {i : Index μ} (front back : List Pending) (name : String) (generation : Nat)
      (answer : List Signature) :
    Step disk admits ⟨i, front ++ ⟨name, generation, some answer⟩ :: back⟩
      ⟨i.remember name generation answer, front ++ back⟩
  | scan {i : Index μ} {ps : List Pending} : Step disk admits ⟨i, ps⟩ ⟨(i.scan disk).2, ps⟩
  | register {i : Index μ} {ps : List Pending} (m : Metadata) (h : admits ps) :
    Step disk admits ⟨i, ps⟩ ⟨i.register m, ps⟩

inductive Steps (disk : Disk) (admits : List Pending → Prop) (l : Lookups μ) : Lookups μ → Prop
  | refl : Steps disk admits l l
  | tail {l' l'' : Lookups μ} (h : Steps disk admits l l') (hs : Step disk admits l' l'') :
    Steps disk admits l l''

end Lookups

/-- No lookup stands between its search and its end. -/
def Calm (ps : List Pending) : Prop :=
  ∀ p ∈ ps, p.answer? = none

section

variable {μ : Type} {disk : Disk} {i j : Index μ} {p : Pending} {ps : List Pending}

/-! ### The invariant -/

/-- If the lookup's answer may still be remembered, it is the one that what is loaded gives. -/
structure Pending.IsSound (i : Index μ) (p : Pending) : Prop where
  generation_le : p.generation ≤ i.generation
  answers : ∀ a, p.answer? = some a → p.generation = i.generation → i.Answers p.name a

namespace Pending.IsSound

theorem grows (h : p.IsSound i) (hg : Index.Grows i j) : p.IsSound j := by
  refine ⟨hg.generation ▸ h.generation_le, fun a ha hgen => ?_⟩
  rw [hg.generation] at hgen
  exact (h.answers a ha hgen).grows hg

theorem withMemo (h : p.IsSound i) (memo : μ) : p.IsSound (i.withMemo memo) :=
  ⟨h.generation_le, fun a ha hgen => (h.answers a ha hgen).withMemo memo⟩

variable [Memory μ (List Signature)]

theorem remember (h : p.IsSound i) (name : String) (generation : Nat) (a : List Signature) :
    p.IsSound (i.remember name generation a) := by
  unfold Index.remember
  split
  · exact h.withMemo _
  · exact h

theorem scan (h : p.IsSound i) (disk : Disk) : p.IsSound (i.scan disk).2 := by
  have hgen : (i.scan disk).2.generation = i.generation + 1 := rfl
  have hle := h.generation_le
  exact ⟨by omega, fun a _ heq => absurd heq (by omega)⟩

end Pending.IsSound

end

namespace Lookups

section

variable {μ : Type} [Memory μ (List Signature)] {disk : Disk} {l l' : Lookups μ}

/-- All that is remembered, and all that may still be, is what what is loaded gives. -/
structure IsSound (l : Lookups μ) : Prop where
  remembers : l.index.Remembers
  pending : ∀ p ∈ l.pending, p.IsSound l.index

theorem isSound_new (libraryPaths : List Path) (memoSize : Nat) :
    (new libraryPaths memoSize : Lookups μ).IsSound :=
  ⟨Index.remembers_new libraryPaths memoSize, nofun⟩

variable [Matcher]

theorem IsSound.step (h : l.IsSound) (hs : Step disk Calm l l') : l'.IsSound := by
  obtain ⟨hmemo, hpending⟩ := h
  cases hs with
  | @start i ps name =>
    refine ⟨hmemo.withMemo (Memory.entries_get? i.memo name), fun p hp => ?_⟩
    rcases List.mem_append.1 hp with hp | hp
    · exact (hpending p hp).withMemo _
    · rw [List.mem_singleton.1 hp]
      exact ⟨Nat.le_refl _, nofun⟩
  | @search i front back name generation =>
    have hg := Index.grows_search disk i name
    refine ⟨hmemo.grows hg, fun p hp => ?_⟩
    simp only [List.mem_append, List.mem_cons] at hp
    rcases hp with hp | rfl | hp
    · exact (hpending p (by simp [hp])).grows hg
    · have hbegun := hpending ⟨name, generation, none⟩ (by simp)
      refine ⟨hg.generation ▸ hbegun.generation_le, ?_⟩
      rintro a ⟨⟩ -
      exact Index.search_answers disk i name
    · exact (hpending p (by simp [hp])).grows hg
  | @finish i front back name generation answer =>
    refine ⟨?_, fun p hp => ?_⟩
    · show (i.remember name generation answer).Remembers
      by_cases hgen : generation = i.generation
      · exact hmemo.remember ((hpending ⟨name, generation, some answer⟩ (by simp)).answers _ rfl hgen) _
      · rw [Index.remember, if_neg (Ne.symm hgen)]
        exact hmemo
    · have hold : p ∈ front ++ ⟨name, generation, some answer⟩ :: back := by
        rcases List.mem_append.1 hp with hp | hp <;> simp [hp]
      exact (hpending p hold).remember name generation answer
  | @scan i ps => exact ⟨Index.remembers_scan disk i, fun p hp => (hpending p hp).scan disk⟩
  | @register i ps m hcalm =>
    refine ⟨Index.remembers_register i m, fun p hp => ⟨(hpending p hp).generation_le, fun a ha => ?_⟩⟩
    rw [hcalm p hp] at ha
    cases ha

theorem IsSound.steps (h : l.IsSound) (hs : Steps disk Calm l l') : l'.IsSound := by
  induction hs with
  | refl => exact h
  | tail _ hs ih => exact ih.step hs

/-! ### What is remembered -/

/-- If packages are registered at calm moments only, then in every order of steps each remembered
answer is what a search would find, and a lookup gives what a search would find. -/
theorem steps_calm_true (disk : Disk) (libraryPaths : List Path) (memoSize : Nat) (l : Lookups μ)
    (h : Steps disk Calm (new libraryPaths memoSize) l) :
    (∀ e ∈ Memory.entries l.index.memo, (l.index.search disk e.1).1 = e.2) ∧
      ∀ name, (l.index.lookup disk name).1 = (l.index.search disk name).1 := by
  have hl : l.IsSound := (isSound_new libraryPaths memoSize).steps h
  have htrue : ∀ e ∈ Memory.entries l.index.memo, (l.index.search disk e.1).1 = e.2 := by
    intro e he
    rw [(hl.remembers e he).search]
  refine ⟨htrue, fun name => ?_⟩
  cases hm : (Memory.get? l.index.memo name).1 with
  | none => rw [Index.lookup_of_none hm]
  | some a =>
    rw [Index.lookup_of_some hm]
    exact (htrue _ (Memory.mem_of_get? hm)).symm

end

/-- Two lookups of a name. The first is overtaken by a scan and not remembered; the second searches
after a package with a function of that name has been registered. -/
theorem steps_calm_true_overtaken :
    let fit : Signature := ⟨"fit", [], none⟩
    ∃ l : Lookups, Steps {} Calm (new [] 1) l ∧ l.index.memo.entries = [("fit", [fit.inPackage "pkg"])] ∧
      (l.index.search {} "fit").1 = [fit.inPackage "pkg"] := by
  intro fit
  have hcalm : Calm [⟨"fit", 1, none⟩] := fun p hp => by rw [List.mem_singleton.1 hp]
  have hrun := (Steps.refl : Steps {} Calm (new [] 1 : Lookups) _)
    |>.tail (.start "fit" rfl)
    |>.tail (.search [] [] "fit" 0)
    |>.tail .scan
    |>.tail (.finish [] [] "fit" 0 [])
    |>.tail (.start "fit" rfl)
    |>.tail (.register (Metadata.withFunction { name := "pkg" } fit) hcalm)
    |>.tail (.search [] [] "fit" 1)
    |>.tail (.finish [] [] "fit" 1 [fit.inPackage "pkg"])
  refine ⟨_, hrun, by decide +kernel, ?_⟩
  exact (steps_calm_true {} [] 1 _ hrun).1 ("fit", [fit.inPackage "pkg"]) (by decide +kernel)

/-- What is remembered is not always what a search would find: a lookup finds nothing, a package with
a function of the name is registered, and then the lookup's answer is remembered. -/
theorem not_forall_steps_true :
    ¬∀ (disk : Disk) (libraryPaths : List Path) (memoSize : Nat) (l : Lookups),
      Steps disk (fun _ => True) (new libraryPaths memoSize) l →
      ∀ e ∈ l.index.memo.entries, (l.index.search disk e.1).1 = e.2 := by
  intro h
  have hrun := (Steps.refl : Steps {} (fun _ => True) (new [] 1 : Lookups) _)
    |>.tail (.start "fit" rfl)
    |>.tail (.search [] [] "fit" 0)
    |>.tail (.register (Metadata.withFunction { name := "pkg" } ⟨"fit", [], none⟩) trivial)
    |>.tail (.finish [] [] "fit" 0 [])
  have hstale := h {} [] 1 _ hrun ("fit", []) (by decide +kernel)
  exact absurd hstale (by decide +kernel)

end Lookups

end RSource.Package
