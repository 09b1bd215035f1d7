/-
**Searching a text for a word.**

`find` is `str::find`, on lists of symbols.

* `after_quoted` — a word that ends with a quote is first found at the first quote with the rest of
  the word in front of it.
* `infix_between_iff` — a word does not reach over symbols that it does not have.
-/

import Mathlib.Data.List.Infix

namespace RsTun.Library.Search

universe u

variable {Symbol : Type u}
variable {word piece rest text stem needle front back middle : List Symbol} {symbol quote : Symbol}

/-! ### Words and the symbols that they do not have -/

/-- A word in front of a symbol that it does not have. -/
theorem prefix_before_iff (absent : symbol ∉ word) :
    word <+: front ++ symbol :: back ↔ word <+: front := by
  refine ⟨fun starts => ?_, fun starts => starts.trans (List.prefix_append _ _)⟩
  induction front generalizing word with
  | nil =>
      cases word with
      | nil => exact List.nil_prefix
      | cons first others =>
          exact (absent ((List.cons_prefix_cons.mp starts).1 ▸ List.mem_cons_self)).elim
  | cons next front ih =>
      cases word with
      | nil => exact List.nil_prefix
      | cons first others =>
          obtain ⟨rfl, behind⟩ := List.cons_prefix_cons.mp starts
          exact List.cons_prefix_cons.mpr
            ⟨rfl, ih (fun mem => absent (List.mem_cons_of_mem _ mem)) behind⟩

/-- A word behind a symbol that it does not have. -/
theorem suffix_behind_iff (absent : symbol ∉ word) :
    word <:+ front ++ symbol :: back ↔ word <:+ back := by
  have mirrored := @prefix_before_iff _ word.reverse back.reverse front.reverse symbol
    (mt List.mem_reverse.mp absent)
  rw [← List.reverse_prefix, List.reverse_append, List.reverse_cons, List.append_assoc,
    List.singleton_append, mirrored, List.reverse_prefix]

/-- A word with the last symbol of the text. -/
theorem suffix_concat_iff : word ++ [symbol] <:+ text ++ [symbol] ↔ word <:+ text := by
  rw [← List.reverse_prefix, List.reverse_append, List.reverse_append, List.reverse_singleton,
    List.singleton_append, List.singleton_append, List.cons_prefix_cons, and_iff_right rfl,
    List.reverse_prefix]

/-- Two texts in front of their first quotes. -/
theorem quoted_prefix_iff (clean : quote ∉ stem) (clean' : quote ∉ piece) :
    stem ++ [quote] <+: piece ++ quote :: rest ↔ stem = piece := by
  induction piece generalizing stem with
  | nil =>
      cases stem with
      | nil => exact iff_of_true (List.cons_prefix_cons.mpr ⟨rfl, List.nil_prefix⟩) rfl
      | cons first others =>
          refine iff_of_false (fun starts => ?_) (List.cons_ne_nil _ _)
          exact clean ((List.cons_prefix_cons.mp starts).1 ▸ List.mem_cons_self)
  | cons next piece ih =>
      obtain ⟨different, clean'⟩ := not_or.mp (mt List.mem_cons.mpr clean')
      cases stem with
      | nil =>
          refine iff_of_false (fun starts => ?_) (List.cons_ne_nil _ _).symm
          exact different (List.cons_prefix_cons.mp starts).1
      | cons first others =>
          rw [List.cons_append, List.cons_append, List.cons_prefix_cons, List.cons.injEq,
            ih (fun mem => clean (List.mem_cons_of_mem _ mem)) clean']

/-- A word that ends before a symbol which it does not have, or begins behind it. -/
theorem infix_sep_iff (absent : symbol ∉ word) :
    word <:+: front ++ symbol :: back ↔ word <:+: front ∨ word <:+: back := by
  induction front with
  | nil =>
      have starts := @prefix_before_iff _ word [] back symbol absent
      rw [List.nil_append] at starts ⊢
      rw [List.infix_cons_iff, starts, List.prefix_nil, List.infix_nil]
  | cons next front ih =>
      have starts := @prefix_before_iff _ word (next :: front) back symbol absent
      rw [List.cons_append] at starts ⊢
      rw [List.infix_cons_iff, starts, ih, List.infix_cons_iff, or_assoc]

/-- A word behind symbols that it does not have. -/
theorem infix_behind_iff (nonempty : word ≠ []) (absent : ∀ symbol ∈ middle, symbol ∉ word) :
    word <:+: middle ++ back ↔ word <:+: back := by
  induction middle with
  | nil => rfl
  | cons next middle ih =>
      obtain ⟨here, behind⟩ := List.forall_mem_cons.mp absent
      have split := @infix_sep_iff _ word [] (middle ++ back) next here
      rw [List.nil_append] at split
      rw [List.cons_append, split, List.infix_nil, or_iff_right nonempty, ih behind]

/-- **A word does not reach over symbols** that it does not have. -/
theorem infix_between_iff (nonempty : word ≠ []) (some : middle ≠ [])
    (absent : ∀ symbol ∈ middle, symbol ∉ word) :
    word <:+: front ++ (middle ++ back) ↔ word <:+: front ∨ word <:+: back := by
  cases middle with
  | nil => exact absurd rfl some
  | cons next middle =>
      obtain ⟨here, behind⟩ := List.forall_mem_cons.mp absent
      rw [List.cons_append, infix_sep_iff here, infix_behind_iff nonempty behind]

/-! ### The first place of a word -/

variable [DecidableEq Symbol]

/-- Where the word is first found. -/
def find (needle : List Symbol) : List Symbol → Option Nat
  | [] => if needle = [] then some 0 else none
  | symbol :: rest =>
      if needle <+: symbol :: rest then some 0 else (find needle rest).map (· + 1)

/-- What follows the word where it is first found. -/
def after (needle text : List Symbol) : Option (List Symbol) :=
  (find needle text).map fun start => text.drop (start + needle.length)

theorem after_cons : after needle (symbol :: rest)
    = if needle <+: symbol :: rest then some ((symbol :: rest).drop needle.length)
      else after needle rest := by
  rw [after, find]
  split
  · rw [Option.map_some, Nat.zero_add]
  · rw [Option.map_map, after]
    congr 1
    funext start
    rw [Function.comp_apply, Nat.add_right_comm, List.drop_succ_cons]

/-- A word is not found where its symbols are not all there. -/
theorem find_eq_none (mem : symbol ∈ needle) (absent : symbol ∉ text) :
    find needle text = none := by
  induction text with
  | nil => exact if_neg (List.ne_nil_of_mem mem)
  | cons next text ih =>
      have never : ¬ needle <+: next :: text := fun starts => absent (starts.subset mem)
      rw [find, if_neg never, ih fun inside => absent (List.mem_cons_of_mem _ inside),
        Option.map_none]

theorem after_eq_none (mem : symbol ∈ needle) (absent : symbol ∉ text) :
    after needle text = none := by
  rw [after, find_eq_none mem absent, Option.map_none]

/-- A quote is first found behind what has none. -/
theorem find_quote (clean : quote ∉ piece) :
    find [quote] (piece ++ quote :: rest) = some piece.length := by
  induction piece with
  | nil => exact if_pos (List.cons_prefix_cons.mpr ⟨rfl, List.nil_prefix⟩)
  | cons next piece ih =>
      obtain ⟨different, clean⟩ := not_or.mp (mt List.mem_cons.mpr clean)
      have never : ¬ [quote] <+: next :: (piece ++ quote :: rest) :=
        fun starts => different (List.cons_prefix_cons.mp starts).1
      rw [List.cons_append, find, if_neg never, ih clean, Option.map_some, List.length_cons]

/-- The text in front of the first quote. -/
def upTo (quote : Symbol) (text : List Symbol) : Option (List Symbol) :=
  (find [quote] text).map text.take

theorem upTo_quote (clean : quote ∉ piece) : upTo quote (piece ++ quote :: rest) = some piece := by
  rw [upTo, find_quote clean, Option.map_some, List.take_left]

theorem upTo_eq_none (clean : quote ∉ text) : upTo quote text = none := by
  rw [upTo, find_eq_none (List.mem_singleton_self _) clean, Option.map_none]

/-- **A word that ends with a quote** is first found at the first quote with the rest of the word in
front of it. -/
theorem after_quoted (clean : quote ∉ stem) (clean' : quote ∉ piece) :
    after (stem ++ [quote]) (piece ++ quote :: rest)
      = if stem <:+ piece then some rest else after (stem ++ [quote]) rest := by
  induction piece with
  | nil =>
      have starts := @quoted_prefix_iff _ [] rest stem quote clean clean'
      rw [List.nil_append] at starts ⊢
      rw [after_cons]
      simp only [starts, List.suffix_nil]
      split
      case isTrue empty =>
        rw [empty]
        rfl
      case isFalse => rfl
  | cons next piece ih =>
      have starts := @quoted_prefix_iff _ (next :: piece) rest stem quote clean clean'
      obtain ⟨-, clean'⟩ := not_or.mp (mt List.mem_cons.mpr clean')
      rw [List.cons_append] at starts ⊢
      rw [after_cons, ih clean']
      simp only [starts, List.suffix_cons_iff]
      by_cases same : stem = next :: piece
      · rw [if_pos same, if_pos (Or.inl same), same, ← List.cons_append]
        congr 1
        rw [List.drop_append, List.length_append]
        simp
      · rw [if_neg same]
        simp only [same, false_or]

end RsTun.Library.Search
