import Mathlib.Data.List.TakeWhile
import ServiceWire.Text.Cut

/-!
# Cuts of texts

What stands before a separator that occurs nowhere in it is cut off as it is, so a text that was put
together with a separator is taken apart at it, however many parts it has, as long as it has one.
What stands before the first separator, or after the last one, has no separator.
-/

namespace ServiceWire.Text

variable {α : Type} [BEq α] [LawfulBEq α] {sep : α}

theorem beq_ne_true_of_not_mem {c : α} {rest : List α} (h : sep ∉ c :: rest) :
    ¬(c == sep) = true := by
  rw [beq_iff_eq]
  rintro rfl
  exact h (List.mem_cons_self ..)

theorem cut?_append {a : List α} (h : sep ∉ a) (b : List α) :
    cut? sep (a ++ sep :: b) = some (a, b) := by
  induction a with
  | nil => rw [List.nil_append, cut?, if_pos (beq_self_eq_true sep)]
  | cons c rest ih =>
    rw [List.cons_append, cut?, if_neg (beq_ne_true_of_not_mem h),
      ih fun hr => h (List.mem_cons_of_mem _ hr)]
    rfl

theorem cut?_of_not_mem {a : List α} (h : sep ∉ a) : cut? sep a = none := by
  induction a with
  | nil => rfl
  | cons c rest ih =>
    rw [cut?, if_neg (beq_ne_true_of_not_mem h), ih fun hr => h (List.mem_cons_of_mem _ hr)]
    rfl

theorem pieces_of_not_mem {a : List α} (h : sep ∉ a) : pieces sep a = [a] := by
  induction a with
  | nil => rfl
  | cons c rest ih =>
    rw [pieces, if_neg (beq_ne_true_of_not_mem h), ih fun hr => h (List.mem_cons_of_mem _ hr)]

theorem pieces_append {a : List α} (h : sep ∉ a) (b : List α) :
    pieces sep (a ++ sep :: b) = a :: pieces sep b := by
  induction a with
  | nil => rw [List.nil_append, pieces, if_pos (beq_self_eq_true sep)]
  | cons c rest ih =>
    rw [List.cons_append, pieces, if_neg (beq_ne_true_of_not_mem h),
      ih fun hr => h (List.mem_cons_of_mem _ hr)]

/-- Texts that were put together with a separator that occurs in none of them fall apart again. -/
theorem pieces_join {sep : String} {c : Char} (hsep : sep.toList = [c]) {parts : List String}
    (hne : parts ≠ []) (h : ∀ part ∈ parts, c ∉ part.toList) :
    pieces c (join sep parts).toList = parts.map String.toList := by
  induction parts with
  | nil => exact absurd rfl hne
  | cons part rest ih =>
    have hpart : c ∉ part.toList := h part (List.mem_cons_self ..)
    cases rest with
    | nil => exact pieces_of_not_mem hpart
    | cons next more =>
      have hrest := ih (List.cons_ne_nil _ _) fun p hp => h p (List.mem_cons_of_mem _ hp)
      rw [join, String.toList_append, String.toList_append, hsep, List.append_assoc,
        List.singleton_append, pieces_append hpart, hrest]
      · rfl
      · exact List.cons_ne_nil _ _

/-- Texts that were put together are the first of them and the others, each behind a separator. -/
theorem toList_join_cons (sep first : String) (rest : List String) :
    (join sep (first :: rest)).toList =
      first.toList ++ rest.flatMap fun s => sep.toList ++ s.toList := by
  induction rest generalizing first with
  | nil => exact (List.append_nil _).symm
  | cons next more ih =>
    rw [join, String.toList_append, String.toList_append, ih, List.flatMap_cons, List.append_assoc,
      List.append_assoc]
    exact List.cons_ne_nil _ _

/-- Of texts that are joined, each but the last one is followed by what they are joined with. -/
theorem toList_join_append (sep : String) (xs : List String) {ys : List String} (h : ys ≠ []) :
    (join sep (xs ++ ys)).toList =
      xs.flatMap (fun s => s.toList ++ sep.toList) ++ (join sep ys).toList := by
  induction xs with
  | nil => rfl
  | cons x rest ih =>
    have hne : rest ++ ys ≠ [] := List.append_ne_nil_of_right_ne_nil rest h
    rw [List.cons_append, join, String.toList_append, String.toList_append, ih, List.flatMap_cons]
    · simp only [List.append_assoc]
    · exact hne

/-- Texts that were put together begin with the first of them. -/
theorem exists_join_append (sep first : String) (rest : List String) :
    ∃ after, (join sep (first :: rest)).toList = first.toList ++ after :=
  ⟨_, toList_join_cons sep first rest⟩

/-- The characters of joined texts are those of the texts and of what they were joined with. -/
theorem mem_join {sep : String} {parts : List String} {c : Char}
    (h : c ∈ (join sep parts).toList) : c ∈ sep.toList ∨ ∃ s ∈ parts, c ∈ s.toList := by
  cases parts with
  | nil => cases h
  | cons first rest =>
    rw [toList_join_cons, List.mem_append, List.mem_flatMap] at h
    rcases h with h | ⟨s, hs, h⟩
    · exact .inr ⟨first, List.mem_cons_self .., h⟩
    · exact (List.mem_append.mp h).imp_right fun h => ⟨s, List.mem_cons_of_mem _ hs, h⟩

theorem startsWith_append (a b : List α) : startsWith (a ++ b) a = true := by
  induction a with
  | nil => cases b <;> rfl
  | cons c rest ih => rw [List.cons_append, startsWith, beq_self_eq_true, Bool.true_and, ih]

theorem subset_of_startsWith {cs part : List α} (h : startsWith cs part = true) : part ⊆ cs := by
  induction part generalizing cs with
  | nil => exact List.nil_subset cs
  | cons p ps ih =>
    cases cs with
    | nil => cases h
    | cons c cs =>
      rw [startsWith, Bool.and_eq_true, beq_iff_eq] at h
      rw [h.1]
      exact List.cons_subset_cons p (ih h.2)

/-- What occurs in a text is made of characters of the text. -/
theorem subset_of_occursIn {cs part : List α} (h : occursIn part cs = true) : part ⊆ cs := by
  induction cs with
  | nil =>
    rw [occursIn, List.isEmpty_iff] at h
    rw [h]
    exact List.nil_subset _
  | cons c rest ih =>
    rw [occursIn, Bool.or_eq_true] at h
    rcases h with h | h
    · exact subset_of_startsWith h
    · exact List.Subset.trans (ih h) (List.subset_cons_self c rest)

theorem not_mem_beforeFirst (sep : α) (cs : List α) : sep ∉ beforeFirst sep cs := by
  intro h
  have hsep := List.mem_takeWhile_imp h
  rw [beq_self_eq_true] at hsep
  cases hsep

/-- What stands before the first separator is followed by it, or is all. -/
theorem exists_beforeFirst_append (sep : α) (cs : List α) :
    ∃ after, cs = beforeFirst sep cs ++ after ∧ (after = [] ∨ after.head? = some sep) := by
  refine ⟨_, List.takeWhile_append_dropWhile.symm, ?_⟩
  cases hrest : cs.dropWhile fun c => !(c == sep) with
  | nil => exact .inl rfl
  | cons c rest =>
    have hc := List.head?_dropWhile_not (fun c => !(c == sep)) cs
    rw [hrest] at hc
    exact .inr (congrArg some (by simpa using hc))

theorem not_mem_afterLast (sep : α) (cs : List α) : sep ∉ afterLast sep cs :=
  fun h => not_mem_beforeFirst sep cs.reverse (List.mem_reverse.mp h)

theorem afterLast_append {b : List α} (h : sep ∉ b) (a : List α) :
    afterLast sep (a ++ sep :: b) = b := by
  have hkeep : ∀ c ∈ b.reverse, (!(c == sep)) = true := by
    intro c hc
    have hne : c ≠ sep := fun heq => h (heq ▸ List.mem_reverse.mp hc)
    rw [beq_false_of_ne hne, Bool.not_false]
  rw [afterLast, beforeFirst, List.reverse_append, List.reverse_cons, List.append_assoc,
    List.takeWhile_append_of_pos hkeep, List.singleton_append,
    List.takeWhile_cons_of_neg (by simp), List.append_nil, List.reverse_reverse]

/-- What stands after the last separator is preceded by it, or is all. -/
theorem exists_append_afterLast (sep : α) (cs : List α) :
    ∃ before, cs = before ++ afterLast sep cs ∧
      (before = [] ∨ before.getLast? = some sep) := by
  obtain ⟨after, hafter, hsep⟩ := exists_beforeFirst_append sep cs.reverse
  refine ⟨after.reverse, ?_, ?_⟩
  · rw [afterLast, ← List.reverse_append, ← hafter, List.reverse_reverse]
  · rw [List.reverse_eq_nil_iff, List.getLast?_reverse]
    exact hsep

end ServiceWire.Text
