import ServiceWire.Value.View
import ServiceWire.Xml.Element

/-!
# What holds of all parts

A result is made from the results for the parts. If it has a property whenever the results for the
parts have it, the results for all values have it, and so for the elements of a tree.
-/

namespace ServiceWire

/-- All results in a view have a property. -/
structure View.All {ρ : Type} (Q : ρ → Prop) (w : View ρ) : Prop where
  named : ∀ p ∈ w.named, Q p.2.2
  items : ∀ items, w.items? = some items → ∀ p ∈ items, Q p.2

namespace View.All

variable {ρ : Type} {Q : ρ → Prop} {w : View ρ}

theorem lookup {name : String} {entries : List (Value × Value × ρ)} {p : Value × ρ}
    (h : ∀ q ∈ entries, Q q.2.2) (hp : View.lookup name entries = some p) : Q p.2 := by
  fun_induction View.lookup name entries with
  | case1 => cases hp
  | case2 k q rest heq =>
    cases hp
    exact h _ (List.mem_cons_self ..)
  | case3 k q rest hne ih => exact ih (fun q hq => h q (List.mem_cons_of_mem _ hq)) hp
  | case4 q rest hstr ih => exact ih (fun q hq => h q (List.mem_cons_of_mem _ hq)) hp

theorem member (h : w.All Q) {name : String} {p : Value × ρ} (hp : w.member? name = some p) :
    Q p.2 :=
  lookup h.named (Option.eq_some_of_filter_eq_some hp)

theorem entries (h : w.All Q) {entries : List (Value × Value × ρ)}
    (he : w.entries? = some entries) : ∀ p ∈ entries, Q p.2.2 := by
  rw [View.entries?] at he
  split at he
  · cases he
    exact h.named
  · cases he

theorem listItems (h : w.All Q) {items : List (Value × ρ)} (hi : w.listItems? = some items) :
    ∀ p ∈ items, Q p.2 := by
  rw [View.listItems?] at hi
  split at hi
  · exact h.items items hi
  · cases hi

end View.All

namespace Value

variable {ρ : Type} {f : View ρ → ρ} {Q : ρ → Prop}

theorem all_alone (v : Value) : (alone v : View ρ).All Q :=
  ⟨fun _ hp => (by cases hp), fun _ hi => by cases hi⟩

theorem all_view {r : Value → ρ} (h : ∀ v, Q (r v)) (v : Value) : (v.view r).All Q := by
  constructor
  · intro p hp
    obtain ⟨q, -, rfl⟩ := List.mem_map.mp hp
    exact h q.2
  · intro items hi p hp
    obtain ⟨values, -, rfl⟩ := Option.map_eq_some_iff.mp hi
    obtain ⟨w, -, rfl⟩ := List.mem_map.mp hp
    exact h w

theorem all_items {v : Value} {items : List (Value × ρ)} (h : ∀ p ∈ items, Q p.2) :
    (⟨v, [], some items⟩ : View ρ).All Q := by
  refine ⟨fun _ hp => (by cases hp), fun _ hi => ?_⟩
  cases hi
  exact h

theorem all_named {v : Value} {entries : List (Value × Value × ρ)} (h : ∀ p ∈ entries, Q p.2.2) :
    (⟨v, entries, none⟩ : View ρ).All Q :=
  ⟨h, fun _ hi => by cases hi⟩

mutual

/-- What the result for any view has if the results in the view have it, all results have. -/
theorem fold_of_all (h : ∀ w : View ρ, w.All Q → Q (f w)) : ∀ v : Value, Q (fold f v)
  | list items => by
    rw [fold]
    exact h _ (all_items (foldAll_of_all h items))
  | tuple items => by
    rw [fold]
    exact h _ (all_items (foldAll_of_all h items))
  | iter items => by
    rw [fold]
    exact h _ (all_items (foldAll_of_all h items))
  | dict entries => by
    rw [fold]
    exact h _ (all_named (foldEntries_of_all h entries))
  | object attributes => by
    rw [fold]
    exact h _ (all_named (foldFields_of_all h attributes))
  | typed shape members => by
    rw [fold]
    exact h _ (all_named (foldFields_of_all h members))
  | bytes .fixed data => by
    rw [fold]
    exact h _ (all_alone _)
  | bytes .mutable data => by
    rw [fold]
    refine h _ (all_items fun p hp => ?_)
    obtain ⟨b, -, rfl⟩ := List.mem_map.mp hp
    exact h _ (all_alone _)
  | bytes .view data => by
    rw [fold]
    refine h _ (all_items fun p hp => ?_)
    obtain ⟨b, -, rfl⟩ := List.mem_map.mp hp
    exact h _ (all_alone _)
  | stream ahead => by
    rw [fold]
    refine h _ (all_items fun p hp => ?_)
    obtain ⟨l, -, rfl⟩ := List.mem_map.mp hp
    exact h _ (all_alone _)
  | null => by rw [fold]; exact h _ (all_alone _)
  | bool b => by rw [fold]; exact h _ (all_alone _)
  | int i => by rw [fold]; exact h _ (all_alone _)
  | float x => by rw [fold]; exact h _ (all_alone _)
  | str s => by rw [fold]; exact h _ (all_alone _)
  | datetime t => by rw [fold]; exact h _ (all_alone _)

theorem foldAll_of_all (h : ∀ w : View ρ, w.All Q → Q (f w)) :
    ∀ items : List Value, ∀ p ∈ foldAll f items, Q p.2
  | [], _, hp => by cases hp
  | v :: rest, p, hp => by
    rw [foldAll] at hp
    rcases List.mem_cons.mp hp with rfl | hp
    · exact fold_of_all h v
    · exact foldAll_of_all h rest p hp

theorem foldEntries_of_all (h : ∀ w : View ρ, w.All Q → Q (f w)) :
    ∀ entries : List (Value × Value), ∀ p ∈ foldEntries f entries, Q p.2.2
  | [], _, hp => by cases hp
  | (k, v) :: rest, p, hp => by
    rw [foldEntries] at hp
    rcases List.mem_cons.mp hp with rfl | hp
    · exact fold_of_all h v
    · exact foldEntries_of_all h rest p hp

theorem foldFields_of_all (h : ∀ w : View ρ, w.All Q → Q (f w)) :
    ∀ fields : List (String × Value), ∀ p ∈ foldFields f fields, Q p.2.2
  | [], _, hp => by cases hp
  | (k, v) :: rest, p, hp => by
    rw [foldFields] at hp
    rcases List.mem_cons.mp hp with rfl | hp
    · exact fold_of_all h v
    · exact foldFields_of_all h rest p hp

end

end Value

namespace Xml.Element

variable {ρ : Type} {f : View ρ → ρ} {Q : ρ → Prop}

mutual

/-- What the result for an element has if the results for its children have it, all results have. -/
theorem fold_of_all (h : ∀ w : View ρ, (∀ p ∈ w.children, Q p.2) → Q (f w)) :
    ∀ e : Element, Q (fold f e)
  | node tag attributes text children => by
    rw [fold]
    exact h _ (foldAll_of_all h children)

theorem foldAll_of_all (h : ∀ w : View ρ, (∀ p ∈ w.children, Q p.2) → Q (f w)) :
    ∀ es : List Element, ∀ p ∈ foldAll f es, Q p.2
  | [], _, hp => by cases hp
  | e :: rest, p, hp => by
    rw [foldAll] at hp
    rcases List.mem_cons.mp hp with rfl | hp
    · exact fold_of_all h e
    · exact foldAll_of_all h rest p hp

end

end Xml.Element

end ServiceWire
