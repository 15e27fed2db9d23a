import ServiceWire.Proofs.Shape.Reachable

/-!
# The order of the walk

The walk is a loop with a stack: each turn takes the shape on top, and unless it was seen before,
yields it and puts its children on the stack, the first child on top (`Traversal.turn`). A shape may
stand on the stack many times, so the stack can grow while it is consumed; but a shape puts its
children there only once. So the loop comes to its end, after one turn for the start and one for
each child of each shape that it yields.

What it yields is in preorder. `Visits` is the recursion: to visit some shapes one after another,
skip those already visited, and visit everything below a shape before the next one. Loop and
recursion are tied by cutting the stack: the children of a shape are visited before what lies under
them on the stack, and with everything yielded by then taken as seen.
-/

namespace ServiceWire

namespace Graph

variable {g : Graph}

/-! ### The loop -/

/-- What the loop holds between two turns. The top of the stack comes first. -/
structure Traversal (g : Graph) where
  seen : List g.Ref := []
  stack : List g.Ref
  yielded : List g.Ref := []

/-- One turn of the loop. -/
def Traversal.turn (t : g.Traversal) : g.Traversal :=
  match t.stack with
  | [] => t
  | r :: rest =>
    if r ∈ t.seen then { t with stack := rest }
    else
      { seen := r :: t.seen, stack := (g.shape r).children ++ rest, yielded := t.yielded ++ [r] }

theorem Traversal.turn_seen {r : g.Ref} {seen : List g.Ref} (h : r ∈ seen)
    (rest yielded : List g.Ref) : turn ⟨seen, r :: rest, yielded⟩ = ⟨seen, rest, yielded⟩ :=
  if_pos h

theorem Traversal.turn_fresh {r : g.Ref} {seen : List g.Ref} (h : r ∉ seen)
    (rest yielded : List g.Ref) :
    turn ⟨seen, r :: rest, yielded⟩ =
      ⟨r :: seen, (g.shape r).children ++ rest, yielded ++ [r]⟩ :=
  if_neg h

/-- The loop comes to its end: with `seen` behind it and `stack` ahead it yields `order`. -/
inductive Walked (g : Graph) : List g.Ref → List g.Ref → List g.Ref → Prop
  /-- The stack is empty. -/
  | done (seen : List g.Ref) : Walked g seen [] []
  /-- The shape on top was seen before. -/
  | skip {seen rest order : List g.Ref} {r : g.Ref} :
      r ∈ seen → Walked g seen rest order → Walked g seen (r :: rest) order
  /-- The shape on top is new; its children come before the rest of the stack. -/
  | yield {seen rest order : List g.Ref} {r : g.Ref} :
      r ∉ seen → Walked g (r :: seen) ((g.shape r).children ++ rest) order →
        Walked g seen (r :: rest) (r :: order)

theorem walk_seen {left : Nat} {seen : List g.Ref} {r : g.Ref} (h : r ∈ seen)
    (rest : List g.Ref) : g.walk left seen (r :: rest) = g.walk left seen rest := by
  cases left with
  | zero => rfl
  | succ left => simp [walk, h]

theorem walk_fresh (left : Nat) {seen : List g.Ref} {r : g.Ref} (h : r ∉ seen)
    (rest : List g.Ref) :
    g.walk (left + 1) seen (r :: rest) =
      r :: g.walk left (r :: seen) ((g.shape r).children ++ rest) := by
  simp [walk, h]

/-- As long as the bound covers the shapes that have not been seen, the walk is the loop. -/
theorem walked_walk {left : Nat} {seen : List g.Ref} (hn : seen.Nodup)
    (hleft : g.size ≤ left + seen.length) (stack : List g.Ref) :
    g.Walked seen stack (g.walk left seen stack) := by
  induction left generalizing seen stack with
  | zero =>
    -- Everything has been seen, so that the whole stack is skipped.
    induction stack with
    | nil => exact .done seen
    | cons r rest ih => exact .skip (mem_of_size_le hn (by omega) r) ih
  | succ left ihleft =>
    induction stack with
    | nil => exact .done seen
    | cons r rest ih =>
      by_cases hr : r ∈ seen
      · rw [walk_seen hr]
        exact .skip hr ih
      · rw [walk_fresh left hr]
        refine .yield hr (ihleft (List.nodup_cons.mpr ⟨hr, hn⟩) ?_ _)
        rw [List.length_cons]
        omega

theorem walked_reachable (start : g.Ref) : g.Walked [] [start] (g.reachable start) :=
  walked_walk List.nodup_nil (Nat.le_add_right ..) [start]

namespace Walked

variable {seen stack order : List g.Ref}

/-- There is one turn for each shape on the stack, and one for each child of what is yielded. -/
theorem iterate_turn (h : g.Walked seen stack order) (yielded : List g.Ref) :
    Traversal.turn^[stack.length + (order.map fun r => (g.shape r).children.length).sum]
        ⟨seen, stack, yielded⟩ =
      ⟨order.reverse ++ seen, [], yielded ++ order⟩ := by
  induction h generalizing yielded with
  | done seen => simp
  | @skip seen rest order r hr _ ih =>
    have hcount : (r :: rest).length + (order.map fun r => (g.shape r).children.length).sum =
        rest.length + (order.map fun r => (g.shape r).children.length).sum + 1 := by
      rw [List.length_cons]
      omega
    rw [hcount, Function.iterate_succ_apply, Traversal.turn_seen hr, ih]
  | @yield seen rest order r hr _ ih =>
    have hcount :
        (r :: rest).length + ((r :: order).map fun r => (g.shape r).children.length).sum =
          ((g.shape r).children ++ rest).length +
            (order.map fun r => (g.shape r).children.length).sum + 1 := by
      rw [List.length_cons, List.map_cons, List.sum_cons, List.length_append]
      omega
    rw [hcount, Function.iterate_succ_apply, Traversal.turn_fresh hr, ih, List.reverse_cons,
      List.append_assoc, List.append_assoc, List.singleton_append, List.singleton_append]

/-- What is yielded has not been seen before. -/
theorem not_mem_seen (h : g.Walked seen stack order) : ∀ q ∈ order, q ∉ seen := by
  induction h with
  | done seen => simp
  | skip _ _ ih => exact ih
  | yield hr _ ih =>
    intro q hq
    rcases List.mem_cons.mp hq with rfl | hq
    · exact hr
    · exact fun hseen => ih q hq (List.mem_cons_of_mem _ hseen)

theorem nodup (h : g.Walked seen stack order) : order.Nodup := by
  induction h with
  | done seen => exact List.nodup_nil
  | skip _ _ ih => exact ih
  | yield _ h ih =>
    refine List.nodup_cons.mpr ⟨fun hmem => ?_, ih⟩
    exact h.not_mem_seen _ hmem (List.mem_cons_self ..)

end Walked

/-! ### The recursion -/

/-- Depth-first preorder: with `seen` behind it, visiting `shapes` one after another yields
`order`. -/
inductive Visits (g : Graph) : List g.Ref → List g.Ref → List g.Ref → Prop
  /-- There is nothing to visit. -/
  | nil (seen : List g.Ref) : Visits g seen [] []
  /-- A shape that was visited before is skipped. -/
  | skip {seen rest order : List g.Ref} {r : g.Ref} :
      r ∈ seen → Visits g seen rest order → Visits g seen (r :: rest) order
  /-- A new shape comes first, then what its children yield from left to right, then the rest. -/
  | visit {seen rest below after : List g.Ref} {r : g.Ref} :
      r ∉ seen → Visits g (r :: seen) (g.shape r).children below →
        Visits g (below.reverse ++ r :: seen) rest after →
          Visits g seen (r :: rest) (r :: (below ++ after))

namespace Visits

variable {seen shapes order : List g.Ref}

/-- A recursion over two lists is one over the first and then one over the second. -/
theorem exists_append {first second : List g.Ref} (h : g.Visits seen (first ++ second) order) :
    ∃ below after, order = below ++ after ∧ g.Visits seen first below ∧
      g.Visits (below.reverse ++ seen) second after := by
  generalize hshapes : first ++ second = shapes at h
  induction h generalizing first with
  | nil seen =>
    obtain ⟨rfl, rfl⟩ := List.append_eq_nil_iff.mp hshapes
    exact ⟨[], [], rfl, .nil seen, .nil seen⟩
  | @skip seen rest order r hr h ih =>
    cases first with
    | nil =>
      rw [List.nil_append] at hshapes
      subst hshapes
      exact ⟨[], order, rfl, .nil seen, .skip hr h⟩
    | cons p first =>
      obtain ⟨rfl, hrest⟩ := List.cons.inj hshapes
      obtain ⟨below, after, rfl, hfirst, hsecond⟩ := ih hrest
      exact ⟨below, after, rfl, .skip hr hfirst, hsecond⟩
  | @visit seen rest below after r hr hbelow hafter _ ih =>
    cases first with
    | nil =>
      rw [List.nil_append] at hshapes
      subst hshapes
      exact ⟨[], _, rfl, .nil seen, .visit hr hbelow hafter⟩
    | cons p first =>
      obtain ⟨rfl, hrest⟩ := List.cons.inj hshapes
      obtain ⟨middle, last, rfl, hfirst, hsecond⟩ := ih hrest
      refine ⟨p :: (below ++ middle), last, by simp, .visit hr hbelow hfirst, ?_⟩
      have hseen : (p :: (below ++ middle)).reverse ++ seen =
          middle.reverse ++ (below.reverse ++ p :: seen) := by simp
      rw [hseen]
      exact hsecond

/-- The recursion has one order only. -/
theorem unique {other : List g.Ref} (h : g.Visits seen shapes order)
    (h' : g.Visits seen shapes other) : order = other := by
  induction h generalizing other with
  | nil => cases h' with
    | nil => rfl
  | skip hr _ ih => cases h' with
    | skip _ h' => exact ih h'
    | visit hr' => exact absurd hr hr'
  | visit hr _ _ ihbelow ihafter => cases h' with
    | skip hr' => exact absurd hr' hr
    | visit _ hbelow hafter =>
      obtain rfl := ihbelow hbelow
      obtain rfl := ihafter hafter
      rfl

end Visits

/-- The loop yields in the order of the recursion. -/
theorem Walked.visits {seen stack order : List g.Ref} (h : g.Walked seen stack order) :
    g.Visits seen stack order := by
  induction h with
  | done seen => exact .nil seen
  | skip hr _ ih => exact .skip hr ih
  | yield hr _ ih =>
    obtain ⟨below, after, rfl, hbelow, hafter⟩ := ih.exists_append
    exact .visit hr hbelow hafter

theorem visits_reachable_iff {start : g.Ref} {order : List g.Ref} :
    g.Visits [] [start] order ↔ order = g.reachable start := by
  constructor
  · intro h
    exact h.unique (walked_reachable start).visits
  · rintro rfl
    exact (walked_reachable start).visits

theorem head?_reachable (start : g.Ref) : (g.reachable start).head? = some start := by
  have h := walked_reachable start
  generalize g.reachable start = order at h
  cases h with
  | skip hseen => exact absurd hseen List.not_mem_nil
  | yield => rfl

/-- The loop that begins with a shape comes to its end. It has then yielded exactly the shapes that
the first one leads to, each once and the first one first, in the order in which a recursion visits
them that goes through children from left to right and skips what was visited before. -/
theorem reachable_traverses (g : Graph) (start : g.Ref) :
    (Traversal.turn^[1 + ((g.reachable start).map fun r => (g.shape r).children.length).sum]
        { stack := [start] } =
      ({ seen := (g.reachable start).reverse, stack := [], yielded := g.reachable start } :
        g.Traversal)) ∧
      (∀ q, q ∈ g.reachable start ↔ g.Leads start q) ∧
      (g.reachable start).Nodup ∧
      (g.reachable start).head? = some start ∧
      ∀ order, g.Visits [] [start] order ↔ order = g.reachable start := by
  have hwalked := walked_reachable start
  refine ⟨?_, fun q => mem_reachable_iff, hwalked.nodup, head?_reachable start,
    fun order => visits_reachable_iff⟩
  have hturns := hwalked.iterate_turn []
  rw [List.append_nil, List.nil_append, List.length_singleton] at hturns
  exact hturns

end Graph

end ServiceWire
