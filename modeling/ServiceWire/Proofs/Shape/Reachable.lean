import ServiceWire.Codec.Table
import Mathlib

/-!
# What a shape leads to

The walk through a graph yields the shapes that a shape leads to, and no others: what it has yielded
is closed under parts but for what is still to be looked at, and it stops early only when every
shape of the graph has been yielded. A codec is accepted for a shape exactly if it handles the kinds
of all these shapes.
-/

namespace ServiceWire

namespace Graph

variable {g : Graph}

/-- A shape is part of another: a member, an item, a key or a value. -/
inductive IsPart (g : Graph) (r : g.Ref) : g.Ref → Prop
  | member {members : List (Member g.size)} {m : Member g.size}
      (form : (g.shape r).form = .struct members) (hm : m ∈ members) : IsPart g r m.shape
  | item {item : g.Ref} (form : (g.shape r).form = .list item) : IsPart g r item
  | key {key value : g.Ref} (form : (g.shape r).form = .map key value) : IsPart g r key
  | value {key value : g.Ref} (form : (g.shape r).form = .map key value) : IsPart g r value

/-- The children of a shape are its parts. -/
theorem mem_children_iff {r q : g.Ref} : q ∈ (g.shape r).children ↔ g.IsPart r q := by
  constructor
  · intro h
    rw [Shape.children] at h
    split at h
    · rename_i members form
      obtain ⟨m, hm, rfl⟩ := List.mem_map.mp h
      exact .member form hm
    · rename_i item form
      obtain rfl := List.mem_singleton.mp h
      exact .item form
    · rename_i key value form
      rcases List.mem_pair.mp h with rfl | rfl
      · exact .key form
      · exact .value form
    · cases h
  · intro h
    rw [Shape.children]
    cases h with
    | member form hm =>
      rw [form]
      exact List.mem_map_of_mem hm
    | item form =>
      rw [form]
      exact List.mem_singleton_self _
    | key form | value form =>
      rw [form]
      simp

/-- A shape leads to another through parts, in any number of steps. -/
def Leads (g : Graph) : g.Ref → g.Ref → Prop := Relation.ReflTransGen g.IsPart

theorem Leads.refl (r : g.Ref) : g.Leads r r := Relation.ReflTransGen.refl

theorem Leads.head {r p q : g.Ref} (h : g.IsPart r p) (hq : g.Leads p q) : g.Leads r q :=
  Relation.ReflTransGen.head h hq

/-! ### The walk -/

/-- The walk yields only what something in its stack leads to. -/
theorem exists_leads_of_mem_walk {left : Nat} {seen stack : List g.Ref} {q : g.Ref}
    (h : q ∈ g.walk left seen stack) : ∃ r ∈ stack, g.Leads r q := by
  induction left generalizing seen stack with
  | zero => cases h
  | succ left ih =>
    rw [walk] at h
    split at h
    · cases h
    · rename_i r rest hstack
      have hsub : r :: rest ⊆ stack := fun p hp =>
        (List.dropWhile_sublist _).subset (hstack ▸ hp)
      rcases List.mem_cons.mp h with rfl | h
      · exact ⟨q, hsub (List.mem_cons_self ..), .refl q⟩
      · obtain ⟨p, hp, hq⟩ := ih h
        rcases List.mem_append.mp hp with hp | hp
        · exact ⟨r, hsub (List.mem_cons_self ..), hq.head (mem_children_iff.mp hp)⟩
        · exact ⟨p, hsub (List.mem_cons_of_mem _ hp), hq⟩

/-- A list of distinct shapes that is as long as the graph has all of them. -/
theorem mem_of_size_le {seen : List g.Ref} (hn : seen.Nodup) (h : g.size ≤ seen.length)
    (q : g.Ref) : q ∈ seen := by
  by_contra hq
  have hcard := (List.nodup_cons.mpr ⟨hq, hn⟩).length_le_card
  rw [Fintype.card_fin, List.length_cons] at hcard
  omega

/-- What the walk leaves behind is complete: the stack has been seen or is yielded, and so have the
parts of everything that is yielded. -/
theorem walk_closed {left : Nat} {seen : List g.Ref} (hn : seen.Nodup)
    (hleft : g.size ≤ left + seen.length) (stack : List g.Ref) :
    (∀ r ∈ stack, r ∈ seen ∨ r ∈ g.walk left seen stack) ∧
      ∀ r ∈ g.walk left seen stack, ∀ q, g.IsPart r q → q ∈ seen ∨ q ∈ g.walk left seen stack := by
  induction left generalizing seen stack with
  | zero =>
    refine ⟨fun r _ => .inl (mem_of_size_le hn (by omega) r), fun r hr => ?_⟩
    cases hr
  | succ left ih =>
    have hsplit := List.takeWhile_append_dropWhile (p := fun r => seen.contains r) (l := stack)
    rw [walk]
    split
    · rename_i hstack
      rw [hstack, List.append_nil] at hsplit
      refine ⟨fun r hr => .inl ?_, fun r hr => by cases hr⟩
      rw [← hsplit] at hr
      exact List.contains_iff_mem.mp (List.mem_takeWhile_imp hr)
    · rename_i r rest hstack
      have hr : r ∉ seen := by
        have hhead := List.head?_dropWhile_not (fun r => seen.contains r) stack
        rw [hstack] at hhead
        simpa using hhead
      have hleft' : g.size ≤ left + (r :: seen).length := by
        rw [List.length_cons]
        omega
      obtain ⟨hin, hparts⟩ :=
        ih (List.nodup_cons.mpr ⟨hr, hn⟩) hleft' ((g.shape r).children ++ rest)
      -- What the rest of the walk takes for seen is seen before it or yielded first.
      have hlater : ∀ q,
          q ∈ r :: seen ∨ q ∈ g.walk left (r :: seen) ((g.shape r).children ++ rest) →
          q ∈ seen ∨ q ∈ r :: g.walk left (r :: seen) ((g.shape r).children ++ rest) := by
        rintro q (hq | hq)
        · rcases List.mem_cons.mp hq with rfl | hq
          · exact .inr (List.mem_cons_self ..)
          · exact .inl hq
        · exact .inr (List.mem_cons_of_mem _ hq)
      constructor
      · intro p hp
        rw [← hsplit, hstack] at hp
        rcases List.mem_append.mp hp with hp | hp
        · exact .inl (List.contains_iff_mem.mp (List.mem_takeWhile_imp hp))
        · rcases List.mem_cons.mp hp with rfl | hp
          · exact .inr (List.mem_cons_self ..)
          · exact hlater p (hin p (List.mem_append_right _ hp))
      · intro p hp q hq
        rcases List.mem_cons.mp hp with rfl | hp
        · exact hlater q (hin q (List.mem_append_left _ (mem_children_iff.mpr hq)))
        · exact hlater q (hparts p hp q hq)

/-- The shapes that the walk yields are those that its start leads to. -/
theorem mem_reachable_iff {r q : g.Ref} : q ∈ g.reachable r ↔ g.Leads r q := by
  constructor
  · intro h
    obtain ⟨p, hp, hq⟩ := exists_leads_of_mem_walk h
    exact List.mem_singleton.mp hp ▸ hq
  · intro h
    obtain ⟨hstart, hparts⟩ := walk_closed (g := g) List.nodup_nil (Nat.le_add_right ..) [r]
    induction h with
    | refl => exact (hstart r (List.mem_singleton_self r)).resolve_left List.not_mem_nil
    | tail _ hpart ih => exact (hparts _ ih _ hpart).resolve_left List.not_mem_nil

end Graph

/-! ### Tables -/

/-- A table has the kinds of all shapes that a shape leads to. -/
def Covers (g : Graph) (table : List ShapeKind) (r : g.Ref) : Prop :=
  ∀ q, g.Leads r q → (g.shape q).kind ∈ table

namespace Covers

variable {g : Graph} {table : List ShapeKind} {r q : g.Ref}

theorem self (h : Covers g table r) : (g.shape r).kind ∈ table := h r (.refl r)

theorem part (h : Covers g table r) (hq : g.IsPart r q) : Covers g table q :=
  fun p hp => h p (hp.head hq)

theorem member {members : List (Member g.size)} (h : Covers g table r)
    (form : (g.shape r).form = .struct members) {m : Member g.size} (hm : m ∈ members) :
    Covers g table m.shape :=
  h.part (.member form hm)

theorem of_mem_members (h : Covers g table r) {m : Member g.size}
    (hm : m ∈ (g.shape r).members) : Covers g table m.shape := by
  rw [Shape.members] at hm
  split at hm
  · rename_i members form
    exact h.member form hm
  · cases hm

theorem item {item : g.Ref} (h : Covers g table r) (form : (g.shape r).form = .list item) :
    Covers g table item :=
  h.part (.item form)

theorem value {key value : g.Ref} (h : Covers g table r)
    (form : (g.shape r).form = .map key value) : Covers g table value :=
  h.part (.value form)

end Covers

namespace Codec

variable {g : Graph} {table : List ShapeKind} {r : g.Ref}

/-- A codec is accepted for a shape if and only if the table has the kinds of all shapes that the
shape leads to. -/
theorem check_eq_ok_iff (c : Codec) (role : String) :
    c.check g table role r = .ok () ↔ Covers g table r := by
  rw [check]
  split
  · rename_i hnone
    refine iff_of_true rfl fun q hq => ?_
    have := List.find?_eq_none.mp hnone q (Graph.mem_reachable_iff.mpr hq)
    simpa using this
  · rename_i q hsome
    refine ⟨fun h => (by cases h), fun h => ?_⟩
    have hleads := Graph.mem_reachable_iff.mp (List.mem_of_find?_eq_some hsome)
    have hmissing := List.find?_some hsome
    rw [List.contains_iff_mem.mpr (h q hleads)] at hmissing
    cases hmissing

/-- A codec is refused for a shape if and only if the shape leads to one of a kind that is not in
the table. -/
theorem exists_check_error_iff (c : Codec) (table : List ShapeKind) (role : String) (r : g.Ref) :
    (∃ d, c.check g table role r = .error d) ↔ ∃ q, g.Leads r q ∧ (g.shape q).kind ∉ table := by
  have hnot : (∃ q, g.Leads r q ∧ (g.shape q).kind ∉ table) ↔ ¬Covers g table r := by
    simp only [Covers, not_forall, exists_prop]
  rw [hnot, ← check_eq_ok_iff c role]
  cases c.check g table role r with
  | error d => exact iff_of_true ⟨d, rfl⟩ (by simp)
  | ok _ => exact iff_of_false (by simp) (by simp)

end Codec

end ServiceWire
