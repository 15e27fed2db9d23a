import ServiceWire.Codec.FormBody
import ServiceWire.Proofs.Codec.Success
import ServiceWire.Proofs.Number.Digits
import ServiceWire.Proofs.Shape.Reachable
import ServiceWire.Proofs.Value.Parts

/-!
# Paths in form bodies

The parameters of a value have names at or below the path to the value. Steps to different parts
lead apart: what is at or below one part is not at or below another, since no step contains a
point. So no two parameters of a form have the same name, whatever was written.
-/

namespace ServiceWire.FormBody

/-! ### Paths -/

/-- A name that can be a step of a path. -/
def IsStep (s : String) : Prop := s ≠ "" ∧ '.' ∉ s.toList

instance (s : String) : Decidable (IsStep s) := by
  unfold IsStep
  infer_instance

/-- The path to a part. -/
def child (path step : String) : String := if path = "" then step else path ++ "." ++ step

/-- A name is that of a path, or continues it with further steps. -/
def Below (path name : String) : Prop :=
  ∃ rest, name.toList = path.toList ++ rest ∧ ∀ c ∈ rest.head?, c = '.'

theorem child_of_ne {path : String} (h : path ≠ "") (step : String) :
    child path step = path ++ "." ++ step := if_neg h

theorem child_ne_empty (path : String) {step : String} (h : IsStep step) : child path step ≠ "" := by
  rw [child]
  split
  · exact h.1
  · intro heq
    have hlist := congrArg String.toList heq
    rw [String.toList_append] at hlist
    simp at hlist

theorem joinPath_str (path step : String) :
    joinPath (.str path) (.str step) = .str (child path step) := by
  rw [joinPath, Value.truthy, child]
  by_cases h : path = ""
  · rw [h]
    rfl
  · rw [if_neg h, if_pos (by simpa using h)]
    rfl

theorem extend_str {path : String} (h : path ≠ "") (step : String) :
    extend (.str path) (.str step) = .str (child path step) := by
  rw [child_of_ne h]
  rfl

theorem numbered_str {path : String} (h : path ≠ "") (i : Nat) :
    numbered (.str path) i = .str (child path (toString (i : Int))) := by
  rw [child_of_ne h]
  rfl

/-- What all paths to parts begin with. -/
def stem (path : String) : List Char := if path = "" then [] else path.toList ++ ['.']

theorem toList_child (path step : String) : (child path step).toList = stem path ++ step.toList := by
  rw [child, stem]
  split
  · rfl
  · rw [String.toList_append, String.toList_append]
    rfl

theorem Below.refl (path : String) : Below path path :=
  ⟨[], (List.append_nil _).symm, fun c hc => by cases hc⟩

/-- What is below a part is below the whole. -/
theorem Below.of_child {path step name : String} (hpath : path ≠ "")
    (h : Below (child path step) name) : Below path name := by
  obtain ⟨rest, hname, -⟩ := h
  rw [toList_child, stem, if_neg hpath, List.append_assoc, List.append_assoc] at hname
  exact ⟨_, hname, fun c hc => (Option.some.inj hc).symm⟩

theorem takeWhile_step {step : String} (h : IsStep step) {rest : List Char}
    (hrest : ∀ c ∈ rest.head?, c = '.') :
    (step.toList ++ rest).takeWhile (fun c => c != '.') = step.toList := by
  have hin : ∀ c ∈ step.toList, (c != '.') = true := fun c hc =>
    bne_iff_ne.mpr fun heq => h.2 (heq ▸ hc)
  have hend : rest.takeWhile (fun c => c != '.') = [] := by
    cases rest with
    | nil => rfl
    | cons c rest =>
      rw [hrest c rfl]
      rfl
  rw [List.takeWhile_append_of_pos hin, hend, List.append_nil]

/-- Different steps lead apart. -/
theorem Below.step_eq {path step step' name : String} (h : IsStep step) (h' : IsStep step')
    (hname : Below (child path step) name) (hname' : Below (child path step') name) :
    step = step' := by
  obtain ⟨rest, heq, hrest⟩ := hname
  obtain ⟨rest', heq', hrest'⟩ := hname'
  rw [heq, toList_child, toList_child, List.append_assoc, List.append_assoc,
    List.append_cancel_left_eq] at heq'
  have htake := congrArg (List.takeWhile fun c => c != '.') heq'
  rw [takeWhile_step h hrest, takeWhile_step h' hrest'] at htake
  exact String.toList_injective htake

/-- A whole is not below its parts. -/
theorem not_below_child {path : String} (hpath : path ≠ "") (step : String) :
    ¬Below (child path step) path := by
  rintro ⟨rest, heq, -⟩
  have hlength := congrArg List.length heq
  rw [toList_child, stem, if_neg hpath] at hlength
  simp at hlength

theorem isStep_entry : IsStep "entry" := by
  decide

/-- The path that the numbers of items and entries continue. -/
def trunk {n : Nat} (s : Shape n) (path tag : String) : String :=
  if s.flattened then path else child path tag

theorem str_trunk {n : Nat} (s : Shape n) (path : String) {tag : Value}
    (htag : tag = .str tag.text) :
    (if s.flattened then .str path else joinPath (.str path) tag) =
      Value.str (trunk s path tag.text) := by
  rw [trunk]
  split
  · rfl
  · rw [htag, joinPath_str]
    rfl

theorem trunk_ne_empty {n : Nat} {s : Shape n} {path tag : String} (hpath : path ≠ "")
    (h : IsStep tag) : trunk s path tag ≠ "" := by
  rw [trunk]
  split
  · exact hpath
  · exact child_ne_empty path h

theorem Below.of_trunk {n : Nat} {s : Shape n} {path tag name : String} (hpath : path ≠ "")
    (h : Below (trunk s path tag) name) : Below path name := by
  rw [trunk] at h
  split at h
  · exact h
  · exact h.of_child hpath

/-- A whole is not below its numbered parts. -/
theorem not_below_child_trunk {n : Nat} {s : Shape n} {path tag : String} (hpath : path ≠ "")
    (htag : IsStep tag) (step : String) : ¬Below (child (trunk s path tag) step) path := by
  intro h
  rw [trunk] at h
  split at h
  · exact not_below_child hpath step h
  · exact not_below_child hpath tag (h.of_child (child_ne_empty path htag))

theorem isStep_toString (i : Nat) : IsStep (toString (i : Int)) := by
  have hlist : (toString (i : Int)).toList = Nat.toDigits 10 i := by
    rw [Number.toList_toString, if_pos (Int.natCast_nonneg i)]
    rfl
  constructor
  · intro heq
    rw [heq] at hlist
    exact Nat.toDigits_ne_nil hlist.symm
  · intro hmem
    rw [hlist] at hmem
    exact absurd (Number.isDigit_of_mem_toDigits hmem) (by decide)

theorem toString_injective {i j : Nat} (h : toString (i : Int) = toString (j : Int)) : i = j := by
  have hread := congrArg Number.readInt? h
  rw [Number.readInt?_toString, Number.readInt?_toString] at hread
  exact Int.ofNat_inj.mp (Option.some.inj hread)

/-! ### Names of parameters -/

/-- The names of the parameters of a value are at or below the path to it, and no two are the
same. -/
structure Keyed (path : String) (params : Params) : Prop where
  below : ∀ p ∈ params, ∃ name, p.1 = .str name ∧ Below path name
  nodup : (params.map Prod.fst).Nodup

theorem Keyed.nil (path : String) : Keyed path [] :=
  ⟨fun p hp => (by cases hp), List.nodup_nil⟩

theorem Keyed.of_trunk {n : Nat} {s : Shape n} {path tag : String} {params : Params}
    (hpath : path ≠ "") (h : Keyed (trunk s path tag) params) : Keyed path params := by
  refine ⟨fun p hp => ?_, h.nodup⟩
  obtain ⟨name, hname, hbelow⟩ := h.below p hp
  exact ⟨name, hname, hbelow.of_trunk hpath⟩

/-- The names of the parameters of parts are below the paths to these, and no two are the same. -/
structure Spread (path : String) (steps : String → Prop) (params : Params) : Prop where
  below : ∀ p ∈ params, ∃ step, steps step ∧ ∃ name, p.1 = .str name ∧ Below (child path step) name
  nodup : (params.map Prod.fst).Nodup

theorem Keyed.single (path text : String) : Keyed path [(.str path, text)] :=
  ⟨List.forall_mem_singleton.mpr ⟨path, rfl, .refl path⟩, List.nodup_singleton _⟩

namespace Spread

variable {path : String} {steps : String → Prop} {params : Params}

theorem nil (path : String) (steps : String → Prop) : Spread path steps [] :=
  ⟨fun p hp => (by cases hp), List.nodup_nil⟩

theorem keyed (h : Spread path steps params) (hpath : path ≠ "") : Keyed path params := by
  refine ⟨fun p hp => ?_, h.nodup⟩
  obtain ⟨step, -, name, hname, hbelow⟩ := h.below p hp
  exact ⟨name, hname, hbelow.of_child hpath⟩

theorem mono (h : Spread path steps params) {more : String → Prop}
    (hsteps : ∀ s, steps s → more s) : Spread path more params := by
  refine ⟨fun p hp => ?_, h.nodup⟩
  obtain ⟨step, hstep, hname⟩ := h.below p hp
  exact ⟨step, hsteps step hstep, hname⟩

/-- What is below one part is not below others. -/
theorem not_below (h : Spread path steps params) (hsteps : ∀ s, steps s → IsStep s)
    {step name : String} (hstep : IsStep step) (hnew : ¬steps step)
    (hname : Below (child path step) name) {p : Value × String} (hp : p ∈ params) :
    p.1 ≠ .str name := by
  obtain ⟨step', hstep', name', hname', hbelow⟩ := h.below p hp
  intro heq
  obtain rfl := Value.str.inj (hname'.symm.trans heq)
  exact hnew (Below.step_eq hstep (hsteps step' hstep') hname hbelow ▸ hstep')

/-- The parameters of a part go before those of others. -/
theorem append {first : Params} {step : String} (h : Spread path steps params)
    (hsteps : ∀ s, steps s → IsStep s) (hstep : IsStep step) (hnew : ¬steps step)
    (hfirst : Keyed (child path step) first) :
    Spread path (fun s => s = step ∨ steps s) (first ++ params) := by
  constructor
  · intro p hp
    rcases List.mem_append.mp hp with hp | hp
    · obtain ⟨name, hname⟩ := hfirst.below p hp
      exact ⟨step, .inl rfl, name, hname⟩
    · obtain ⟨s, hs, hname⟩ := h.below p hp
      exact ⟨s, .inr hs, hname⟩
  · rw [List.map_append, List.nodup_append]
    refine ⟨hfirst.nodup, h.nodup, fun key hkey key' hkey' => ?_⟩
    obtain ⟨p, hp, rfl⟩ := List.mem_map.mp hkey
    obtain ⟨p', hp', rfl⟩ := List.mem_map.mp hkey'
    obtain ⟨name, hname, hbelow⟩ := hfirst.below p hp
    rw [hname]
    exact (h.not_below hsteps hstep hnew hbelow hp').symm

end Spread

/-! ### Shapes with plain names -/

/-- The names that a shape gives to its parts can be steps of paths, and tell the parts apart. -/
structure Plain {n : Nat} (s : Shape n) : Prop where
  members : ∀ m ∈ s.members, m.wireName = .str m.wireName.text ∧ IsStep m.wireName.text
  wireNames : (s.members.map fun m => m.wireName.text).Nodup
  item : ∀ r, s.form = .list r → s.itemTag = .str s.itemTag.text ∧ IsStep s.itemTag.text
  key : ∀ r q, s.form = .map r q → s.keyTag = .str s.keyTag.text ∧ IsStep s.keyTag.text
  value : ∀ r q, s.form = .map r q → s.valueTag = .str s.valueTag.text ∧ IsStep s.valueTag.text
  apart : ∀ r q, s.form = .map r q → s.keyTag.text ≠ s.valueTag.text

/-- What writes a value gives each parameter a name of its own, at or below the path. -/
def Names (g : Graph) (write : Writing g) : Prop :=
  ∀ r, (∀ q, g.Leads r q → Plain (g.shape q)) → ∀ path, path ≠ "" → ∀ params,
    write r (.str path) = .ok params → Keyed path params

variable {c : Codec} {g : Graph}

/-! ### Writing in steps -/

theorem eq_str_of_string {v : Value} {s : String}
    (h : Scalar.string v = .ok s) : v = .str s := by
  cases v with
  | str t => rw [Except.ok.inj h]
  | _ => cases h

theorem writeMembers_cons {m : Member g.size} {rest : List (Member g.size)} {path : Value}
    {w : View (Writing g)} {params : Params}
    (h : writeMembers c g (m :: rest) path w = .ok params) :
    ∃ first others, writeMember c g path w m = .ok first ∧
      writeMembers c g rest path w = .ok others ∧ params = first ++ others := by
  rw [writeMembers, List.mapM_cons] at h
  obtain ⟨all, hall, rfl⟩ := exists_of_map h
  obtain ⟨first, hfirst, hrest⟩ := exists_of_bind hall
  obtain ⟨others, hothers, hcons⟩ := exists_of_bind hrest
  obtain rfl : first :: others = all := Except.ok.inj hcons
  refine ⟨first, others.flatten, hfirst, ?_, List.flatten_cons⟩
  rw [writeMembers, hothers]
  rfl

theorem writeMember_eq_ok {m : Member g.size} {path : Value} {w : View (Writing g)}
    {params : Params} (h : writeMember c g path w m = .ok params) :
    (w.member? m.name = none ∧ params = []) ∨
      ∃ p, w.member? m.name = some p ∧ p.2 m.shape (joinPath path m.wireName) = .ok params := by
  rw [writeMember] at h
  split at h
  · rename_i hnone
    exact .inl ⟨hnone, (Except.ok.inj h).symm⟩
  · rename_i v write hsome
    obtain ⟨-, -, hwrite⟩ := exists_of_bind h
    exact .inr ⟨(v, write), hsome, hwrite⟩

/-- The parameters of numbered parts, one after the other, from a number on. -/
inductive Numbered {α : Type} (path : String) (part : String → α → Params → Prop) :
    Nat → List α → Params → Prop
  | nil (i : Nat) : Numbered path part i [] []
  | cons {i : Nat} {a : α} {rest : List α} {first others : Params}
      (head : part (child path (toString (i : Int))) a first)
      (tail : Numbered path part (i + 1) rest others) :
      Numbered path part i (a :: rest) (first ++ others)

/-- The parameters of an item under a path. -/
def IsItem (g : Graph) (item : g.Ref) (path : String) (p : Value × Writing g) (params : Params) :
    Prop :=
  p.2 item (.str path) = .ok params

/-- The parameters of an entry under a path: its key, and those of its value. -/
def IsEntry (g : Graph) (s : Shape g.size) (value : g.Ref) (path : String)
    (p : Value × Value × Writing g) (params : Params) : Prop :=
  ∃ key first, p.1 = .str key ∧ p.2.2 value (.str (child path s.valueTag.text)) = .ok first ∧
    params = (.str (child path s.keyTag.text), key) :: first

theorem numbered_writeItems {item : g.Ref} {path : String} (hpath : path ≠ "") {i : Nat}
    {items : List (Value × Writing g)} {params : Params}
    (h : writeItems g item (.str path) i items = .ok params) :
    Numbered path (IsItem g item) i items params := by
  induction items generalizing i params with
  | nil =>
    obtain rfl : [] = params := Except.ok.inj h
    exact .nil i
  | cons p rest ih =>
    rw [writeItems, numbered_str hpath] at h
    obtain ⟨first, hfirst, hrest⟩ := exists_of_bind h
    obtain ⟨others, hothers, heq⟩ := exists_of_bind hrest
    obtain rfl : first ++ others = params := Except.ok.inj heq
    exact .cons hfirst (ih hothers)

theorem numbered_writeEntries {s : Shape g.size} {r value : g.Ref} (hs : Plain s)
    (form : s.form = .map r value) {path : String} (hpath : path ≠ "") {i : Nat}
    {entries : List (Value × Value × Writing g)} {params : Params}
    (h : writeEntries g s value (.str path) i entries = .ok params) :
    Numbered path (IsEntry g s value) i entries params := by
  induction entries generalizing i params with
  | nil =>
    obtain rfl : [] = params := Except.ok.inj h
    exact .nil i
  | cons p rest ih =>
    have hentry := child_ne_empty path (isStep_toString i)
    rw [writeEntries, numbered_str hpath, (hs.key r value form).1, (hs.value r value form).1,
      extend_str hentry, extend_str hentry] at h
    obtain ⟨key, hkey, hafter⟩ := exists_of_bind h
    obtain ⟨first, hfirst, hrest⟩ := exists_of_bind hafter
    obtain ⟨others, hothers, heq⟩ := exists_of_bind hrest
    obtain rfl := Except.ok.inj heq
    refine .cons ⟨key, first, eq_str_of_string (exists_of_mapError hkey), hfirst, rfl⟩ (ih hothers)

/-! ### Names of what was written -/

theorem keyed_writeMember {w : View (Writing g)} (hw : w.All (Names g)) {m : Member g.size}
    (hname : m.wireName = .str m.wireName.text) (hstep : IsStep m.wireName.text)
    (plain : ∀ q, g.Leads m.shape q → Plain (g.shape q)) {path : String} {params : Params}
    (h : writeMember c g (.str path) w m = .ok params) :
    Keyed (child path m.wireName.text) params := by
  rcases writeMember_eq_ok h with ⟨-, rfl⟩ | ⟨p, hp, hwrite⟩
  · exact .nil _
  · rw [hname, joinPath_str] at hwrite
    exact hw.member hp m.shape plain _ (child_ne_empty path hstep) params hwrite

theorem spread_writeMembers {w : View (Writing g)} (hw : w.All (Names g))
    {members : List (Member g.size)}
    (steps : ∀ m ∈ members, m.wireName = .str m.wireName.text ∧ IsStep m.wireName.text)
    (wireNames : (members.map fun m => m.wireName.text).Nodup)
    (plain : ∀ m ∈ members, ∀ q, g.Leads m.shape q → Plain (g.shape q)) {path : String}
    {params : Params} (h : writeMembers c g members (.str path) w = .ok params) :
    Spread path (· ∈ members.map fun m => m.wireName.text) params := by
  induction members generalizing params with
  | nil =>
    obtain rfl : [] = params := Except.ok.inj h
    exact .nil path _
  | cons m rest ih =>
    obtain ⟨first, others, hfirst, hothers, rfl⟩ := writeMembers_cons h
    obtain ⟨hname, hstep⟩ := steps m (List.mem_cons_self ..)
    rw [List.map_cons, List.nodup_cons] at wireNames
    have hrest := ih (fun m' hm' => steps m' (List.mem_cons_of_mem _ hm')) wireNames.2
      (fun m' hm' => plain m' (List.mem_cons_of_mem _ hm')) hothers
    have hkeyed := keyed_writeMember hw hname hstep (plain m (List.mem_cons_self ..)) hfirst
    refine (hrest.append (fun s hs => ?_) hstep wireNames.1 hkeyed).mono fun s hs => ?_
    · obtain ⟨m', hm', rfl⟩ := List.mem_map.mp hs
      exact (steps m' (List.mem_cons_of_mem _ hm')).2
    · exact List.mem_cons.mpr hs

theorem Numbered.spread {α : Type} {path : String} {part : String → α → Params → Prop} {i : Nat}
    {items : List α} {params : Params} (h : Numbered path part i items params)
    (hpart : ∀ a ∈ items, ∀ q, q ≠ "" → ∀ first, part q a first → Keyed q first) :
    Spread path (fun s => ∃ j, i ≤ j ∧ s = toString (j : Int)) params := by
  induction h with
  | nil i => exact .nil path _
  | @cons i a rest first others head tail ih =>
    have hstep := isStep_toString i
    have hkeyed := hpart a (List.mem_cons_self ..) _ (child_ne_empty path hstep) first head
    have hrest := ih fun b hb => hpart b (List.mem_cons_of_mem _ hb)
    refine (hrest.append ?_ hstep ?_ hkeyed).mono ?_
    · rintro s ⟨j, -, rfl⟩
      exact isStep_toString j
    · rintro ⟨j, hj, heq⟩
      have hij := toString_injective heq
      omega
    · rintro s (rfl | ⟨j, hj, rfl⟩)
      · exact ⟨i, Nat.le_refl i, rfl⟩
      · exact ⟨j, by omega, rfl⟩

theorem IsItem.keyed {item : g.Ref} {p : Value × Writing g} {path : String} {params : Params}
    (h : IsItem g item path p params) (hw : Names g p.2)
    (plain : ∀ q, g.Leads item q → Plain (g.shape q)) (hpath : path ≠ "") : Keyed path params :=
  hw item plain path hpath params h

theorem IsEntry.keyed {s : Shape g.size} {r value : g.Ref} {p : Value × Value × Writing g}
    {path : String} {params : Params} (h : IsEntry g s value path p params) (hs : Plain s)
    (form : s.form = .map r value) (hw : Names g p.2.2)
    (plain : ∀ q, g.Leads value q → Plain (g.shape q)) (hpath : path ≠ "") :
    Keyed path params := by
  obtain ⟨key, first, -, hfirst, rfl⟩ := h
  have hvalueStep := (hs.value r value form).2
  have hkeyed := hw value plain _ (child_ne_empty path hvalueStep) first hfirst
  have hvalue : Spread path (· = s.valueTag.text) first :=
    ⟨fun p hp => ⟨s.valueTag.text, rfl, hkeyed.below p hp⟩, hkeyed.nodup⟩
  exact (hvalue.append (fun t ht => ht ▸ hvalueStep) (hs.key r value form).2
    (hs.apart r value form) (Keyed.single (child path s.keyTag.text) key)).keyed hpath

theorem names_writeView {w : View (Writing g)} (hw : w.All (Names g)) :
    Names g (writeView c g w) := by
  intro r plain path hpath params h
  have hself := plain r (.refl r)
  rw [writeView] at h
  split at h
  · rename_i members form
    have hmembers : (g.shape r).members = members := by rw [Shape.members, form]
    have hsteps := hself.members
    have hwire := hself.wireNames
    rw [hmembers] at hsteps hwire
    refine (spread_writeMembers hw hsteps hwire (fun m hm q hq => ?_) h).keyed hpath
    exact plain q (hq.head (Graph.IsPart.member form hm))
  · rename_i item form
    split at h
    · cases h
    · obtain rfl := Except.ok.inj h
      exact .single path ""
    · rename_i items hne hitems
      obtain ⟨-, -, h⟩ := exists_of_bind h
      obtain ⟨htag, hstep⟩ := hself.item item form
      have htrunk := trunk_ne_empty (s := g.shape r) hpath hstep
      rw [str_trunk _ path htag] at h
      refine (((numbered_writeItems htrunk h).spread fun p hp q hq first hfirst => ?_).keyed
        htrunk).of_trunk hpath
      exact hfirst.keyed (hw.items _ hitems p hp)
        (fun t ht => plain t (ht.head (Graph.IsPart.item form))) hq
  · rename_i key value form
    split at h
    · cases h
    · rename_i entries hentries
      obtain ⟨-, -, h⟩ := exists_of_bind h
      have htrunk := trunk_ne_empty (s := g.shape r) hpath isStep_entry
      rw [str_trunk _ path rfl] at h
      refine (((numbered_writeEntries hself form htrunk h).spread
        fun p hp q hq first hfirst => ?_).keyed htrunk).of_trunk hpath
      exact hfirst.keyed hself form (hw.entries hentries p hp)
        (fun t ht => plain t (ht.head (Graph.IsPart.value form))) hq
  · obtain ⟨text, -, rfl⟩ := exists_of_map h
    exact .single path text

/-- Whatever is written, no two parameters have the same name. -/
theorem names_write (v : Value) : Names g (write c g v) :=
  Value.fold_of_all (fun _ hw => names_writeView hw) v

/-- The parameters of a whole structure have names at or below the names of its members. -/
theorem spread_toParams {r : g.Ref} {members : List (Member g.size)}
    (form : (g.shape r).form = .struct members) (plain : ∀ q, g.Leads r q → Plain (g.shape q))
    {v : Value} {path : String} {params : Params}
    (h : toParams c g v r (.str path) none = .ok params) :
    Spread path (· ∈ members.map fun m => m.wireName.text) params := by
  have hmembers : (g.shape r).members = members := by rw [Shape.members, form]
  have hsteps := (plain r (.refl r)).members
  have hwire := (plain r (.refl r)).wireNames
  rw [hmembers] at hsteps hwire
  rw [toParams] at h
  simp only [form, Option.getD_none] at h
  exact spread_writeMembers (Value.all_view names_write v) hsteps hwire
    (fun m hm q hq => plain q (hq.head (Graph.IsPart.member form hm))) h

end ServiceWire.FormBody
