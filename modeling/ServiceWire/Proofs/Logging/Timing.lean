import ServiceWire.Logging.Timing
import ServiceWire.Proofs.Value.Alike
import Mathlib

/-!
# The samples that are kept

Timed blocks may stand inside each other and their bodies may fail. The time of a block is kept when
the block is complete, so that the samples of an operation depend on nothing but the blocks of this
operation, in the order in which they are completed: inner blocks come before the one around them
(`TimedBlock.run_runAll`, `Timings.of_takeAll`). Keeping the last samples after each of them comes
to the same as keeping the last of all (`Timings.kept_lastSamples`).

The limit has a gap at zero. What is left out ends as far from the end as the limit says, and zero
is taken for the front: nothing is left out, and the samples of an operation grow without bound.
-/

namespace ServiceWire

namespace Timings

/-! ### Samples of an operation -/

theorem of_replace (t : Timings) (name other : String) (samples : List Value) :
    (t.replace name samples).of other = if other = name then samples else t.of other := by
  rw [of, replace, Entries.lookup_put, of]
  by_cases h : other = name
  · simp [h]
  · simp [h]

/-- The last samples, as many as the limit says; for a limit of zero all of them. -/
def lastSamples {α : Type} (limit : Nat) (samples : List α) : List α :=
  if limit = 0 then samples else samples.drop (samples.length - limit)

theorem lastSamples_zero {α : Type} (samples : List α) : lastSamples 0 samples = samples :=
  if_pos rfl

theorem lastSamples_of_pos {α : Type} {limit : Nat} (h : 0 < limit) (samples : List α) :
    lastSamples limit samples = samples.drop (samples.length - limit) :=
  if_neg (by omega)

theorem lastSamples_map {α β : Type} (limit : Nat) (f : α → β) (samples : List α) :
    lastSamples limit (samples.map f) = (lastSamples limit samples).map f := by
  by_cases h : limit = 0
  · simp [lastSamples, h]
  · simp [lastSamples, h, List.map_drop]

theorem length_lastSamples {α : Type} (limit : Nat) (samples : List α) :
    (lastSamples limit samples).length =
      if limit = 0 then samples.length else min samples.length limit := by
  by_cases h : limit = 0
  · simp [lastSamples, h]
  · simp only [lastSamples, if_neg h, List.length_drop]
    omega

theorem kept_eq (limit : Nat) (samples : List Value) :
    kept limit samples = lastSamples limit samples := by
  rw [kept]
  split
  · rename_i h
    by_cases hzero : limit = 0
    · rw [hzero, lastSamples_zero]
    · have hle : samples.length - limit = 0 := by omega
      rw [lastSamples_of_pos (by omega), hle, List.drop_zero]
  · rename_i h
    have hpos : 0 < limit := by omega
    rw [if_neg (by omega), lastSamples_of_pos hpos, Int.toNat_natCast]

/-- What was left out before makes no difference to the last samples. -/
theorem kept_lastSamples (limit : Nat) (samples : List Value) (sample : Value) :
    kept limit (lastSamples limit samples ++ [sample]) =
      lastSamples limit (samples ++ [sample]) := by
  rw [kept_eq]
  by_cases h : limit = 0
  · simp [lastSamples, h]
  · have hpos : 0 < limit := by omega
    -- What was left out is the front of all samples, and all of it is to be left out now.
    have hfront : samples.drop (samples.length - limit) ++ [sample] =
        (samples ++ [sample]).drop (samples.length - limit) :=
      (List.drop_append_of_le_length (by omega)).symm
    have hcount : samples.length - limit +
        ((samples ++ [sample]).length - (samples.length - limit) - limit) =
          (samples ++ [sample]).length - limit := by
      rw [List.length_append, List.length_singleton]
      omega
    rw [lastSamples_of_pos hpos samples, hfront, lastSamples_of_pos hpos, List.length_drop,
      List.drop_drop, hcount, lastSamples_of_pos hpos]

/-! ### Times that are taken -/

/-- The timings with a time that an operation took. -/
def take (t : Timings) (p : String × Double) : Timings := t.add p.1 (.float p.2)

/-- The times of an operation among those of several. -/
def durations (name : String) (times : List (String × Double)) : List Double :=
  (times.filter fun p => p.1 = name).map Prod.snd

theorem limit_take (t : Timings) (p : String × Double) : (t.take p).limit = t.limit := rfl

theorem limit_takeAll (t : Timings) (times : List (String × Double)) :
    (times.foldl take t).limit = t.limit := by
  induction times generalizing t with
  | nil => rfl
  | cons p rest ih => rw [List.foldl_cons, ih, limit_take]

theorem of_take (t : Timings) (p : String × Double) (name : String) :
    (t.take p).of name =
      if name = p.1 then kept t.limit (t.of name ++ [.float p.2]) else t.of name := by
  rw [take, add, of_replace]
  by_cases h : name = p.1
  · rw [if_pos h, if_pos h, h]
  · rw [if_neg h, if_neg h]

/-- After any times the samples of an operation are the last of its own. -/
theorem of_takeAll (limit : Nat) (times : List (String × Double)) (name : String) :
    (times.foldl take { limit := limit }).of name =
      (lastSamples limit (durations name times)).map .float := by
  induction times using List.reverseRecOn with
  | nil => simp [of, durations, lastSamples]
  | append_singleton times p ih =>
    rw [List.foldl_append, List.foldl_cons, List.foldl_nil, of_take, ih, limit_takeAll]
    by_cases h : name = p.1
    · have hdurations : durations name (times ++ [p]) = durations name times ++ [p.2] := by
        simp [durations, h]
      rw [if_pos h, ← lastSamples_map, kept_lastSamples, hdurations, ← lastSamples_map,
        List.map_append, List.map_singleton]
    · have hp : ¬p.1 = name := fun hp => h hp.symm
      simp [h, hp, durations]

/-- However a body ends, its time is taken and its ending passed on. -/
theorem run_time {ε α : Type} (name : String) (duration : Double)
    (body : ExceptT ε (StateM Timings) α) (t : Timings) :
    (time name duration body).run.run t =
      ((body.run.run t).1, (body.run.run t).2.take (name, duration)) := rfl

/-! ### Statistics -/

theorem foldlM_add_reals (x : Double) (rest : List Double) :
    (rest.map Numeric.real).foldlM Numeric.add (.real x) = .ok (.real (rest.foldl Double.add x)) := by
  induction rest generalizing x with
  | nil => rfl
  | cons y rest ih =>
    have hadd : (Numeric.real x).add (.real y) = .ok (.real (x.add y)) := rfl
    rw [List.map_cons, List.foldlM_cons, hadd, List.foldl_cons]
    exact ih (x.add y)

/-- Double-precision numbers have a sum, which is one too. -/
theorem sum_reals (x : Double) (rest : List Double) :
    Numeric.sum ((x :: rest).map .real) =
      .ok (.real (rest.foldl Double.add (Double.zero.add x))) := by
  have hzero : (Numeric.int 0).toDouble = .ok .zero := by decide +kernel
  have hadd : (Numeric.int 0).add (.real x) = .ok (.real (Double.zero.add x)) := by
    simp only [Numeric.add, hzero]
    rfl
  rw [Numeric.sum, List.map_cons, List.foldlM_cons, hadd]
  exact foldlM_add_reals _ rest

theorem mapM_measured (times : List Double) :
    (times.map Value.float).mapM measured =
      .ok (times.map fun x => (Value.float x, Numeric.real x)) := by
  induction times with
  | nil => rfl
  | cons x rest ih =>
    rw [List.map_cons, List.mapM_cons, ih]
    rfl

theorem stats_of_nil {t : Timings} {name : String} (h : t.of name = []) :
    t.stats name = .ok .null := by
  rw [stats, h]
  rfl

/-- The statistics of samples that are times begin with their count. -/
theorem exists_stats_of_cons {t : Timings} {name : String} {x : Double} {rest : List Double}
    (h : t.of name = (x :: rest).map .float) :
    ∃ others, t.stats name = .ok (.ofFields (("count", .int (x :: rest).length) :: others)) := by
  have hsum := sum_reals x rest
  have hnumbers : ((x :: rest).map fun y => (Value.float y, Numeric.real y)).map Prod.snd =
      (x :: rest).map .real := by
    rw [List.map_map]
    rfl
  rw [stats, h, mapM_measured]
  show ∃ others, (Numeric.sum (((x :: rest).map fun y => (Value.float y, Numeric.real y)).map
    Prod.snd) >>= _) = _
  rw [hnumbers, hsum, List.length_map]
  exact ⟨_, rfl⟩

/-- The statistics of samples that are times count them; without samples there are none. -/
theorem exists_stats {t : Timings} {name : String} {times : List Double}
    (h : t.of name = times.map .float) :
    ∃ v, t.stats name = .ok v ∧
      (v = .null ↔ times = []) ∧
      v.get? "count" = if times = [] then none else some (.int times.length) := by
  cases times with
  | nil => exact ⟨.null, stats_of_nil h, by simp, rfl⟩
  | cons x rest =>
    obtain ⟨others, hstats⟩ := exists_stats_of_cons h
    refine ⟨_, hstats, ?_, ?_⟩
    · simp [Value.ofFields]
    · rw [Value.get?_ofFields, List.lookup_cons_self, if_neg (List.cons_ne_nil x rest)]

end Timings

/-! ### Timed blocks -/

/-- A timed block that has come to its end: the operation it is timed as, how long it took, the
blocks inside it, and how its body ended. -/
inductive TimedBlock (ε : Type) where
  | mk (operation : String) (duration : Double) (inner : List (TimedBlock ε))
      (ending : Except ε Unit)

namespace TimedBlock

variable {ε : Type}

/-- How the body of a block ended. -/
def ending : TimedBlock ε → Except ε Unit
  | mk _ _ _ ending => ending

mutual

/-- Runs a block. Its body runs the blocks inside it, whatever they end with, and ends in its own
way. -/
def run : TimedBlock ε → ExceptT ε (StateM Timings) Unit
  | mk operation duration inner ending =>
    Timings.time operation duration (ExceptT.mk do
      let _ ← runAll inner
      return ending)

/-- Runs blocks one after another and tells how each of them ended. -/
def runAll : List (TimedBlock ε) → StateM Timings (List (Except ε Unit))
  | [] => return []
  | b :: rest => do
    let ending ← (run b).run
    let endings ← runAll rest
    return ending :: endings

end

mutual

/-- The times that a block takes, in the order in which blocks are completed. -/
def completed : TimedBlock ε → List (String × Double)
  | mk operation duration inner _ => completedAll inner ++ [(operation, duration)]

/-- The times that blocks take, in the order in which they are completed. -/
def completedAll : List (TimedBlock ε) → List (String × Double)
  | [] => []
  | b :: rest => completed b ++ completedAll rest

end

mutual

/-- A block takes its times and ends as its body does. -/
theorem run_run (b : TimedBlock ε) (t : Timings) :
    (run b).run.run t = (b.ending, b.completed.foldl Timings.take t) := by
  cases b with
  | mk operation duration inner ending =>
    have hinner := run_runAll inner t
    have hbody : (ExceptT.mk (do let _ ← runAll inner; return ending)).run.run t =
        (ending, (completedAll inner).foldl Timings.take t) := by
      rw [ExceptT.run_mk, StateT.run_bind, hinner]
      rfl
    rw [run, Timings.run_time, hbody, completed, List.foldl_append]
    rfl

/-- Blocks take their times, and each of them ends as its body does. -/
theorem run_runAll (blocks : List (TimedBlock ε)) (t : Timings) :
    (runAll blocks).run t =
      (blocks.map ending, (completedAll blocks).foldl Timings.take t) := by
  cases blocks with
  | nil => rfl
  | cons b rest =>
    have hb := run_run b t
    have hrest := run_runAll rest (b.completed.foldl Timings.take t)
    rw [completedAll, List.foldl_append, List.map_cons, runAll, StateT.run_bind, hb]
    show (do let endings ← runAll rest; return b.ending :: endings : StateM Timings _).run _ = _
    rw [StateT.run_bind, hrest]
    rfl

end

/-- Whatever blocks are run, and however their bodies end, each of them passes its ending on, and the
samples of an operation are the last of the times of its own blocks, in the order in which these are
completed: as many as the limit says, or all of them if the limit is zero. The statistics count
these samples; there are none without samples. -/
theorem samples_runAll (limit : Nat) (blocks : List (TimedBlock ε)) (name : String) :
    let times := Timings.durations name (completedAll blocks)
    let count := if limit = 0 then times.length else min times.length limit
    ∃ t, (runAll blocks).run { limit := limit } = (blocks.map ending, t) ∧
      t.of name = (Timings.lastSamples limit times).map .float ∧
      (t.of name).length = count ∧
      ∃ v, t.stats name = .ok v ∧ (v = .null ↔ count = 0) ∧
        v.get? "count" = if count = 0 then none else some (.int count) := by
  intro times count
  have hof : ((completedAll blocks).foldl Timings.take { limit := limit }).of name =
      (Timings.lastSamples limit times).map .float := Timings.of_takeAll limit _ name
  have hlength : (Timings.lastSamples limit times).length = count :=
    Timings.length_lastSamples limit times
  have hnil : Timings.lastSamples limit times = [] ↔ count = 0 := by
    rw [← hlength, List.length_eq_zero_iff]
  obtain ⟨v, hstats, hnull, hcount⟩ := Timings.exists_stats hof
  refine ⟨_, run_runAll blocks _, hof, by rw [hof, List.length_map, hlength], v, hstats,
    hnull.trans hnil, ?_⟩
  rw [hcount, hlength]
  simp only [hnil]

/-- A limit of zero is no limit: a sample more than it allows is kept. -/
theorem samples_runAll_unlimited :
    ¬(((runAll [(mk "PutThing" .zero [] (.ok ()) : TimedBlock Failure)]).run
      { limit := 0 }).2.of "PutThing").length ≤ 0 := by
  rw [run_runAll]
  decide

end TimedBlock

end ServiceWire
