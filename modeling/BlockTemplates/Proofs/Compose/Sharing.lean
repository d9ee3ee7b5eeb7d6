import BlockTemplates.Compose.Emit
import Mathlib.Logic.ExistsUnique
import Mathlib.Logic.Relation

/-! Families of sinks. A clone belongs to the family of the sink that it is a clone of, and each new sink
starts a family. Whatever is emitted to a sink shows in all sinks of its family, in order, and in no
other. Main statements: `Run.kin_append_clone`, `Run.faithful` and `allContents_run`. -/

namespace BlockTemplates

namespace Sinks

/-- What can be done with sinks. A clone and a new sink come after those that are there. -/
inductive Operation where
  | emit (sink : Sink) (text : String)
  | clone (sink : Sink)
  | new
  deriving Repr, DecidableEq

def apply (sinks : Sinks) : Operation → Sinks
  | .emit sink text => sinks.emit sink text
  | .clone sink => sinks.clone sink
  | .new => sinks.new

/-- What a sequence of operations makes of a single sink. -/
def run (operations : List Operation) : Sinks := operations.foldl apply single

namespace Operation

def sink? : Operation → Option Sink
  | emit sink _ => some sink
  | clone sink => some sink
  | new => none

def makesSink : Operation → Bool
  | emit _ _ => false
  | clone _ => true
  | new => true

end Operation

def sinkCount (operations : List Operation) : Nat := operations.countP Operation.makesSink + 1

/-- Operations of which each uses a sink that is there. -/
inductive Run : List Operation → Prop
  | start : Run []
  | step {operations : List Operation} {operation : Operation} (run : Run operations)
      (possible : ∀ sink ∈ operation.sink?, sink < sinkCount operations) : Run (operations ++ [operation])

def Cloned (operations : List Operation) (sink origin : Sink) : Prop :=
  ∃ before after, operations = before ++ .clone origin :: after ∧ sink = sinkCount before

/-- Sinks of one family: clones of one another, directly or through others. -/
def Kin (operations : List Operation) : Sink → Sink → Prop := Relation.EqvGen (Cloned operations)

open scoped Classical in
/-- The texts emitted to the sinks of a family, in order. -/
noncomputable def emittedTo (family : Sink → Prop) (operations : List Operation) : List String :=
  operations.filterMap fun
    | .emit sink text => if family sink then some text else none
    | _ => none

section Families

variable {operations : List Operation} {operation : Operation} {a b sink : Sink}

theorem sinkCount_append (operations : List Operation) (operation : Operation) :
    sinkCount (operations ++ [operation]) = sinkCount operations + if operation.makesSink then 1 else 0 := by
  unfold sinkCount
  rw [List.countP_append, List.countP_singleton]
  omega

theorem cloned_append_iff : Cloned (operations ++ [operation]) a b ↔
    Cloned operations a b ∨ operation = .clone b ∧ a = sinkCount operations := by
  constructor
  · rintro ⟨before, after, whole, rfl⟩
    rcases List.eq_nil_or_concat after with rfl | ⟨after, last, rfl⟩
    · obtain ⟨rfl, same⟩ := List.append_inj' whole rfl
      exact .inr ⟨List.head_eq_of_cons_eq same, rfl⟩
    · rw [List.concat_eq_append, ← List.cons_append, ← List.append_assoc] at whole
      exact .inl ⟨before, after, (List.append_inj' whole rfl).1, rfl⟩
  · rintro (⟨before, after, rfl, rfl⟩ | ⟨rfl, rfl⟩)
    · exact ⟨before, after ++ [operation], by simp, rfl⟩
    · exact ⟨operations, [], rfl, rfl⟩

theorem Run.lt_of_cloned (run : Run operations) (cloned : Cloned operations a b) :
    a < sinkCount operations ∧ b < sinkCount operations := by
  induction run with
  | start =>
    obtain ⟨before, after, whole, -⟩ := cloned
    exact absurd whole.symm (List.append_ne_nil_of_right_ne_nil _ (List.cons_ne_nil _ _))
  | @step operations operation _ possible ih =>
    rw [sinkCount_append]
    rcases cloned_append_iff.mp cloned with earlier | ⟨rfl, rfl⟩
    · obtain ⟨first, second⟩ := ih earlier
      exact ⟨Nat.lt_add_right _ first, Nat.lt_add_right _ second⟩
    · exact ⟨Nat.lt_succ_self _, Nat.lt_succ_of_lt (possible b rfl)⟩

/-- A sink that is not there has no kin but itself. -/
theorem Run.eq_or_lt_of_kin (run : Run operations) (kin : Kin operations a b) :
    a = b ∨ a < sinkCount operations ∧ b < sinkCount operations := by
  induction kin with
  | rel a b cloned => exact .inr (run.lt_of_cloned cloned)
  | refl a => exact .inl rfl
  | symm a b _ ih => exact ih.imp Eq.symm And.symm
  | trans a b c _ _ ih ih' =>
    rcases ih with rfl | ⟨first, second⟩
    · exact ih'
    · rcases ih' with rfl | ⟨_, third⟩
      · exact .inr ⟨first, second⟩
      · exact .inr ⟨first, third⟩

theorem Run.not_kin_of_lt (run : Run operations) (old : b < sinkCount operations) :
    ¬ Kin operations (sinkCount operations) b := by
  intro related
  rcases run.eq_or_lt_of_kin related with rfl | ⟨there, -⟩
  · exact Nat.lt_irrefl _ old
  · exact Nat.lt_irrefl _ there

theorem kin_append_iff (other : ∀ sink, operation ≠ .clone sink) :
    Kin (operations ++ [operation]) a b ↔ Kin operations a b := by
  have same : Cloned (operations ++ [operation]) = Cloned operations := by
    funext a b
    rw [cloned_append_iff, eq_iff_iff, or_iff_left fun clone => other b clone.1]
  unfold Kin
  rw [same]

def originOf (operations : List Operation) (origin sink : Sink) : Sink :=
  if sink = sinkCount operations then origin else sink

theorem originOf_eq {origin : Sink} (bound : sink < sinkCount operations) :
    originOf operations origin sink = sink :=
  if_neg (Nat.ne_of_lt bound)

theorem originOf_lt {origin : Sink} (there : origin < sinkCount operations)
    (bound : sink < sinkCount operations + 1) : originOf operations origin sink < sinkCount operations := by
  unfold originOf
  split
  · exact there
  · next other => exact Nat.lt_of_le_of_ne (Nat.le_of_lt_succ bound) other

theorem Run.kin_append_clone (run : Run operations) {origin : Sink} (there : origin < sinkCount operations) :
    Kin (operations ++ [.clone origin]) a b ↔
      Kin operations (originOf operations origin a) (originOf operations origin b) := by
  constructor
  · intro kin
    induction kin with
    | rel a b cloned =>
      rcases cloned_append_iff.mp cloned with earlier | ⟨same, rfl⟩
      · obtain ⟨first, second⟩ := run.lt_of_cloned earlier
        rw [originOf_eq first, originOf_eq second]
        exact .rel _ _ earlier
      · obtain rfl := Operation.clone.inj same
        rw [originOf_eq there, originOf, if_pos rfl]
        exact .refl _
    | refl a => exact .refl _
    | symm a b _ ih => exact ih.symm
    | trans a b c _ _ ih ih' => exact ih.trans _ _ _ ih'
  · have more {a b : Sink} (kin : Kin operations a b) : Kin (operations ++ [.clone origin]) a b :=
      kin.mono fun a b cloned => cloned_append_iff.mpr (.inl cloned)
    have led (sink : Sink) : Kin (operations ++ [.clone origin]) sink (originOf operations origin sink) := by
      unfold originOf
      split
      · next same => exact .rel _ _ (cloned_append_iff.mpr (.inr ⟨rfl, same⟩))
      · exact .refl _
    intro kin
    exact ((led a).trans _ _ _ (more kin)).trans _ _ _ (led b).symm

def Founder (operations : List Operation) (sink : Sink) : Prop :=
  sink < sinkCount operations ∧ ∀ origin, ¬ Cloned operations sink origin

def Founded (operations : List Operation) : Prop :=
  ∀ sink, sink < sinkCount operations → ∃! founder, Founder operations founder ∧ Kin operations sink founder

theorem founded_nil : Founded [] := by
  intro sink bound
  obtain rfl := Nat.lt_one_iff.mp bound
  have none (origin : Sink) : ¬ Cloned [] 0 origin := by
    rintro ⟨before, after, whole, -⟩
    exact absurd whole.symm (List.append_ne_nil_of_right_ne_nil _ (List.cons_ne_nil _ _))
  exact ⟨0, ⟨⟨bound, none⟩, .refl 0⟩, fun other founder => Nat.lt_one_iff.mp founder.1.1⟩

theorem Founded.append_emit (founded : Founded operations) (used : Sink) (text : String) :
    Founded (operations ++ [.emit used text]) := by
  have same : sinkCount (operations ++ [.emit used text]) = sinkCount operations := sinkCount_append _ _
  have kin {a b : Sink} : Kin (operations ++ [.emit used text]) a b ↔ Kin operations a b := kin_append_iff nofun
  intro sink bound
  rw [same] at bound
  simpa only [Founder, same, cloned_append_iff, reduceCtorEq, false_and, or_false, kin] using founded sink bound

theorem founder_append_clone {origin : Sink} :
    Founder (operations ++ [.clone origin]) sink ↔ Founder operations sink := by
  unfold Founder
  rw [sinkCount_append]
  simp only [cloned_append_iff]
  constructor
  · rintro ⟨bound, single⟩
    have other : sink ≠ sinkCount operations := fun same => single origin (.inr ⟨rfl, same⟩)
    exact ⟨Nat.lt_of_le_of_ne (Nat.le_of_lt_succ bound) other, fun o cloned => single o (.inl cloned)⟩
  · rintro ⟨bound, single⟩
    refine ⟨Nat.lt_succ_of_lt bound, fun o cloned => ?_⟩
    rcases cloned with earlier | ⟨-, rfl⟩
    · exact single o earlier
    · exact Nat.lt_irrefl _ bound

theorem Founded.append_clone (founded : Founded operations) (run : Run operations) {origin : Sink}
    (there : origin < sinkCount operations) : Founded (operations ++ [.clone origin]) := by
  intro sink bound
  rw [sinkCount_append] at bound
  obtain ⟨founder, ⟨first, kin⟩, only⟩ := founded _ (originOf_lt there bound)
  refine ⟨founder, ⟨founder_append_clone.mpr first, ?_⟩, fun other ⟨first', kin'⟩ => ?_⟩
  · rwa [run.kin_append_clone there, originOf_eq first.1]
  · rw [founder_append_clone] at first'
    rw [run.kin_append_clone there, originOf_eq first'.1] at kin'
    exact only other ⟨first', kin'⟩

theorem Run.founder_append_new (run : Run operations) : Founder (operations ++ [.new]) sink ↔
    Founder operations sink ∨ sink = sinkCount operations := by
  have more : sinkCount (operations ++ [.new]) = sinkCount operations + 1 := sinkCount_append _ _
  unfold Founder
  rw [more, Nat.lt_succ_iff_lt_or_eq]
  simp only [cloned_append_iff, reduceCtorEq, false_and, or_false]
  constructor
  · rintro ⟨old | same, single⟩
    · exact .inl ⟨old, single⟩
    · exact .inr same
  · rintro (⟨old, single⟩ | rfl)
    · exact ⟨.inl old, single⟩
    · exact ⟨.inr rfl, fun o cloned => Nat.lt_irrefl _ (run.lt_of_cloned cloned).1⟩

theorem Founded.append_new (founded : Founded operations) (run : Run operations) :
    Founded (operations ++ [.new]) := by
  have more : sinkCount (operations ++ [.new]) = sinkCount operations + 1 := sinkCount_append _ _
  have kin {a b : Sink} : Kin (operations ++ [.new]) a b ↔ Kin operations a b := kin_append_iff nofun
  intro sink bound
  rw [more, Nat.lt_succ_iff_lt_or_eq] at bound
  simp only [run.founder_append_new, kin]
  rcases bound with old | rfl
  · obtain ⟨founder, ⟨first, related⟩, only⟩ := founded sink old
    refine ⟨founder, ⟨.inl first, related⟩, fun other ⟨first', related'⟩ => ?_⟩
    rcases first' with first' | rfl
    · exact only other ⟨first', related'⟩
    · exact absurd related'.symm (run.not_kin_of_lt old)
  · refine ⟨sinkCount operations, ⟨.inr rfl, .refl _⟩, fun other ⟨first', related'⟩ => ?_⟩
    rcases first' with first' | same
    · exact absurd related' (run.not_kin_of_lt first'.1)
    · exact same

theorem Run.founded (run : Run operations) : Founded operations := by
  induction run with
  | start => exact founded_nil
  | @step operations operation run possible ih =>
    cases operation with
    | emit sink text => exact ih.append_emit sink text
    | clone sink => exact ih.append_clone run (possible sink rfl)
    | new => exact ih.append_new run

end Families

section Contents

variable {operations : List Operation} {operation : Operation} {sinks : Sinks} {sink : Sink} {buffer : Nat}

open scoped Classical in
theorem emittedTo_append_emit (family : Sink → Prop) (operations : List Operation) (sink : Sink) (text : String) :
    emittedTo family (operations ++ [.emit sink text]) =
      emittedTo family operations ++ if family sink then [text] else [] := by
  unfold emittedTo
  rw [List.filterMap_append]
  by_cases inside : family sink
  · simp [inside]
  · simp [inside]

theorem emittedTo_append_makesSink (family : Sink → Prop) (operations : List Operation)
    (makes : operation.makesSink = true) :
    emittedTo family (operations ++ [operation]) = emittedTo family operations := by
  unfold emittedTo
  rw [List.filterMap_append]
  cases operation with
  | emit sink text => cases makes
  | clone sink => exact List.append_nil _
  | new => exact List.append_nil _

theorem Run.emittedTo_congr (run : Run operations) {family family' : Sink → Prop}
    (same : ∀ sink, sink < sinkCount operations → (family sink ↔ family' sink)) :
    emittedTo family operations = emittedTo family' operations := by
  induction run with
  | start => rfl
  | @step operations operation _ possible ih =>
    have earlier : ∀ sink, sink < sinkCount operations → (family sink ↔ family' sink) := by
      intro sink bound
      refine same sink ?_
      rw [sinkCount_append]
      exact Nat.lt_add_right _ bound
    cases operation with
    | emit sink text =>
      have there : family sink ↔ family' sink := earlier sink (possible sink rfl)
      rw [emittedTo_append_emit, emittedTo_append_emit, ih earlier]
      by_cases inside : family sink
      · rw [if_pos inside, if_pos (there.mp inside)]
      · rw [if_neg inside, if_neg (mt there.mpr inside)]
    | clone sink =>
      rw [emittedTo_append_makesSink family _ rfl, emittedTo_append_makesSink family' _ rfl, ih earlier]
    | new =>
      rw [emittedTo_append_makesSink family _ rfl, emittedTo_append_makesSink family' _ rfl, ih earlier]

theorem Run.emittedTo_nil (run : Run operations) {family : Sink → Prop}
    (none : ∀ sink, sink < sinkCount operations → ¬ family sink) : emittedTo family operations = [] := by
  have never : emittedTo (fun _ => False) operations = [] := by
    unfold emittedTo
    rw [List.filterMap_eq_nil_iff]
    intro operation _
    cases operation <;> simp
  rw [← never]
  exact run.emittedTo_congr fun sink bound => iff_of_false (none sink bound) id

/-- Each sink has a buffer, which holds what has been emitted to its family, and kin have one buffer. -/
structure Faithful (operations : List Operation) (sinks : Sinks) : Prop where
  count : sinks.handles.length = sinkCount operations
  shared : ∀ a b, a < sinkCount operations → b < sinkCount operations →
    (sinks.handles[a]? = sinks.handles[b]? ↔ Kin operations a b)
  texts : ∀ sink buffer, sinks.handles[sink]? = some buffer →
    sinks.buffers[buffer]? = some (emittedTo (Kin operations sink) operations)

theorem faithful_single : Faithful [] single where
  count := rfl
  shared := by
    intro a b first second
    obtain rfl := Nat.lt_one_iff.mp first
    obtain rfl := Nat.lt_one_iff.mp second
    exact iff_of_true rfl (.refl 0)
  texts := by
    intro sink buffer held
    obtain ⟨bound, rfl⟩ := List.getElem?_eq_some_iff.mp held
    obtain rfl := Nat.lt_one_iff.mp bound
    rfl

theorem Faithful.exists_buffer (faithful : Faithful operations sinks) (there : sink < sinkCount operations) :
    ∃ buffer, sinks.handles[sink]? = some buffer := by
  rw [← faithful.count] at there
  exact ⟨_, List.getElem?_eq_getElem there⟩

theorem Faithful.lt_of_buffer (faithful : Faithful operations sinks) (held : sinks.handles[sink]? = some buffer) :
    sink < sinkCount operations ∧ buffer < sinks.buffers.length := by
  rw [← faithful.count]
  exact ⟨(List.getElem?_eq_some_iff.mp held).1, (List.getElem?_eq_some_iff.mp (faithful.texts sink buffer held)).1⟩

theorem Faithful.append_emit (faithful : Faithful operations sinks) (there : sink < sinkCount operations)
    (text : String) : Faithful (operations ++ [.emit sink text]) (sinks.emit sink text) := by
  obtain ⟨shown, held⟩ := faithful.exists_buffer there
  have same : sinkCount (operations ++ [.emit sink text]) = sinkCount operations := sinkCount_append _ _
  have kin {a b : Sink} : Kin (operations ++ [.emit sink text]) a b ↔ Kin operations a b :=
    kin_append_iff nofun
  unfold emit
  rw [held]
  refine ⟨faithful.count.trans same.symm, fun a b first second => ?_, fun other buffer held' => ?_⟩
  · rw [same] at first second
    rw [faithful.shared a b first second, kin]
  · have family : Kin (operations ++ [.emit sink text]) other = Kin operations other :=
      funext fun b => propext kin
    have before := faithful.texts other buffer held'
    have one := faithful.shared other sink (faithful.lt_of_buffer held').1 there
    rw [held', held, Option.some.injEq] at one
    rw [List.getElem?_modify, before, family, emittedTo_append_emit]
    by_cases meets : shown = buffer
    · simp [meets, one.mp meets.symm]
    · have apart : ¬ Kin operations other sink := fun kin => meets (one.mpr kin).symm
      simp [meets, apart]

theorem Faithful.append_clone (faithful : Faithful operations sinks) (run : Run operations)
    (there : sink < sinkCount operations) : Faithful (operations ++ [.clone sink]) (sinks.clone sink) := by
  obtain ⟨shown, held⟩ := faithful.exists_buffer there
  have more : sinkCount (operations ++ [.clone sink]) = sinkCount operations + 1 := sinkCount_append _ _
  have looked {a : Sink} (bound : a < sinkCount operations + 1) :
      (sinks.handles ++ [shown])[a]? = sinks.handles[originOf operations sink a]? := by
    unfold originOf
    split
    · next same => rw [same, ← faithful.count, List.getElem?_concat_length, held]
    · next other =>
      have old := Nat.lt_of_le_of_ne (Nat.le_of_lt_succ bound) other
      rw [← faithful.count] at old
      exact List.getElem?_append_left old
  unfold clone
  rw [held]
  refine ⟨?_, fun a b first second => ?_, fun other buffer held' => ?_⟩
  · rw [List.length_append, faithful.count, more]
    rfl
  · rw [more] at first second
    rw [looked first, looked second, faithful.shared _ _ (originOf_lt there first) (originOf_lt there second),
      run.kin_append_clone there]
  · have bound : other < sinkCount operations + 1 := by
      have inside := (List.getElem?_eq_some_iff.mp held').1
      rwa [List.length_append, faithful.count] at inside
    rw [looked bound] at held'
    rw [faithful.texts _ _ held', emittedTo_append_makesSink _ _ rfl]
    -- the family of the clone is that of its origin, as far as sinks go that can have been emitted to
    refine congrArg some (run.emittedTo_congr fun e old => ?_)
    rw [run.kin_append_clone there, originOf_eq old]

theorem Faithful.append_new (faithful : Faithful operations sinks) (run : Run operations) :
    Faithful (operations ++ [.new]) sinks.new := by
  have more : sinkCount (operations ++ [.new]) = sinkCount operations + 1 := sinkCount_append _ _
  have kin {a b : Sink} : Kin (operations ++ [.new]) a b ↔ Kin operations a b := kin_append_iff nofun
  have last : (sinks.handles ++ [sinks.buffers.length])[sinkCount operations]? = some sinks.buffers.length := by
    rw [← faithful.count, List.getElem?_concat_length]
  have looked {a : Sink} (old : a < sinkCount operations) :
      (sinks.handles ++ [sinks.buffers.length])[a]? = sinks.handles[a]? := by
    rw [← faithful.count] at old
    exact List.getElem?_append_left old
  have fresh {a : Sink} (old : a < sinkCount operations) : sinks.handles[a]? ≠ some sinks.buffers.length :=
    fun held => Nat.lt_irrefl _ (faithful.lt_of_buffer held).2
  unfold new
  refine ⟨?_, fun a b first second => ?_, fun other buffer held => ?_⟩
  · rw [List.length_append, faithful.count, more]
    rfl
  · rw [more, Nat.lt_succ_iff_lt_or_eq] at first second
    rw [kin]
    rcases first with first | rfl
    · rcases second with second | rfl
      · rw [looked first, looked second, faithful.shared a b first second]
      · rw [looked first, last]
        exact iff_of_false (fresh first) fun related => run.not_kin_of_lt first related.symm
    · rcases second with second | rfl
      · rw [looked second, last]
        exact iff_of_false (fresh second).symm (run.not_kin_of_lt second)
      · exact iff_of_true rfl (.refl _)
  · have family : Kin (operations ++ [.new]) other = Kin operations other := funext fun b => propext kin
    rw [emittedTo_append_makesSink _ _ rfl, family]
    have bound := (List.getElem?_eq_some_iff.mp held).1
    rw [List.length_append, faithful.count, List.length_singleton, Nat.lt_succ_iff_lt_or_eq] at bound
    rcases bound with old | rfl
    · rw [looked old] at held
      rw [List.getElem?_append_left (faithful.lt_of_buffer held).2, faithful.texts other buffer held]
    · obtain rfl := Option.some.inj (last.symm.trans held)
      rw [List.getElem?_concat_length, run.emittedTo_nil fun b => run.not_kin_of_lt]

theorem Run.faithful (run : Run operations) : Faithful operations (Sinks.run operations) := by
  induction run with
  | start => exact faithful_single
  | @step operations operation run possible ih =>
    unfold Sinks.run at ih ⊢
    rw [List.foldl_append]
    cases operation with
    | emit sink text => exact ih.append_emit (possible sink rfl) text
    | clone sink => exact ih.append_clone run (possible sink rfl)
    | new => exact ih.append_new run

theorem Run.of_prefix (run : Run operations) {before : List Operation} (first : before <+: operations) :
    Run before := by
  induction run with
  | start =>
    rw [List.prefix_nil.mp first]
    exact .start
  | @step operations operation run possible ih =>
    rcases List.prefix_concat_iff.mp first with rfl | earlier
    · exact .step run possible
    · exact ih earlier

theorem Faithful.allContents (faithful : Faithful operations sinks) : sinks.allContents =
    (List.range (sinkCount operations)).map fun sink =>
      String.join (emittedTo (Kin operations sink) operations) := by
  unfold Sinks.allContents contents
  rw [faithful.count]
  refine List.map_congr_left fun sink inside => ?_
  obtain ⟨buffer, held⟩ := faithful.exists_buffer (List.mem_range.mp inside)
  rw [held, Option.bind_some, faithful.texts sink buffer held]
  rfl

/-- After each operation every sink shows all texts that have been emitted to its family so far, in order,
and no others. Each family has been started by one sink, and all others in it are clones. -/
theorem allContents_run (run : Run operations) {before : List Operation} (first : before <+: operations) :
    (Sinks.run before).allContents =
        (List.range (sinkCount before)).map (fun sink => String.join (emittedTo (Kin before sink) before)) ∧
      ∀ sink, sink < sinkCount before → ∃! founder,
        (founder < sinkCount before ∧ ∀ origin, ¬ Cloned before founder origin) ∧ Kin before sink founder :=
  ⟨(run.of_prefix first).faithful.allContents, (run.of_prefix first).founded⟩

def sharedOperations : List Operation := [.emit 0 "a", .clone 0, .new, .emit 1 "b", .emit 2 "c"]

theorem run_sharedOperations : Run sharedOperations := by
  have first := @Run.step [] (.emit 0 "a") .start (by decide)
  have second := @Run.step _ (.clone 0) first (by decide)
  have third := @Run.step _ .new second (by decide)
  have fourth := @Run.step _ (.emit 1 "b") third (by decide)
  exact @Run.step _ (.emit 2 "c") fourth (by decide)

/-- The clone shows what has been emitted before the cloning, and the new sink shows nothing of it. -/
theorem allContents_run_sharedOperations :
    (Sinks.run sharedOperations).allContents = ["ab", "ab", "c"] ∧
      (List.range 3).map (fun sink => String.join (emittedTo (Kin sharedOperations sink) sharedOperations)) =
        ["ab", "ab", "c"] := by
  have shown : (Sinks.run sharedOperations).allContents = ["ab", "ab", "c"] := by decide
  exact ⟨shown, (allContents_run run_sharedOperations (List.prefix_refl _)).1.symm.trans shown⟩

end Contents

end Sinks

end BlockTemplates
