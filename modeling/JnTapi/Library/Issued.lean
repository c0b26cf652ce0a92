/-
This file develops numbers that a counter gives out, each of them once.

What the holders of numbers hold together is a multiset of their names. It grows
only by the names of the numbers given out in between, so as long as no two numbers
given out have the same name, no name is held twice.
-/

import Mathlib.Order.Interval.Multiset
import Mathlib.Order.Interval.Finset.Nat
import Mathlib.Data.Multiset.AddSub

namespace JnTapi.Library

variable {Name : Type*}

/-! ### The names given out -/

/-- The names of the numbers that the counter gives out from one reading to another -/
def issued (name : Nat → Name) (start stop : Nat) : Multiset Name :=
  (Multiset.Ioc start stop).map name

variable {name : Nat → Name} {first middle last : Nat}

theorem issued_add (name : Nat → Name) (left : first ≤ middle) (right : middle ≤ last) :
    issued name first middle + issued name middle last = issued name first last := by
  have disjoint : Disjoint (Finset.Ioc first middle) (Finset.Ioc middle last) :=
    Finset.Ioc_disjoint_Ioc_of_le (le_refl middle)
  have joined : Multiset.Ioc first middle + Multiset.Ioc middle last = Multiset.Ioc first last := by
    rw [Multiset.Ioc, Multiset.Ioc, Multiset.Ioc, ← Finset.Ioc_union_Ioc_eq_Ioc left right,
      ← Finset.disjUnion_eq_union _ _ disjoint, Finset.disjUnion_val]
  rw [issued, issued, issued, ← joined, Multiset.map_add]

theorem issued_succ (name : Nat → Name) (start : Nat) :
    issued name start (start + 1) = {name (start + 1)} := by
  rw [issued, Multiset.Ioc, Nat.Ioc_succ_singleton]
  rfl

/-- Numbers with different names are given out under different names. -/
theorem nodup_issued (apart : Set.InjOn name (Set.Ioc first last)) :
    (issued name first last).Nodup := by
  refine Multiset.Nodup.map_on ?_ Multiset.nodup_Ioc
  intro left leftInside right rightInside same
  exact apart (Multiset.mem_Ioc.mp leftInside) (Multiset.mem_Ioc.mp rightInside) same

/-! ### What is held -/

/-- What is held after has been held before or is given out in between. -/
structure Issues (name : Nat → Name) (before : Multiset Name) (start : Nat)
    (after : Multiset Name) (stop : Nat) : Prop where
  forward : start ≤ stop
  held : after ≤ before + issued name start stop

namespace Issues

variable {before between after beside : Multiset Name}

/-- Nothing is given out. -/
theorem of_le (fewer : after ≤ before) (forward : first ≤ last) :
    Issues name before first after last :=
  ⟨forward, fewer.trans (Multiset.le_add_right _ _)⟩

theorem refl (held : Multiset Name) (start : Nat) : Issues name held start held start :=
  of_le (le_refl held) (le_refl start)

theorem trans (left : Issues name before first between middle)
    (right : Issues name between middle after last) : Issues name before first after last := by
  refine ⟨left.forward.trans right.forward, right.held.trans ?_⟩
  rw [← issued_add name left.forward right.forward, ← add_assoc]
  exact add_le_add_left left.held _

/-- Others hold what they hold. -/
theorem add (issues : Issues name before first after last) (beside : Multiset Name) :
    Issues name (before + beside) first (after + beside) last := by
  refine ⟨issues.forward, (add_le_add_left issues.held beside).trans (le_of_eq ?_)⟩
  rw [add_right_comm]

/-- One number is given out, and held. -/
theorem draw (fewer : after ≤ before + {name (first + 1)}) :
    Issues name before first after (first + 1) :=
  ⟨Nat.le_succ first, issued_succ name first ▸ fewer⟩

/-- What was held at first and is held now is within what has been given out. -/
theorem within {start : Nat} (issues : Issues name before first after last)
    (earlier : before ≤ issued name start first) (later : start ≤ first) :
    after ≤ issued name start last := by
  refine issues.held.trans ?_
  rw [← issued_add name later issues.forward]
  exact add_le_add_left earlier _

end Issues

/-! ### Who has drawn a name -/

section drawn

variable {Holder : Type*} {steps : Holder → Nat → Holder → Nat → Prop}
  {held : Holder → Multiset Name}

/-- The holder has been given the name in one of its own steps. -/
inductive Drawn (name : Nat → Name) (steps : Holder → Nat → Holder → Nat → Prop) (given : Name) :
    Holder → Prop
  | now {before after : Holder} {start stop : Nat} (step : steps before start after stop)
      (issues : given ∈ issued name start stop) : Drawn name steps given after
  | since {before after : Holder} {start stop : Nat} (step : steps before start after stop)
      (drawn : Drawn name steps given before) : Drawn name steps given after

/-- Every name that the holder holds it has drawn itself. -/
def HoldsOwn (name : Nat → Name) (steps : Holder → Nat → Holder → Nat → Prop)
    (held : Holder → Multiset Name) (holder : Holder) : Prop :=
  ∀ given ∈ held holder, Drawn name steps given holder

/-- What is held after a step has been held before, or is drawn in the step. -/
theorem HoldsOwn.step {before after : Holder} {start stop : Nat}
    (own : HoldsOwn name steps held before) (step : steps before start after stop)
    (issues : Issues name (held before) start (held after) stop) :
    HoldsOwn name steps held after := by
  intro given member
  rcases Multiset.mem_add.mp (Multiset.mem_of_le issues.held member) with earlier | new
  · exact .since step (own given earlier)
  · exact .now step new

theorem HoldsOwn.of_zero {holder : Holder} (none : held holder = 0) :
    HoldsOwn name steps held holder := by
  intro given member
  rw [none] at member
  exact absurd member (Multiset.notMem_zero given)

end drawn

/-! ### Lists of holders -/

section holders

variable {Holder : Type*} {held : Holder → Multiset Name}

/-- What stands in the middle of a list, and what stands around it -/
theorem sum_map_around {Item Amount : Type*} [AddCommMonoid Amount] (held : Item → Amount)
    (left items right : List Item) : ((left ++ items ++ right).map held).sum =
      (items.map held).sum + ((left.map held).sum + (right.map held).sum) := by
  simp only [List.map_append, List.sum_append]
  rw [add_left_comm, add_assoc]

/-- Other holders may stand beside those that hold something else. -/
theorem Issues.beside {before after : List Holder}
    (issues : Issues name (before.map held).sum first (after.map held).sum last)
    (left right : List Holder) :
    Issues name ((left ++ before ++ right).map held).sum first
      ((left ++ after ++ right).map held).sum last := by
  rw [sum_map_around, sum_map_around]
  exact issues.add _

/-- When no name is held twice, at most one of the holders holds this one. -/
theorem length_filter_le_one {holders : List Holder} (apart : (holders.map held).sum.Nodup)
    {name : Name} {chosen : Holder → Bool}
    (holds : ∀ holder ∈ holders, chosen holder = true → name ∈ held holder) :
    (holders.filter chosen).length ≤ 1 := by
  have within : Multiset.replicate (holders.filter chosen).length name ≤
      (holders.map held).sum := by
    clear apart
    induction holders with
    | nil => exact le_refl _
    | cons holder rest inductionHypothesis =>
      have later := inductionHypothesis fun other member =>
        holds other (List.mem_cons_of_mem _ member)
      rw [List.map_cons, List.sum_cons]
      by_cases this : chosen holder = true
      · rw [List.filter_cons_of_pos this, List.length_cons, Nat.add_comm,
          Multiset.replicate_add]
        refine add_le_add ?_ later
        exact Multiset.singleton_le.mpr (holds holder List.mem_cons_self this)
      · rw [List.filter_cons_of_neg this]
        exact later.trans (Multiset.le_add_left _ _)
  have distinct := Multiset.nodup_of_le within apart
  rw [← Multiset.coe_replicate, Multiset.coe_nodup] at distinct
  exact List.nodup_replicate.mp distinct

end holders

end JnTapi.Library
