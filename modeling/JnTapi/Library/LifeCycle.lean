/-
This file develops the register of a set of items that come and go.

A register holds the live items and the log of what was reported about them. An
item enters with an opening report, may then change with an updating report or
lapse silently, and leaves with a closing report. Each report carries a view of
the item, and the view carries a key and a tag that never change. The file
proves what follows for any sequence of such changes: the reports of one key
are an opening report, then updating reports, then at most one closing report;
all of them carry one tag; and the last report of a live item shows the item as
it is, unless the item has lapsed since.
-/

import Mathlib.Data.List.Nodup
import Mathlib.Data.List.Perm.Basic
import Mathlib.Logic.Relation

namespace JnTapi.Library

variable {Item View Reason Key Tag : Type*}

/-! ### The register and its changes -/

/-- What a report shows of an item, which reports open, update and close, and how an item
lapses. -/
structure Scheme (Item View Reason Key Tag : Type*) where
  view : Item → View
  key : View → Key
  tag : View → Tag
  opens : Reason → Prop
  updates : Reason → Prop
  closes : Reason → Prop
  /-- The view shows an item that has come to its end. -/
  ended : View → Prop
  lapses : Item → Item → Prop
  /-- An item that has lapsed does not lapse again. -/
  lapsesOnce : ∀ {first second third}, lapses first second → ¬ lapses second third

/-- The live items and the log of the reports, the oldest first. -/
@[ext] structure Register (Item View Reason : Type*) where
  live : List Item
  log : List (Reason × View)

/-- The reports that carry the key. -/
def reportsOf [DecidableEq Key] (scheme : Scheme Item View Reason Key Tag) (key : Key)
    (log : List (Reason × View)) : List (Reason × View) :=
  log.filter fun report => scheme.key report.2 = key

/-- One change of the register. -/
inductive Change (scheme : Scheme Item View Reason Key Tag) :
    Register Item View Reason → Register Item View Reason → Prop
  | opened {live : List Item} {log : List (Reason × View)} (item : Item) (reason : Reason)
      (opens : scheme.opens reason)
      (fresh : ∀ report ∈ log, scheme.key report.2 ≠ scheme.key (scheme.view item)) :
      Change scheme ⟨live, log⟩ ⟨live ++ [item], log ++ [(reason, scheme.view item)]⟩
  | updated {before after : List Item} {log : List (Reason × View)} (item next : Item)
      (reason : Reason) (updates : scheme.updates reason)
      (sameKey : scheme.key (scheme.view next) = scheme.key (scheme.view item))
      (sameTag : scheme.tag (scheme.view next) = scheme.tag (scheme.view item)) :
      Change scheme ⟨before ++ item :: after, log⟩
        ⟨before ++ next :: after, log ++ [(reason, scheme.view next)]⟩
  | lapsed {before after : List Item} {log : List (Reason × View)} (item next : Item)
      (lapses : scheme.lapses item next)
      (sameKey : scheme.key (scheme.view next) = scheme.key (scheme.view item))
      (sameTag : scheme.tag (scheme.view next) = scheme.tag (scheme.view item)) :
      Change scheme ⟨before ++ item :: after, log⟩ ⟨before ++ next :: after, log⟩
  | closed {before after : List Item} {log : List (Reason × View)} (item : Item) (reason : Reason)
      (closes : scheme.closes reason) (ended : scheme.ended (scheme.view item)) :
      Change scheme ⟨before ++ item :: after, log⟩
        ⟨before ++ after, log ++ [(reason, scheme.view item)]⟩

/-- Any number of changes. -/
abbrev Changes (scheme : Scheme Item View Reason Key Tag) :
    Register Item View Reason → Register Item View Reason → Prop :=
  Relation.ReflTransGen (Change scheme)

/-! ### What the log says of one key -/

/-- The reports of an item that is still live. -/
def Running (scheme : Scheme Item View Reason Key Tag) (reports : List (Reason × View)) : Prop :=
  ∃ first middle, reports = first :: middle ∧ scheme.opens first.1 ∧
    ∀ report ∈ middle, scheme.updates report.1

/-- The reports of an item that has left. -/
def Finished (scheme : Scheme Item View Reason Key Tag) (reports : List (Reason × View)) : Prop :=
  ∃ earlier last, reports = earlier ++ [last] ∧ Running scheme earlier ∧
    scheme.closes last.1 ∧ scheme.ended last.2

/-- The item is as the last report of its key shows it, or it has lapsed since. -/
def Shown [DecidableEq Key] (scheme : Scheme Item View Reason Key Tag) (log : List (Reason × View))
    (item : Item) : Prop :=
  ∃ reason shown, (reportsOf scheme (scheme.key (scheme.view item)) log).getLast? =
      some (reason, shown) ∧
    (shown = scheme.view item ∨
      ∃ earlier, scheme.view earlier = shown ∧ scheme.lapses earlier item)

/-- What holds of every register that has grown from the empty one. -/
structure Consistent [DecidableEq Key] (scheme : Scheme Item View Reason Key Tag)
    (register : Register Item View Reason) : Prop where
  distinct : (register.live.map fun item => scheme.key (scheme.view item)).Nodup
  running : ∀ item ∈ register.live,
    Running scheme (reportsOf scheme (scheme.key (scheme.view item)) register.log)
  finished : ∀ key, (∀ item ∈ register.live, scheme.key (scheme.view item) ≠ key) →
    reportsOf scheme key register.log = [] ∨ Finished scheme (reportsOf scheme key register.log)
  tagged : ∀ first ∈ register.log, ∀ second ∈ register.log,
    scheme.key first.2 = scheme.key second.2 → scheme.tag first.2 = scheme.tag second.2
  tagShown : ∀ item ∈ register.live, ∀ report ∈ register.log,
    scheme.key report.2 = scheme.key (scheme.view item) →
      scheme.tag report.2 = scheme.tag (scheme.view item)
  shown : ∀ item ∈ register.live, Shown scheme register.log item

variable {scheme : Scheme Item View Reason Key Tag}

theorem Running.ne_nil {reports : List (Reason × View)} (running : Running scheme reports) :
    reports ≠ [] := by
  obtain ⟨first, middle, rfl, -, -⟩ := running
  exact List.cons_ne_nil first middle

theorem Running.snoc {reports : List (Reason × View)} (running : Running scheme reports)
    {report : Reason × View} (updates : scheme.updates report.1) :
    Running scheme (reports ++ [report]) := by
  obtain ⟨first, middle, rfl, opens, between⟩ := running
  refine ⟨first, middle ++ [report], rfl, opens, fun other member => ?_⟩
  rcases List.mem_append.mp member with earlier | last
  · exact between other earlier
  · obtain rfl := List.mem_singleton.mp last
    exact updates

/-- In a list of items with distinct keys, the key of one item is not that of another. -/
theorem key_ne_of_distinct {before after : List Item} {item : Item}
    (distinct : ((before ++ item :: after).map fun item =>
      scheme.key (scheme.view item)).Nodup) :
    ∀ other ∈ before ++ after,
      scheme.key (scheme.view other) ≠ scheme.key (scheme.view item) := by
  have reordered : (before ++ item :: after).Perm (item :: (before ++ after)) :=
    List.perm_middle
  have apart := (reordered.map _).nodup_iff.mp distinct
  rw [List.map_cons, List.nodup_cons] at apart
  intro other member same
  exact apart.1 (List.mem_map.mpr ⟨other, member, same⟩)

theorem mem_replaced {before after : List Item} {next other : Item}
    (member : other ∈ before ++ next :: after) : other = next ∨ other ∈ before ++ after := by
  simp only [List.mem_append, List.mem_cons] at member ⊢
  rcases member with left | same | right
  · exact Or.inr (Or.inl left)
  · exact Or.inl same
  · exact Or.inr (Or.inr right)

theorem mem_original {before after : List Item} {item other : Item}
    (member : other ∈ before ++ after) : other ∈ before ++ item :: after := by
  simp only [List.mem_append, List.mem_cons] at member ⊢
  rcases member with left | right
  · exact Or.inl left
  · exact Or.inr (Or.inr right)

/-- Replacing an item by one with the same key leaves the list of keys as it is. -/
theorem keys_replaced {before after : List Item} {item next : Item}
    (sameKey : scheme.key (scheme.view next) = scheme.key (scheme.view item)) :
    (before ++ next :: after).map (fun item => scheme.key (scheme.view item)) =
      (before ++ item :: after).map (fun item => scheme.key (scheme.view item)) := by
  simp only [List.map_append, List.map_cons, sameKey]

theorem absent_replaced {before after : List Item} {item next : Item} {key : Key}
    (sameKey : scheme.key (scheme.view next) = scheme.key (scheme.view item))
    (absent : ∀ other ∈ before ++ next :: after, scheme.key (scheme.view other) ≠ key) :
    ∀ other ∈ before ++ item :: after, scheme.key (scheme.view other) ≠ key := by
  intro other member
  rcases mem_replaced member with rfl | rest
  · rw [← sameKey]
    exact absent next (List.mem_append_right _ List.mem_cons_self)
  · exact absent other (mem_original rest)

variable [DecidableEq Key]

theorem reportsOf_append_same {key : Key} {log : List (Reason × View)} {reason : Reason}
    {view : View} (same : scheme.key view = key) :
    reportsOf scheme key (log ++ [(reason, view)]) = reportsOf scheme key log ++ [(reason, view)] := by
  unfold reportsOf
  rw [List.filter_append, List.filter_singleton, decide_eq_true same]
  rfl

theorem reportsOf_append_other {key : Key} {log : List (Reason × View)} {reason : Reason}
    {view : View} (other : scheme.key view ≠ key) :
    reportsOf scheme key (log ++ [(reason, view)]) = reportsOf scheme key log := by
  unfold reportsOf
  rw [List.filter_append, List.filter_singleton, decide_eq_false other]
  exact List.append_nil _

theorem mem_reportsOf {key : Key} {log : List (Reason × View)} {report : Reason × View} :
    report ∈ reportsOf scheme key log ↔ report ∈ log ∧ scheme.key report.2 = key := by
  unfold reportsOf
  rw [List.mem_filter, decide_eq_true_iff]

theorem reportsOf_eq_nil {key : Key} {log : List (Reason × View)}
    (fresh : ∀ report ∈ log, scheme.key report.2 ≠ key) : reportsOf scheme key log = [] := by
  refine List.eq_nil_iff_forall_not_mem.mpr fun report member => ?_
  obtain ⟨logged, same⟩ := mem_reportsOf.mp member
  exact fresh report logged same

theorem Shown.append_other {log : List (Reason × View)} {item : Item} {reason : Reason}
    {view : View} (shown : Shown scheme log item)
    (other : scheme.key view ≠ scheme.key (scheme.view item)) :
    Shown scheme (log ++ [(reason, view)]) item := by
  unfold Shown
  rw [reportsOf_append_other other]
  exact shown

theorem shown_append_same (log : List (Reason × View)) (item : Item) (reason : Reason) :
    Shown scheme (log ++ [(reason, scheme.view item)]) item := by
  refine ⟨reason, scheme.view item, ?_, Or.inl rfl⟩
  rw [reportsOf_append_same rfl, List.getLast?_append]
  rfl

/-! ### Every change keeps the register consistent -/

/-- The empty register is consistent. -/
theorem Consistent.empty : Consistent scheme ⟨[], []⟩ where
  distinct := List.nodup_nil
  running := fun _ member => absurd member List.not_mem_nil
  finished := fun _ _ => Or.inl rfl
  tagged := fun _ member => absurd member List.not_mem_nil
  tagShown := fun _ member => absurd member List.not_mem_nil
  shown := fun _ member => absurd member List.not_mem_nil

/-- The key of a live item has been reported. -/
theorem Consistent.reported {register : Register Item View Reason}
    (consistent : Consistent scheme register) {item : Item} (member : item ∈ register.live) :
    ∃ report ∈ register.log, scheme.key report.2 = scheme.key (scheme.view item) := by
  have nonempty := (consistent.running item member).ne_nil
  obtain ⟨report, reported⟩ := List.exists_mem_of_ne_nil _ nonempty
  exact ⟨report, (mem_reportsOf.mp reported).1, (mem_reportsOf.mp reported).2⟩

theorem Consistent.opened {live : List Item} {log : List (Reason × View)}
    (consistent : Consistent scheme ⟨live, log⟩) (item : Item) (reason : Reason)
    (opens : scheme.opens reason)
    (fresh : ∀ report ∈ log, scheme.key report.2 ≠ scheme.key (scheme.view item)) :
    Consistent scheme ⟨live ++ [item], log ++ [(reason, scheme.view item)]⟩ := by
  have apart : ∀ other ∈ live, scheme.key (scheme.view item) ≠ scheme.key (scheme.view other) := by
    intro other member same
    obtain ⟨report, logged, reported⟩ := consistent.reported member
    exact fresh report logged (reported.trans same.symm)
  have first : reportsOf scheme (scheme.key (scheme.view item))
      (log ++ [(reason, scheme.view item)]) = [(reason, scheme.view item)] := by
    rw [reportsOf_append_same rfl, reportsOf_eq_nil fresh]
    rfl
  constructor
  case distinct =>
    rw [List.map_append, List.map_singleton]
    refine consistent.distinct.append (List.nodup_singleton _) ?_
    intro key earlier last
    obtain ⟨other, member, rfl⟩ := List.mem_map.mp earlier
    exact apart other member (List.mem_singleton.mp last).symm
  case running =>
    intro other member
    rcases List.mem_append.mp member with earlier | last
    · rw [reportsOf_append_other (apart other earlier)]
      exact consistent.running other earlier
    · obtain rfl := List.mem_singleton.mp last
      rw [first]
      exact ⟨_, [], rfl, opens, fun _ none => absurd none List.not_mem_nil⟩
  case finished =>
    intro key absent
    have other : scheme.key (scheme.view item) ≠ key :=
      absent item (List.mem_append_right _ (List.mem_singleton.mpr rfl))
    rw [reportsOf_append_other other]
    exact consistent.finished key fun other member =>
      absent other (List.mem_append_left _ member)
  case tagged =>
    intro left leftMember right rightMember same
    rcases List.mem_append.mp leftMember with leftLog | leftLast <;>
      rcases List.mem_append.mp rightMember with rightLog | rightLast
    · exact consistent.tagged left leftLog right rightLog same
    · obtain rfl := List.mem_singleton.mp rightLast
      exact absurd same (fresh left leftLog)
    · obtain rfl := List.mem_singleton.mp leftLast
      exact absurd same.symm (fresh right rightLog)
    · rw [List.mem_singleton.mp leftLast, List.mem_singleton.mp rightLast]
  case tagShown =>
    intro other member report reported same
    rcases List.mem_append.mp member with earlier | last <;>
      rcases List.mem_append.mp reported with logged | new
    · exact consistent.tagShown other earlier report logged same
    · obtain rfl := List.mem_singleton.mp new
      exact absurd same (apart other earlier)
    · obtain rfl := List.mem_singleton.mp last
      exact absurd same (fresh report logged)
    · rw [List.mem_singleton.mp last, List.mem_singleton.mp new]
  case shown =>
    intro other member
    rcases List.mem_append.mp member with earlier | last
    · exact (consistent.shown other earlier).append_other (apart other earlier)
    · obtain rfl := List.mem_singleton.mp last
      exact shown_append_same log other reason

theorem Consistent.updated {before after : List Item} {log : List (Reason × View)}
    {item : Item} (consistent : Consistent scheme ⟨before ++ item :: after, log⟩) (next : Item)
    (reason : Reason) (updates : scheme.updates reason)
    (sameKey : scheme.key (scheme.view next) = scheme.key (scheme.view item))
    (sameTag : scheme.tag (scheme.view next) = scheme.tag (scheme.view item)) :
    Consistent scheme ⟨before ++ next :: after, log ++ [(reason, scheme.view next)]⟩ := by
  have member : item ∈ before ++ item :: after := List.mem_append_right _ List.mem_cons_self
  have apart : ∀ other ∈ before ++ after,
      scheme.key (scheme.view next) ≠ scheme.key (scheme.view other) := by
    intro other rest same
    exact key_ne_of_distinct consistent.distinct other rest (same.symm.trans sameKey)
  have tagNext : ∀ report ∈ log, scheme.key report.2 = scheme.key (scheme.view next) →
      scheme.tag report.2 = scheme.tag (scheme.view next) := by
    intro report logged same
    rw [sameTag]
    exact consistent.tagShown item member report logged (same.trans sameKey)
  constructor
  case distinct =>
    show ((before ++ next :: after).map _).Nodup
    rw [keys_replaced sameKey]
    exact consistent.distinct
  case running =>
    intro other present
    rcases mem_replaced present with rfl | rest
    · show Running scheme (reportsOf scheme _ (log ++ [(reason, scheme.view other)]))
      rw [reportsOf_append_same rfl, sameKey]
      exact (consistent.running item member).snoc updates
    · rw [reportsOf_append_other (apart other rest)]
      exact consistent.running other (mem_original rest)
  case finished =>
    intro key absent
    have other : scheme.key (scheme.view next) ≠ key :=
      absent next (List.mem_append_right _ List.mem_cons_self)
    rw [reportsOf_append_other other]
    exact consistent.finished key (absent_replaced sameKey absent)
  case tagged =>
    intro left leftMember right rightMember same
    rcases List.mem_append.mp leftMember with leftLog | leftLast <;>
      rcases List.mem_append.mp rightMember with rightLog | rightLast
    · exact consistent.tagged left leftLog right rightLog same
    · obtain rfl := List.mem_singleton.mp rightLast
      exact tagNext left leftLog same
    · obtain rfl := List.mem_singleton.mp leftLast
      exact (tagNext right rightLog same.symm).symm
    · rw [List.mem_singleton.mp leftLast, List.mem_singleton.mp rightLast]
  case tagShown =>
    intro other present report reported same
    rcases mem_replaced present with rfl | rest <;>
      rcases List.mem_append.mp reported with logged | new
    · exact tagNext report logged same
    · rw [List.mem_singleton.mp new]
    · exact consistent.tagShown other (mem_original rest) report logged same
    · obtain rfl := List.mem_singleton.mp new
      exact absurd same (apart other rest)
  case shown =>
    intro other present
    rcases mem_replaced present with rfl | rest
    · exact shown_append_same log other reason
    · exact (consistent.shown other (mem_original rest)).append_other (apart other rest)

theorem Consistent.lapsed {before after : List Item} {log : List (Reason × View)}
    {item : Item} (consistent : Consistent scheme ⟨before ++ item :: after, log⟩) (next : Item)
    (lapses : scheme.lapses item next)
    (sameKey : scheme.key (scheme.view next) = scheme.key (scheme.view item))
    (sameTag : scheme.tag (scheme.view next) = scheme.tag (scheme.view item)) :
    Consistent scheme ⟨before ++ next :: after, log⟩ := by
  have member : item ∈ before ++ item :: after := List.mem_append_right _ List.mem_cons_self
  constructor
  case distinct =>
    show ((before ++ next :: after).map _).Nodup
    rw [keys_replaced sameKey]
    exact consistent.distinct
  case running =>
    intro other present
    rcases mem_replaced present with rfl | rest
    · rw [sameKey]
      exact consistent.running item member
    · exact consistent.running other (mem_original rest)
  case finished =>
    intro key absent
    exact consistent.finished key (absent_replaced sameKey absent)
  case tagged => exact consistent.tagged
  case tagShown =>
    intro other present report logged same
    rcases mem_replaced present with rfl | rest
    · rw [sameTag]
      exact consistent.tagShown item member report logged (same.trans sameKey)
    · exact consistent.tagShown other (mem_original rest) report logged same
  case shown =>
    intro other present
    rcases mem_replaced present with rfl | rest
    · obtain ⟨reason, shown, last, same | ⟨earlier, -, again⟩⟩ := consistent.shown item member
      · refine ⟨reason, shown, ?_, Or.inr ⟨item, same.symm, lapses⟩⟩
        rw [sameKey]
        exact last
      · exact absurd lapses (scheme.lapsesOnce again)
    · exact consistent.shown other (mem_original rest)

theorem Consistent.closed {before after : List Item} {log : List (Reason × View)}
    {item : Item} (consistent : Consistent scheme ⟨before ++ item :: after, log⟩)
    (reason : Reason) (closes : scheme.closes reason) (ended : scheme.ended (scheme.view item)) :
    Consistent scheme ⟨before ++ after, log ++ [(reason, scheme.view item)]⟩ := by
  have member : item ∈ before ++ item :: after := List.mem_append_right _ List.mem_cons_self
  have apart : ∀ other ∈ before ++ after,
      scheme.key (scheme.view item) ≠ scheme.key (scheme.view other) :=
    fun other rest same => key_ne_of_distinct consistent.distinct other rest same.symm
  have tagItem := consistent.tagShown item member
  constructor
  case distinct =>
    refine consistent.distinct.sublist (List.Sublist.map _ ?_)
    exact List.Sublist.append_left (List.sublist_cons_self item after) before
  case running =>
    intro other rest
    rw [reportsOf_append_other (apart other rest)]
    exact consistent.running other (mem_original rest)
  case finished =>
    intro key absent
    by_cases same : scheme.key (scheme.view item) = key
    · subst same
      right
      refine ⟨_, _, reportsOf_append_same rfl, consistent.running item member, closes, ended⟩
    · rw [reportsOf_append_other same]
      refine consistent.finished key fun other present => ?_
      rcases mem_replaced present with rfl | rest
      · exact same
      · exact absent other rest
  case tagged =>
    intro left leftMember right rightMember same
    rcases List.mem_append.mp leftMember with leftLog | leftLast <;>
      rcases List.mem_append.mp rightMember with rightLog | rightLast
    · exact consistent.tagged left leftLog right rightLog same
    · obtain rfl := List.mem_singleton.mp rightLast
      exact tagItem left leftLog same
    · obtain rfl := List.mem_singleton.mp leftLast
      exact (tagItem right rightLog same.symm).symm
    · rw [List.mem_singleton.mp leftLast, List.mem_singleton.mp rightLast]
  case tagShown =>
    intro other rest report reported same
    rcases List.mem_append.mp reported with logged | new
    · exact consistent.tagShown other (mem_original rest) report logged same
    · obtain rfl := List.mem_singleton.mp new
      exact absurd same (apart other rest)
  case shown =>
    intro other rest
    exact (consistent.shown other (mem_original rest)).append_other (apart other rest)

/-- A change of a consistent register leaves it consistent. -/
theorem Consistent.change {register next : Register Item View Reason}
    (consistent : Consistent scheme register) (change : Change scheme register next) :
    Consistent scheme next := by
  cases change with
  | opened item reason opens fresh => exact consistent.opened item reason opens fresh
  | updated item next reason updates sameKey sameTag =>
    exact consistent.updated next reason updates sameKey sameTag
  | lapsed item next lapses sameKey sameTag =>
    exact consistent.lapsed next lapses sameKey sameTag
  | closed item reason closes ended => exact consistent.closed reason closes ended

end JnTapi.Library
