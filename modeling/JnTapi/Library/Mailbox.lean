/-
This file develops a mailbox: a queue that any number of writers fill and one
reader empties, with a flag that the writers set.

The reader tests the flag without holding the lock. When the flag is set it takes
the lock, takes everything in the queue and resets the flag; then it serves what
it has taken, item by item, and leaves. An item may be added between any two of
these steps. The flag is a counter of the additions, and what the test makes of the
number is a parameter, so that a counter may be too narrow for it.
-/

import JnTapi.Library.Runs

namespace JnTapi.Library

variable {Item : Type*}

/-- Where the reader of a mailbox stands. -/
inductive Reader (Item : Type*)
  | away
  /-- The flag was found set; the lock is still to be taken. -/
  | seen
  /-- The items that are still to be served -/
  | holding (pending : List Item)

/-- A queue, the number of additions since it was last taken, and its reader with a record of what
it has done. -/
structure Mailbox (Item : Type*) where
  queue : List Item
  changes : Nat
  reader : Reader Item
  /-- The items served, in order -/
  served : List Item
  /-- The batches taken, in order -/
  taken : List (List Item)

/-- A step of a writer or of the reader. -/
inductive MailAction (Item : Type*)
  | add (item : Item)
  | test
  | take
  | serve
  | leave

/-- The items that the reader has taken and not served yet -/
def Reader.pending : Reader Item → List Item
  | .holding pending => pending
  | _ => []

namespace Mailbox

/-- The mailbox before anything has happened -/
def new : Mailbox Item := ⟨[], 0, .away, [], []⟩

variable (shows : Nat → Bool)

/-- One step; `none` when the reader does not stand where the step begins. -/
def step (box : Mailbox Item) : MailAction Item → Option (Mailbox Item)
  | .add item => some { box with queue := box.queue ++ [item], changes := box.changes + 1 }
  | .test =>
    match box.reader with
    | .away => some { box with reader := if shows box.changes then .seen else .holding [] }
    | _ => none
  | .take =>
    match box.reader with
    | .seen =>
      some ⟨[], 0, .holding box.queue, box.served, box.taken ++ [box.queue]⟩
    | _ => none
  | .serve =>
    match box.reader with
    | .holding (item :: rest) =>
      some { box with reader := .holding rest, served := box.served ++ [item] }
    | _ => none
  | .leave =>
    match box.reader with
    | .holding [] => some { box with reader := .away }
    | _ => none

/-- The items that the actions add -/
def additions (actions : List (MailAction Item)) : List Item :=
  actions.filterMap fun
    | .add item => some item
    | _ => none

theorem additions_append (first second : List (MailAction Item)) :
    additions (first ++ second) = additions first ++ additions second := by
  rw [additions, List.filterMap_append]
  rfl

/-- What the record says of a mailbox to which these items were added. -/
structure Accounts (added : List Item) (box : Mailbox Item) : Prop where
  taken_queue : box.taken.flatten ++ box.queue = added
  served_pending : box.served ++ box.reader.pending = box.taken.flatten
  changes : box.changes = box.queue.length

variable {shows}

/-- A step keeps the accounts. -/
theorem Accounts.step {box next : Mailbox Item} {action : MailAction Item} {added : List Item}
    (accounts : Accounts added box) (stepped : box.step shows action = some next) :
    Accounts (added ++ additions [action]) next := by
  obtain ⟨taken_queue, served_pending, length⟩ := accounts
  obtain ⟨queue, changes, reader, served, taken⟩ := box
  cases action with
  | add item =>
    obtain rfl := Option.some.inj stepped
    constructor
    · simp [additions, ← taken_queue]
    · exact served_pending
    · simpa using length
  | test =>
    cases reader with
    | away =>
      obtain rfl := Option.some.inj stepped
      constructor
      · simpa [additions] using taken_queue
      · cases shown : shows changes
        all_goals simpa [shown, Reader.pending] using served_pending
      · exact length
    | seen => cases stepped
    | holding pending => cases stepped
  | take =>
    cases reader with
    | seen =>
      obtain rfl := Option.some.inj stepped
      constructor
      · simpa [additions] using taken_queue
      · simpa [Reader.pending] using served_pending
      · rfl
    | away => cases stepped
    | holding pending => cases stepped
  | serve =>
    rcases reader with _ | _ | (_ | ⟨item, rest⟩)
    case holding.cons =>
      obtain rfl := Option.some.inj stepped
      constructor
      · simpa [additions] using taken_queue
      · simpa [Reader.pending] using served_pending
      · exact length
    all_goals cases stepped
  | leave =>
    rcases reader with _ | _ | (_ | ⟨item, rest⟩)
    case holding.nil =>
      obtain rfl := Option.some.inj stepped
      constructor
      · simpa [additions] using taken_queue
      · simpa [Reader.pending] using served_pending
      · exact length
    all_goals cases stepped

/-- Every run keeps the accounts of what it has added. -/
theorem accounts_of_run {actions : List (MailAction Item)} {box : Mailbox Item}
    (reached : run (step shows) actions new = some box) : Accounts (additions actions) box := by
  refine run_history (motive := fun past box => Accounts (additions past) box)
    ⟨rfl, rfl, rfl⟩ ?_ reached
  intro past middle action next reachedMiddle stepped accounts
  rw [additions_append]
  exact accounts.step stepped

/-- What was added early is served or taken, unless the reader is still to take the lock. -/
def Due (early : List Item) (box : Mailbox Item) : Prop :=
  box.reader = .seen ∨ early <+: box.served ++ box.reader.pending

/-- After a test that tells whether something is in the queue, all that was added before it is
due. -/
theorem Accounts.due_of_test {box next : Mailbox Item} {added : List Item}
    (accounts : Accounts added box) (tells : box.queue = [] ∨ shows box.changes = true)
    (stepped : box.step shows .test = some next) : Due added next := by
  obtain ⟨taken_queue, served_pending, -⟩ := accounts
  obtain ⟨queue, changes, reader, served, taken⟩ := box
  cases reader with
  | away =>
    obtain rfl := Option.some.inj stepped
    by_cases changed : shows changes = true
    · exact Or.inl (if_pos changed)
    · -- The flag is not set, so the queue is empty and nothing is left to take.
      have empty : queue = [] := tells.resolve_right changed
      refine Or.inr ?_
      rw [← taken_queue, ← served_pending, empty]
      simp [changed, Reader.pending]
  | seen => cases stepped
  | holding pending => cases stepped

/-- What is due stays due, and comes out when the reader takes the lock. -/
theorem Due.step {box next : Mailbox Item} {action : MailAction Item} {early added : List Item}
    (due : Due early box) (accounts : Accounts added box) (earlier : early <+: added)
    (stepped : box.step shows action = some next) : Due early next := by
  obtain ⟨taken_queue, served_pending, -⟩ := accounts
  obtain ⟨queue, changes, reader, served, taken⟩ := box
  cases action with
  | add item =>
    obtain rfl := Option.some.inj stepped
    exact due
  | test =>
    cases reader with
    | away =>
      obtain rfl := Option.some.inj stepped
      by_cases changed : shows changes = true
      · exact Or.inl (if_pos changed)
      · simpa [Due, changed, Reader.pending] using due
    | seen => cases stepped
    | holding pending => cases stepped
  | take =>
    cases reader with
    | seen =>
      obtain rfl := Option.some.inj stepped
      have all : served ++ queue = added := by
        rw [← taken_queue, ← served_pending]
        simp [Reader.pending]
      refine Or.inr ?_
      simpa only [Reader.pending, all] using earlier
    | away => cases stepped
    | holding pending => cases stepped
  | serve =>
    rcases reader with _ | _ | (_ | ⟨item, rest⟩)
    case holding.cons =>
      obtain rfl := Option.some.inj stepped
      simpa [Due, Reader.pending] using due
    all_goals cases stepped
  | leave =>
    rcases reader with _ | _ | (_ | ⟨item, rest⟩)
    case holding.nil =>
      obtain rfl := Option.some.inj stepped
      simpa [Due, Reader.pending] using due
    all_goals cases stepped

/-- From a test that tells whether something is in the queue, all that was added before it is
due. -/
theorem due_of_run {first rest : List (MailAction Item)} {before after box : Mailbox Item}
    (reached : run (step shows) first new = some before)
    (tells : before.queue = [] ∨ shows before.changes = true)
    (tested : before.step shows .test = some after)
    (remaining : run (step shows) rest after = some box) : Due (additions first) box := by
  refine run_history (motive := fun _ box => Due (additions first) box)
    ((accounts_of_run reached).due_of_test tells tested) ?_ remaining
  intro past middle action next reachedMiddle stepped due
  have whole : run (step shows) (first ++ .test :: past) new = some middle :=
    run_split.mpr ⟨before, after, reached, tested, reachedMiddle⟩
  refine due.step (accounts_of_run whole) ?_ stepped
  rw [additions_append]
  exact List.prefix_append _ _

/-- When the reader has served what it holds, it has served all that was added before its last
test, if that told whether something was in the queue. -/
theorem served_of_test {first rest : List (MailAction Item)} {box : Mailbox Item}
    (reached : run (step shows) (first ++ .test :: rest) new = some box)
    (tells : ∀ before, run (step shows) first new = some before →
      before.queue = [] ∨ shows before.changes = true)
    (done : box.reader = .holding []) : additions first <+: box.served := by
  obtain ⟨before, after, reachedBefore, tested, remaining⟩ := run_split.mp reached
  rcases due_of_run reachedBefore (tells before reachedBefore) tested remaining with seen | due
  · rw [done] at seen
    cases seen
  · rw [done] at due
    simpa [Reader.pending] using due

end Mailbox

end JnTapi.Library
