import Mathlib.Tactic
import Switchboard.Access.Gate

/-!
# Decisions of the gate

As long as the kept list has not expired, the gate decides by that list and keeps it: `Gate.allow`
is then nothing but `Gate.check`, whose answer depends on the gate only through the host names that
it looks up.
-/

namespace Switchboard

/-- A list has not expired when it is fetched, nor when it is looked at once more. -/
def Moments.Spare (t : Moments) (list : AllowList) : Prop :=
  list.expired t.fetch = false ∧ list.expired t.recheck = false

instance (t : Moments) (list : AllowList) : Decidable (t.Spare list) :=
  inferInstanceAs (Decidable (_ ∧ _))

namespace Gate

variable {g g' : Gate} {t : Moments} {list : AllowList}

theorem current_check (g : Gate) (list : AllowList) (source : String) (reverse sensitive : Bool) :
    (g.check list source reverse sensitive).1.current = g.current := by
  unfold check
  split
  · rfl
  · split <;> rfl

theorem hosts_check (g : Gate) (list : AllowList) (source : String) (reverse sensitive : Bool) :
    (g.check list source reverse sensitive).1.hosts = g.hosts := by
  unfold check
  split
  · rfl
  · split <;> rfl

/-- What a list says of a source depends on the host names only. -/
theorem snd_check_congr (h : g'.hosts = g.hosts) (list : AllowList) (source : String)
    (reverse sensitive : Bool) :
    (g'.check list source reverse sensitive).2 = (g.check list source reverse sensitive).2 := by
  unfold check
  rw [h]
  split
  · rfl
  · split <;> rfl

/-- A gate with a list that does not expire meanwhile decides by it and goes on keeping it. -/
theorem allow_of_kept (kept : g.current = some list) (spare : t.Spare list) (source : String)
    (reverse sensitive : Bool) :
    (g.allow t source reverse sensitive).1.current = some list ∧
      (g.allow t source reverse sensitive).1.hosts = g.hosts ∧
      (g.allow t source reverse sensitive).2 =
        (!source.isEmpty && (g.check list source reverse sensitive).2) := by
  have hfresh : g.currentOrLoad t.fetch t.load = (g, .ok list) := by
    have hkept : g.fresh? t.fetch = some list := by
      rw [fresh?, kept, Option.filter_some, spare.1]
      rfl
    rw [currentOrLoad, hkept]
  have hcurrent := (current_check g list source reverse sensitive).trans kept
  have hhosts := hosts_check g list source reverse sensitive
  unfold allow
  cases hempty : source.isEmpty with
  | true => exact ⟨kept, rfl, rfl⟩
  | false =>
    simp only [hfresh, Bool.false_eq_true, if_false, Bool.not_false, Bool.true_and]
    revert hcurrent hhosts
    rcases g.check list source reverse sensitive with ⟨g₁, answer⟩
    intro hcurrent hhosts
    cases answer with
    | true => exact ⟨hcurrent, hhosts, rfl⟩
    | false => simpa only [spare.2] using ⟨hcurrent, hhosts, rfl⟩

end Gate

end Switchboard
