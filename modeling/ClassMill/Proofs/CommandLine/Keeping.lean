import ClassMill.CommandLine.Run
import ClassMill.Proofs.CommandLine.Change

/-!
# What no run takes away

Whatever an action does, and whether or not it succeeds, the current directory and all
directories stay. So a run only adds directories, and adds files or replaces their texts.
-/

namespace ClassMill.CommandLine

open ClassMill.CommandLine.Path

namespace Disk

theorem Keeps.of_write? {d d' : Disk} {path text : String} (h : d.write? path text = some d') :
    Keeps d d' := by
  unfold write? at h
  split at h
  · split at h
    · cases h
    · next hold =>
      cases h
      exact keeps_put _ hold
  · cases h

/-- Making directories keeps those that are there, also where it fails midway. -/
theorem keeps_makeDirectories (d : Disk) (path : String) :
    Keeps d (d.makeDirectories path).1 := by
  have hmodifies : ModifiesOnly (d.OnWay path) (fun _ => False) d (d.makeDirectories path).1 :=
    d.modifiesOnly_makeDirectories path
  exact hmodifies.keeps

end Disk

/-- No action takes a directory away, whether or not it succeeds. -/
theorem Action.keeps_perform (a : Action) (s : Scene) : s.disk.Keeps (a.perform s).1.disk := by
  cases a
  case print text => exact .refl s.disk
  case makeDirectories path => exact s.disk.keeps_makeDirectories path
  case writeRecord path text | writeSource path text =>
    rw [perform]
    split
    · next disk hdisk => exact .of_write? hdisk
    · exact .refl s.disk

/-- What relates the disks before and after each action also relates those before and after the
run, wherever it ends, if nothing is lost by doing nothing or by one action after another. -/
theorem Plan.rel_perform {R : Disk → Disk → Prop} (hrefl : ∀ d, R d d)
    (htrans : ∀ d d' d'', R d d' → R d' d'' → R d d'') {p : Plan}
    (h : ∀ a ∈ p.actions, ∀ s, R s.disk (a.perform s).1.disk) (s : Scene) :
    R s.disk (p.perform s).1.disk := by
  induction p generalizing s with
  | ended ending => exact hrefl s.disk
  | act a rest ih =>
    obtain ⟨ha, hrest⟩ := List.forall_mem_cons.mp h
    have hfirst := ha s
    rw [perform]
    split
    · next mid heq =>
      rw [heq] at hfirst
      exact htrans _ _ _ hfirst (ih () hrest mid)
    · next mid heq =>
      rw [heq] at hfirst
      exact hfirst

/-- A run takes no directory away, wherever it ends. -/
theorem Plan.keeps_perform (p : Plan) (s : Scene) : s.disk.Keeps (p.perform s).1.disk :=
  rel_perform Disk.Keeps.refl (fun _ _ _ => .trans) (fun a _ s => a.keeps_perform s) s

end ClassMill.CommandLine
