import TieredDispatch.Proofs.Session.Run

/-!
# Waiting for a workload

To wait for a workload is to start its tasks and to let the clock run until the last of them has
reported.  The workload of a load has settled then, on the devices on which its slots were made.

* `Dispatcher.spawned_of_load`: the slots of a load are made for its model.
* `Session.workload?_load`: the workload of a load that was waited for.
-/

namespace TieredDispatch

/-! ## Slots stay on their devices -/

@[simp] theorem Slot.device_start (x : Slot) (c : Catalog) (now : Nat) :
    (x.start c now).1.device = x.device := by
  rw [start]
  split <;> rfl

@[simp] theorem Slot.device_advance (x : Slot) (now : Nat) : (x.advance now).device = x.device := by
  rw [advance]
  split
  · split <;> rfl
  · rfl

namespace Workload

theorem accelerator_device_mapSlots (w : Workload) {f : Slot → Slot}
    (h : ∀ x, (f x).device = x.device) :
    (w.mapSlots f).accelerator.map Slot.device = w.accelerator.map Slot.device := by
  rw [mapSlots, Option.map_map]
  exact Option.map_congr fun x _ => h x

theorem accelerator_device_awaited (w : Workload) (c : Catalog) (now : Nat) :
    (w.awaited c now).accelerator.map Slot.device = w.accelerator.map Slot.device := by
  rw [awaited, advance, advance, start, mapSlots_mapSlots, mapSlots_mapSlots]
  exact w.accelerator_device_mapSlots fun x => by
    simp only [Function.comp_apply, Slot.device_advance, Slot.device_start]

theorem perfCount_awaited (w : Workload) (c : Catalog) (now : Nat) :
    (w.awaited c now).perfCount = w.perfCount := rfl

/-- Taking the elements of a list out of the same list in another order leaves nothing. -/
theorem foldl_erase_of_perm {taken tasks : List Slot} (h : taken.Perm tasks) :
    taken.foldl List.erase tasks = [] := by
  induction taken generalizing tasks with
  | nil => exact h.symm.eq_nil
  | cons x taken ih => exact ih (List.cons_perm_iff_perm_erase.mp h).2

/-- If one task has been started for each slot, all of them are in their places. -/
theorem unplaced_started (w : Workload) :
    w.unplaced (w.processor.toList ++ w.accelerator.toList) = [] :=
  foldl_erase_of_perm List.perm_append_comm

end Workload

/-- The slots of a load are made for its model. -/
theorem Dispatcher.spawned_of_load {d : Dispatcher} {model : ModelSource} {config : Config}
    {w : Workload} (h : (d.load model config).2 = .ok w) : ∀ x ∈ w.slots, x.Spawned model := by
  obtain ⟨r, y, -, rfl, -⟩ := exists_workloadOn_of_load h
  intro x hx
  rw [Workload.slots, List.mem_append, Option.mem_toList, Option.mem_toList, workloadOn] at hx
  rcases hx with hAccelerator | hProcessor
  · split at hAccelerator
    · cases hAccelerator
    · cases hAccelerator
      exact Slot.spawned_spawn _ _ _
  · obtain ⟨p, -, rfl⟩ := Option.map_eq_some_iff.mp hProcessor
    exact Slot.spawned_spawn _ _ _

namespace Session

variable {s : Session} {model : ModelSource} {config : Config} {w : Workload}

/-- A session waits until all tasks of a workload have reported. -/
theorem workload?_waitForAll {index : Nat} {l : Load} (h : s.loads[index]? = some l) :
    (s.waitForAll index).workload? index =
      some (l.workload.awaited (s.catalog l.catalog) s.clock) := by
  have hLoad : s.startTasks.loads[index]? = some { l with
      workload := (l.workload.start (s.catalog l.catalog) s.clock).1.advance s.clock } := by
    rw [loads_startTasks, List.getElem?_map, h]
    rfl
  simp only [waitForAll, workload?, hLoad, Option.map_some]
  rw [advanceTo, List.getElem?_map, hLoad, clock_startTasks]
  rfl

/-- All tasks that a load has started are in the slots of its workload. -/
theorem load_of_ok (h : (s.dispatcher.load model config).2 = .ok w) :
    s.load model config =
      ({ s with loads := s.loads ++ [⟨s.attached.getD "", w⟩] }, .ok w) := by
  have hStarted := Dispatcher.started_of_load h
  rw [load]
  split
  · next started w' hLoad =>
    rw [hLoad] at h hStarted
    cases h
    rw [show started = _ from hStarted, Workload.unplaced_started, List.map_nil, List.append_nil]
  · next hLoad =>
    rw [hLoad] at h
    cases h

/-- The workload of a load that was waited for. -/
theorem workload?_load (h : (s.dispatcher.load model config).2 = .ok w) :
    ((s.load model config).1.waitForAll s.loads.length).workload? s.loads.length =
      some (w.awaited (s.catalog (s.attached.getD "")) s.clock) := by
  rw [load_of_ok h]
  refine workload?_waitForAll (l := ⟨s.attached.getD "", w⟩) ?_
  exact List.getElem?_concat_length

end Session

end TieredDispatch
