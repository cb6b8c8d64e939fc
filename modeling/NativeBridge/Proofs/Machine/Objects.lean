import NativeBridge.Machine.Objects

/-!
# Ends of objects

* `collect_contents`: a collection ends lives and leaves the contents of every object alone.
* `isLive_of_collect`: a collection brings no object back to life.
-/

namespace NativeBridge

namespace Objects

def contents (objects : Objects) : List Instance := objects.cells.map (·.content)

theorem sweep_contents (handles : List ObjectId) (objects : Objects) :
    (objects.sweep handles).contents = objects.contents := by
  rw [contents, contents, sweep]
  apply List.ext_getElem?
  intro id
  rw [List.getElem?_map, List.getElem?_mapIdx, List.getElem?_map, Option.map_map]
  rfl

theorem collectRounds_contents (handles : List ObjectId) (rounds : Nat) (objects : Objects) :
    (objects.collectRounds handles rounds).contents = objects.contents := by
  induction rounds generalizing objects with
  | zero => rfl
  | succ rounds ih =>
      simp only [collectRounds]
      split
      · exact sweep_contents handles objects
      · rw [ih, sweep_contents]

theorem collect_contents (handles : List ObjectId) (objects : Objects) :
    (objects.collect handles).contents = objects.contents :=
  collectRounds_contents handles _ objects

theorem get_of_contents {objects others : Objects} (same : objects.contents = others.contents)
    (id : ObjectId) : objects.get id = others.get id := by
  have known (of : Objects) : of.get id = (of.contents[id]?).getD default := by
    rw [get, contents, List.getElem?_map]
    cases of.cells[id]? <;> rfl
  rw [known, known, same]

theorem length_contents (objects : Objects) : objects.contents.length = objects.cells.length :=
  List.length_map _

theorem isLive_of_sweep {handles : List ObjectId} {objects : Objects} {id : ObjectId}
    (live : (objects.sweep handles).isLive id = true) : objects.isLive id = true := by
  simp only [isLive, sweep, List.getElem?_mapIdx] at live ⊢
  cases found : objects.cells[id]? with
  | none =>
      rw [found] at live
      cases live
  | some cell =>
      simp only [found, Option.map_some, Bool.and_eq_true] at live
      exact live.1

theorem isLive_of_collectRounds {handles : List ObjectId} {rounds : Nat} {objects : Objects}
    {id : ObjectId} (live : (objects.collectRounds handles rounds).isLive id = true) :
    objects.isLive id = true := by
  induction rounds generalizing objects with
  | zero => exact live
  | succ rounds ih =>
      simp only [collectRounds] at live
      split at live
      · exact isLive_of_sweep live
      · exact isLive_of_sweep (ih live)

theorem isLive_of_collect {handles : List ObjectId} {objects : Objects} {id : ObjectId}
    (live : (objects.collect handles).isLive id = true) : objects.isLive id = true :=
  isLive_of_collectRounds live

end Objects

end NativeBridge
