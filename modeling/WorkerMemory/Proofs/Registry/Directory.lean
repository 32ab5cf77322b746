import Mathlib.Data.Set.Card
import WorkerMemory.Proofs.Registry.Lawful

/-! # A store is a partial map from ids to workers

Whatever a lawful store is asked, its answer and what it holds afterwards are those of the map. So
any two lawful stores agree, however they keep their workers.
-/

namespace WorkerMemory

open WorkerStore

/-! ## The map -/

/-- The worker of each id. -/
abbrev Directory := WorkerId → Option Worker

namespace Directory

/-- An id that is taken keeps its worker. -/
def insert (w : Worker) (d : Directory) : Directory :=
  if d w.id = none then Function.update d w.id (some w) else d

/-- What remains without the workers that are still exactly as listed. -/
def without (stale : List Worker) (d : Directory) : Directory :=
  fun id => (d id).filter (· ∉ stale)

end Directory

/-! ## Requests and answers -/

/-- What a store can be asked, or a registry in front of it. -/
inductive Request where
  | insertIfAbsent (w : Worker)
  | register (w : Worker)
  | get (id : WorkerId)
  | snapshot
  | toMap
  | removeStale (stale : List Worker)
  | prune (stale : List Worker)
  | clear
  | size
  | isEmpty

inductive Answer where
  | done
  | truth (b : Bool)
  | number (n : Nat)
  | worker (w : Option Worker)
  | workers (ws : List Worker)
  | map (m : Std.TreeMap WorkerId Worker)

/-- An answer without what is left open: the order of a snapshot, the shape of a map. -/
inductive Meaning where
  | done
  | truth (holds : Prop)
  | number (n : Nat)
  | worker (w : Option Worker)
  | workers (ws : Set Worker)
  | map (d : Directory)

def Answer.meaning : Answer → Meaning
  | done => .done
  | truth b => .truth (b = true)
  | number n => .number n
  | worker w => .worker w
  | workers ws => .workers {w | w ∈ ws}
  | map m => .map (m[·]?)

namespace Request

def ask {σ : Type} [WorkerStore σ] (store : σ) : Request → Answer × σ
  | insertIfAbsent w =>
    let (isNew, store) := WorkerStore.insertIfAbsent w store
    (.truth isNew, store)
  | register w =>
    let (isNew, store) := Registry.register w store
    (.truth isNew, store)
  | get id => (.worker (get? id store), store)
  | snapshot => (.workers (WorkerStore.snapshot store), store)
  | toMap => (.map (WorkerStore.toMap store), store)
  | removeStale stale =>
    let (removed, store) := WorkerStore.removeStale stale store
    (.number removed, store)
  | prune stale =>
    let (removed, store) := Registry.prune stale store
    (.number removed, store)
  | clear => (.done, WorkerStore.clear store)
  | size => (.number (WorkerStore.size store), store)
  | isEmpty => (.truth (WorkerStore.isEmpty store), store)

/-- What the map answers. -/
noncomputable def refer (d : Directory) : Request → Meaning × Directory
  | insertIfAbsent w | register w => (.truth (d w.id = none), d.insert w)
  | get id => (.worker (d id), d)
  | snapshot => (.workers {w | d w.id = some w}, d)
  | toMap => (.map d, d)
  | removeStale stale | prune stale =>
    (.number {id | ∃ w, d id = some w ∧ w ∈ stale}.ncard, d.without stale)
  | clear => (.done, fun _ => none)
  | size => (.number {id | ∃ w, d id = some w}.ncard, d)
  | isEmpty => (.truth (∀ id, d id = none), d)

end Request

/-! ## Stores as maps -/

namespace Registry

variable {σ : Type} [WorkerStore σ]

def directory (store : σ) : Directory := fun id => get? id store

theorem toMap_eq_insertMany (store : σ) :
    toMap store =
      (∅ : Std.TreeMap WorkerId Worker).insertMany ((snapshot store).map fun w => (w.id, w)) := by
  unfold toMap
  generalize (∅ : Std.TreeMap WorkerId Worker) = map
  induction snapshot store generalizing map with
  | nil => rfl
  | cons w l ih =>
    rw [List.foldl_cons, ih, List.map_cons, Std.TreeMap.insertMany_cons]

variable [LawfulStore σ]

theorem directory_empty : directory (empty : σ) = fun _ => none := by
  funext id
  exact LawfulStore.get?_empty id

theorem directory_register (w : Worker) (store : σ) :
    directory (register w store).2 = (directory store).insert w := by
  funext id
  unfold directory Directory.insert
  rw [get?_register]
  by_cases hfree : get? w.id store = none
  · rw [if_pos hfree, Function.update_apply]
    split
    · next h => rw [h, hfree, Option.none_or]
    · rw [Option.or_none]
  · rw [if_neg hfree]
    split
    · next h =>
      obtain ⟨v, hv⟩ := Option.ne_none_iff_exists'.mp hfree
      rw [h, hv, Option.some_or]
    · rw [Option.or_none]

theorem directory_prune (stale : List Worker) (store : σ) :
    directory (prune stale store).2 = (directory store).without stale := by
  funext id
  exact get?_prune stale id store

/-! ## Counting -/

theorem fst_prune (stale : List Worker) (store : σ) :
    (prune stale store).1 = (removeStale stale store).1 := by
  unfold prune
  split
  · next h => rw [List.isEmpty_iff.mp h, LawfulStore.removeStale_nil]
  · rfl

theorem fst_removeStale (stale : List Worker) (store : σ) :
    (removeStale stale store).1 = (snapshot store).countP (· ∈ stale) := by
  induction stale generalizing store with
  | nil => simp [LawfulStore.removeStale_nil]
  | cons w stale ih =>
    have hcons : (removeStale (w :: stale) store).1 =
        (removeStale [w] store).1 + (removeStale stale (removeStale [w] store).2).1 :=
      congrArg Prod.fst (LawfulStore.removeStale_cons w stale store)
    have hleft := perm_snapshot_prune (.refl (snapshot store)) [w]
    have hfirst : (snapshot store).countP (· == w) = (removeStale [w] store).1 := by
      have hcount := (LawfulStore.nodup_snapshot store).of_map.count (a := w)
      simp only [LawfulStore.mem_snapshot, ← LawfulStore.fst_removeStale_one] at hcount
      exact hcount
    -- The entries listed are `w`, if it is there, and those that the rest of the list removes.
    rw [hcons, ih, ← snd_prune, ← hleft.countP_eq, ← hfirst,
      List.countP_eq_countP_filter_add _ (· ∈ w :: stale) (· == w), List.countP_filter,
      List.countP_filter, List.countP_filter]
    congr 1
    · exact List.countP_congr fun v _ => by simp +contextual
    · exact List.countP_congr fun v _ => by simp +contextual

theorem ncard_directory (store : σ) (p : Worker → Prop) [DecidablePred p] :
    {id | ∃ w, directory store id = some w ∧ p w}.ncard = (snapshot store).countP p := by
  have hids : {id | ∃ w, directory store id = some w ∧ p w} =
      ↑(((snapshot store).filter p).map (·.id)).toFinset := by
    ext id
    simp only [Set.mem_ofPred_eq, List.coe_toFinset, List.mem_map, List.mem_filter,
      LawfulStore.mem_snapshot, decide_eq_true_eq, directory]
    constructor
    · rintro ⟨w, hw, hp⟩
      obtain rfl := LawfulStore.id_of_get? hw
      exact ⟨w, ⟨hw, hp⟩, rfl⟩
    · rintro ⟨w, ⟨hw, hp⟩, rfl⟩
      exact ⟨w, hw, hp⟩
  have hnodup : (((snapshot store).filter p).map (·.id)).Nodup :=
    (LawfulStore.nodup_snapshot store).sublist (List.filter_sublist.map _)
  rw [hids, Set.ncard_coe_finset, List.toFinset_card_of_nodup hnodup, List.length_map,
    List.countP_eq_length_filter]

theorem isEmpty_iff (store : σ) : isEmpty store = true ↔ ∀ id, directory store id = none := by
  unfold isEmpty directory
  rw [beq_iff_eq, LawfulStore.size_eq, List.length_eq_zero_iff, List.eq_nil_iff_forall_not_mem]
  constructor
  · intro hnone id
    rw [Option.eq_none_iff_forall_ne_some]
    intro w hw
    obtain rfl := LawfulStore.id_of_get? hw
    exact hnone w (LawfulStore.mem_snapshot.mpr hw)
  · intro hnone w hw
    rw [LawfulStore.mem_snapshot, hnone] at hw
    contradiction

/-! ## The copied map -/

theorem pairwise_snapshot (store : σ) :
    ((snapshot store).map fun w => (w.id, w)).Pairwise fun a b => ¬ compare a.1 b.1 = .eq := by
  rw [List.pairwise_map]
  have hnodup := LawfulStore.nodup_snapshot store
  rw [List.Nodup, List.pairwise_map] at hnodup
  simpa only [Std.compare_eq_iff_eq] using hnodup

theorem getElem?_toMap (store : σ) (id : WorkerId) : (toMap store)[id]? = get? id store := by
  rw [toMap_eq_insertMany]
  cases h : get? id store with
  | some w =>
    obtain rfl := LawfulStore.id_of_get? h
    apply Std.TreeMap.getElem?_insertMany_list_of_mem Std.compare_self (pairwise_snapshot store)
    exact List.mem_map_of_mem (LawfulStore.mem_snapshot.mpr h)
  | none =>
    rw [Std.TreeMap.getElem?_insertMany_list_of_contains_eq_false]
    · exact Std.TreeMap.getElem?_emptyc
    · rw [List.map_map, ← Bool.not_eq_true, List.contains_iff_mem, List.mem_map]
      rintro ⟨w, hw, rfl⟩
      rw [LawfulStore.mem_snapshot] at hw
      change get? w.id store = none at h
      rw [h] at hw
      contradiction

theorem size_toMap (store : σ) : (toMap store).size = size store := by
  rw [toMap_eq_insertMany, Std.TreeMap.size_insertMany_list (pairwise_snapshot store),
    LawfulStore.size_eq]
  · simp
  · simp

/-! ## Answers -/

/-- A store answers as its map does, and is left as the map is. -/
theorem refer_directory (r : Request) (store : σ) :
    r.refer (directory store) = ((r.ask store).1.meaning, directory (r.ask store).2) := by
  have hinsert (w : Worker) : Request.refer (directory store) (.register w) =
      (.truth ((register w store).1 = true), directory (register w store).2) := by
    rw [directory_register, fst_register, Option.isNone_iff_eq_none]
    rfl
  have hremove (stale : List Worker) : Request.refer (directory store) (.removeStale stale) =
      (.number (removeStale stale store).1, directory (removeStale stale store).2) := by
    rw [← snd_prune, directory_prune, fst_removeStale, ← ncard_directory]
    rfl
  cases r with
  | insertIfAbsent w => exact hinsert w
  | register w => exact hinsert w
  | removeStale stale => exact hremove stale
  | prune stale =>
    have hprune : Registry.prune stale store = removeStale stale store :=
      Prod.ext (fst_prune stale store) (snd_prune stale store)
    have hanswer := hremove stale
    rw [← hprune] at hanswer
    exact hanswer
  | get id => rfl
  | snapshot =>
    have hworkers : {w | directory store w.id = some w} = {w | w ∈ snapshot store} := by
      ext w
      exact LawfulStore.mem_snapshot.symm
    simp only [Request.refer, Request.ask, Answer.meaning, hworkers]
  | toMap =>
    have hmap : directory store = ((toMap store)[·]?) := by
      funext id
      exact (getElem?_toMap store id).symm
    simp only [Request.refer, Request.ask, Answer.meaning, ← hmap]
  | clear => exact congrArg (Meaning.done, ·) directory_empty.symm
  | size =>
    have hsize := ncard_directory store fun _ => True
    simp only [and_true, decide_true, List.countP_true, ← LawfulStore.size_eq] at hsize
    simp only [Request.refer, Request.ask, Answer.meaning, hsize]
  | isEmpty =>
    have hempty : (∀ id, directory store id = none) = (WorkerStore.isEmpty store = true) :=
      propext (isEmpty_iff store).symm
    simp only [Request.refer, Request.ask, Answer.meaning, hempty]

/-! ## What holds of a store at any time -/

/-- Workers stand under their ids, once each, and are counted right; a taken id keeps its worker. -/
structure Orderly (store : σ) : Prop where
  keyed : ∀ id w, get? id store = some w → w.id = id
  insertion : ∀ w, ((register w store).1 = true ↔ get? w.id store = none) ∧
    ((register w store).1 = false → (register w store).2 = store)
  listed : ((snapshot store).map (·.id)).Nodup
  size_snapshot : size store = (snapshot store).length
  size_map : size store = (toMap store).size

theorem orderly (store : σ) : Orderly store where
  keyed _ _ := LawfulStore.id_of_get?
  insertion w := by
    rw [fst_register, Option.isNone_iff_eq_none, Option.isNone_eq_false_iff,
      Option.isSome_iff_exists]
    refine ⟨Iff.rfl, ?_⟩
    rintro ⟨v, hv⟩
    exact congrArg Prod.snd (LawfulStore.insertIfAbsent_taken hv)
  listed := LawfulStore.nodup_snapshot store
  size_snapshot := LawfulStore.size_eq store
  size_map := (size_toMap store).symm

end Registry

end WorkerMemory
