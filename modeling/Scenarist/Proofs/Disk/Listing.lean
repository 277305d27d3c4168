/-
**What is in a folder.** On a disk that holds every location once, the names in a folder are listed
in the order of their code points and each of them once (`sorted_namesIn`, `nodup_namesIn`). Names
that can be names lead one step down, and such a disk stays one when folders are made.
-/

import Mathlib.Data.List.Nodup
import Scenarist.Proofs.Disk.Change
import Scenarist.Proofs.Text.Lines

namespace Scenarist

/-! ### The order of names -/

namespace Text

theorem le_total (a b : Text) : (le a b || le b a) = true := by
  induction a generalizing b with
  | nil => rfl
  | cons c a ih =>
    cases b with
    | nil => rfl
    | cons d b =>
      rw [le, le]
      by_cases same : c = d
      · rw [if_pos same, if_pos same.symm]
        exact ih b
      · rw [if_neg same, if_neg (Ne.symm same), Bool.or_eq_true, decide_eq_true_eq,
          decide_eq_true_eq]
        exact Nat.lt_or_gt_of_ne fun equal => same (Char.toNat_inj.mp equal)

theorem le_trans (a b c : Text) (one : le a b = true) (two : le b c = true) : le a c = true := by
  induction a generalizing b c with
  | nil => rfl
  | cons x a ih =>
    cases b with
    | nil => cases one
    | cons y b =>
      cases c with
      | nil => cases two
      | cons z c =>
        rw [le] at one two ⊢
        by_cases first : x = y
        · subst first
          rw [if_pos rfl] at one
          by_cases second : x = z
          · rw [if_pos second] at two ⊢
            exact ih b c one two
          · rwa [if_neg second] at two ⊢
        · rw [if_neg first, decide_eq_true_eq] at one
          by_cases second : y = z
          · subst second
            rw [if_neg first]
            exact decide_eq_true one
          · rw [if_neg second, decide_eq_true_eq] at two
            have less : x.toNat < z.toNat := Nat.lt_trans one two
            have different : x ≠ z := by
              rintro rfl
              exact Nat.lt_irrefl _ less
            rw [if_neg different]
            exact decide_eq_true less

end Text

/-- May the text be the name of a file or folder? -/
structure Path.IsName (name : Text) : Prop where
  nonempty : name ≠ []
  notHere : name ≠ "."
  notUp : name ≠ ".."
  whole : '/' ∉ name
  noNul : '\x00' ∉ name

instance (name : Text) : Decidable (Path.IsName name) :=
  decidable_of_iff (name ≠ [] ∧ name ≠ "." ∧ name ≠ ".." ∧ '/' ∉ name ∧ '\x00' ∉ name)
    ⟨fun ⟨nonempty, notHere, notUp, whole, noNul⟩ => ⟨nonempty, notHere, notUp, whole, noNul⟩,
      fun ⟨nonempty, notHere, notUp, whole, noNul⟩ => ⟨nonempty, notHere, notUp, whole, noNul⟩⟩

/-- A name below a path is one more part. -/
theorem Path.child_name {name : Text} (isName : Path.IsName name) (path : Path) :
    path.child name = path.below name := by
  have anchor : (name.takeWhile (· = '/')).length = 0 := by
    cases name with
    | nil => rfl
    | cons c name =>
      have different : c ≠ '/' := fun same => isName.whole (same ▸ List.mem_cons_self)
      simp [different]
  have telling : Path.isTelling name = true := by
    have nonempty : name.isEmpty = false := by
      rw [List.isEmpty_eq_false_iff]
      exact isName.nonempty
    rw [Path.isTelling, nonempty]
    exact bne_iff_ne.mpr isName.notHere
  have written : Path.ofText name = ⟨.here, [name]⟩ := by
    rw [Path.ofText, anchor, Text.cut_eq_singleton isName.whole, List.filter_singleton, telling]
    rfl
  rw [Path.child, written]
  rfl

namespace Disk

/-! ### Disks that hold every location once -/

/-- Every location is held once, and no location leads up. -/
structure Canonical (disk : Disk) : Prop where
  unique : (disk.nodes.map Prod.fst).Nodup
  notUp : ∀ location ∈ disk.work :: disk.nodes.map Prod.fst, (".." : Text) ∉ location

/-- Every location is held once, and all names can be names. -/
structure WellNamed (disk : Disk) : Prop where
  unique : (disk.nodes.map Prod.fst).Nodup
  names : ∀ location ∈ disk.work :: disk.nodes.map Prod.fst, ∀ name ∈ location, Path.IsName name

theorem WellNamed.canonical {disk : Disk} (named : disk.WellNamed) : disk.Canonical where
  unique := named.unique
  notUp location member up := (named.names location member _ up).notUp rfl

theorem notUp_descend {here : Location} (notUp : (".." : Text) ∉ here) (part : Text) :
    (".." : Text) ∉ descend here part := by
  unfold descend
  split
  · exact fun member => notUp (List.dropLast_subset here member)
  · next different =>
    rw [List.mem_append, List.mem_singleton, not_or]
    exact ⟨notUp, Ne.symm different⟩

/-- Paths lead to locations that do not lead up. -/
theorem Canonical.notUp_destination {disk : Disk} (canonical : disk.Canonical) (path : Path) :
    (".." : Text) ∉ disk.destination path := by
  have run (parts : List Text) (here : Location) (notUp : (".." : Text) ∉ here) :
      (".." : Text) ∉ parts.foldl descend here := by
    induction parts generalizing here with
    | nil => exact notUp
    | cons part parts ih => exact ih _ (notUp_descend notUp part)
  refine run _ _ ?_
  unfold start
  split
  · exact canonical.notUp _ List.mem_cons_self
  · exact List.not_mem_nil

theorem Canonical.put {disk : Disk} (canonical : disk.Canonical) {location : Location}
    (notUp : (".." : Text) ∉ location) (node : Node) : (disk.put location node).Canonical := by
  have keys : (disk.put location node).nodes.map Prod.fst =
      if (disk.nodes.lookup location).isSome then disk.nodes.map Prod.fst
      else disk.nodes.map Prod.fst ++ [location] := by
    unfold Disk.put
    split
    · rw [List.map_map]
      refine List.map_congr_left fun entry _ => ?_
      by_cases same : entry.1 = location <;> simp [same]
    · rw [List.map_append]
      rfl
  constructor
  · rw [keys]
    split
    · exact canonical.unique
    · next absent =>
      rw [Option.not_isSome_iff_eq_none, List.lookup_eq_none_iff] at absent
      refine List.Nodup.append canonical.unique (List.nodup_singleton _) ?_
      rintro other member isLast
      rw [List.mem_singleton] at isLast
      obtain ⟨entry, among, rfl⟩ := List.mem_map.mp member
      exact bne_iff_ne.mp (absent entry among) isLast.symm
  · rw [work_put, keys]
    intro other member
    rcases List.mem_cons.mp member with rfl | member
    · exact canonical.notUp _ List.mem_cons_self
    · split at member
      · exact canonical.notUp _ (List.mem_cons_of_mem _ member)
      · rcases List.mem_append.mp member with member | member
        · exact canonical.notUp _ (List.mem_cons_of_mem _ member)
        · rw [List.mem_singleton.mp member]
          exact notUp

/-- Such a disk stays one when folders are made. -/
theorem Canonical.makeFolders {disk : Disk} (canonical : disk.Canonical) (path : Path) :
    (disk.makeFolders path).1.Canonical := by
  refine makeFolders_induct (P := Canonical) path ?_ canonical
  intro disk above location _ canonical found _
  rw [locate_eq found]
  exact canonical.put (canonical.notUp_destination _) _

/-- One step down leads below the folder. -/
theorem destination_below {name : Text} (notUp : name ≠ "..") (disk : Disk) (path : Path) :
    disk.destination (path.below name) = disk.destination path ++ [name] := by
  unfold destination
  show (path.parts ++ [name]).foldl descend _ = _
  rw [List.foldl_append, List.foldl_cons, List.foldl_nil, descend, if_neg notUp]
  rfl

/-! ### The names in a folder -/

theorem named_iff {location folder : Location} {name : Text} :
    (if location.dropLast = folder then location.getLast? else none) = some name ↔
      location = folder ++ [name] := by
  rcases List.eq_nil_or_concat location with rfl | ⟨above, last, rfl⟩
  · simp
  · rw [List.concat_eq_append, List.dropLast_concat, List.getLast?_concat]
    by_cases same : above = folder
    · subst same
      simp
    · rw [if_neg same]
      refine iff_of_false (by simp) fun equal => same ?_
      exact (List.append_inj' equal rfl).1

theorem mem_namesIn {disk : Disk} {folder : Location} {name : Text} :
    name ∈ disk.namesIn folder ↔ ∃ node, (folder ++ [name], node) ∈ disk.nodes := by
  rw [namesIn, List.mem_mergeSort, List.mem_filterMap]
  constructor
  · rintro ⟨⟨location, node⟩, member, named⟩
    exact ⟨node, named_iff.mp named ▸ member⟩
  · rintro ⟨node, member⟩
    exact ⟨_, member, named_iff.mpr rfl⟩

/-- No name in a folder leads up. -/
theorem Canonical.notUp_of_mem_namesIn {disk : Disk} (canonical : disk.Canonical)
    {folder : Location} {name : Text} (listed : name ∈ disk.namesIn folder) : name ≠ ".." := by
  rintro rfl
  obtain ⟨node, member⟩ := mem_namesIn.mp listed
  exact canonical.notUp _ (List.mem_cons_of_mem _ (List.mem_map_of_mem member))
    (List.mem_append_right _ List.mem_cons_self)

/-- The names stand in the order of their code points. -/
theorem sorted_namesIn (disk : Disk) (folder : Location) :
    (disk.namesIn folder).Pairwise fun a b => Text.le a b = true :=
  List.pairwise_mergeSort Text.le_trans Text.le_total _

/-- Every name stands once. -/
theorem Canonical.nodup_namesIn {disk : Disk} (canonical : disk.Canonical) (folder : Location) :
    (disk.namesIn folder).Nodup := by
  rw [namesIn, (List.mergeSort_perm _ _).nodup_iff]
  have keys : (disk.nodes.filterMap fun entry =>
      if entry.1.dropLast = folder then entry.1.getLast? else none) =
        (disk.nodes.map Prod.fst).filterMap fun location =>
          if location.dropLast = folder then location.getLast? else none := by
    rw [List.filterMap_map]
    rfl
  rw [keys]
  refine List.Nodup.filterMap ?_ canonical.unique
  intro one other name isOne isOther
  rw [named_iff.mp isOne, named_iff.mp isOther]

/-- What is put elsewhere leaves the names in a folder, also their order. -/
theorem namesIn_put (disk : Disk) {location folder : Location}
    (elsewhere : location.dropLast ≠ folder) (node : Node) :
    (disk.put location node).namesIn folder = disk.namesIn folder := by
  unfold namesIn Disk.put
  congr 1
  split
  · dsimp only
    rw [List.filterMap_map]
    refine List.filterMap_congr fun entry _ => ?_
    by_cases here : entry.1 = location
    · simp [here, elsewhere]
    · simp [here]
  · simp [List.filterMap_append, elsewhere]

end Disk

end Scenarist
